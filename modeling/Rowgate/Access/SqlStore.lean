/-
  The access store over a database.

  A column that should hold text takes an integer too and reads NULL as empty; a
  flag reads NULL as false; a list of ids is an array, a JSON array in a text, or
  one text.
-/
import Rowgate.Access.Check
import Rowgate.Database
import Rowgate.Options.Basic

namespace Rowgate.SqlStore

open Database

/-- The value of a named column. -/
def column (row : Row) (name : String) : Except Error Value :=
  match row.find? name with
  | none => .error (.decode name (DriverError.noColumn name).message)
  | some i =>
    match row.cells[i]? with
    | none => .error (.decode name (DriverError.noColumn name).message)
    | some (c, cell) =>
      match Value.decode c.type cell with
      | .ok v => .ok v
      | .error _ => .error (.decode name (DriverError.column i).message)

def text (row : Row) (name : String) : Except Error String := do
  match ← column row name with
  | .string s => return s
  | .integer n => return integerText n
  | .null => return ""
  | v => throw (.decode name ("expected text, got " ++ v.typeName))

def flag (row : Row) (name : String) : Except Error Bool := do
  match ← column row name with
  | .bool b => return b
  | .null => return false
  | v => throw (.decode name ("expected bool, got " ++ v.typeName))

/-- Milliseconds from 1970, as a number or an instant. -/
def millis (row : Row) (name : String) : Except Error Int := do
  match ← column row name with
  | .integer n => return n.toInt
  | .float x => return x.toWord 64
  | .timestamp t => return t.epochMillis
  | v => throw (.decode name ("expected epoch millis, got " ++ v.typeName))

/-- The texts of a JSON array of texts. -/
def jsonList (s : String) : Except Error (List String) :=
  match (Json.readAll? s).bind (Json.list? Json.string?) with
  | some l => .ok l
  | none => .error (.serialization "")

def idList (row : Row) (name : String) : Except Error (List String) := do
  match ← column row name with
  | .stringArray items => return items
  | .null => return []
  | .string s =>
    if (Text.skipBlanks s.toList).head? = some '[' then jsonList s
    else if s.isEmpty then return []
    else return [s]
  | v => throw (.decode name ("expected a list of ids, got " ++ v.typeName))

def session (row : Row) : Except Error Session := do
  return {
    user := ← text row "user_id"
    token := ← text row "token"
    loginName := ← text row "login_name"
    expire := ← millis row "expire" }

def actor (row : Row) : Except Error Actor := do
  return {
    user := ← text row "id"
    groups := ← idList row "groups"
    isAdmin := ← flag row "is_admin"
    isActive := ← flag row "is_active" }

def service (row : Row) : Except Error Service := do
  return {
    id := ← text row "id"
    name := ← text row "name"
    category := ← text row "category" }

def grant (row : Row) : Except Error Grant := do
  return {
    service := ← text row "service_id"
    group := ← text row "group_id"
    isActive := ← flag row "is_active"
    canRead := ← flag row "can_read"
    canCreate := ← flag row "can_create"
    canUpdate := ← flag row "can_update"
    canDelete := ← flag row "can_delete" }

/-- A first row read by `read`, if there is one. -/
def firstOf {α : Type} (sql : String) (params : List Value) (read : Row → Except Error α) :
    Action (Option α) := do
  match ← queryFirst? sql params with
  | none => return none
  | some row => return some (← Program.given (read row))

def findSession (tables : TableNames) (user token : String) : Action (Option Session) := do
  let table ← Program.given (sqlIdent tables.access)
  firstOf ("SELECT user_id, token, login_name, expire FROM " ++ table ++
    " WHERE user_id = $1 AND token = $2") [.string user, .string token] session

def deleteSession (tables : TableNames) (user token : String) : Action Nat := do
  let table ← Program.given (sqlIdent tables.access)
  return (← execute ("DELETE FROM " ++ table ++ " WHERE user_id = $1 AND token = $2")
    [.string user, .string token]).toNat

def findActor (tables : TableNames) (user : String) : Action (Option Actor) := do
  let table ← Program.given (sqlIdent tables.user)
  firstOf ("SELECT id, groups, is_admin, is_active FROM " ++ table ++ " WHERE id = $1")
    [.string user] actor

def findService (tables : TableNames) (name : String) : Action (Option Service) := do
  let table ← Program.given (sqlIdent tables.service)
  firstOf ("SELECT id, name, category FROM " ++ table ++ " WHERE name = $1")
    [.string name] service

/-- Without services or groups there are no grants, and nothing is asked. -/
def roleGrants (tables : TableNames) (services groups : List String) : Action (List Grant) := do
  if services.isEmpty || groups.isEmpty then return []
  let table ← Program.given (sqlIdent tables.role)
  let rows ← query ("SELECT service_id, group_id, is_active, can_read, can_create, " ++
    "can_update, can_delete FROM " ++ table ++
    " WHERE service_id = ANY($1) AND group_id = ANY($2) AND is_active = true")
    [.stringArray services, .stringArray groups]
  Program.given (rows.mapM grant)

/-- The count in the first column, which must be an `int8`. -/
def count (row : Row) : Except Error Nat :=
  match row.cells with
  | [] => .error (.decode "count" (DriverError.noColumn "0").message)
  | (c, cell) :: _ =>
    match c.type, Value.decode c.type cell with
    | .base .int8, .ok (.integer n) => .ok n.toInt.toNat
    | _, _ => .error (.decode "count" (DriverError.column 0).message)

def countOwned (table : String) (ids : List String) (user : String) : Action Nat := do
  if ids.isEmpty then return 0
  let table ← Program.given (sqlIdent table)
  let row ← queryFirst ("SELECT COUNT(*) FROM " ++ table ++
    " WHERE id = ANY($1) AND created_by = $2") [.stringArray ids, .string user]
  Program.given (count row)

/-- The store: each lookup as a program on the database. -/
def answer (tables : TableNames) : (c : accessStore.Call) → Program database (accessStore.Answer c)
  | .findSession user token => (findSession tables user token).run
  | .deleteSession user token => (deleteSession tables user token).run
  | .findActor user => (findActor tables user).run
  | .findService name => (findService tables name).run
  | .roleGrants services groups => (roleGrants tables services groups).run
  | .countOwned table ids user => (countOwned table ids user).run

end Rowgate.SqlStore
