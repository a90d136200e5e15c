/-
  INSERT statements: with literals, with parameters, or as a binary COPY.

  In all three the fields of the batch are checked first, then the names of the
  columns, then the records in order; a record that lacks a field is an error.
-/
import Rowgate.Ident
import Rowgate.Sql.Literal
import Rowgate.Statement.Basic

namespace Rowgate

/-- How the values of new records reach the server. -/
inductive InsertMode where
  | literal
  | parameterized
  | copy
deriving DecidableEq

namespace InsertMode

def name : InsertMode → String
  | literal => "literal"
  | parameterized => "parameterized"
  | copy => "copy"

def byName : List (String × InsertMode) :=
  [literal, parameterized, copy].map fun m => (m.name, m)

end InsertMode

/-- A statement with parameters and the values of each row. -/
structure Insert where
  sql : String
  fields : List String
  rows : List (List Value)

/-- The values of a row by its position; none beyond the last row. -/
def Insert.params (i : Insert) (row : Nat) : List Value :=
  i.rows[row]?.getD []

/-- A COPY, the query that tells the types of its columns, and the values of each
    row. -/
structure Copy where
  sql : String
  typesSql : String
  fields : List String
  rows : List (List Value)

namespace Statement

/-- The fields of a batch to insert. -/
def insertFields (records : List Record) (fields : List String) : Except Error (List String) :=
  if records.isEmpty then .error (.params "at least one record is required")
  else
    let fields := resolveFields records fields
    if fields.isEmpty then .error (.params "no fields to insert") else .ok fields

def columnList (fields : List String) : Except Error String :=
  (fields.mapM sqlIdent).map fun cs => ", ".intercalate cs

/-- The values of the fields in record number `n`. -/
def rowValues (n : Nat) (record : Record) (fields : List String) : Except Error (List Value) :=
  fields.mapM fun f =>
    match record.get? f with
    | some v => .ok v
    | none => .error (.params ("Record #" ++ toString n ++ ": required field_name[" ++ f ++
        "] is missing"))

/-- Applies `f` to every record and its number, from 1 on. -/
def numbered {α : Type} (f : Nat → Record → Except Error α) (records : List Record) :
    Except Error (List α) :=
  records.zipIdx.mapM fun (r, i) => f (i + 1) r

/-- The tail of every INSERT. -/
def returning : String := " RETURNING " ++ idField

def insertLiteral (table : String) (records : List Record) (fields : List String) :
    Except Error (List String) := do
  let table ← sqlIdent table
  let fields ← insertFields records fields
  let columns ← columnList fields
  numbered (fun n record => do
    let values ← rowValues n record fields
    let texts ← (values.zip fields).mapM fun (v, f) => Sql.scalar f "insert" v
    return "INSERT INTO " ++ table ++ "(" ++ columns ++ ") VALUES(" ++
      ", ".intercalate texts ++ ")" ++ returning) records

/-- `$1, $2, …` for so many parameters. -/
def placeholders (n : Nat) : String :=
  ", ".intercalate ((List.range n).map fun i => "$" ++ toString (i + 1))

def insertParameterized (table : String) (records : List Record) (fields : List String) :
    Except Error Insert := do
  let table ← sqlIdent table
  let fields ← insertFields records fields
  let columns ← columnList fields
  let rows ← numbered (fun n record => rowValues n record fields) records
  return {
    sql := "INSERT INTO " ++ table ++ "(" ++ columns ++ ") VALUES(" ++
      placeholders fields.length ++ ")" ++ returning
    fields, rows }

def insertCopy (table : String) (records : List Record) (fields : List String) :
    Except Error Copy := do
  let table ← sqlIdent table
  let fields ← insertFields records fields
  let columns ← columnList fields
  let rows ← numbered (fun n record => rowValues n record fields) records
  return {
    sql := "COPY " ++ table ++ " (" ++ columns ++ ") FROM STDIN BINARY"
    typesSql := "SELECT " ++ columns ++ " FROM " ++ table ++ " LIMIT 0"
    fields, rows }

end Statement

end Rowgate
