/-
  The shape of every statement: the tokens that its names, values and condition stand for.

  Each part of a name, each text, pattern, array and timestamp is one token, and so is each
  number, its minus sign apart; all other tokens are fixed by the kind of the statement.

  * `Ident.tokens`, `literalTokens`, `conditionTokens`: names, values and conditions;
  * `SelectShape`, `insertTokens`, `updateTokens`, `deleteTokens`: the statements.
-/
import Rowgate.Proofs.Sql.Piece
import Rowgate.Statement.Select

namespace Rowgate

def IdentPart.token : IdentPart → Sql.Token
  | .unquoted name => .word name
  | .quoted name => .name name

/-- The parts of an identifier with points between them. -/
def Ident.tokens (i : Ident) : List Sql.Token :=
  [Sql.Token.mark '.'].intercalate (i.parts.map fun p => [p.token])

namespace Sql

def nameTokens (name : String) : List Token :=
  match Ident.parse name with
  | .ok i => i.tokens
  | .error _ => []

def bracketed (ts : List Token) : List Token :=
  .mark '(' :: ts ++ [.mark ')']

/-! ## Values -/

/-- What a string literal of a text value holds: a text that is JSON as a JSON string, any
    other as it is. -/
def storedText (s : String) : String :=
  if looksLikeJson s then (Json.string s).text else s

/-- What the literal of an array holds. -/
def arrayText (elements : List String) : String :=
  "\x7b" ++ ",".intercalate elements ++ "\x7d"

def literalTokens : Value → List Token
  | .null => [.word "NULL"]
  | .bool b => [.word (if b then "true" else "false")]
  | .integer n => numberTokens (integerText n)
  | .float x => numberTokens x.text
  | .timestamp t => [.string t.sqlText]
  | .string s => [.string (storedText s)]
  | .stringArray items => [.string (arrayText (items.map arrayElement))]
  | .numericArray items => [.string (arrayText (items.map Double.text))]

/-! ## Conditions -/

def patternTokens (s : String) : Operator → List Token
  | .startsWith => [.word "LIKE", .string (s ++ "%")]
  | .endsWith => [.word "LIKE", .string ("%" ++ s)]
  | .contains => [.word "LIKE", .string ("%" ++ s ++ "%")]
  | .notStartsWith => [.word "NOT", .word "LIKE", .string (s ++ "%")]
  | .notEndsWith => [.word "NOT", .word "LIKE", .string ("%" ++ s)]
  | .notContains => [.word "NOT", .word "LIKE", .string ("%" ++ s ++ "%")]
  | _ => []

def inTokens (op : Operator) : List Token :=
  if op = .notIn then [.word "NOT", .word "IN"] else [.word "IN"]

/-- A comparison of a column with a value. -/
def comparisonTokens (column : List Token) (op : Operator) (v : Value) : List Token :=
  match op.symbol?, v with
  | some symbol, v => column ++ .operator symbol :: literalTokens v
  | none, .string s => column ++ patternTokens s op
  | none, .stringArray items =>
    column ++ inTokens op ++ bracketed (commas (items.map fun s => [.string s]))
  | none, .numericArray items =>
    column ++ inTokens op ++ bracketed (commas (items.map fun x => numberTokens x.text))
  | none, _ => []

/-- The field, operator and value of an item that is not skipped. -/
def clause? (i : QueryItem) : Option (String × String × Value) :=
  match i.condition.entries with
  | [(field, operators)] =>
    match operators.entries with
    | [(name, v)] =>
      if Text.allBlank field || Text.allBlank name || v.isNull then none else some (field, name, v)
    | _ => none
  | _ => none

def itemTokens? (i : QueryItem) : Option (List Token) :=
  (clause? i).map fun (field, name, v) =>
    match Operator.parse name with
    | .ok op => comparisonTokens (nameTokens field) op v
    | .error _ => []

/-- Parts with a link between neighbours, that of the earlier one. -/
def linked : List (List Token × Link) → List Token
  | [] => []
  | [(ts, _)] => ts
  | (ts, link) :: next :: r => ts ++ .word link.sql :: linked (next :: r)

/-- What is not skipped, in order, each with its link. -/
def linkedParts {α : Type} (tokens : α → Option (List Token)) (link : α → String) (xs : List α) :
    List (List Token × Link) :=
  xs.filterMap fun x => (tokens x).map fun ts => (ts, Link.parse (link x))

def groupTokens? (g : QueryGroup) : Option (List Token) :=
  match linkedParts itemTokens? QueryItem.link (Condition.orderedItems g) with
  | [] => none
  | parts => some (bracketed (linked parts))

def conditionTokens (groups : List QueryGroup) : List Token :=
  linked (linkedParts groupTokens? QueryGroup.link (Condition.orderedGroups groups))

/-! ## Statements -/

/-- The key is one of these texts. -/
def keyInTokens (ids : List String) : List Token :=
  .word "id" :: .word "IN" :: bracketed (commas (ids.map fun id => [.string id]))

def whereTokens : Option (List Token) → List Token
  | some predicate => .word "WHERE" :: predicate
  | none => []

/-- The parts of a SELECT apart from its predicate; no columns means all of them. -/
structure SelectShape where
  table : List Token
  columns : List (List Token)
  orderBy : List (List Token)
  limit : Int
  offset : Int

namespace SelectShape

def ofTable (table : String) : SelectShape :=
  ⟨nameTokens table, [], [], 0, 0⟩

/-- The key and the chosen fields, or all columns. -/
def project (s : SelectShape) (fields : Keyed Bool) : SelectShape :=
  match fields.entries.filter fun e => e.2 && e.1 ≠ Statement.idField with
  | [] => { s with columns := [] }
  | chosen => { s with columns := [.word "id"] :: chosen.map fun e => nameTokens e.1 }

def sort (s : SelectShape) (order : Keyed String) : SelectShape :=
  { s with orderBy := s.orderBy ++
      order.entries.map fun e => nameTokens e.1 ++ [.word (Select.direction e.2)] }

/-- What stands behind the predicate. -/
def tail (s : SelectShape) : List Token :=
  (if s.orderBy.isEmpty then [] else .word "ORDER" :: .word "BY" :: commas s.orderBy) ++
    (if 0 < s.limit then .word "LIMIT" :: numberTokens (toString s.limit) else []) ++
    (if 0 < s.offset then .word "OFFSET" :: numberTokens (toString s.offset) else [])

def tokens (s : SelectShape) (predicate : Option (List Token)) : List Token :=
  .word "SELECT" :: (if s.columns.isEmpty then [.operator "*"] else commas s.columns) ++
    .word "FROM" :: s.table ++
    whereTokens predicate ++ s.tail

end SelectShape

def columnTokens (fields : List String) : List Token :=
  bracketed (commas (fields.map nameTokens))

/-- An INSERT of one row, of literals or of parameters. -/
def insertTokens (table : String) (fields : List String) (values : List (List Token)) :
    List Token :=
  .word "INSERT" :: .word "INTO" :: nameTokens table ++ columnTokens fields ++
    .word "VALUES" :: bracketed (commas values) ++ [.word "RETURNING", .word "id"]

def copyTokens (table : String) (fields : List String) : List Token :=
  .word "COPY" :: nameTokens table ++ columnTokens fields ++
    [.word "FROM", .word "STDIN", .word "BINARY"]

/-- The query for the types of columns. -/
def typesTokens (table : String) (fields : List String) : List Token :=
  .word "SELECT" :: commas (fields.map nameTokens) ++ .word "FROM" :: nameTokens table ++
    [.word "LIMIT", .number "0"]

/-- The assignments of a record's values to fields. -/
def setTokens (record : Record) (fields : List String) : List Token :=
  commas (fields.map fun f =>
    nameTokens f ++ .operator "=" :: literalTokens ((record.get? f).getD .null))

def updateTokens (table : String) (record : Record) (fields : List String)
    (predicate : List Token) : List Token :=
  .word "UPDATE" :: nameTokens table ++ .word "SET" :: setTokens record fields ++
    .word "WHERE" :: predicate

/-- A key, which is a text or an integer. -/
def keyTokens : Option Value → List Token
  | some (.string id) => [.string id]
  | some (.integer id) => numberTokens (integerText id)
  | _ => []

/-- The key is that of a record. -/
def keyIsTokens (record : Record) : List Token :=
  .word "id" :: .operator "=" :: keyTokens (record.get? Statement.idField)

def deleteTokens (table : String) (predicate : Option (List Token)) : List Token :=
  .word "DELETE" :: .word "FROM" :: nameTokens table ++ whereTokens predicate

end Sql

end Rowgate
