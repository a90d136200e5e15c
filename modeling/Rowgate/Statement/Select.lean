/-
  SELECT statements.

  The parts come in the order: columns, table, predicate, ORDER BY, LIMIT,
  OFFSET.  Limits and offsets that are not positive are left out.
-/
import Rowgate.Query.Condition
import Rowgate.Statement.Basic

namespace Rowgate

/-- A SELECT without its predicate.  No columns means all of them. -/
structure Select where
  table : String
  columns : List String
  orderBy : List String
  limit : Int
  offset : Int

namespace Select

open Statement

def ofTable (table : String) : Except Error Select :=
  (sqlIdent table).map fun t => ⟨t, [], [], 0, 0⟩

/-- Selects the fields mapped to `true`, after the key, which is always among them
    and does not count as one. -/
def project (s : Select) (fields : Keyed Bool) : Except Error Select := do
  let chosen := fields.entries.filter fun e => e.2 && e.1 ≠ idField
  let columns ← chosen.mapM fun e => sqlIdent e.1
  return { s with columns := if columns.isEmpty then [] else idField :: columns }

/-- `DESC` for `desc` in any case and with space around it, else `ASC`. -/
def direction (text : String) : String :=
  if Text.sameWord (Text.trim text.toList) "desc".toList then "DESC" else "ASC"

def sort (s : Select) (order : Keyed String) : Except Error Select := do
  let terms ← order.entries.mapM fun e => (sqlIdent e.1).map fun c => c ++ " " ++ direction e.2
  return { s with orderBy := s.orderBy ++ terms }

def withLimit (s : Select) (n : Int) : Select :=
  { s with limit := n }

def withOffset (s : Select) (n : Int) : Select :=
  { s with offset := n }

/-- The statement with a predicate. -/
def render (s : Select) (predicate : Option String) : String :=
  "SELECT " ++ (if s.columns.isEmpty then "*" else ", ".intercalate s.columns) ++
    " FROM " ++ s.table ++
    (match predicate with
      | some p => " " ++ p
      | none => "") ++
    (if s.orderBy.isEmpty then "" else " ORDER BY " ++ ", ".intercalate s.orderBy) ++
    (if 0 < s.limit then " LIMIT " ++ toString s.limit else "") ++
    (if 0 < s.offset then " OFFSET " ++ toString s.offset else "")

def byIds (s : Select) (ids : List String) : Except Error String := do
  requireIds ids
  return s.render (some ("WHERE " ++ idField ++ " IN (" ++ Sql.idList ids ++ ")"))

def byCondition (s : Select) (groups : List QueryGroup) : Except Error String := do
  return s.render (some (← Condition.whereClause groups))

def all (s : Select) : String :=
  s.render none

end Select

end Rowgate
