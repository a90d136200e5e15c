/-
  UPDATE statements: one per record by its own id, or one for a list of ids or a
  condition.  The keys of a record, its id apart, must be exactly the fields of
  the batch.
-/
import Rowgate.Statement.Select

namespace Rowgate.Statement

/-- The fields that a batch updates: those given, or else the keys of the first
    record without the id. -/
def updateFields (records : List Record) (fields : List String) : List String :=
  if fields.isEmpty then (resolveFields records fields).filter (· ≠ idField) else fields

/-- The assignments of record number `n`. -/
def setClause (n : Nat) (record : Record) (fields : List String) : Except Error String :=
  if fields.isEmpty then .error (.params "no fields to update")
  else
    let wanted := Keyed.nameSet fields
    let present := record.keys.filter (· ≠ idField)
    if wanted ≠ present then
      .error (.params ("Record #" ++ toString n ++ ": fields [" ++ ", ".intercalate present ++
        "] do not match update fields [" ++ ", ".intercalate wanted ++ "]"))
    else do
      let parts ← fields.mapM fun f => do
        let column ← sqlIdent f
        let text ← Sql.scalar f "update" ((record.get? f).getD .null)
        return column ++ "=" ++ text
      return ", ".intercalate parts

/-- The only record of a batch. -/
def single : List Record → Except Error Record
  | [record] => .ok record
  | _ => .error (.params "exactly one record is required for an update by ids or by condition")

/-- The literal of a record's id: a text that is not empty, or an integer. -/
def idLiteral (n : Nat) (record : Record) : Except Error String :=
  let missing : Except Error String :=
    .error (.params ("Record #" ++ toString n ++ ": a non-empty string or integer id is required"))
  match record.get? idField with
  | some (.string id) => if id.isEmpty then missing else .ok (Sql.quote id)
  | some (.integer id) => .ok (integerText id)
  | _ => missing

def updateByRecords (table : String) (records : List Record) (fields : List String) :
    Except Error (List String) := do
  let table ← sqlIdent table
  let fields := updateFields records fields
  records.zipIdx.mapM fun (record, i) => do
    let id ← idLiteral (i + 1) record
    let set ← setClause (i + 1) record fields
    return "UPDATE " ++ table ++ " SET " ++ set ++ " WHERE " ++ idField ++ "=" ++ id

def updateByIds (table : String) (records : List Record) (fields ids : List String) :
    Except Error String := do
  let table ← sqlIdent table
  requireIds ids
  let record ← single records
  let set ← setClause 1 record (updateFields records fields)
  return "UPDATE " ++ table ++ " SET " ++ set ++ " WHERE " ++ idField ++ " IN (" ++
    Sql.idList ids ++ ")"

def updateByCondition (table : String) (records : List Record) (fields : List String)
    (groups : List QueryGroup) : Except Error String := do
  let table ← sqlIdent table
  let record ← single records
  let condition ← Condition.whereClause groups
  let set ← setClause 1 record (updateFields records fields)
  return "UPDATE " ++ table ++ " SET " ++ set ++ " " ++ condition

end Rowgate.Statement
