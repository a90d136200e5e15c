/-
  Deleting: by ids or by condition, or all rows.
-/
import Rowgate.Keeper.Basic

namespace Rowgate.Keeper

open World Statement

/-- The DELETE of a request, and the query for the rows before it. -/
def deleteStatements (p : Params) : Except Error (String × String) := do
  let select ← Select.ofTable p.table
  if !p.ids.isEmpty then
    return (← deleteByIds p.table p.ids, ← select.byIds p.ids)
  else if !p.condition.isEmpty then
    return (← deleteByCondition p.table p.condition, ← select.byCondition p.condition)
  else throw (.execution .remove "record ids or query params are required to delete")

/-- Deletes the rows with the request's ids, or else those that its condition meets. -/
def delete (k : Keeper) (nested : Bool) (p : Params) : Program world Response :=
  answer .removeError do
    let (sql, beforeSql) ← Program.given (deleteStatements p)
    k.authorize p .delete p.ids
    let (before, affected) ← transaction nested do
      let before ←
        if k.wantsBefore k.options.audit.delete then k.queryRecords .delete beforeSql []
        else pure []
      return (before, ← k.execute .delete sql [])
    ask (.forget p.table)
    let message ← k.recordAudit k.options.audit.delete .delete p.user
      ⟨p.table, before, requestJson p⟩ "Record(s) deleted successfully"
    return (message, ⟨p.condition, p.ids, affected, []⟩)

/-- Deletes every row of a table, with neither access check nor transaction. -/
def deleteAll (k : Keeper) (p : Params) : Program world Response :=
  answer .deleteError do
    let sql ← Program.given (Statement.deleteAll p.table)
    let affected ← k.execute .delete sql []
    ask (.forget p.table)
    return ("All record(s) deleted successfully", { Outcome.empty with count := affected })

end Rowgate.Keeper
