/-
  The keeper of records: options, a model, and the steps that its entry points
  share.

  * `authorize` runs the access check if the options ask for it;
  * `queryRecords` and `execute` send one statement of a stage, within the
    timeout; failures are tagged with the stage;
  * `recordAudit` hands an entry to the sink; a failing sink is reported in the
    message and nothing else.
-/
import Rowgate.Access.SqlStore
import Rowgate.Model.Basic
import Rowgate.Params
import Rowgate.Response
import Rowgate.Statement.Delete
import Rowgate.Statement.Insert
import Rowgate.Statement.Update
import Rowgate.Transaction

namespace Rowgate

structure Keeper where
  options : Options
  /-- Whether there is an audit sink. -/
  audited : Bool
  model : Option Model

namespace Keeper

open World

/-- The access check of a task on records; passes when checks are off. -/
def authorize (k : Keeper) (p : Params) (task : Task) (ids : List String) : Action Unit := do
  if k.options.checkAccess then
    let now ← ask .now
    let request : AccessRequest := ⟨p.user, p.token, task, p.table, ids⟩
    let decision ← ExceptT.mk
      (ofDatabase ((Access.check now request).run.via (SqlStore.answer k.options.tables)))
    if !decision.permitted then
      throw (.unauthorized (task.name ++ " access denied on " ++ p.table ++ ": " ++
        decision.reason))

/-- The records of a query. -/
def queryRecords (k : Keeper) (stage : Stage) (sql : String) (params : List Value) :
    Action (List Record) := do
  let rows ← mapError (.tagged stage) (query k.options.timeout sql params)
  Program.given (rows.mapM Row.toRecord)

/-- The number of rows that a statement affects. -/
def execute (k : Keeper) (stage : Stage) (sql : String) (params : List Value) :
    Action UInt64 :=
  mapError (.tagged stage) (World.execute k.options.timeout sql params)

/-- The id of a returned record, if it is a text or an integer. -/
def returnedId? (record : Record) : Option String :=
  match record.get? Statement.idField with
  | some (.string id) => some id
  | some (.integer id) => some (integerText id)
  | _ => none

/-- The ids that a statement returns. -/
def returningIds (k : Keeper) (stage : Stage) (sql : String) (params : List Value) :
    Action (List String) := do
  return (← k.queryRecords stage sql params).filterMap returnedId?

/-- Whether the rows before a task are kept for the audit entry. -/
def wantsBefore (k : Keeper) (enabled : Bool) : Bool :=
  enabled && k.audited

/-- The message of a task after its audit entry has gone to the sink. -/
def recordAudit (k : Keeper) (enabled : Bool) (action : Task) (actor : String)
    (entry : AuditEntry) (message : String) : Action String := do
  if enabled && k.audited then
    match ← ask (.record action actor entry) with
    | .ok _ => return message
    | .error e => return message ++ " | Audit-log-error: " ++ e.message
  else return message

/-- The request's ids and condition, as audit entries of reads and deletes have them. -/
def requestJson (p : Params) : Json :=
  (Json.object [("recordIds", .ofStrings p.ids),
    ("queryParams", QueryGroup.listJson p.condition)]).sorted

/-- An entry point: the answer to what its steps come to. -/
def answer (fallback : ResponseCode) (a : Action (String × Outcome)) : Program world Response := do
  return .ofResult fallback (← a.run)

end Keeper

end Rowgate
