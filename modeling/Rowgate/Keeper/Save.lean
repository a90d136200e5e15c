/-
  Saving: records are created or updated.

  Records with an id are updated by it; a single record without one goes to the
  ids or the condition of the request; all others are inserted.
-/
import Rowgate.Keeper.Basic

namespace Rowgate

/-- What a request to save asks for. -/
inductive SaveTask where
  /-- New records, without their id keys. -/
  | create (records : List Record)
  | update
deriving DecidableEq

/-- What the id of a record says. -/
inductive RecordKey where
  /-- The id names a row. -/
  | usable
  /-- There is no id, or an empty one. -/
  | absent
  | wrong (v : Value)
deriving DecidableEq

namespace RecordKey

def ofRecord (r : Record) : RecordKey :=
  match r.get? Statement.idField with
  | none | some .null => absent
  | some (.string id) => if id.isEmpty then absent else usable
  | some (.integer _) => usable
  | some v => wrong v

end RecordKey

/-- The id of a record as text. -/
def recordId? (r : Record) : Option String :=
  match r.get? Statement.idField with
  | some (.string id) => if id.isEmpty then none else some id
  | some (.integer id) => some (integerText id)
  | _ => none

namespace SaveTask

/-- The error of a record whose id is neither text nor integer. -/
def checkKey (n : Nat) (r : Record) : Except Error Unit :=
  match RecordKey.ofRecord r with
  | .wrong v => .error (.params ("Record #" ++ toString n ++
      ": id must be a string or an integer, got " ++ v.typeName))
  | _ => .ok ()

/-- What the records of a request ask for. -/
def classify (p : Params) : Except Error SaveTask :=
  if p.records.isEmpty then .error (.params "actionParams: at least one record is required")
  else do
    let _ ← Statement.numbered checkKey p.records
    let creates := p.records.filter (RecordKey.ofRecord · = .absent)
    let updates := p.records.filter (RecordKey.ofRecord · = .usable)
    if !updates.isEmpty && !creates.isEmpty then throw .saveConflict
    else if !updates.isEmpty then return update
    else if p.records.length = 1 && (!p.ids.isEmpty || !p.condition.isEmpty) then return update
    else return create (creates.map (·.erase Statement.idField))

end SaveTask

namespace Keeper

open World Statement

/-- Inserts records in a transaction, in the mode of the options; the ids that the
    server returns. -/
def insertRecords (k : Keeper) (nested : Bool) (p : Params) (records : List Record) :
    Action (List String) :=
  match k.options.insertMode with
  | .parameterized => do
    let insert ← Program.given (insertParameterized p.table records p.fields)
    transaction nested do
      return (← insert.rows.mapM (k.returningIds .insert insert.sql)).flatten
  | .literal => do
    let statements ← Program.given (insertLiteral p.table records p.fields)
    transaction nested do
      return (← statements.mapM (k.returningIds .insert · [])).flatten
  | .copy => do
    let copy ← Program.given (insertCopy p.table records p.fields)
    let _ ← transaction nested
      (mapError (.tagged .insert) (World.copy k.options.timeout copy.sql copy.typesSql copy.rows))
    return []

/-- The records with the model's defaults, once the model finds no problem in them. -/
def withDefaults (k : Keeper) (records : List Record) : Except Error (List Record) :=
  match k.model with
  | none => .ok records
  | some m => do
    let records := records.map m.applyDefaults
    m.checkAll false records
    return records

def create (k : Keeper) (nested : Bool) (p : Params) (records : List Record) :
    Action (String × Outcome) := do
  k.authorize p .create []
  let records ← Program.given (k.withDefaults records)
  let ids ← k.insertRecords nested p records
  ask (.forget p.table)
  let message ← k.recordAudit k.options.audit.create .create p.user
    ⟨p.table, [], Record.listJson records⟩ "Record(s) created successfully"
  return (message, { Outcome.empty with ids, count := .ofNat records.length })

/-- The statements of an update, and the query for the rows before it: by the ids of
    the records if all have one, else by the ids or the condition of the request. -/
def updateStatements (p : Params) (byRecords : Bool) (ids : List String) :
    Except Error (List String × String) := do
  let select ← Select.ofTable p.table
  if byRecords then
    return (← updateByRecords p.table p.records p.fields, ← select.byIds ids)
  else if !ids.isEmpty then
    return ([← updateByIds p.table p.records p.fields ids], ← select.byIds ids)
  else if !p.condition.isEmpty then
    return ([← updateByCondition p.table p.records p.fields p.condition],
      ← select.byCondition p.condition)
  else throw (.execution .save "an update requires record ids or query params")

def checkPartial (k : Keeper) (records : List Record) : Except Error Unit :=
  match k.model with
  | none => .ok ()
  | some m => m.checkAll true records

def update (k : Keeper) (nested : Bool) (p : Params) : Action (String × Outcome) := do
  let ownIds := p.records.mapM recordId?
  let ids := ownIds.getD p.ids
  k.authorize p .update ids
  Program.given (k.checkPartial p.records)
  let (statements, beforeSql) ← Program.given (updateStatements p ownIds.isSome ids)
  let (before, affected) ← transaction nested do
    let before ←
      if k.wantsBefore k.options.audit.update then k.queryRecords .update beforeSql []
      else pure []
    let counts ← statements.mapM (k.execute .update · [])
    -- counts have 64 bits, and so has their sum, which starts over beyond that
    return (before, counts.sum)
  ask (.forget p.table)
  let message ← k.recordAudit k.options.audit.update .update p.user
    ⟨p.table, before, Record.listJson p.records⟩ "Record(s) updated successfully"
  return (message, ⟨p.condition, ids, affected, []⟩)

/-- Creates or updates the records of a request. -/
def save (k : Keeper) (nested : Bool) (p : Params) : Program world Response :=
  answer .saveError do
    match ← Program.given (SaveTask.classify p) with
    | .create records => k.create nested p records
    | .update => k.update nested p

end Keeper

end Rowgate
