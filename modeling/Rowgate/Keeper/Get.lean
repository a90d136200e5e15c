/-
  Reading: by ids, by condition, or all rows.
-/
import Rowgate.Keeper.Basic

namespace Rowgate.Keeper

open World

/-- The SELECT of a read. -/
def readStatement (k : Keeper) (p : Params) : Except Error String := do
  let select ← Select.ofTable p.table
  let select ← select.project p.projection
  let select ← select.sort p.order
  let select := (select.withLimit (k.options.effectiveLimit p.limit)).withOffset (max p.skip 0)
  if !p.ids.isEmpty then select.byIds p.ids
  else if !p.condition.isEmpty then select.byCondition p.condition
  else return select.all

/-- The rows of a read, from the cache if they are there.  Rows that were read go to
    the cache, unless there are none. -/
def fetch (k : Keeper) (p : Params) (cached : Bool) : Action (List Record) := do
  let useCache := cached && k.options.cacheEnabled
  let key := p.hashKey
  let kept ← if useCache then ask (.cached p.table key) else pure none
  match kept with
  | some (r :: rs) => return r :: rs
  | _ =>
    let sql ← Program.given (k.readStatement p)
    let records ← k.queryRecords .read sql []
    if useCache && !records.isEmpty then ask (.remember p.table key records k.options.cacheTtl)
    return records

/-- The outcome of a read. -/
def readOutcome (p : Params) (records : List Record) : Outcome :=
  ⟨p.condition, p.ids, .ofNat records.length, records⟩

/-- Reads rows, with access check, cache and audit. -/
def get (k : Keeper) (p : Params) : Program world Response :=
  answer .readError do
    k.authorize p .read p.ids
    let records ← k.fetch p true
    let message ← k.recordAudit k.options.audit.read .read p.user
      ⟨p.table, [], requestJson p⟩ "Record(s) retrieved successfully"
    return (message, readOutcome p records)

/-- Reads rows without any of them. -/
def lookup (k : Keeper) (p : Params) : Program world Response :=
  answer .readError do
    return ("Record(s) retrieved successfully", readOutcome p (← k.fetch p false))

end Rowgate.Keeper
