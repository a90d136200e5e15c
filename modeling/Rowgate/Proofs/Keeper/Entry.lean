/-
  The entry points that check access, and the ways that a call of one can go.

  * `Entry.checked?` is the task and the ids that a request is checked for, and
    `Entry.planned` the statements that it plans to send behind the check;
  * `Course`: a call ends before the check, is refused by it, or goes on behind it;
    `run_course` says that there is nothing else.
-/
import Rowgate.Proofs.Keeper.Read
import Rowgate.Proofs.Keeper.Write

namespace Rowgate

open Program World Keeper

inductive Entry where
  | save
  | get
  | delete
deriving DecidableEq

/-- A user's request for rows of a table. -/
def Params.ofIds (table user : String) (ids : List String) : Params :=
  ⟨table, user, "token", [], [], ids, .empty, .empty, [], 0, 0⟩

/-- A keeper with the standard options, but with or without access checks. -/
def Keeper.standard (checkAccess : Bool) : Keeper :=
  ⟨Options.standard.withCheckAccess checkAccess, true, none⟩

namespace Entry

variable {k : Keeper} {nested : Bool} {p : Params} {t : List world.Event}

def run (k : Keeper) (nested : Bool) (p : Params) : Entry → Program world Response
  | save => k.save nested p
  | get => k.get p
  | delete => k.delete nested p

/-- The code of failures that name no task. -/
def fallback : Entry → ResponseCode
  | save => .saveError
  | get => .readError
  | delete => .removeError

/-- The task and the ids that access is checked for, if it comes to that. -/
def checked? (p : Params) : Entry → Option (Task × List String)
  | save =>
    match SaveTask.classify p with
    | .ok (.create _) => some (.create, [])
    | .ok .update => some (.update, updateIds p)
    | .error _ => none
  | get => some (.read, p.ids)
  | delete =>
    match deleteStatements p with
    | .ok _ => some (.delete, p.ids)
    | .error _ => none

/-- The statements that a request plans to send behind the check, if they can be built. -/
def planned (k : Keeper) (p : Params) : Entry → Except Error (List DatabaseCall)
  | save => do
    match ← SaveTask.classify p with
    | .create records => k.createCalls p records
    | .update => k.updateCalls p
  | get => do
    let sql ← k.readStatement p
    return [.query k.options.timeout sql []]
  | delete => k.deleteCalls p

/-- The ways that a call can go behind the check of a task. -/
inductive Behind (k : Keeper) (nested : Bool) (p : Params) (task : Task) :
    Entry → List world.Event → Except Error (String × Outcome) → Prop where
  | read {t t' : List world.Event} {rows : List Record}
      (h : Fetched k p k.options.cacheEnabled t (.ok rows)) (ha : Audited task p.user t')
      (message : String) : Behind k nested p task get (t ++ t') (.ok (message, readOutcome p rows))
  | unread {t : List world.Event} {e : Error}
      (h : Fetched k p k.options.cacheEnabled t (.error e)) :
      Behind k nested p task get t (.error e)
  | written {entry : Entry} {t : List world.Event} {r : Except Error (String × Outcome)}
      (hne : entry ≠ get) (h : Written nested p task (entry.planned k p) t r) :
      Behind k nested p task entry t r

/-- The ways that a call can go. -/
inductive Course (k : Keeper) (nested : Bool) (p : Params) (entry : Entry) :
    List world.Event → Except Error (String × Outcome) → Prop where
  | invalid (h : entry.checked? p = none) (e : Error) : Course k nested p entry [] (.error e)
  | refused {task : Task} {ids : List String} {t : List world.Event} {e : Error}
      (h : entry.checked? p = some (task, ids))
      (ha : Runs (k.authorize p task ids) t (.error e)) : Course k nested p entry t (.error e)
  | admitted {task : Task} {ids : List String} {t₁ t₂ : List world.Event}
      {r : Except Error (String × Outcome)} (h : entry.checked? p = some (task, ids))
      (ha : Runs (k.authorize p task ids) t₁ (.ok ())) (hb : Behind k nested p task entry t₂ r) :
      Course k nested p entry (t₁ ++ t₂) r

theorem save_course {r : Except Error (String × Outcome)}
    (h : Runs (do
      match ← given (SaveTask.classify p) with
      | .create records => k.create nested p records
      | .update => k.update nested p) t r) : Course k nested p save t r := by
  rcases runs_given_bind_iff.1 h with ⟨e, he, rfl, rfl⟩ | ⟨records | _, hs, h⟩
  · exact .invalid (by rw [checked?, he]) e
  · have hc : save.checked? p = some (.create, []) := by rw [checked?, hs]
    rcases create_written h with ⟨e, rfl, ha⟩ | ⟨t₁, t₂, rfl, ha, hw⟩
    · exact .refused hc ha
    · refine .admitted hc ha (.written (by decide) ?_)
      rw [planned, hs]
      exact hw
  · have hc : save.checked? p = some (.update, updateIds p) := by rw [checked?, hs]
    rcases update_written h with ⟨e, rfl, ha⟩ | ⟨t₁, t₂, rfl, ha, hw⟩
    · exact .refused hc ha
    · refine .admitted hc ha (.written (by decide) ?_)
      rw [planned, hs]
      exact hw

theorem get_course {r : Except Error (String × Outcome)}
    (h : Runs (do
      k.authorize p .read p.ids
      let records ← k.fetch p true
      let message ← k.recordAudit k.options.audit.read .read p.user
        ⟨p.table, [], requestJson p⟩ "Record(s) retrieved successfully"
      return (message, readOutcome p records)) t r) : Course k nested p get t r := by
  rcases runs_bind_iff.1 h with ⟨e, ha, rfl⟩ | ⟨t₁, t₂, _, rfl, ha, h₂⟩
  · exact .refused rfl ha
  refine .admitted rfl ha ?_
  rcases runs_bind_iff.1 h₂ with ⟨e, h₃, rfl⟩ | ⟨t₃, t₄, rows, rfl, h₃, h₄⟩
  · exact .unread (fetch_run h₃)
  · obtain ⟨m, hm, rfl⟩ := runs_bind_pure_iff.1 h₄
    obtain ⟨haudit, m, rfl⟩ := recordAudit_run hm
    exact .read (fetch_run h₃) haudit m

theorem run_course {entry : Entry} {r : Response} (h : Run (entry.run k nested p) t r) :
    ∃ x, r = .ofResult entry.fallback x ∧ Course k nested p entry t x := by
  cases entry with
  | save =>
    obtain ⟨x, hx, rfl⟩ := answer_run h
    exact ⟨x, rfl, save_course hx⟩
  | get =>
    obtain ⟨x, hx, rfl⟩ := answer_run h
    exact ⟨x, rfl, get_course hx⟩
  | delete =>
    obtain ⟨x, rfl, ⟨e, he, rfl, rfl⟩ | ⟨⟨statements, hs⟩, h⟩⟩ := delete_written h
    · exact ⟨_, rfl, .invalid (by rw [checked?, he]) e⟩
    have hc : delete.checked? p = some (.delete, p.ids) := by rw [checked?, hs]
    rcases h with ⟨e, rfl, ha⟩ | ⟨t₁, t₂, rfl, ha, hw⟩
    · exact ⟨_, rfl, .refused hc ha⟩
    · exact ⟨x, rfl, .admitted hc ha (.written (by decide) hw)⟩

/-- The only way that a call can go on once its check is passed. -/
theorem Course.behind {entry : Entry} {task : Task} {ids : List String} {t₁ t₂ : List world.Event}
    {r : Except Error (String × Outcome)} (h : Course k nested p entry (t₁ ++ t₂) r)
    (hc : entry.checked? p = some (task, ids)) (ha : Runs (k.authorize p task ids) t₁ (.ok ())) :
    Behind k nested p task entry t₂ r := by
  generalize ht : t₁ ++ t₂ = t at h
  cases h with
  | invalid hc' =>
    rw [hc] at hc'
    cases hc'
  | refused hc' ha' =>
    rw [hc] at hc'
    cases hc'
    rw [← ht] at ha'
    obtain ⟨-, he⟩ := ha.eq_of_prefix ha'
    cases he
  | admitted hc' ha' hb =>
    rw [hc] at hc'
    cases hc'
    obtain ⟨-, rfl, -⟩ := ha.unique ha' ht
    exact hb

theorem fallback_ne_success (entry : Entry) : entry.fallback ≠ .success := by
  cases entry <;> decide

/-- A failure is answered with its code and the empty outcome. -/
theorem ofResult_error (entry : Entry) (e : Error) :
    (Response.ofResult entry.fallback (.error e)).code ≠ .success ∧
      (Response.ofResult entry.fallback (.error e)).outcome = .empty :=
  ⟨Error.responseCode_ne_success entry.fallback_ne_success e, rfl⟩

theorem ofResult_success (entry : Entry) (x : Except Error (String × Outcome)) :
    (Response.ofResult entry.fallback x).code = .success ↔ x.isOk = true := by
  cases x with
  | ok y => exact ⟨fun _ => rfl, fun _ => rfl⟩
  | error e => exact ⟨fun h => absurd h (entry.ofResult_error e).1, nofun⟩

end Entry

end Rowgate
