/-
  All operations of a keeper, and what they send.

  * `Operation`: the entry points that check access, looking up and deleting all rows;
    `Operation.planned` is the statements of one behind its check, if they can be built;
  * `run_sent`: what is sent belongs to the access check or the transaction, or is planned;
  * `run_unplanned`: without a plan, an operation ends behind its check.
-/
import Rowgate.Proofs.Keeper.Licence

namespace Rowgate

open Program World Keeper

inductive Operation where
  | entry (e : Entry)
  | lookup
  | deleteAll
deriving DecidableEq

namespace Keeper

variable {k : Keeper} {nested : Bool} {p : Params} {entry : Entry} {task : Task}
  {ids : List String} {t : List world.Event}

/-! ## Operations without access check -/

theorem lookup_fetched {r : Response} (h : Run (k.lookup p) t r) :
    ∃ x : Except Error (List Record), Fetched k p false t x ∧
      r = .ofResult .readError (x.map fun rows =>
        ("Record(s) retrieved successfully", readOutcome p rows)) := by
  obtain ⟨x, hx, rfl⟩ := answer_run h
  obtain ⟨y, hy, rfl⟩ := runs_bind_pure_iff.1 hx
  exact ⟨y, fetch_run hy, rfl⟩

/-- The ways that all rows are deleted. -/
inductive Wiped (k : Keeper) (p : Params) :
    List world.Event → Except Error (String × Outcome) → Prop where
  | unplanned {e : Error} (h : Statement.deleteAll p.table = .error e) : Wiped k p [] (.error e)
  | failed {sql : String} (h : Statement.deleteAll p.table = .ok sql) (a e : Error) :
      Wiped k p [⟨.database (.execute k.options.timeout sql []), .error a⟩] (.error e)
  | done {sql : String} (h : Statement.deleteAll p.table = .ok sql) (n : UInt64)
      (x : String × Outcome) :
      Wiped k p [⟨.database (.execute k.options.timeout sql []), .ok n⟩, ⟨.forget p.table, ()⟩]
        (.ok x)

theorem execute_run {stage : Stage} {sql : String} {params : List Value} {r : Except Error UInt64}
    (h : Runs (k.execute stage sql params) t r) :
    ∃ a : Except Error UInt64, t = [⟨.database (.execute k.options.timeout sql params), a⟩] ∧
      r = a.mapError (.tagged stage) := by
  obtain ⟨a, ha, rfl⟩ := runs_mapError_iff.1 h
  exact ⟨a, run_call_iff.1 ha, rfl⟩

theorem deleteAll_wiped {r : Response} (h : Run (k.deleteAll p) t r) :
    ∃ x, Wiped k p t x ∧ r = .ofResult .deleteError x := by
  obtain ⟨x, hx, rfl⟩ := answer_run h
  refine ⟨x, ?_, rfl⟩
  rcases runs_given_bind_iff.1 hx with ⟨e, he, rfl, rfl⟩ | ⟨sql, hsql, h⟩
  · exact .unplanned he
  rcases runs_bind_iff.1 h with ⟨e, h₁, rfl⟩ | ⟨t₁, t₂, n, rfl, h₁, h₂⟩
  · obtain ⟨a, rfl, ha⟩ := execute_run h₁
    cases a with
    | ok n => cases ha
    | error a => exact .failed hsql a e
  · obtain ⟨a, rfl, ha⟩ := execute_run h₁
    cases a with
    | error a => cases ha
    | ok n =>
      obtain ⟨_, hforget, rfl⟩ := runs_bind_pure_iff.1 h₂
      obtain ⟨_, rfl, rfl⟩ := runs_ask_iff.1 hforget
      exact .done hsql n _

/-! ## Requests that are not checked -/

/-- A request that names no task, or whose statements are built before the check and cannot
    be, ends there. -/
theorem run_unchecked {r : Response} (h : Run (entry.run k nested p) t r)
    (hc : entry.checked? p = none) :
    ∃ e, entry.planned k p = .error e ∧ t = [] ∧ r = .ofResult entry.fallback (.error e) := by
  cases entry with
  | save =>
    obtain ⟨x, hx, rfl⟩ := answer_run h
    rcases runs_given_bind_iff.1 hx with ⟨e, he, rfl, rfl⟩ | ⟨records | _, hs, -⟩
    · exact ⟨e, by rw [Entry.planned, he]; rfl, rfl, rfl⟩
    · rw [Entry.checked?, hs] at hc
      cases hc
    · rw [Entry.checked?, hs] at hc
      cases hc
  | get => cases hc
  | delete =>
    obtain ⟨x, rfl, ⟨e, he, rfl, rfl⟩ | ⟨⟨statements, hs⟩, -⟩⟩ := delete_written h
    · exact ⟨e, by rw [Entry.planned, deleteCalls, he]; rfl, rfl, rfl⟩
    · rw [Entry.checked?, hs] at hc
      cases hc

/-! ## Reads that cannot be built -/

theorem readStatement_unplanned {e : Error} (h : Entry.get.planned k p = .error e) :
    k.readStatement p = .error e := by
  rw [Entry.planned] at h
  cases hs : k.readStatement p with
  | ok sql =>
    rw [hs] at h
    cases h
  | error e' =>
    rw [hs] at h
    cases h
    rfl

theorem fetched_unplanned {useCache : Bool} {x : Except Error (List Record)} {e : Error}
    (h : Fetched k p useCache t x) (hp : Entry.get.planned k p = .error e)
    (hmissed : ∀ rows, ⟨.cached p.table p.hashKey, some rows⟩ ∈ t → rows = []) :
    Missed p useCache t ∧ x = .error e := by
  have hs := readStatement_unplanned hp
  cases h with
  | hit _ hne => exact absurd (hmissed _ List.mem_cons_self) hne
  | unplanned hm h =>
    rw [hs] at h
    cases h
    exact ⟨hm, rfl⟩
  | asked _ h =>
    rw [hs] at h
    cases h

/-! ## Events of a longer trace -/

theorem CheckCall.mono {c : world.Call} {t' : List world.Event}
    (h : CheckCall k p task ids t c) (ht : ∀ e ∈ t, e ∈ t') : CheckCall k p task ids t' c := by
  cases h with
  | now => exact .now
  | lookup hc h => exact .lookup hc h
  | discard hnow hs hfound hrow h => exact .discard (ht _ hnow) hs (ht _ hfound) hrow h

end Keeper

namespace Operation

variable {k : Keeper} {nested : Bool} {p : Params} {t : List world.Event} {op : Operation}

def run (k : Keeper) (nested : Bool) (p : Params) : Operation → Program world Response
  | entry e => e.run k nested p
  | lookup => k.lookup p
  | deleteAll => k.deleteAll p

/-- The code of failures that name no task. -/
def fallback : Operation → ResponseCode
  | entry e => e.fallback
  | lookup => .readError
  | deleteAll => .deleteError

/-- The task and the ids that access is checked for, if it comes to that. -/
def checked? (p : Params) : Operation → Option (Task × List String)
  | entry e => e.checked? p
  | lookup | deleteAll => none

/-- The statements that are sent behind the check, if they can be built. -/
def planned (k : Keeper) (p : Params) : Operation → Except Error (List DatabaseCall)
  | entry e => e.planned k p
  | lookup => Entry.get.planned k p
  | deleteAll => (Statement.deleteAll p.table).map fun sql =>
    [.execute k.options.timeout sql []]

/-- What is sent by an access check, around a transaction, or by plan. -/
theorem run_sent {r : Response} (h : Run (op.run k nested p) t r) {e : world.Event} (he : e ∈ t)
    {d : DatabaseCall} (hd : e.1 = .database d) :
    (∃ task ids, op.checked? p = some (task, ids) ∧ CheckCall k p task ids t (.database d)) ∨
      ScopeCall d ∨ ∃ cs, op.planned k p = .ok cs ∧ d ∈ cs := by
  cases op with
  | entry entry =>
    obtain ⟨x, -, hcourse⟩ := Entry.run_course h
    cases hcourse with
    | invalid => cases he
    | refused hc ha => exact .inl ⟨_, _, hc, hd ▸ authorize_calls ha e he⟩
    | admitted hc ha hb =>
      rcases List.mem_append.1 he with he | he
      · exact .inl ⟨_, _, hc,
          (hd ▸ authorize_calls ha e he).mono fun _ => List.mem_append_left _⟩
      · exact .inr (behind_calls hb he hd)
  | lookup =>
    obtain ⟨x, hf, -⟩ := lookup_fetched h
    exact .inr (.inr (fetched_calls hf he hd))
  | deleteAll =>
    obtain ⟨x, hw, -⟩ := deleteAll_wiped h
    refine .inr (.inr ?_)
    cases hw with
    | unplanned => cases he
    | failed hsql =>
      cases List.mem_singleton.1 he
      cases hd
      exact ⟨_, congrArg (Except.map _) hsql, List.mem_cons_self⟩
    | done hsql =>
      rcases List.mem_cons.1 he with rfl | he
      · cases hd
        exact ⟨_, congrArg (Except.map _) hsql, List.mem_cons_self⟩
      · cases List.mem_singleton.1 he
        cases hd

/-- An operation comes to build its statements: it passes its check, if there is one, and the
    cache, if it is asked, has no rows. -/
structure Builds (k : Keeper) (p : Params) (op : Operation) (t : List world.Event) : Prop where
  passed : ∀ task ids, op.checked? p = some (task, ids) →
    ∃ t₁ t₂, t = t₁ ++ t₂ ∧ Runs (k.authorize p task ids) t₁ (.ok ())
  missed : ∀ rows, ⟨.cached p.table p.hashKey, some rows⟩ ∈ t → rows = []

/-- What an operation asked that has come to build its statements: first the check, then
    the cache, if it reads by it. -/
inductive Built (k : Keeper) (p : Params) : Operation → List world.Event → Prop where
  | unchecked {op : Operation} (h : op.checked? p = none) : Built k p op []
  | write {op : Operation} {task : Task} {ids : List String} {t : List world.Event}
      (hc : op.checked? p = some (task, ids)) (ha : Runs (k.authorize p task ids) t (.ok ())) :
      Built k p op t
  | read {t₁ t₂ : List world.Event} (ha : Runs (k.authorize p .read p.ids) t₁ (.ok ()))
      (hm : Missed p k.options.cacheEnabled t₂) : Built k p (.entry .get) (t₁ ++ t₂)

theorem behind_unplanned {entry : Entry} {task : Task} {ids : List String}
    {t₁ t₂ : List world.Event} {x : Except Error (String × Outcome)} {e : Error}
    (hc : entry.checked? p = some (task, ids)) (ha : Runs (k.authorize p task ids) t₁ (.ok ()))
    (hb : Entry.Behind k nested p task entry t₂ x) (hp : entry.planned k p = .error e)
    (hmissed : ∀ rows, ⟨.cached p.table p.hashKey, some rows⟩ ∈ t₂ → rows = []) :
    Built k p (.entry entry) (t₁ ++ t₂) ∧ x = .error e := by
  cases hb with
  | @read t t' rows hf haudit message =>
    obtain ⟨-, hx⟩ := fetched_unplanned hf hp fun rows h => hmissed rows (List.mem_append_left _ h)
    cases hx
  | unread hf =>
    cases hc
    obtain ⟨hm, hx⟩ := fetched_unplanned hf hp hmissed
    cases hx
    exact ⟨.read ha hm, rfl⟩
  | written _ hw =>
    rw [hp] at hw
    cases hw with
    | unplanned h =>
      cases h
      rw [List.append_nil]
      exact ⟨.write hc ha, rfl⟩
    | undone h => cases h
    | done h => cases h

theorem run_unplanned {r : Response} (h : Run (op.run k nested p) t r) {e : Error}
    (hp : op.planned k p = .error e) (hb : op.Builds k p t) :
    Built k p op t ∧ r = .ofResult op.fallback (.error e) := by
  cases op with
  | entry entry =>
    cases hc : entry.checked? p with
    | none =>
      obtain ⟨e', he, rfl, rfl⟩ := run_unchecked h hc
      rw [planned, he] at hp
      cases hp
      exact ⟨.unchecked hc, rfl⟩
    | some c =>
      obtain ⟨task, ids⟩ := c
      obtain ⟨x, rfl, hcourse⟩ := Entry.run_course h
      obtain ⟨t₁, t₂, rfl, ha⟩ := hb.passed task ids hc
      obtain ⟨hbuilt, rfl⟩ := behind_unplanned hc ha (hcourse.behind hc ha) hp fun rows h =>
        hb.missed rows (List.mem_append_right _ h)
      exact ⟨hbuilt, rfl⟩
  | lookup =>
    obtain ⟨x, hf, rfl⟩ := lookup_fetched h
    obtain ⟨hm, rfl⟩ := fetched_unplanned hf hp hb.missed
    cases hm
    exact ⟨.unchecked rfl, rfl⟩
  | deleteAll =>
    obtain ⟨x, hw, rfl⟩ := deleteAll_wiped h
    have hsql : Statement.deleteAll p.table = .error e := Except.map_eq_error.1 hp
    cases hw with
    | unplanned hs =>
      rw [hsql] at hs
      cases hs
      exact ⟨.unchecked rfl, rfl⟩
    | failed hs | done hs =>
      rw [hsql] at hs
      cases hs

end Operation

end Rowgate
