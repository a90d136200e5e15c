/-
  Calls without a permit.

  * `Permitted`: the access check of a call came to a permit;
  * `CheckCall`: what an access check may ask along a trace;
  * `unpermitted_call`: a call without a permit asks nothing else, changes no cache, records
    nothing, and is answered with a failure and the empty outcome.
-/
import Rowgate.Proofs.Keeper.Entry
import Rowgate.Proofs.Scene

namespace Rowgate.Keeper

open Program World Script

variable {k : Keeper} {nested : Bool} {p : Params} {entry : Entry} {task : Task}
  {ids : List String} {t : List world.Event}

/-- The access check of a call came to a permit. -/
def Permitted (k : Keeper) (p : Params) (entry : Entry) (t : List world.Event) : Prop :=
  ∃ task ids t₁ t₂ reason, entry.checked? p = some (task, ids) ∧ t = t₁ ++ t₂ ∧
    Runs (k.accessCheck p task ids) t₁ (.ok ⟨true, reason⟩)

/-- What the access check of a task may ask along a trace: the time, the statements of its
    lookups, and the deletion of a session that it has read and that had expired then. -/
inductive CheckCall (k : Keeper) (p : Params) (task : Task) (ids : List String)
    (t : List world.Event) : world.Call → Prop where
  | now : CheckCall k p task ids t .now
  | lookup {c : accessStore.Call} {d : DatabaseCall}
      (hc : Access.IsLookup (request p task ids) c)
      (h : SqlStore.statement k.options.tables c = .ok d) : CheckCall k p task ids t (.database d)
  | discard {now : Int} {s : Session} {table : String} {row : Row} {rows : List Row}
      {d : DatabaseCall} (hnow : ⟨.now, now⟩ ∈ t) (hs : s.isExpiredAt now)
      (hfound : databaseEvent ⟨SqlStore.sessionQuery table p.user p.token, .ok (row :: rows)⟩ ∈ t)
      (hrow : SqlStore.session row = .ok s)
      (h : SqlStore.statement k.options.tables (.deleteSession s.user s.token) = .ok d) :
      CheckCall k p task ids t (.database d)

theorem accessCheck_calls {d : Except Error AccessDecision}
    (h : Runs (k.accessCheck p task ids) t d) : ∀ e ∈ t, CheckCall k p task ids t e.1 := by
  obtain ⟨now, u, rfl, hu⟩ := accessCheck_run h
  intro e he
  rcases List.mem_cons.1 he with rfl | he
  · exact .now
  obtain ⟨e', he', rfl⟩ := List.mem_map.1 he
  cases SqlStore.check_statements hu e' he' with
  | lookup hc h => exact .lookup hc h
  | discard hs hrow hfound h =>
    exact .discard List.mem_cons_self hs (List.mem_cons_of_mem _ (List.mem_map_of_mem hfound))
      hrow h

theorem authorize_calls {r : Except Error Unit} (h : Runs (k.authorize p task ids) t r) :
    ∀ e ∈ t, CheckCall k p task ids t e.1 := by
  cases hk : k.options.checkAccess with
  | false =>
    obtain ⟨rfl, -⟩ := authorize_off hk h
    intro e he
    cases he
  | true =>
    rcases authorize_run hk h with ⟨reason, -, h⟩ | ⟨e, d, -, h, -⟩
    · exact accessCheck_calls h
    · exact accessCheck_calls h

theorem CheckCall.usesCache {c : world.Call} (h : CheckCall k p task ids t c) :
    WorldCall.usesCache c = false := by
  cases h <;> rfl

theorem authorize_usesCache {r : Except Error Unit} (h : Runs (k.authorize p task ids) t r) :
    ∀ e ∈ t, WorldCall.usesCache e.1 = false :=
  fun e he => (authorize_calls h e he).usesCache

theorem CheckCall.ne_record {c : world.Call} (h : CheckCall k p task ids t c) (action : Task)
    (actor : String) (e : AuditEntry) : c ≠ .record action actor e := by
  cases h <;> exact fun h => by cases h

/-- **Refusal.**  A call whose access check comes to no permit asks nothing but what its check
    asks; no cache changes, nothing is recorded, and the answer is a failure and empty. -/
theorem unpermitted_call (hk : k.options.checkAccess) {r : Response}
    (h : Run (entry.run k nested p) t r) (hn : ¬ Permitted k p entry t) :
    (∀ e ∈ t, ∃ task ids, entry.checked? p = some (task, ids) ∧ CheckCall k p task ids t e.1) ∧
      (∀ c c', Replays c t c' ↔ c' = c) ∧
      (∀ e ∈ t, ∀ action actor entry, e.1 ≠ .record action actor entry) ∧
      r.code ≠ .success ∧ r.outcome = .empty := by
  obtain ⟨x, rfl, hcourse⟩ := Entry.run_course h
  have hcalls : ∃ e, x = .error e ∧
      ∀ e ∈ t, ∃ task ids, entry.checked? p = some (task, ids) ∧ CheckCall k p task ids t e.1 := by
    cases hcourse with
    | invalid hc e =>
      refine ⟨e, rfl, fun e he => ?_⟩
      cases he
    | refused hc ha => exact ⟨_, rfl, fun e he => ⟨_, _, hc, authorize_calls ha e he⟩⟩
    | admitted hc ha hb =>
      rcases authorize_run hk ha with ⟨reason, -, ha⟩ | ⟨e, d, he, -, -⟩
      · exact absurd ⟨_, _, _, _, reason, hc, rfl, ha⟩ hn
      · cases he
  obtain ⟨e, rfl, hcalls⟩ := hcalls
  refine ⟨hcalls, fun c c' => Replays.iff_unchanged fun e he => ?_,
    fun e he action actor entry => ?_, entry.ofResult_error e⟩
  · obtain ⟨_, _, -, hc⟩ := hcalls e he
    exact hc.usesCache
  · obtain ⟨_, _, -, hc⟩ := hcalls e he
    exact hc.ne_record action actor entry

/-- A user reads a row. -/
def strangerCall : Program world Response :=
  Entry.get.run (.standard true) false (.ofIds "notes" "ann" ["7"])

/-- What is asked if there is no session. -/
def strangerTrace : List world.Event :=
  [⟨.now, (0 : Int)⟩, databaseEvent ⟨SqlStore.sessionQuery "access_keys" "ann" "token", .ok []⟩]

theorem unpermitted_call_stranger :
    (Scene.ofReplies []).trace strangerCall = strangerTrace ∧
      ¬ Permitted (.standard true) (.ofIds "notes" "ann" ["7"]) .get strangerTrace ∧
      (∀ c c', Replays c strangerTrace c' ↔ c' = c) ∧
      ((Scene.ofReplies []).play strangerCall).1.code ≠ .success ∧
      ((Scene.ofReplies []).play strangerCall).1.outcome = .empty := by
  have hcheck : Runs _ strangerTrace _ := (Scene.ofReplies []).run_play
    (accessCheck (.standard true) (.ofIds "notes" "ann" ["7"]) .read ["7"])
  have hn : ¬ Permitted (.standard true) (.ofIds "notes" "ann" ["7"]) .get strangerTrace := by
    rintro ⟨task, ids, t₁, t₂, reason, hc, ht, h⟩
    cases hc
    rw [ht] at hcheck
    obtain ⟨-, he⟩ := h.eq_of_prefix hcheck
    cases he
  have hrun : Run strangerCall strangerTrace _ := (Scene.ofReplies []).run_play strangerCall
  obtain ⟨-, hcache, -, hanswer⟩ := unpermitted_call rfl hrun hn
  exact ⟨rfl, hn, hcache, hanswer⟩

end Rowgate.Keeper
