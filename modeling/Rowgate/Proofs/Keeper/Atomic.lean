/-
  Writes are all or nothing.

  * `Concluded`: what follows a transaction, the news to the cache and to the audit sink if
    it is done, and nothing else;
  * `write_transacted`: behind its access check, a write that can be built sends its planned
    statements in one transaction, and everything else depends on whether that is done.
-/
import Rowgate.Proofs.Keeper.Refusal
import Rowgate.Proofs.Savepoint

namespace Rowgate.Keeper

open Program World Script Entry

variable {k : Keeper} {nested : Bool} {p : Params} {entry : Entry} {task : Task}
  {ids : List String} {t : List world.Event}

/-- What follows a transaction that is done or not. -/
inductive Concluded (p : Params) (task : Task) : Bool → List world.Event → Prop where
  | undone : Concluded p task false []
  | done {t : List world.Event} (h : Audited task p.user t) :
      Concluded p task true (⟨.forget p.table, ()⟩ :: t)

theorem Audited.usesCache {actor : String} (h : Audited task actor t) :
    ∀ e ∈ t, WorldCall.usesCache e.1 = false := by
  intro e he
  cases h with
  | silent => cases he
  | recorded =>
    cases List.mem_singleton.1 he
    rfl

theorem Scoped.usesCache {cs : List DatabaseCall} {done : Bool} (h : Scoped nested cs t done) :
    ∀ e ∈ t, WorldCall.usesCache e.1 = false := by
  intro e he
  rcases h.mem he with he | ⟨d, he, -⟩
  · rw [he]
    rfl
  · rw [he]
    rfl

theorem Concluded.replays_iff {done : Bool} (h : Concluded p task done t) {c c' : Cache} :
    Replays c t c' ↔ c' = if done then c.deleteTable p.table else c := by
  cases h with
  | undone =>
    rw [if_neg Bool.false_ne_true]
    exact Replays.iff_unchanged fun e he => by cases he
  | done ha =>
    rw [if_pos rfl]
    constructor
    · rintro (⟨⟩ | ⟨⟨⟩, h⟩)
      exact (Replays.iff_unchanged ha.usesCache).1 h
    · rintro rfl
      exact .cons (.forget c p.table) ((Replays.iff_unchanged ha.usesCache).2 rfl)

/-- A check, a block and what follows it change the cache just if the block is done. -/
theorem write_replays {r : Except Error Unit} {t₁ t₂ t₃ : List world.Event}
    {cs : List DatabaseCall} {done : Bool} (ha : Runs (k.authorize p task ids) t₁ r)
    (hs : Scoped nested cs t₂ done) (hd : Concluded p task done t₃) (c c' : Cache) :
    Replays c (t₁ ++ (t₂ ++ t₃)) c' ↔ c' = if done then c.deleteTable p.table else c := by
  have hquiet : ∀ e ∈ t₁ ++ t₂, WorldCall.usesCache e.1 = false := by
    intro e he
    rcases List.mem_append.1 he with he | he
    · exact authorize_usesCache ha e he
    · exact Scoped.usesCache hs e he
  rw [← List.append_assoc, Replays.append_iff]
  simp only [Replays.iff_unchanged hquiet, exists_eq_left, hd.replays_iff]

/-- **Atomicity.**  Behind its access check, a write that can be built sends its planned
    statements in one transaction.  It is answered with a success just if that is done; if it
    is not, the answer is empty, the cache stays as it is, and nothing goes to the sink. -/
theorem write_transacted {r : Response} {t₁ t₂ : List world.Event} {cs : List DatabaseCall}
    (hne : entry ≠ .get) (h : Run (entry.run k nested p) (t₁ ++ t₂) r)
    (hc : entry.checked? p = some (task, ids))
    (ha : Runs (k.authorize p task ids) t₁ (.ok ())) (hp : entry.planned k p = .ok cs) :
    (∃ scope t₃ t₄ t₅ done, t₂ = t₃ ++ t₄ ++ t₅ ∧ Opened nested scope t₃ ∧
      Transacted scope cs t₄ done ∧ Concluded p task done t₅ ∧
      (r.code = .success ↔ done = true) ∧ (done = false → r.outcome = .empty) ∧
      ∀ c c', Replays c (t₁ ++ t₂) c' ↔ c' = if done then c.deleteTable p.table else c) ∧
    ∀ n m u, Counted n u m → (savepoints u).length ≤ 2 ^ 64 →
      (savepoints u).Pairwise fun i j => (Scope.savepoint i).Apart (Scope.savepoint j) := by
  refine ⟨?_, fun n m u hu hl => hu.savepoints_pairwise hl⟩
  obtain ⟨x, rfl, hcourse⟩ := Entry.run_course h
  cases hcourse.behind hc ha with
  | read | unread => exact absurd rfl hne
  | written _ hw =>
    rw [hp] at hw
    cases hw with
    | unplanned hn => cases hn
    | undone hd hs e =>
      cases hd
      have hre := write_replays ha hs .undone
      rw [List.append_nil] at hre
      obtain ⟨scope, t₃, t₄, rfl, ho, ht⟩ := hs
      obtain ⟨hcode, hout⟩ := entry.ofResult_error e
      exact ⟨scope, t₃, t₄, [], false, (List.append_nil _).symm, ho, ht, .undone,
        ⟨fun hs => absurd hs hcode, fun hf => absurd hf Bool.false_ne_true⟩, fun _ => hout, hre⟩
    | done hd hs haudit x =>
      cases hd
      have hre := write_replays ha hs (.done haudit)
      obtain ⟨scope, t₃, t₄, rfl, ho, ht⟩ := hs
      exact ⟨scope, t₃, t₄, _, true, rfl, ho, ht, .done haudit, ⟨fun _ => rfl, fun _ => rfl⟩,
        fun hf => absurd hf.symm Bool.false_ne_true, hre⟩

/-- A process that loses its connection at the second statement. -/
def lostScene : Scene :=
  .ofReplies [.empty, { Reply.empty with failure := some (.connection "lost") }]

/-- A deletion in an open transaction. -/
def lostDelete : Program world Response :=
  Entry.delete.run (.standard false) true (.ofIds "notes" "ann" ["7"])

/-- One such deletion after the other. -/
def lostDeletes : Program world Response := do
  let _ ← lostDelete
  lostDelete

theorem write_transacted_lost :
    (∃ n t, Transacted (.savepoint n) [.execute none "DELETE FROM notes WHERE id IN ('7')" []] t
      false) ∧ (lostScene.play lostDelete).1.outcome = .empty ∧
      (∀ c c', Replays c (lostScene.trace lostDelete) c' ↔ c' = c) ∧
      savepoints (lostScene.trace lostDeletes) = [0, 1] ∧
      (Scope.savepoint 0).Apart (Scope.savepoint 1) := by
  have hrun : Run lostDelete ([] ++ lostScene.trace lostDelete) _ := lostScene.run_play lostDelete
  have hcode : (lostScene.play lostDelete).1.code = .deleteError := rfl
  have hsaved : savepoints (lostScene.trace lostDeletes) = [0, 1] := rfl
  obtain ⟨⟨scope, t₃, t₄, t₅, done, -, ho, ht, -, hdone, hout, hre⟩, hapart⟩ :=
    write_transacted (by decide) hrun rfl (runs_pure_iff.2 ⟨rfl, rfl⟩) rfl
  have hpairs := hapart _ _ _ (lostScene.trace_counted lostDeletes) (by rw [hsaved]; decide)
  rw [hsaved] at hpairs
  rw [hcode] at hdone
  cases done with
  | true => exact absurd (hdone.2 rfl) (by decide)
  | false =>
    cases ho with
    | savepoint n =>
      exact ⟨⟨n, t₄, ht⟩, hout rfl, hre, hsaved,
        List.rel_of_pairwise_cons hpairs (List.mem_singleton_self 1)⟩

end Rowgate.Keeper
