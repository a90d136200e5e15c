/-
  The savepoints of a process, which are numbered by one counter.

  * `Counted n t m`: the savepoints that are asked for along `t` get the numbers from `n` on,
    and the next one would get `m`; the counter has 64 bits and starts again behind the last;
  * `savepoints_pairwise`: up to 2 ^ 64 of them, no two have a statement in common.
-/
import Mathlib.Data.List.Nodup
import Mathlib.Data.List.Range
import Rowgate.Transaction

namespace Rowgate

/-- The numbers that were answered along a trace. -/
def savepoints (t : List world.Event) : List UInt64 :=
  t.filterMap fun
    | ⟨.savepoint, n⟩ => some n
    | _ => none

inductive Counted : UInt64 → List world.Event → UInt64 → Prop where
  | nil (n : UInt64) : Counted n [] n
  | savepoint {n m : UInt64} {t : List world.Event} (h : Counted (n + 1) t m) :
      Counted n (⟨.savepoint, n⟩ :: t) m
  | other {n m : UInt64} {e : world.Event} {t : List world.Event} (he : e.1 ≠ .savepoint)
      (h : Counted n t m) : Counted n (e :: t) m

theorem savepoints_cons_other {e : world.Event} (he : e.1 ≠ .savepoint) (t : List world.Event) :
    savepoints (e :: t) = savepoints t := by
  obtain ⟨c, a⟩ := e
  cases c with
  | savepoint => exact absurd rfl he
  | _ => rfl

theorem Counted.savepoints_eq {n m : UInt64} {t : List world.Event} (h : Counted n t m) :
    savepoints t = (List.range (savepoints t).length).map fun i => n + UInt64.ofNat i := by
  induction h with
  | nil => rfl
  | @savepoint n m t _ ih =>
    have hs : savepoints (⟨.savepoint, n⟩ :: t) = n :: savepoints t := rfl
    rw [hs, List.length_cons, List.range_succ_eq_map, List.map_cons, List.map_map]
    have hn : n = n + UInt64.ofNat 0 := by simp
    have hf : ((fun i => n + UInt64.ofNat i) ∘ Nat.succ) = fun i => n + 1 + UInt64.ofNat i := by
      funext i
      rw [Function.comp_apply, UInt64.add_assoc, Nat.succ_eq_one_add, UInt64.ofNat_add]
      rfl
    rw [hf, ← hn, ← ih]
  | other he _ ih => rwa [savepoints_cons_other he]

/-- The texts of numbers tell them apart. -/
theorem natText_injective {m n : Nat} (h : toString m = toString n) : m = n := by
  have := congrArg (fun s => Nat.ofDigitChars 10 s.toList 0) h
  simpa only [show ∀ n : Nat, toString n = n.repr from fun _ => rfl, Nat.toList_repr,
    Nat.ofDigitChars_ten_toDigits] using this

/-- Scopes without a statement in common. -/
def Scope.Apart (s s' : Scope) : Prop :=
  s.opening ≠ s'.opening ∧ s.commit ≠ s'.commit ∧ s.rollback ≠ s'.rollback

theorem Scope.savepoint_apart {m n : UInt64} (h : m ≠ n) :
    (Scope.savepoint m).Apart (Scope.savepoint n) := by
  have hne : ∀ pre : String, pre ++ ("pgcrud_sp_" ++ toString m) ≠
      pre ++ ("pgcrud_sp_" ++ toString n) := by
    intro pre he
    have := natText_injective ((String.append_right_inj _).1 ((String.append_right_inj _).1 he))
    exact h (UInt64.toNat_inj.1 this)
  exact ⟨hne _, hne _, hne _⟩

theorem Counted.savepoints_pairwise {n m : UInt64} {t : List world.Event} (h : Counted n t m)
    (ht : (savepoints t).length ≤ 2 ^ 64) :
    (savepoints t).Pairwise fun i j => (Scope.savepoint i).Apart (Scope.savepoint j) := by
  have hn : (savepoints t).Nodup := by
    rw [h.savepoints_eq]
    refine List.Nodup.map_on (fun i hi j hj he => ?_) List.nodup_range
    have he : UInt64.ofNat i = UInt64.ofNat j := by simpa using he
    have := congrArg UInt64.toNat he
    rw [List.mem_range] at hi hj
    rwa [UInt64.toNat_ofNat', UInt64.toNat_ofNat', Nat.mod_eq_of_lt (hi.trans_le ht),
      Nat.mod_eq_of_lt (hj.trans_le ht)] at this
  exact hn.imp Scope.savepoint_apart

end Rowgate
