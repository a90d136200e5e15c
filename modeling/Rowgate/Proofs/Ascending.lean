/-
  Lists in the order of a number, elements of one number as given.

  * `Reordered`: the same elements, those of one number in the same order;
  * `ascending_mergeSort`: sorting by the number gives such a list in ascending order;
  * `Reordered.eq_of_pairwise`: there is only one, so
  * `Reordered.mergeSort_eq`: lists that are reordered are sorted to the same list;
  * `forall₂_mergeSort`: lists that agree place by place are sorted to lists that do.
-/
import Mathlib.Data.List.Forall2
import Mathlib.Data.List.Perm.Basic

namespace Rowgate

variable {α : Type} {order : α → Int} {xs ys zs : List α}

/-- The same elements, those of one number in the same order. -/
structure Reordered (order : α → Int) (xs ys : List α) : Prop where
  perm : xs.Perm ys
  ties : ∀ n, xs.filter (order · = n) = ys.filter (order · = n)

/-- `ys` is `xs` in ascending order, elements of one number as they are in `xs`. -/
structure Ascending (order : α → Int) (xs ys : List α) : Prop extends Reordered order xs ys where
  ascending : ys.Pairwise (order · ≤ order ·)

namespace Reordered

theorem symm (h : Reordered order xs ys) : Reordered order ys xs :=
  ⟨h.perm.symm, fun n => (h.ties n).symm⟩

theorem trans (h : Reordered order xs ys) (h' : Reordered order ys zs) : Reordered order xs zs :=
  ⟨h.perm.trans h'.perm, fun n => (h.ties n).trans (h'.ties n)⟩

theorem filter (p : α → Bool) (h : Reordered order xs ys) :
    Reordered order (xs.filter p) (ys.filter p) := by
  refine ⟨h.perm.filter p, fun n => ?_⟩
  rw [List.filter_comm, h.ties n, List.filter_comm]

/-- A map that keeps the numbers. -/
theorem map {β : Type} {order' : β → Int} {f : α → β} (hf : ∀ x, order' (f x) = order x)
    (h : Reordered order xs ys) : Reordered order' (xs.map f) (ys.map f) := by
  refine ⟨h.perm.map f, fun n => ?_⟩
  have hn : (fun y => decide (order' y = n)) ∘ f = fun x => decide (order x = n) :=
    funext fun x => by simp [hf]
  rw [List.filter_map, List.filter_map, hn, h.ties n]

/-- Two elements of different numbers. -/
theorem pair {x y : α} (h : order x ≠ order y) : Reordered order [x, y] [y, x] := by
  refine ⟨.swap _ _ _, fun n => ?_⟩
  by_cases hn : order x = n
  · subst hn
    simp [h.symm]
  · simp [hn, List.filter_cons]

theorem tail {x : α} (h : Reordered order (x :: xs) (x :: ys)) : Reordered order xs ys := by
  refine ⟨h.perm.cons_inv, fun n => ?_⟩
  have hn := h.ties n
  rw [List.filter_cons, List.filter_cons] at hn
  split_ifs at hn
  · exact (List.cons.inj hn).2
  · exact hn

/-- Two lists in ascending order start with the same element. -/
theorem head_eq {x y : α} (h : Reordered order (x :: xs) (y :: ys))
    (hx : (x :: xs).Pairwise (order · ≤ order ·)) (hy : (y :: ys).Pairwise (order · ≤ order ·)) :
    x = y := by
  have hle : order x ≤ order y := by
    rcases List.mem_cons.1 (h.perm.mem_iff.2 List.mem_cons_self) with rfl | hmem
    · exact Int.le_refl _
    · exact List.rel_of_pairwise_cons hx hmem
  have hge : order y ≤ order x := by
    rcases List.mem_cons.1 (h.perm.mem_iff.1 List.mem_cons_self) with rfl | hmem
    · exact Int.le_refl _
    · exact List.rel_of_pairwise_cons hy hmem
  have hn := h.ties (order x)
  rw [List.filter_cons_of_pos (by simp), List.filter_cons_of_pos (by simp [Int.le_antisymm hge hle])]
    at hn
  exact (List.cons.inj hn).1

/-- There is only one list in ascending order. -/
theorem eq_of_pairwise (h : Reordered order xs ys) (hx : xs.Pairwise (order · ≤ order ·))
    (hy : ys.Pairwise (order · ≤ order ·)) : xs = ys := by
  induction xs generalizing ys with
  | nil => exact (List.nil_perm.1 h.perm).symm
  | cons x xs ih =>
    cases ys with
    | nil => exact List.perm_nil.1 h.perm
    | cons y ys =>
      obtain rfl := head_eq h hx hy
      rw [ih h.tail hx.of_cons hy.of_cons]

end Reordered

namespace Ascending

theorem unique (h : Ascending order xs ys) (h' : Ascending order xs zs) : ys = zs :=
  (h.symm.trans h'.toReordered).eq_of_pairwise h.ascending h'.ascending

theorem filter (p : α → Bool) (h : Ascending order xs ys) :
    Ascending order (xs.filter p) (ys.filter p) :=
  ⟨h.toReordered.filter p, h.ascending.filter p⟩

theorem map {β : Type} {order' : β → Int} {f : α → β} (hf : ∀ x, order' (f x) = order x)
    (h : Ascending order xs ys) : Ascending order' (xs.map f) (ys.map f) := by
  refine ⟨h.toReordered.map hf, List.pairwise_map.2 (h.ascending.imp fun hxy => ?_)⟩
  rwa [hf, hf]

theorem pair {x y : α} (h : order y < order x) : Ascending order [x, y] [y, x] :=
  ⟨.pair (Int.ne_of_gt h), List.pairwise_pair.2 (Int.le_of_lt h)⟩

end Ascending

/-- Sorting puts a list in ascending order and keeps elements of one number as given. -/
theorem ascending_mergeSort (order : α → Int) (xs : List α) :
    Ascending order xs (xs.mergeSort fun x y => order x ≤ order y) := by
  have htrans (a b c : α) : decide (order a ≤ order b) → decide (order b ≤ order c) →
      decide (order a ≤ order c) := by
    simpa using Int.le_trans
  have htotal (a b : α) : decide (order a ≤ order b) || decide (order b ≤ order a) := by
    simpa using Int.le_total _ _
  have hperm := List.mergeSort_perm xs fun x y => decide (order x ≤ order y)
  refine ⟨⟨hperm.symm, fun n => ?_⟩, ?_⟩
  · -- the elements of one number are sorted already, so their order is kept
    have hpair : (xs.filter (order · = n)).Pairwise fun x y => decide (order x ≤ order y) := by
      refine List.Pairwise.imp_of_mem (R := fun _ _ => True) ?_ (List.pairwise_of_forall (by simp))
      intro x y hx hy _
      have hx := of_decide_eq_true (List.mem_filter.1 hx).2
      have hy := of_decide_eq_true (List.mem_filter.1 hy).2
      exact decide_eq_true (Int.le_of_eq (hx.trans hy.symm))
    have hsub := List.sublist_mergeSort htrans htotal hpair List.filter_sublist
    have hsub' := hsub.filter (order · = n)
    simp only [List.filter_filter, Bool.and_self] at hsub'
    exact hsub'.eq_of_length (hperm.symm.filter _).length_eq
  · exact (List.pairwise_mergeSort htrans htotal xs).imp of_decide_eq_true

theorem Ascending.eq_mergeSort (h : Ascending order xs ys) :
    ys = xs.mergeSort fun x y => order x ≤ order y :=
  h.unique (ascending_mergeSort order xs)

theorem Reordered.mergeSort_eq (h : Reordered order xs ys) :
    (xs.mergeSort fun x y => order x ≤ order y) = ys.mergeSort fun x y => order x ≤ order y :=
  have hxs := ascending_mergeSort order xs
  Ascending.eq_mergeSort ⟨h.symm.trans hxs.toReordered, hxs.ascending⟩

/-- Sorting keeps together what stands at the same places and has the same numbers. -/
theorem forall₂_mergeSort (order : α → Int) {R : α → α → Prop} (hR : ∀ x y, R x y → order x = order y)
    (h : List.Forall₂ R xs ys) :
    List.Forall₂ R (xs.mergeSort fun x y => order x ≤ order y)
      (ys.mergeSort fun x y => order x ≤ order y) := by
  obtain ⟨zs, rfl, rfl, hzs⟩ : ∃ zs : List (α × α), xs = zs.map Prod.fst ∧ ys = zs.map Prod.snd ∧
      ∀ z ∈ zs, R z.1 z.2 := by
    induction h with
    | nil => exact ⟨[], rfl, rfl, by simp⟩
    | @cons x y xs ys hxy _ ih =>
      obtain ⟨zs, rfl, rfl, hzs⟩ := ih
      exact ⟨(x, y) :: zs, rfl, rfl, List.forall_mem_cons.2 ⟨hxy, hzs⟩⟩
  -- both lists are sorted as the list of pairs
  rw [← List.map_mergeSort (r := fun z w => decide (order z.1 ≤ order w.1)) (by simp),
    ← List.map_mergeSort (r := fun z w => decide (order z.1 ≤ order w.1))
      fun z hz w hw => by rw [hR _ _ (hzs z hz), hR _ _ (hzs w hw)],
    List.forall₂_map_left_iff, List.forall₂_map_right_iff, List.forall₂_same]
  exact fun z hz => hzs z (List.mem_mergeSort.1 hz)

end Rowgate
