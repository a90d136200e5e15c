/-
  Which conditions compile, and with which failure the others do not.

  * `GroupFault`, `ConditionFault`: the first fault in the order of the items and of the groups;
  * `predicate_eq_error`: the failures of a condition;
  * `predicate_outcome`: when a condition compiles and what it fails with.
-/
import Rowgate.Proofs.Query.Kept

namespace Rowgate

/-! ## Failures of compilation -/

theorem ComparisonFault.isCompile {field : String} {op : Operator} {v : Value} {e : Error}
    (h : ComparisonFault field op v e) : e.isCompile := by
  cases h <;> rfl

theorem ClauseFault.isCompile {field name : String} {v : Value} {e : Error}
    (h : ClauseFault field name v e) : e.isCompile := by
  cases h with
  | operator => rfl
  | field => rfl
  | value _ _ hv => exact hv.isCompile

theorem QueryItem.Fault.isCompile {i : QueryItem} {e : Error} (h : i.Fault e) : e.isCompile := by
  cases h with
  | fields => rfl
  | operators => rfl
  | clause _ _ _ hclause => exact hclause.isCompile

theorem Error.responseCode_of_isCompile {e : Error} (h : e.isCompile) (fallback : ResponseCode) :
    e.responseCode fallback = .paramsError := by
  cases e <;> first | rfl | cases h

namespace Condition

/-- The fault of a group is that of its first faulty item. -/
def GroupFault (g : QueryGroup) (e : Error) : Prop :=
  ∃ items, Ascending QueryItem.order g.items items ∧ FirstFault QueryItem.Fault items e

/-- The fault of a condition is that of its first group with a faulty item. -/
def ConditionFault (groups : List QueryGroup) (e : Error) : Prop :=
  ∃ ordered, Ascending QueryGroup.order groups ordered ∧ FirstFault GroupFault ordered e

variable {g : QueryGroup} {groups : List QueryGroup} {e : Error}

theorem group_eq_error : group g = .error e ↔ GroupFault g e := by
  have hgroup : group g = .error e ↔
      survivors item QueryItem.link (orderedItems g) = .error e := by
    unfold group
    cases survivors item QueryItem.link (orderedItems g) with
    | error _ => simp [bind, Except.bind]
    | ok parts => cases parts <;> simp [bind, Except.bind, pure, Except.pure]
  rw [hgroup, survivors_eq_error, FirstFault.congr fun _ _ _ => item_eq_error]
  constructor
  · exact fun h => ⟨_, ascending_orderedItems g, h⟩
  · rintro ⟨items, hitems, h⟩
    cases hitems.unique (ascending_orderedItems g)
    exact h

theorem survivors_groups_eq_error :
    survivors group QueryGroup.link (orderedGroups groups) = .error e ↔
      ConditionFault groups e := by
  rw [survivors_eq_error, FirstFault.congr fun _ _ _ => group_eq_error]
  constructor
  · exact fun h => ⟨_, ascending_orderedGroups groups, h⟩
  · rintro ⟨ordered, hordered, h⟩
    cases hordered.unique (ascending_orderedGroups groups)
    exact h

/-- There is a fault when an item has one. -/
theorem conditionFault_exists :
    (∃ e, ConditionFault groups e) ↔ ∃ g ∈ groups, ∃ i ∈ g.items, ∃ e, i.Fault e := by
  have hgroup (g : QueryGroup) : (∃ e, GroupFault g e) ↔ ∃ i ∈ g.items, ∃ e, i.Fault e := by
    constructor
    · rintro ⟨e, items, hitems, h⟩
      obtain ⟨i, hi, hfault⟩ := FirstFault.exists_iff.1 ⟨e, h⟩
      exact ⟨i, hitems.perm.mem_iff.2 hi, hfault⟩
    · rintro ⟨i, hi, hfault⟩
      have hordered := ascending_orderedItems g
      obtain ⟨e, h⟩ := FirstFault.exists_iff.2 ⟨i, hordered.perm.mem_iff.1 hi, hfault⟩
      exact ⟨e, _, hordered, h⟩
  simp only [← hgroup]
  constructor
  · rintro ⟨e, ordered, hordered, h⟩
    obtain ⟨g, hg, hfault⟩ := FirstFault.exists_iff.1 ⟨e, h⟩
    exact ⟨g, hordered.perm.mem_iff.2 hg, hfault⟩
  · rintro ⟨g, hg, hfault⟩
    have hordered := ascending_orderedGroups groups
    obtain ⟨e, h⟩ := FirstFault.exists_iff.2 ⟨g, hordered.perm.mem_iff.1 hg, hfault⟩
    exact ⟨e, _, hordered, h⟩

theorem ConditionFault.isCompile (h : ConditionFault groups e) : e.isCompile := by
  obtain ⟨ordered, -, h⟩ := h
  obtain ⟨g, -, items, -, h⟩ := h.exists_fault
  obtain ⟨i, -, h⟩ := h.exists_fault
  exact h.isCompile

/-- A condition fails for want of a group, with its first fault, or for want of an item. -/
theorem predicate_eq_error : predicate groups = .error e ↔
    groups = [] ∧ e = .emptyCondition ∨ ConditionFault groups e ∨
      groups ≠ [] ∧ (∀ g ∈ groups, g.Skippable) ∧ e = .noValidCondition := by
  by_cases hnil : groups = []
  · subst hnil
    have hfault : ¬ ConditionFault [] e := by
      rintro ⟨ordered, hordered, h⟩
      rw [List.nil_perm.1 hordered.perm] at h
      exact h.not_nil
    simp [predicate, hfault, eq_comm]
  rw [← survivors_groups_eq_error]
  have hskip : (∀ g ∈ groups, g.Skippable) ↔
      survivors group QueryGroup.link (orderedGroups groups) = .ok [] := by
    rw [survivors_eq_nil fun _ => group_eq_none]
    simp only [(ascending_orderedGroups groups).perm.mem_iff]
  rw [hskip]
  unfold predicate
  rw [if_neg (by simpa using hnil)]
  cases survivors group QueryGroup.link (orderedGroups groups) with
  | error _ => simp [hnil, bind, Except.bind]
  | ok parts => cases parts <;>
      simp [hnil, bind, Except.bind, pure, Except.pure, throw, throwThe, MonadExceptOf.throw,
        eq_comm]

/-- A condition compiles with an item that is not skipped, all of those well-formed. -/
theorem predicate_succeeds : (∃ text, predicate groups = .ok text) ↔
    groups ≠ [] ∧ (∃ g ∈ groups, ∃ i ∈ g.items, ¬ i.Skippable) ∧
      ∀ g ∈ groups, ∀ i ∈ g.items, i.Skippable ∨ i.WellFormed := by
  constructor
  · rintro ⟨text, h⟩
    have hno : ∀ e, predicate groups ≠ .error e := fun e he => by
      rw [h] at he
      cases he
    have hne : groups ≠ [] := fun hnil => hno _ (predicate_eq_error.2 (.inl ⟨hnil, rfl⟩))
    refine ⟨hne, ?_, fun g hg i hi => not_fault_iff.1 fun hfault => ?_⟩
    · by_contra hall
      have hskip : ∀ g ∈ groups, g.Skippable := by simpa [QueryGroup.Skippable] using hall
      exact hno _ (predicate_eq_error.2 (.inr (.inr ⟨hne, hskip, rfl⟩)))
    · obtain ⟨e, he⟩ := conditionFault_exists.2 ⟨g, hg, i, hi, hfault⟩
      exact hno _ (predicate_eq_error.2 (.inr (.inl he)))
  · rintro ⟨hne, ⟨g, hg, i, hi, hkept⟩, hall⟩
    cases h : predicate groups with
    | ok text => exact ⟨text, rfl⟩
    | error e =>
      rcases predicate_eq_error.1 h with ⟨hnil, -⟩ | hfault | ⟨-, hskip, -⟩
      · exact absurd hnil hne
      · obtain ⟨g, hg, i, hi, hfault⟩ := conditionFault_exists.1 ⟨e, hfault⟩
        exact absurd hfault (not_fault_iff.2 (hall g hg i hi))
      · exact absurd (hskip g hg i hi) hkept

/-- **When a condition compiles, and what it fails with.** -/
theorem predicate_outcome (groups : List QueryGroup) :
    ((∃ text, predicate groups = .ok text) ↔
      groups ≠ [] ∧ (∃ g ∈ groups, ∃ i ∈ g.items, ¬ i.Skippable) ∧
        ∀ g ∈ groups, ∀ i ∈ g.items, i.Skippable ∨ i.WellFormed) ∧
      (∀ e, predicate groups = .error e ↔
        groups = [] ∧ e = .emptyCondition ∨ ConditionFault groups e ∨
          groups ≠ [] ∧ (∀ g ∈ groups, g.Skippable) ∧ e = .noValidCondition) ∧
      (∀ e, predicate groups = .error e →
        e.isCompile ∧ ∀ fallback, e.responseCode fallback = .paramsError) ∧
      ∀ op v, Operator.accepts op v → op.symbol? = none →
        (∀ s, v = .string s → pattern? s op ≠ none) ∧
          ((∀ s, v ≠ .string s) → ∀ field, Sql.list field op.name v ≠ .ok none) := by
  refine ⟨predicate_succeeds, fun _ => predicate_eq_error, fun e h => ?_, fun op v ha hs => ?_⟩
  · have hcompile : e.isCompile := by
      rcases predicate_eq_error.1 h with ⟨-, rfl⟩ | hfault | ⟨-, -, rfl⟩
      · rfl
      · exact hfault.isCompile
      · rfl
    exact ⟨hcompile, Error.responseCode_of_isCompile hcompile⟩
  · rcases Operator.accepts_of_symbol_none hs ha with ⟨s, keyword, pattern, rfl, hp⟩ | hv
    · refine ⟨fun t ht => ?_, fun hne => absurd rfl (hne s)⟩
      cases ht
      simp [hp]
    · refine ⟨?_, fun _ field hl => ?_⟩
      · rintro s rfl
        simp at hv
      · obtain ⟨text, ht⟩ := Sql.list_eq_some hv hl
        cases ht

/-- An item whose field is no identifier, behind one with two fields. -/
def faultyGroup : QueryGroup :=
  ⟨"", [numberItem "1a" "eq" 1 1 "", ⟨.ofList [("b", .empty), ("c", .empty)], 0, ""⟩], 1, ""⟩

/-- A condition with an item that is skipped, and one with two that are faulty. -/
theorem predicate_outcome_pair :
    (∃ text, predicate [⟨"", [numberItem " " "?" 1 0 "", numberItem "a" "eq" 1 0 ""], 0, ""⟩] =
      .ok text) ∧
      predicate [lateGroup, faultyGroup] =
        .error (.invalidItem "expected exactly one field per group item, found 2") ∧
      (Error.invalidItem "expected exactly one field per group item, found 2").responseCode
        .readError = .paramsError := by
  have hfault : predicate [lateGroup, faultyGroup] =
      .error (.invalidItem "expected exactly one field per group item, found 2") := by
    have hgroups : orderedGroups [lateGroup, faultyGroup] = [faultyGroup, lateGroup] :=
      (Ascending.pair (by decide)).eq_mergeSort.symm
    have hitems : orderedItems faultyGroup = faultyGroup.items.reverse :=
      (Ascending.pair (by decide)).eq_mergeSort.symm
    unfold predicate
    rw [hgroups]
    simp only [survivors, group, hitems]
    rfl
  obtain ⟨-, -, hcode, -⟩ := predicate_outcome [lateGroup, faultyGroup]
  obtain ⟨hok, -⟩ := predicate_outcome
    [⟨"", [numberItem " " "?" 1 0 "", numberItem "a" "eq" 1 0 ""], 0, ""⟩]
  refine ⟨hok.2 ⟨List.cons_ne_nil _ _, ⟨_, List.mem_singleton_self _, numberItem "a" "eq" 1 0 "",
    by decide, by decide⟩, fun g hg i hi => ?_⟩, hfault, (hcode _ hfault).2 _⟩
  rw [List.mem_singleton.1 hg] at hi
  rcases List.mem_cons.1 hi with rfl | hi
  · exact .inl (by decide)
  · rw [List.mem_singleton.1 hi]
    have hop : Operator.parse "eq" = .ok .eq := by decide
    refine .inr ⟨"a", _, "eq", .integer 1, rfl, rfl, by decide, .eq, hop, ⟨⟨[.unquoted "a"]⟩, by rfl⟩,
      ⟨by decide, by simp [Value.doubles], by simp [Value.IsEmptyList]⟩⟩

end Condition

end Rowgate
