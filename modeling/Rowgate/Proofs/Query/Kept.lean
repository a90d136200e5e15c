/-
  A condition depends on nothing but the items that are not skipped, in their order.

  * `QueryGroup.kept`, `Condition.kept`: groups without what is skipped;
  * `Rearranged`: groups, and the items of each, in another order, ties as given;
  * `GroupText`, `ConditionText`: the texts of groups and conditions, read off the data;
  * `predicate_eq_ok`: a condition compiles to the text of what is kept;
  * `predicate_structure`: all that a condition's text depends on.
-/
import Mathlib.Data.List.Forall2
import Mathlib.Logic.Relation
import Rowgate.Proofs.Ascending
import Rowgate.Proofs.Query.Item
import Rowgate.Proofs.Query.Survivors

namespace Rowgate

/-! ## What is kept -/

namespace QueryGroup

/-- A group without the items that are skipped. -/
def kept (g : QueryGroup) : QueryGroup :=
  { g with items := g.items.filter (¬ ·.Skippable) }

/-- A group whose items are all skipped, or without any. -/
def Skippable (g : QueryGroup) : Prop :=
  ∀ i ∈ g.items, i.Skippable

instance : DecidablePred Skippable := fun g =>
  inferInstanceAs (Decidable (∀ i ∈ g.items, i.Skippable))

theorem items_kept_eq_nil {g : QueryGroup} : g.kept.items = [] ↔ g.Skippable := by
  unfold kept Skippable
  rw [List.filter_eq_nil_iff]
  simp

/-- The same group with its items in another order, those of one number in the same. -/
structure Rearranged (g g' : QueryGroup) : Prop where
  name : g'.name = g.name
  items : Reordered QueryItem.order g.items g'.items
  order : g'.order = g.order
  link : g'.link = g.link

end QueryGroup

namespace Condition

/-- The groups without the items that are skipped, and without the groups that leaves empty. -/
def kept (groups : List QueryGroup) : List QueryGroup :=
  (groups.map QueryGroup.kept).filter fun g => ¬ g.items = []

/-- Groups in another order, and the items of each; ties as given. -/
def Rearranged (groups groups' : List QueryGroup) : Prop :=
  ∃ inner, List.Forall₂ QueryGroup.Rearranged groups inner ∧
    Reordered QueryGroup.order inner groups'

/-- The text of a group: its items in ascending order, linked, in one pair of brackets. -/
def GroupText (g : QueryGroup) (text : String) : Prop :=
  ∃ items body, Ascending QueryItem.order g.items items ∧
    Linked (fun i s => item i = .ok (some s)) QueryItem.link items body ∧
    text = "(" ++ body ++ ")"

/-- The text of a condition: its groups in ascending order, linked. -/
def ConditionText (groups : List QueryGroup) (text : String) : Prop :=
  ∃ ordered, Ascending QueryGroup.order groups ordered ∧
    Linked GroupText QueryGroup.link ordered text

variable {g : QueryGroup} {groups groups' : List QueryGroup} {text : String} {e : Error}

/-! ## Groups -/

theorem ascending_orderedItems (g : QueryGroup) :
    Ascending QueryItem.order g.items (orderedItems g) :=
  ascending_mergeSort QueryItem.order g.items

theorem ascending_orderedGroups (groups : List QueryGroup) :
    Ascending QueryGroup.order groups (orderedGroups groups) :=
  ascending_mergeSort QueryGroup.order groups

theorem group_eq_none : group g = .ok none ↔ g.Skippable := by
  have hskip : g.Skippable ↔ ∀ i ∈ orderedItems g, i.Skippable := by
    simp only [QueryGroup.Skippable, (ascending_orderedItems g).perm.mem_iff]
  have hnil : survivors item QueryItem.link (orderedItems g) = .ok [] ↔
      ∀ i ∈ orderedItems g, i.Skippable := survivors_eq_nil fun _ => item_eq_none
  rw [hskip, ← hnil]
  unfold group
  cases survivors item QueryItem.link (orderedItems g) with
  | error _ => simp [bind, Except.bind]
  | ok parts => cases parts <;> simp [bind, Except.bind, pure, Except.pure]

/-- A group compiles to the text of what is kept of it. -/
theorem group_eq_some : group g = .ok (some text) ↔ GroupText g.kept text := by
  have hgroup : group g = .ok (some text) ↔ ∃ body, (∃ parts,
      survivors item QueryItem.link (orderedItems g) = .ok parts ∧ parts ≠ [] ∧
        joinLinked parts = body) ∧ text = "(" ++ body ++ ")" := by
    unfold group
    cases survivors item QueryItem.link (orderedItems g) with
    | error _ => simp [bind, Except.bind]
    | ok parts => cases parts <;> simp [bind, Except.bind, pure, Except.pure, eq_comm]
  have hkept : Ascending QueryItem.order g.kept.items
      ((orderedItems g).filter (¬ ·.Skippable)) := (ascending_orderedItems g).filter _
  simp only [hgroup, survivors_linked fun _ => item_eq_none]
  constructor
  · rintro ⟨body, hbody, rfl⟩
    exact ⟨_, body, hkept, hbody, rfl⟩
  · rintro ⟨items, body, hitems, hbody, rfl⟩
    cases hitems.unique hkept
    exact ⟨body, hbody, rfl⟩

/-! ## Conditions -/

theorem kept_eq (groups : List QueryGroup) :
    kept groups = (groups.filter (¬ ·.Skippable)).map QueryGroup.kept := by
  have hskip : (fun g : QueryGroup => decide (¬ g.items = [])) ∘ QueryGroup.kept =
      fun g => decide (¬ g.Skippable) :=
    funext fun g => by simp [QueryGroup.items_kept_eq_nil]
  rw [kept, List.filter_map, hskip]

/-- A condition compiles to the text of what is kept of it. -/
theorem predicate_eq_ok : predicate groups = .ok text ↔ ConditionText (kept groups) text := by
  have hpredicate : predicate groups = .ok text ↔ ∃ parts,
      survivors group QueryGroup.link (orderedGroups groups) = .ok parts ∧ parts ≠ [] ∧
        joinLinked parts = text := by
    unfold predicate
    cases groups with
    | nil => simp [orderedGroups, survivors]
    | cons g groups =>
      rw [List.isEmpty_cons, if_neg Bool.false_ne_true]
      cases survivors group QueryGroup.link (orderedGroups (g :: groups)) with
      | error _ => simp [bind, Except.bind]
      | ok parts => cases parts <;>
          simp [bind, Except.bind, pure, Except.pure, throw, throwThe, MonadExceptOf.throw]
  have hkept : Ascending QueryGroup.order (kept groups)
      (((orderedGroups groups).filter (¬ ·.Skippable)).map QueryGroup.kept) := by
    rw [kept_eq]
    exact ((ascending_orderedGroups groups).filter _).map fun _ => rfl
  rw [hpredicate, survivors_linked fun _ => group_eq_none]
  constructor
  · intro h
    refine ⟨_, hkept, Linked.map ?_⟩
    exact h.imp fun g _ s hs => group_eq_some.1 hs
  · rintro ⟨ordered, hordered, h⟩
    cases hordered.unique hkept
    exact h.of_map.imp fun g _ s hs => group_eq_some.2 hs

/-- A condition of which everything is skipped. -/
theorem predicate_of_skippable (hne : groups ≠ []) (h : ∀ g ∈ groups, g.Skippable) :
    predicate groups = .error .noValidCondition := by
  have hall : ∀ g ∈ orderedGroups groups, g.Skippable := fun g hg =>
    h g ((ascending_orderedGroups groups).perm.mem_iff.2 hg)
  unfold predicate
  rw [if_neg (by simpa using hne), (survivors_eq_nil fun _ => group_eq_none).2 hall]
  rfl

/-! ## Order -/

/-- A group with its items in ascending order. -/
def settled (g : QueryGroup) : QueryGroup :=
  { g with items := orderedItems g }

theorem orderedItems_settled (g : QueryGroup) : orderedItems (settled g) = orderedItems g := by
  have hg := ascending_orderedItems g
  exact (ascending_orderedItems (settled g)).unique ⟨hg.symm.trans hg.toReordered, hg.ascending⟩

theorem group_settled (g : QueryGroup) : group (settled g) = group g := by
  unfold group
  rw [orderedItems_settled]

theorem settled_eq {g g' : QueryGroup} (h : g.Rearranged g') : settled g = settled g' := by
  have hitems : orderedItems g = orderedItems g' := h.items.mergeSort_eq
  unfold settled
  rw [hitems, ← h.name, ← h.order, ← h.link]

theorem map_settled_eq (h : List.Forall₂ QueryGroup.Rearranged groups groups') :
    groups.map settled = groups'.map settled := by
  induction h with
  | nil => rfl
  | cons hg _ ih => rw [List.map_cons, List.map_cons, settled_eq hg, ih]

theorem predicate_settled (groups : List QueryGroup) :
    predicate (groups.map settled) = predicate groups := by
  have hordered : orderedGroups (groups.map settled) = (orderedGroups groups).map settled :=
    (ascending_orderedGroups _).unique ((ascending_orderedGroups groups).map fun _ => rfl)
  have hsame : survivors group QueryGroup.link ((orderedGroups groups).map settled) =
      survivors group QueryGroup.link (orderedGroups groups) := by
    refine survivors_congr (List.forall₂_map_left_iff.2 (List.forall₂_same.2 fun g _ => ?_))
    exact ⟨group_settled g, rfl⟩
  unfold predicate
  rw [hordered, hsame, List.isEmpty_map]

/-- Another order that keeps ties makes no difference, to a text or to an error. -/
theorem predicate_rearranged (h : Rearranged groups groups') :
    predicate groups' = predicate groups := by
  obtain ⟨inner, hinner, hgroups⟩ := h
  rw [← predicate_settled groups, map_settled_eq hinner, predicate_settled]
  have hordered : orderedGroups inner = orderedGroups groups' := hgroups.mergeSort_eq
  unfold predicate
  rw [hordered, hgroups.perm.isEmpty_eq]

/-! ## What is skipped -/

/-- An item or a group that is skipped is put in. -/
inductive Inserted : List QueryGroup → List QueryGroup → Prop
  | item {before after : List QueryGroup} {g : QueryGroup} {first rest : List QueryItem}
      {i : QueryItem} (hg : g.items = first ++ rest) (hi : i.Skippable) :
      Inserted (before ++ g :: after)
        (before ++ { g with items := first ++ i :: rest } :: after)
  | group {before after : List QueryGroup} {g : QueryGroup} (hg : g.Skippable) :
      Inserted (before ++ after) (before ++ g :: after)

theorem Inserted.kept_eq (h : Inserted groups groups') : kept groups = kept groups' := by
  cases h with
  | item hg hi => simp [kept, QueryGroup.kept, hg, hi]
  | group hg => simp [kept, QueryGroup.items_kept_eq_nil, hg]

theorem kept_eq_of_inserted (h : Relation.EqvGen Inserted groups groups') :
    kept groups = kept groups' := by
  induction h with
  | rel _ _ h => exact h.kept_eq
  | refl _ => rfl
  | symm _ _ _ ih => exact ih.symm
  | trans _ _ _ _ _ ih ih' => exact ih.trans ih'

/-- **What a condition depends on.** -/
theorem predicate_structure (groups : List QueryGroup) :
    (∀ groups', Rearranged groups groups' → predicate groups' = predicate groups) ∧
      (∀ groups', Relation.EqvGen Inserted groups groups' →
        ∀ text, predicate groups' = .ok text ↔ predicate groups = .ok text) ∧
      (∀ text, predicate groups = .ok text ↔ ConditionText (kept groups) text) ∧
      (groups ≠ [] → (∀ g ∈ groups, ∀ i ∈ g.items, i.Skippable) →
        predicate groups = .error .noValidCondition) := by
  refine ⟨fun _ => predicate_rearranged, fun groups' h text => ?_, fun _ => predicate_eq_ok,
    predicate_of_skippable⟩
  rw [predicate_eq_ok, predicate_eq_ok, kept_eq_of_inserted h]

/-- The item that compares a field with a number. -/
def numberItem (field name : String) (n : Int64) (order : Int) (link : String) : QueryItem :=
  ⟨.ofList [(field, .ofList [(name, .integer n)])], order, link⟩

def lateGroup : QueryGroup :=
  ⟨"late", [numberItem "b" "gt" 2 1 "and", numberItem "a" "eq" 1 0 " Or "], 2, ""⟩

def earlyGroup : QueryGroup :=
  ⟨"early", [numberItem "c" "lt" 3 0 "or"], 1, "OR"⟩

theorem group_earlyGroup : group earlyGroup = .ok (some "(c<3)") := by
  have hitems : orderedItems earlyGroup = earlyGroup.items := List.mergeSort_singleton _
  unfold group
  rw [hitems]
  rfl

theorem group_lateGroup : group lateGroup = .ok (some "(a=1 OR b>2)") := by
  have hitems : orderedItems lateGroup =
      [numberItem "a" "eq" 1 0 " Or ", numberItem "b" "gt" 2 1 "and"] :=
    (Ascending.pair (by decide)).eq_mergeSort.symm
  unfold group
  rw [hitems]
  rfl

/-- Two groups in any order, and with a group of a blank item. -/
theorem predicate_structure_pair :
    predicate [earlyGroup, lateGroup] = predicate [lateGroup, earlyGroup] ∧
      predicate [lateGroup, ⟨"", [numberItem " " "eq" 1 0 ""], 0, "or"⟩, earlyGroup] =
        .ok "(c<3) OR (a=1 OR b>2)" ∧
      ConditionText (kept [lateGroup, earlyGroup]) "(c<3) OR (a=1 OR b>2)" ∧
      predicate [⟨"", [numberItem "a" " " 1 0 ""], 0, ""⟩] = .error .noValidCondition := by
  have htext : predicate [lateGroup, earlyGroup] = .ok "(c<3) OR (a=1 OR b>2)" := by
    have hgroups : orderedGroups [lateGroup, earlyGroup] = [earlyGroup, lateGroup] :=
      (Ascending.pair (by decide)).eq_mergeSort.symm
    unfold predicate
    rw [hgroups]
    simp only [survivors, group_earlyGroup, group_lateGroup]
    rfl
  have hrefl (g : QueryGroup) : g.Rearranged g := ⟨rfl, ⟨.refl _, fun _ => rfl⟩, rfl, rfl⟩
  have hswap : Reordered QueryGroup.order [lateGroup, earlyGroup] [earlyGroup, lateGroup] :=
    .pair (by decide)
  obtain ⟨hsame, hskip, hiff, -⟩ := predicate_structure [lateGroup, earlyGroup]
  obtain ⟨-, -, -, hnone⟩ := predicate_structure [⟨"", [numberItem "a" " " 1 0 ""], 0, ""⟩]
  have hinserted : Inserted ([lateGroup] ++ [earlyGroup])
      ([lateGroup] ++ ⟨"", [numberItem " " "eq" 1 0 ""], 0, "or"⟩ :: [earlyGroup]) :=
    .group (by decide)
  exact ⟨hsame _ ⟨[lateGroup, earlyGroup], .cons (hrefl _) (.cons (hrefl _) .nil), hswap⟩,
    (hskip _ (.rel _ _ hinserted) _).2 htext, (hiff _).1 htext, hnone (by decide) (by decide)⟩

end Condition

end Rowgate
