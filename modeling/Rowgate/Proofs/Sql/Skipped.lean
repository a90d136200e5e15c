/-
  The items of a condition that are skipped, and those that are not.

  * `QueryItem.Skippable`: no field, no operator, a blank name of one, or no value;
  * `clause?_eq_some`: an item with a clause is not skippable;
  * `predicate_compares`: in a condition that compiles there is an item that is not skipped,
    and its comparison is a part of the tokens of the condition.
-/
import Rowgate.Proofs.Sql.Condition

namespace Rowgate

/-- An item without a field, an operator or a value; blank names count as none. -/
def QueryItem.Skippable (i : QueryItem) : Prop :=
  match i.condition.entries with
  | [] => True
  | [(field, operators)] =>
    match operators.entries with
    | [] => True
    | [(name, v)] => Text.allBlank field ∨ Text.allBlank name ∨ v = .null
    | _ => False
  | _ => False

namespace Sql

theorem clause?_eq_some {i : QueryItem} {c : String × String × Value} (h : clause? i = some c) :
    ¬ i.Skippable := by
  unfold clause? at h
  unfold QueryItem.Skippable
  split at h
  · rename_i field operators he
    rw [he]
    dsimp only
    split at h
    · rename_i name v he
      rw [he]
      dsimp only
      split_ifs at h with hskip
      simp only [Bool.or_eq_true, not_or] at hskip
      obtain ⟨⟨hfield, hname⟩, hv⟩ := hskip
      rintro (h | h | rfl)
      · exact hfield h
      · exact hname h
      · exact hv rfl
    · cases h
  · cases h

/-- The tokens of an item that is not skipped: a comparison of its field with its value. -/
def Compares (i : QueryItem) (ts : List Token) : Prop :=
  ∃ field name v op, clause? i = some (field, name, v) ∧ Operator.parse name = .ok op ∧
    op.accepts v ∧ ts = comparisonTokens (nameTokens field) op v

theorem comparison_accepts {column field text : String} {op : Operator} {v : Value}
    (h : Condition.comparison column field op v = .ok text) : op.accepts v := by
  unfold Condition.comparison at h
  by_contra ha
  rw [if_pos (by simpa using ha)] at h
  cases h

theorem item_compares {i : QueryItem} {text : String} (h : Condition.item i = .ok (some text)) :
    ∃ ts, itemTokens? i = some ts ∧ Compares i ts := by
  unfold Condition.item at h
  unfold itemTokens? Compares clause?
  split at h
  · cases h
  · rename_i field operators he
    rw [he]
    dsimp only
    split at h
    · cases h
    · rename_i name v he
      rw [he]
      dsimp only
      split_ifs at h ⊢ with hskip
      · cases h
      · obtain ⟨op, hop, h⟩ := Except.bind_eq_ok.1 h
        obtain ⟨column, -, h⟩ := Except.bind_eq_ok.1 h
        obtain ⟨text', htext, -⟩ := Except.bind_eq_ok.1 h
        rw [Option.map_some, hop]
        exact ⟨_, rfl, field, name, v, op, rfl, hop, comparison_accepts htext, rfl⟩
    · cases h
  · cases h

/-! ## Parts of what is linked -/

theorem infix_linked {ts : List Token} {link : Link} {parts : List (List Token × Link)}
    (h : (ts, link) ∈ parts) : ts <:+: linked parts := by
  induction parts with
  | nil => cases h
  | cons part parts ih =>
    obtain ⟨us, link'⟩ := part
    cases parts with
    | nil =>
      cases List.mem_singleton.1 h
      exact List.infix_refl ts
    | cons next parts =>
      rcases List.mem_cons.1 h with h | h
      · cases h
        exact (List.prefix_append ts _).isInfix
      · exact (ih h).trans ((List.suffix_cons _ _).trans (List.suffix_append us _)).isInfix

theorem infix_linkedParts {α : Type} {tokens : α → Option (List Token)} {link : α → String}
    {xs : List α} {x : α} (hx : x ∈ xs) {ts : List Token} (h : tokens x = some ts) :
    ts <:+: linked (linkedParts tokens link xs) := by
  have hmem : (ts, Link.parse (link x)) ∈ linkedParts tokens link xs :=
    List.mem_filterMap.2 ⟨x, hx, by rw [h]; rfl⟩
  exact infix_linked hmem

theorem infix_bracketed (ts : List Token) : ts <:+: bracketed ts :=
  ⟨[.mark '('], [.mark ')'], rfl⟩

/-! ## Something is not skipped -/

theorem survivors_exists {α : Type} {text : α → Except Error (Option String)} {link : α → String}
    {xs : List α} {parts : List (String × Link)}
    (h : Condition.survivors text link xs = .ok parts) (hne : parts ≠ []) :
    ∃ x ∈ xs, ∃ s, text x = .ok (some s) := by
  induction xs with
  | nil =>
    cases h
    exact absurd rfl hne
  | cons x xs ih =>
    unfold Condition.survivors at h
    obtain ⟨o, ho, h⟩ := Except.bind_eq_ok.1 h
    cases o with
    | some s => exact ⟨x, List.mem_cons_self, s, ho⟩
    | none =>
      obtain ⟨y, hy, hs⟩ := ih h
      exact ⟨y, List.mem_cons_of_mem _ hy, hs⟩

/-- A group that is not skipped has an item that is not, with its comparison in brackets. -/
theorem group_compares {g : QueryGroup} {text : String}
    (h : Condition.group g = .ok (some text)) :
    ∃ i ∈ g.items, ∃ ts gts, Compares i ts ∧ groupTokens? g = some gts ∧ ts <:+: gts := by
  have hpiece := piece_group h
  unfold Condition.group at h
  obtain ⟨parts, hparts, h⟩ := Except.bind_eq_ok.1 h
  have hne : parts ≠ [] := by
    rintro rfl
    cases h
  obtain ⟨i, hi, s, hs⟩ := survivors_exists hparts hne
  obtain ⟨ts, hts, hcompares⟩ := item_compares hs
  refine ⟨i, List.mem_mergeSort.1 hi, ts, ?_⟩
  have hinfix : ts <:+: linked (linkedParts itemTokens? QueryItem.link
      (Condition.orderedItems g)) := infix_linkedParts hi hts
  unfold groupTokens? at hpiece ⊢
  generalize linkedParts itemTokens? QueryItem.link (Condition.orderedItems g) = shapes
    at hpiece hinfix ⊢
  cases shapes with
  | nil => cases hpiece
  | cons shape shapes => exact ⟨_, hcompares, rfl, hinfix.trans (infix_bracketed _)⟩

/-- Not all of a condition that compiles is skipped. -/
theorem predicate_compares {groups : List QueryGroup} {text : String}
    (h : Condition.predicate groups = .ok text) :
    ∃ g ∈ groups, ∃ i ∈ g.items, ∃ ts, Compares i ts ∧ ts <:+: conditionTokens groups := by
  unfold Condition.predicate at h
  split_ifs at h
  obtain ⟨parts, hparts, h⟩ := Except.bind_eq_ok.1 h
  have hne : parts ≠ [] := by
    rintro rfl
    cases h
  obtain ⟨g, hg, s, hs⟩ := survivors_exists hparts hne
  obtain ⟨i, hi, ts, gts, hcompares, hgts, hinfix⟩ := group_compares hs
  exact ⟨g, List.mem_mergeSort.1 hg, i, hi, ts, hcompares,
    hinfix.trans (infix_linkedParts hg hgts)⟩

end Sql

end Rowgate
