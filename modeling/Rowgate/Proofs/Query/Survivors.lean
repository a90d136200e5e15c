/-
  What survives of a list of texts, and how it is linked.

  * `Linked`: the texts of a list with a keyword between neighbours, that of the earlier one;
  * `FirstFault`: the failure of the first element that fails;
  * `survivors_linked`: the linked survivors are the elements that are not skipped, linked;
  * `survivors_eq_error`: taking the survivors fails as the first element that fails.
-/
import Rowgate.Proofs.Result
import Rowgate.Query.Condition

namespace Rowgate

variable {α β ε : Type}

/-! ## Links -/

/-- The keyword of a link: OR for the word "or" in any case, trimmed; AND for all else. -/
def linkKeyword (link : String) : String :=
  if Text.lower (Text.trim link.toList) = ['o', 'r'] then "OR" else "AND"

theorem Link.sql_parse (s : String) : (Link.parse s).sql = linkKeyword s := by
  have hor : Text.lower "or".toList = ['o', 'r'] := by decide
  unfold Link.parse linkKeyword Text.sameWord
  rw [hor]
  simp only [decide_eq_true_eq]
  split_ifs
  · rfl
  · rfl

/-- The texts of the elements; between neighbours stands the keyword of the earlier one. -/
inductive Linked (text : α → String → Prop) (link : α → String) : List α → String → Prop
  | last {x : α} {s : String} (hx : text x s) : Linked text link [x] s
  | next {x y : α} {xs : List α} {s t : String} (hx : text x s)
      (hxs : Linked text link (y :: xs) t) :
      Linked text link (x :: y :: xs) (s ++ " " ++ linkKeyword (link x) ++ " " ++ t)

namespace Linked

variable {text text' : α → String → Prop} {link : α → String} {xs : List α} {s : String}

theorem imp (h : Linked text link xs s) (himp : ∀ x ∈ xs, ∀ s, text x s → text' x s) :
    Linked text' link xs s := by
  induction h with
  | last hx => exact .last (himp _ List.mem_cons_self _ hx)
  | next hx _ ih =>
    exact .next (himp _ List.mem_cons_self _ hx)
      (ih fun y hy => himp y (List.mem_cons_of_mem _ hy))

theorem map {text : β → String → Prop} {link : β → String} {f : α → β}
    (h : Linked (fun x => text (f x)) (fun x => link (f x)) xs s) :
    Linked text link (xs.map f) s := by
  induction h with
  | last hx => exact .last hx
  | next hx _ ih => exact .next hx ih

theorem of_map {text : β → String → Prop} {link : β → String} {f : α → β}
    (h : Linked text link (xs.map f) s) :
    Linked (fun x => text (f x)) (fun x => link (f x)) xs s := by
  induction xs generalizing s with
  | nil => cases h
  | cons x xs ih =>
    cases xs with
    | nil =>
      cases h with
      | last hx => exact .last hx
    | cons y ys =>
      cases h with
      | next hx hxs => exact .next hx (ih hxs)

end Linked

/-! ## The first fault -/

/-- `e` is the fault of the first element that has one. -/
def FirstFault (fault : α → ε → Prop) (xs : List α) (e : ε) : Prop :=
  ∃ before x after, xs = before ++ x :: after ∧ (∀ y ∈ before, ∀ e', ¬ fault y e') ∧ fault x e

namespace FirstFault

variable {fault fault' : α → ε → Prop} {x : α} {xs : List α} {e : ε}

theorem not_nil : ¬ FirstFault fault [] e := by
  rintro ⟨before, x, after, he, -⟩
  exact absurd he.symm (List.append_ne_nil_of_right_ne_nil _ (List.cons_ne_nil _ _))

theorem cons_iff : FirstFault fault (x :: xs) e ↔
    fault x e ∨ (∀ e', ¬ fault x e') ∧ FirstFault fault xs e := by
  constructor
  · rintro ⟨before, y, after, he, hbefore, hy⟩
    cases before with
    | nil =>
      obtain ⟨rfl, -⟩ := List.cons.inj he
      exact .inl hy
    | cons z before =>
      obtain ⟨rfl, rfl⟩ := List.cons.inj he
      exact .inr ⟨hbefore x List.mem_cons_self, before, y, after, rfl,
        fun z hz => hbefore z (List.mem_cons_of_mem _ hz), hy⟩
  · rintro (hx | ⟨hx, before, y, after, rfl, hbefore, hy⟩)
    · exact ⟨[], x, xs, rfl, by simp, hx⟩
    · refine ⟨x :: before, y, after, rfl, fun z hz => ?_, hy⟩
      rcases List.mem_cons.1 hz with rfl | hz
      · exact hx
      · exact hbefore z hz

theorem congr (h : ∀ x ∈ xs, ∀ e, fault x e ↔ fault' x e) :
    FirstFault fault xs e ↔ FirstFault fault' xs e := by
  induction xs with
  | nil => exact ⟨fun h => absurd h not_nil, fun h => absurd h not_nil⟩
  | cons x xs ih =>
    have hx := h x List.mem_cons_self
    rw [cons_iff, cons_iff, ih fun y hy => h y (List.mem_cons_of_mem _ hy), hx]
    simp only [hx]

theorem exists_fault (h : FirstFault fault xs e) : ∃ x ∈ xs, fault x e := by
  obtain ⟨before, x, after, rfl, -, hx⟩ := h
  exact ⟨x, by simp, hx⟩

theorem exists_iff : (∃ e, FirstFault fault xs e) ↔ ∃ x ∈ xs, ∃ e, fault x e := by
  induction xs with
  | nil => simp [not_nil]
  | cons x xs ih =>
    simp only [cons_iff, exists_or, exists_and_left, ih, List.mem_cons, exists_eq_or_imp]
    by_cases hx : ∃ e, fault x e
    · simp [hx]
    · simp [not_exists.1 hx]

end FirstFault

namespace Condition

variable {text : α → Except Error (Option String)} {link : α → String} {xs : List α}
  {parts : List (String × Link)} {s : String} {e : Error}

/-- A part is the text of its element, with the element's link. -/
def PartOf (text : α → String → Prop) (link : α → String) (x : α) (part : String × Link) : Prop :=
  text x part.1 ∧ part.2 = Link.parse (link x)

theorem linked_joinLinked {text : α → String → Prop}
    (h : List.Forall₂ (PartOf text link) xs parts) (hne : parts ≠ []) :
    Linked text link xs (joinLinked parts) := by
  induction h with
  | nil => exact absurd rfl hne
  | @cons x part xs parts hx hxs ih =>
    obtain ⟨s, l⟩ := part
    obtain ⟨hx, rfl⟩ := hx
    cases hxs with
    | nil => exact .last hx
    | cons hy hys =>
      rw [joinLinked, Link.sql_parse]
      exact .next hx (ih (List.cons_ne_nil _ _))

theorem exists_parts_of_linked {text : α → String → Prop} (h : Linked text link xs s) :
    ∃ parts, List.Forall₂ (PartOf text link) xs parts ∧ parts ≠ [] ∧ joinLinked parts = s := by
  induction h with
  | @last x s hx => exact ⟨[(s, _)], .cons ⟨hx, rfl⟩ .nil, List.cons_ne_nil _ _, rfl⟩
  | @next x y xs s t hx _ ih =>
    obtain ⟨parts, hparts, hne, rfl⟩ := ih
    refine ⟨(s, Link.parse (link x)) :: parts, .cons ⟨hx, rfl⟩ hparts, List.cons_ne_nil _ _, ?_⟩
    cases parts with
    | nil => exact absurd rfl hne
    | cons part parts => rw [joinLinked, Link.sql_parse]

/-! ## Survivors -/

variable {skip : α → Prop} [DecidablePred skip]

theorem survivors_eq_ok (hskip : ∀ x, text x = .ok none ↔ skip x) :
    survivors text link xs = .ok parts ↔
      List.Forall₂ (PartOf (fun x s => text x = .ok (some s)) link) (xs.filter (¬ skip ·))
        parts := by
  induction xs generalizing parts with
  | nil =>
    rw [List.filter_nil, List.forall₂_nil_left_iff]
    exact ⟨fun h => (Except.ok.inj h).symm, fun h => congrArg _ h.symm⟩
  | cons x xs ih =>
    unfold survivors
    rw [Except.bind_eq_ok]
    by_cases hx : skip x
    · rw [List.filter_cons_of_neg (by simpa using hx), ← ih]
      constructor
      · rintro ⟨o, ho, h⟩
        cases (hskip x).2 hx ▸ ho
        exact h
      · exact fun h => ⟨none, (hskip x).2 hx, h⟩
    · rw [List.filter_cons_of_pos (by simpa using hx)]
      constructor
      · rintro ⟨o, ho, h⟩
        cases o with
        | none => exact absurd ((hskip x).1 ho) hx
        | some s =>
          obtain ⟨rest, hrest, h⟩ := Except.bind_eq_ok.1 h
          cases h
          exact .cons ⟨ho, rfl⟩ (ih.1 hrest)
      · intro h
        cases h with
        | @cons _ part _ rest hpart hrest =>
          obtain ⟨s, l⟩ := part
          obtain ⟨hs, rfl⟩ := hpart
          exact ⟨some s, hs, Except.bind_eq_ok.2 ⟨rest, ih.2 hrest, rfl⟩⟩

/-- Nothing survives when everything is skipped. -/
theorem survivors_eq_nil (hskip : ∀ x, text x = .ok none ↔ skip x) :
    survivors text link xs = .ok [] ↔ ∀ x ∈ xs, skip x := by
  rw [survivors_eq_ok hskip, List.forall₂_nil_right_iff, List.filter_eq_nil_iff]
  simp

/-- What survives is linked as the elements that are not skipped. -/
theorem survivors_linked (hskip : ∀ x, text x = .ok none ↔ skip x) :
    (∃ parts, survivors text link xs = .ok parts ∧ parts ≠ [] ∧ joinLinked parts = s) ↔
      Linked (fun x s => text x = .ok (some s)) link (xs.filter (¬ skip ·)) s := by
  constructor
  · rintro ⟨parts, hparts, hne, rfl⟩
    exact linked_joinLinked ((survivors_eq_ok hskip).1 hparts) hne
  · intro h
    obtain ⟨parts, hparts, hne, hs⟩ := exists_parts_of_linked h
    exact ⟨parts, (survivors_eq_ok hskip).2 hparts, hne, hs⟩

/-- Elements may be replaced by others with the same texts and links. -/
theorem survivors_congr {ys : List α}
    (h : List.Forall₂ (fun x y => text x = text y ∧ link x = link y) xs ys) :
    survivors text link xs = survivors text link ys := by
  induction h with
  | nil => rfl
  | cons hxy _ ih => rw [survivors, survivors, hxy.1, hxy.2, ih]

theorem survivors_eq_error :
    survivors text link xs = .error e ↔ FirstFault (fun x e => text x = .error e) xs e := by
  induction xs with
  | nil => exact ⟨nofun, fun h => absurd h FirstFault.not_nil⟩
  | cons x xs ih =>
    unfold survivors
    rw [FirstFault.cons_iff, ← ih]
    cases text x with
    | error e' => simp [bind, Except.bind]
    | ok o =>
      cases o with
      | none => simp [bind, Except.bind]
      | some s => cases survivors text link xs <;> simp [bind, Except.bind, pure, Except.pure]

end Condition

end Rowgate
