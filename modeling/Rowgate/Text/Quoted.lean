/-
  Quoting by doubling: between two quotation marks, a mark inside the text is
  written twice and every other character as it is.

  * `unquote_doubled`: reading what `quoted` writes gives the text back, and
    stops at the closing mark;
  * `eq_of_unquote`: nothing else is read as that text.
-/
namespace Rowgate.Text

/-- The text with every `q` doubled. -/
def doubled (q : Char) : List Char → List Char
  | [] => []
  | c :: r => if c = q then c :: c :: doubled q r else c :: doubled q r

/-- The text between two marks, with every mark inside doubled. -/
def quoted (q : Char) (s : List Char) : List Char :=
  q :: doubled q s ++ [q]

/-- Reads up to the closing mark (the opening one is already read): the text and
    what follows the mark, or nothing when no mark closes. -/
def unquote (q : Char) : List Char → Option (List Char × List Char)
  | [] => none
  | [c] => if c = q then some ([], []) else none
  | c :: d :: r =>
    if c = q then
      if d = q then (unquote q r).map fun (s, rest) => (q :: s, rest)
      else some ([], d :: r)
    else (unquote q (d :: r)).map fun (s, rest) => (c :: s, rest)

theorem unquote_doubled (q : Char) (s : List Char) (rest : List Char)
    (h : rest.head? ≠ some q) : unquote q (doubled q s ++ q :: rest) = some (s, rest) := by
  induction s with
  | nil => cases rest with
    | nil => simp [doubled, unquote]
    | cons d r => simp_all [doubled, unquote]
  | cons c r ih =>
    by_cases hc : c = q
    · simp [doubled, unquote, hc, ih]
    · rw [doubled, if_neg hc, List.cons_append]
      cases hr : doubled q r ++ q :: rest with
      | nil => simp at hr
      | cons d t => simp [unquote, hc, ← hr, ih]

theorem eq_of_unquote {q : Char} {s t rest : List Char} (h : unquote q s = some (t, rest)) :
    s = doubled q t ++ q :: rest ∧ rest.head? ≠ some q := by
  fun_induction unquote q s generalizing t rest with
  | case1 => cases h
  | case2 =>
    cases h
    simp [doubled]
  | case3 => cases h
  | case4 r ih =>
    obtain ⟨⟨u, rest'⟩, hu, he⟩ := Option.map_eq_some_iff.1 h
    cases he
    obtain ⟨rfl, hrest⟩ := ih hu
    exact ⟨by simp [doubled], hrest⟩
  | case5 d r hd =>
    cases h
    simp [doubled, hd]
  | case6 c d r hc ih =>
    obtain ⟨⟨u, rest'⟩, hu, he⟩ := Option.map_eq_some_iff.1 h
    cases he
    obtain ⟨hs, hrest⟩ := ih hu
    exact ⟨by simp [doubled, hc, hs], hrest⟩

theorem mem_doubled {q c : Char} {s : List Char} : c ∈ doubled q s ↔ c ∈ s := by
  induction s with
  | nil => rfl
  | cons d s ih =>
    unfold doubled
    split <;> simp [ih]

theorem unquote_length {q : Char} {s t rest : List Char} (h : unquote q s = some (t, rest)) :
    rest.length < s.length := by
  fun_induction unquote q s generalizing t rest with
  | case1 => simp at h
  | case2 => simp_all
  | case3 => simp at h
  | case4 r ih =>
    obtain ⟨p, hp, he⟩ := Option.map_eq_some_iff.1 h
    simp only [Prod.mk.injEq] at he
    have := ih hp
    simp only [List.length_cons, ← he.2]
    omega
  | case5 => simp_all
  | case6 c d r _ ih =>
    obtain ⟨p, hp, he⟩ := Option.map_eq_some_iff.1 h
    simp only [Prod.mk.injEq] at he
    have := ih hp
    simp only [List.length_cons, ← he.2] at this ⊢
    omega

end Rowgate.Text
