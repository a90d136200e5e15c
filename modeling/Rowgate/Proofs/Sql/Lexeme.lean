/-
  How each kind of lexeme is read in front of what may follow it.

  * `Breaks` is what may follow a word or a quoted name, `Stops` what may follow any piece
    of a statement, `Operand` what may follow a comparison;
  * `reads_word`, `reads_name`, `reads_string`, `reads_number`, `reads_comparison` and
    `reads_minus`: none of these runs into its neighbour.
-/
import Rowgate.Proofs.Sql.Reads

namespace Rowgate.Sql

/-! ## What may follow -/

/-- The characters that end a word or quoted name. -/
def isBreak (c : Char) : Bool :=
  c ∈ [' ', ',', '(', ')', '=', '<', '>', '.']

/-- What may follow a word or quoted name. -/
def Breaks (rest : List Char) : Prop :=
  ∀ c ∈ rest.head?, isBreak c

/-- What may follow a piece. -/
structure Stops (rest : List Char) : Prop where
  breaks : Breaks rest
  no_point : rest.head? ≠ some '.'
  ends : continues rest = false

theorem breaks_cons {c : Char} (hc : isBreak c) (rest : List Char) : Breaks (c :: rest) := by
  intro d hd
  cases hd
  exact hc

theorem stops_nil : Stops [] where
  breaks := by simp [Breaks]
  no_point := by simp
  ends := rfl

theorem stops_cons {c : Char} (hc : isBreak c) (hp : c ≠ '.') (hs : isSpace c = false)
    (rest : List Char) : Stops (c :: rest) where
  breaks := breaks_cons hc rest
  no_point := by simpa using hp
  ends := by simp [continues, hs]

theorem stops_space {c : Char} (hc : isSpace c = false) (rest : List Char) :
    Stops (' ' :: c :: rest) where
  breaks := breaks_cons (by decide) _
  no_point := by simp
  ends := by simp [continues, hc, show isSpace ' ' = true from rfl]

/-- A class of characters without any that ends a word ends before what follows. -/
theorem Breaks.not_head {p : Char → Bool} {rest : List Char} (h : Breaks rest)
    (hp : [' ', ',', '(', ')', '=', '<', '>', '.'].any p = false) :
    ∀ c ∈ rest.head?, p c = false := by
  intro c hc
  have := h c hc
  exact Bool.eq_false_iff.2 (List.any_eq_false.1 hp c (by simpa [isBreak] using this))

theorem takeWhile_append_eq {p : Char → Bool} {s rest : List Char} (hs : ∀ c ∈ s, p c)
    (hr : ∀ c ∈ rest.head?, p c = false) : (s ++ rest).takeWhile p = s := by
  rw [List.takeWhile_append_of_pos hs]
  cases rest with
  | nil => simp
  | cons c r => simp [hr c (by simp)]

theorem dropWhile_append_eq {p : Char → Bool} {s rest : List Char} (hs : ∀ c ∈ s, p c)
    (hr : ∀ c ∈ rest.head?, p c = false) : (s ++ rest).dropWhile p = rest := by
  rw [List.dropWhile_append_of_pos hs]
  cases rest with
  | nil => simp
  | cons c r => simp [hr c (by simp)]

/-- A character behind others that differ from it is found in one way only. -/
theorem split_inj {a : Char} {s s' r r' : List Char} (hs : ∀ c ∈ s, c ≠ a) (hs' : ∀ c ∈ s', c ≠ a)
    (hr : ∀ c ∈ r.head?, c = a) (hr' : ∀ c ∈ r'.head?, c = a) (h : s ++ r = s' ++ r') :
    s = s' ∧ r = r' := by
  have hne {t : List Char} (ht : ∀ c ∈ t, c ≠ a) : ∀ c ∈ t, decide (c ≠ a) := by simpa using ht
  have heq {t : List Char} (ht : ∀ c ∈ t.head?, c = a) : ∀ c ∈ t.head?, decide (c ≠ a) = false := by
    simpa using ht
  have htake := takeWhile_append_eq (hne hs) (heq hr)
  have hdrop := dropWhile_append_eq (hne hs) (heq hr)
  rw [h, takeWhile_append_eq (hne hs') (heq hr')] at htake
  rw [h, dropWhile_append_eq (hne hs') (heq hr')] at hdrop
  exact ⟨htake.symm, hdrop.symm⟩

/-! ## Words and names -/

def isWord : List Char → Bool
  | [] => false
  | c :: r => isWordStart c && r.all isWordPart

theorem isWordPart_of_isWordStart {c : Char} (h : isWordStart c) : isWordPart c := by
  simp [isWordPart, h]

/-- Letters, the underscore, and all behind ASCII. -/
theorem isWordStart_iff {c : Char} : isWordStart c ↔ 65 ≤ c.toNat ∧ c.toNat ≤ 90 ∨
    97 ≤ c.toNat ∧ c.toNat ≤ 122 ∨ c = '_' ∨ 128 ≤ c.toNat := by
  have ha : c.isAlpha = (decide ('A'.val ≤ c.val ∧ c.val ≤ 'Z'.val) ||
    (decide ('a'.val ≤ c.val) && decide (c.val ≤ 'z'.val))) := rfl
  have hA : 'A'.val.toNat = 65 := rfl
  have hZ : 'Z'.val.toNat = 90 := rfl
  have ha' : 'a'.val.toNat = 97 := rfl
  have hz : 'z'.val.toNat = 122 := rfl
  simp only [isWordStart, ha, Bool.or_eq_true, Bool.and_eq_true, decide_eq_true_eq,
    UInt32.le_iff_toNat_le, hA, hZ, ha', hz, or_assoc]
  rfl

theorem isSpace_of_isWordStart {c : Char} (h : isWordStart c) : isSpace c = false := by
  by_contra hs
  simp only [isSpace, Bool.not_eq_false, Bool.or_eq_true, decide_eq_true_eq,
    Bool.and_eq_true] at hs
  rw [isWordStart_iff] at h
  rcases hs with rfl | hs
  · revert h; decide
  · rcases h with h | h | rfl | h
    · omega
    · omega
    · revert hs; decide
    · omega

theorem reads_word {w rest : List Char} (hw : isWord w) (h : Breaks rest) :
    Reads (w ++ rest) [.word (String.ofList w)] rest := by
  cases w with
  | nil => simp [isWord] at hw
  | cons c w =>
    simp only [isWord, Bool.and_eq_true, List.all_eq_true] at hw
    obtain ⟨hc, hw⟩ := hw
    have hall : ∀ d ∈ c :: w, isWordPart d := by
      intro d hd
      rcases List.mem_cons.1 hd with rfl | hd
      · exact isWordPart_of_isWordStart hc
      · exact hw d hd
    have hrest := h.not_head (p := isWordPart) (by decide)
    have hb : beginsLiteral (c :: w) rest = false := by
      cases rest with
      | nil => rfl
      | cons d r =>
        have hd := h.not_head (p := fun c => c = '\'' || c = '&') (by decide) d (by simp)
        simp only [Bool.or_eq_false_iff, decide_eq_false_iff_not] at hd
        unfold beginsLiteral
        split
        · simp_all
        · simp_all
        · rfl
    refine .single (isSpace_of_isWordStart hc) ?_
    have hq : c ≠ '\'' := by rintro rfl; exact absurd hc (by decide)
    have hn : c ≠ '"' := by rintro rfl; exact absurd hc (by decide)
    have ht := takeWhile_append_eq hall hrest
    have hd := dropWhile_append_eq hall hrest
    rw [List.cons_append] at ht hd
    change token? (c :: (w ++ rest)) = _
    simp [token?, if_neg hq, if_neg hn, if_pos hc, wordLexeme?, ht, hd, hb]

theorem reads_name {n rest : List Char} (hn : n ≠ []) (h : Breaks rest) :
    Reads (Text.quoted '"' n ++ rest) [.name (String.ofList n)] rest := by
  have hrest : rest.head? ≠ some '"' := by
    intro he
    have := h '"' he
    revert this; decide
  rw [Text.quoted, List.append_assoc, List.singleton_append]
  refine .single (by decide) ?_
  have hu : nameLexeme? (Text.doubled '"' n ++ '"' :: rest) =
      some (.name (String.ofList n), rest) := by
    rw [nameLexeme?, Text.unquote_doubled '"' n rest hrest]
    cases n with
    | nil => exact absurd rfl hn
    | cons c r => rfl
  exact hu

/-! ## String literals and numbers -/

theorem Stops.no_word {rest : List Char} (h : Stops rest) :
    rest.head?.any isWordStart = false := by
  have := h.breaks.not_head (p := isWordStart) (by decide)
  cases rest with
  | nil => rfl
  | cons c r => simpa using this c (by simp)

theorem reads_string {s rest : List Char} (h : Stops rest) :
    Reads (Text.quoted '\'' s ++ rest) [.string (String.ofList s)] rest := by
  have hrest : rest.head? ≠ some '\'' := by
    intro he
    have := h.breaks '\'' he
    revert this; decide
  rw [Text.quoted, List.append_assoc, List.singleton_append]
  refine .single (by decide) ?_
  have hu : stringLexeme? (Text.doubled '\'' s ++ '\'' :: rest) =
      some (.string (String.ofList s), rest) := by
    simp [stringLexeme?, Text.unquote_doubled '\'' s rest hrest, h.ends]
  exact hu

/-- Digits, a point and more digits behind it or not. -/
inductive IsNumeral : List Char → Prop where
  | whole {w : List Char} (hw : w ≠ []) (h : ∀ c ∈ w, c.isDigit) : IsNumeral w
  | decimal {w f : List Char} (hw : w ≠ []) (h : ∀ c ∈ w, c.isDigit) (hf : ∀ c ∈ f, c.isDigit) :
      IsNumeral (w ++ '.' :: f)

theorem isSpace_of_isDigit {c : Char} (h : c.isDigit) : isSpace c = false := by
  simp only [Char.isDigit, Bool.and_eq_true, decide_eq_true_eq, UInt32.le_iff_toNat_le,
    ge_iff_le] at h
  have hv : c.toNat = c.val.toNat := rfl
  have : '0'.val.toNat = 48 := rfl
  simp only [isSpace, Bool.or_eq_false_iff, decide_eq_false_iff_not, Bool.and_eq_false_imp,
    decide_eq_true_eq]
  refine ⟨?_, fun _ => by omega⟩
  rintro rfl
  revert h; decide

theorem fraction_of_no_point {s : List Char} (h : s.head? ≠ some '.') : fraction s = ([], s) := by
  unfold fraction
  split
  · simp at h
  · simp at h
  · rfl

theorem fraction_point {s : List Char} (h : s.head? ≠ some '.') :
    fraction ('.' :: s) = ('.' :: s.takeWhile Char.isDigit, s.dropWhile Char.isDigit) := by
  unfold fraction
  split
  · simp_all
  · rename_i he; cases he; rfl
  · rename_i he; exact absurd rfl (he s)

theorem exponent_of_not_head {s : List Char}
    (h : ∀ c ∈ s.head?, (c = 'e' || c = 'E') = false) : exponent s = ([], s) := by
  unfold exponent
  split
  · rfl
  · rename_i e r; rw [h e (by simp)]; simp

theorem isWordStart_of_isDigit {c : Char} (h : c.isDigit) : isWordStart c = false := by
  simp only [Char.isDigit, Bool.and_eq_true, decide_eq_true_eq, UInt32.le_iff_toNat_le,
    ge_iff_le] at h
  have hv : c.toNat = c.val.toNat := rfl
  have h₀ : '0'.val.toNat = 48 := rfl
  have h₉ : '9'.val.toNat = 57 := rfl
  by_contra hw
  rw [Bool.not_eq_false, isWordStart_iff] at hw
  rcases hw with hw | hw | rfl | hw
  · omega
  · omega
  · revert h; decide
  · omega

theorem numberLexeme?_of_isNumeral {s rest : List Char} (hs : IsNumeral s) (h : Stops rest) :
    numberLexeme? (s ++ rest) = some (.number (String.ofList s), rest) := by
  have hd := h.breaks.not_head (p := Char.isDigit) (by decide)
  have he := h.breaks.not_head (p := fun c => c = 'e' || c = 'E') (by decide)
  have hw := h.no_word
  cases hs with
  | whole _ hds =>
    simp [numberLexeme?, takeWhile_append_eq hds hd, dropWhile_append_eq hds hd,
      fraction_of_no_point h.no_point, exponent_of_not_head he, hw]
  | @decimal w f _ hds hf =>
    have hp : ∀ c ∈ ('.' :: (f ++ rest)).head?, c.isDigit = false := by simp
    have hn : (f ++ rest).head? ≠ some '.' := by
      cases f with
      | nil => exact h.no_point
      | cons c r =>
        intro hc
        cases hc
        exact absurd (hf '.' (by simp)) (by decide)
    rw [List.append_assoc, List.cons_append]
    simp [numberLexeme?, takeWhile_append_eq hds hp, dropWhile_append_eq hds hp,
      fraction_point hn, takeWhile_append_eq hf hd, dropWhile_append_eq hf hd,
      exponent_of_not_head he, hw]

theorem IsNumeral.head {s : List Char} (h : IsNumeral s) : ∃ c r, s = c :: r ∧ c.isDigit := by
  cases h with
  | @whole w hw h =>
    cases s with
    | nil => exact absurd rfl hw
    | cons c r => exact ⟨c, r, rfl, h c (by simp)⟩
  | @decimal w f hw h hf =>
    cases w with
    | nil => exact absurd rfl hw
    | cons c r => exact ⟨c, r ++ '.' :: f, rfl, h c (by simp)⟩

theorem reads_number {s rest : List Char} (hs : IsNumeral s) (h : Stops rest) :
    Reads (s ++ rest) [.number (String.ofList s)] rest := by
  have hn := numberLexeme?_of_isNumeral hs h
  obtain ⟨c, r, rfl, hc⟩ := hs.head
  refine .single (isSpace_of_isDigit hc) ?_
  have hq : c ≠ '\'' := by rintro rfl; exact absurd hc (by decide)
  have hq' : c ≠ '"' := by rintro rfl; exact absurd hc (by decide)
  rw [List.cons_append] at hn
  change token? (c :: (r ++ rest)) = _
  simp [token?, hq, hq', isWordStart_of_isDigit hc, hc, hn]

theorem reads_parameter {s rest : List Char} (hne : s ≠ []) (hs : ∀ c ∈ s, c.isDigit)
    (h : Stops rest) : Reads ('$' :: (s ++ rest)) [.parameter (String.ofList s)] rest := by
  have hd := h.breaks.not_head (p := Char.isDigit) (by decide)
  have hw := h.no_word
  refine .single (by decide) ?_
  change parameterLexeme? (s ++ rest) = _
  simp [parameterLexeme?, takeWhile_append_eq hs hd, dropWhile_append_eq hs hd, hne, hw]

/-! ## Operators and marks -/

/-- A class of characters without any operator character. -/
theorem isOperatorChar_of_class {p : Char → Bool} {c : Char} (h : p c)
    (hp : (['+', '-', '*', '/', '<', '>', '='] ++
      ['~', '!', '@', '#', '%', '^', '&', '|', '?', '\x60']).any p = false) :
    isOperatorChar c = false := by
  by_contra ho
  simp only [isOperatorChar, isSpecial, Bool.not_eq_false, Bool.or_eq_true,
    decide_eq_true_eq] at ho
  exact List.any_eq_false.1 hp c (List.mem_append.2 ho) h

theorem isOperatorChar_of_isDigit {c : Char} (h : c.isDigit) : isOperatorChar c = false :=
  isOperatorChar_of_class (p := Char.isDigit) h (by decide)

theorem isOperatorChar_of_isWordStart {c : Char} (h : isWordStart c) : isOperatorChar c = false :=
  isOperatorChar_of_class (p := isWordStart) h (by decide)

/-- What may follow an operator: no other operator character than a single minus sign. -/
def Operand (rest : List Char) : Prop :=
  rest.takeWhile isOperatorChar = [] ∨ rest.takeWhile isOperatorChar = ['-']

/-- The signs of comparisons; the first one is that of assignments too. -/
def comparisonSigns : List (List Char) :=
  [['='], ['<', '>'], ['<'], ['<', '='], ['>'], ['>', '=']]

theorem operatorLexeme?_comparison {sign rest : List Char} (hs : sign ∈ comparisonSigns)
    (h : Operand rest) :
    operatorLexeme? (sign ++ rest) = some (.operator (String.ofList sign), rest) := by
  simp only [comparisonSigns, List.mem_cons, List.not_mem_nil, or_false] at hs
  rcases hs with rfl | rfl | rfl | rfl | rfl | rfl <;> rcases h with h | h <;>
    simp [operatorLexeme?, h, isOperatorChar, operatorOf, beforeComment, isSpecial]

theorem reads_comparison {sign rest : List Char} (hs : sign ∈ comparisonSigns)
    (h : Operand rest) : Reads (sign ++ rest) [.operator (String.ofList sign)] rest := by
  have hl := operatorLexeme?_comparison hs h
  have hc : ∃ c r, sign = c :: r ∧ (c = '=' ∨ c = '<' ∨ c = '>') := by
    simp only [comparisonSigns, List.mem_cons, List.not_mem_nil, or_false] at hs
    rcases hs with rfl | rfl | rfl | rfl | rfl | rfl <;> simp
  obtain ⟨c, r, rfl, hc⟩ := hc
  rw [List.cons_append] at hl
  rcases hc with rfl | rfl | rfl <;> exact .single (by decide) hl

/-- A minus sign in front of a number is an operator. -/
theorem reads_minus {s rest : List Char} (hs : IsNumeral s) :
    Reads ('-' :: (s ++ rest)) [.operator "-"] (s ++ rest) := by
  obtain ⟨c, r, rfl, hc⟩ := hs.head
  have ho := isOperatorChar_of_isDigit hc
  refine .single (by decide) ?_
  have hm : c ≠ '-' := by rintro rfl; exact absurd hc (by decide)
  have ht : ('-' :: c :: (r ++ rest)).takeWhile isOperatorChar = ['-'] := by
    rw [List.takeWhile_cons_of_pos (by decide), List.takeWhile_cons_of_neg (by simp [ho])]
  change operatorLexeme? ('-' :: c :: (r ++ rest)) = _
  unfold operatorLexeme?
  split
  · rename_i he; cases he; exact absurd rfl hm
  · rename_i he; cases he
  · rw [ht]; rfl

theorem reads_mark {c : Char} {rest : List Char} (hc : c ∈ ['(', ')', ',']) :
    Reads (c :: rest) [.mark c] rest := by
  simp only [List.mem_cons, List.not_mem_nil, or_false] at hc
  rcases hc with rfl | rfl | rfl <;> exact .single (by decide) rfl

end Rowgate.Sql
