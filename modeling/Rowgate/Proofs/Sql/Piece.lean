/-
  Pieces of statements: texts that are read as the same tokens in front of whatever may
  follow a piece.

  * `Piece s ts`: `s` is read as `ts`, whatever follows, and does not begin with space;
    pieces joined by spaces, commas and brackets are pieces;
  * `Literal s ts`: a piece that may stand behind a comparison;
  * `Piece.tokens?_eq`: a piece on its own splits into its tokens.
-/
import Mathlib.Data.List.Forall2
import Rowgate.Proofs.Sql.Lexeme

namespace Rowgate.Sql

structure Piece (s : String) (ts : List Token) : Prop where
  solid : ∃ c r, s.toList = c :: r ∧ isSpace c = false
  reads : ∀ rest, Stops rest → Reads (s.toList ++ rest) ts rest

/-- A piece that may stand behind a comparison. -/
structure Literal (s : String) (ts : List Token) : Prop extends Piece s ts where
  operand : ∀ rest, Operand (s.toList ++ rest)

/-- The tokens of a list, with commas between its elements. -/
def commas (parts : List (List Token)) : List Token :=
  [Token.mark ','].intercalate parts

@[simp]
theorem commas_singleton (ts : List Token) : commas [ts] = ts := by
  simp [commas]

theorem commas_cons_cons (ts us : List Token) (r : List (List Token)) :
    commas (ts :: us :: r) = ts ++ .mark ',' :: commas (us :: r) := by
  simp [commas, List.intercalate]

namespace Piece

variable {a b : String} {ts us : List Token}

theorem tokens?_eq (h : Piece a ts) : tokens? a = some ts := by
  have := h.reads [] stops_nil
  rw [List.append_nil] at this
  exact this.tokens?_eq

theorem stops (h : Piece b us) (rest : List Char) : Stops (' ' :: (b.toList ++ rest)) := by
  obtain ⟨c, r, hb, hc⟩ := h.solid
  rw [hb]
  exact stops_space hc _

theorem solid_append (h : Piece a ts) (s : String) :
    ∃ c r, (a ++ s).toList = c :: r ∧ isSpace c = false := by
  obtain ⟨c, r, ha, hc⟩ := h.solid
  exact ⟨c, r ++ s.toList, by simp [ha], hc⟩

theorem word {w : String} (hw : isWord w.toList) : Piece w [.word w] where
  solid := by
    cases h : w.toList with
    | nil => simp [h, isWord] at hw
    | cons c r =>
      simp only [h, isWord, Bool.and_eq_true] at hw
      exact ⟨c, r, rfl, isSpace_of_isWordStart hw.1⟩
  reads rest hr := by simpa using reads_word hw hr.breaks

theorem space (ha : Piece a ts) (hb : Piece b us) : Piece (a ++ " " ++ b) (ts ++ us) where
  solid := by rw [String.append_assoc]; exact ha.solid_append _
  reads rest hr := by
    have h := ha.reads _ (hb.stops rest)
    have h' := (hb.reads rest hr).space (c := ' ') rfl
    simpa using h.append h'

/-- A piece in brackets right behind another one. -/
theorem call (ha : Piece a ts) (hb : Piece b us) :
    Piece (a ++ "(" ++ b ++ ")") (ts ++ .mark '(' :: us ++ [.mark ')']) where
  solid := by rw [String.append_assoc, String.append_assoc]; exact ha.solid_append _
  reads rest hr := by
    have h := ha.reads ('(' :: (b.toList ++ ')' :: rest))
      (stops_cons (by decide) (by decide) (by decide) _)
    have h' := hb.reads (')' :: rest) (stops_cons (by decide) (by decide) (by decide) _)
    have := h.append ((reads_mark (by decide)).append (h'.append (reads_mark (by decide))))
    simpa using this

theorem brackets (hb : Piece b us) : Piece ("(" ++ b ++ ")") (.mark '(' :: us ++ [.mark ')']) where
  solid := ⟨'(', b.toList ++ [')'], by simp, by decide⟩
  reads rest hr := by
    have h := hb.reads (')' :: rest) (stops_cons (by decide) (by decide) (by decide) _)
    have := (reads_mark (c := '(') (by decide)).append (h.append (reads_mark (by decide)))
    simpa using this

theorem comma (ha : Piece a ts) (hb : Piece b us) :
    Piece (a ++ ", " ++ b) (ts ++ .mark ',' :: us) where
  solid := by rw [String.append_assoc]; exact ha.solid_append _
  reads rest hr := by
    have h := ha.reads (',' :: ' ' :: (b.toList ++ rest))
      (stops_cons (by decide) (by decide) (by decide) _)
    have h' := (hb.reads rest hr).space (c := ' ') rfl
    have := h.append ((reads_mark (by decide)).append h')
    simpa using this

/-- All columns of a table. -/
theorem star (hb : Piece b us) : Piece ("*" ++ " " ++ b) (.operator "*" :: us) where
  solid := ⟨'*', ' ' :: b.toList, by simp, by decide⟩
  reads rest hr := by
    have h : Reads ('*' :: ' ' :: (b.toList ++ rest)) [.operator "*"] (' ' :: (b.toList ++ rest)) :=
      .single (by decide) rfl
    have := h.append ((hb.reads rest hr).space (c := ' ') rfl)
    simpa using this

theorem commaList {ss : List String} {tss : List (List Token)} (h : List.Forall₂ Piece ss tss)
    (hne : ss ≠ []) : Piece (", ".intercalate ss) (commas tss) := by
  induction h with
  | nil => exact absurd rfl hne
  | @cons s ts ss tss hs hss ih =>
    cases hss with
    | nil => simpa using hs
    | cons hs' hss' =>
      rw [String.intercalate_cons_cons, commas_cons_cons]
      exact hs.comma (ih (by simp))

/-- A comparison or an assignment. -/
theorem compare {sign : String} (ha : Piece a ts) (hs : sign.toList ∈ comparisonSigns)
    (hb : Literal b us) : Piece (a ++ sign ++ b) (ts ++ .operator sign :: us) where
  solid := by rw [String.append_assoc]; exact ha.solid_append _
  reads rest hr := by
    have hstop : Stops (sign.toList ++ (b.toList ++ rest)) := by
      simp only [comparisonSigns, List.mem_cons, List.not_mem_nil, or_false] at hs
      rcases hs with h | h | h | h | h | h <;> rw [h] <;>
        exact stops_cons (by decide) (by decide) (by decide) _
    have h := reads_comparison hs (hb.operand rest)
    have := (ha.reads _ hstop).append (h.append (hb.reads rest hr))
    simpa using this

end Piece

theorem Piece.parameter {digits : String} (hne : digits.toList ≠ [])
    (hd : ∀ c ∈ digits.toList, c.isDigit) : Piece ("$" ++ digits) [.parameter digits] where
  solid := ⟨'$', digits.toList, by simp, by decide⟩
  reads rest hr := by simpa using reads_parameter hne hd hr

/-! ## Literals -/

/-- The tokens of a number, its minus sign apart. -/
def numberTokens (text : String) : List Token :=
  match text.toList with
  | '-' :: r => [.operator "-", .number (String.ofList r)]
  | r => [.number (String.ofList r)]

/-- A numeral, a minus sign before it or not. -/
def IsSigned (s : List Char) : Prop :=
  IsNumeral s ∨ ∃ r, s = '-' :: r ∧ IsNumeral r

theorem operand_of_not_operatorChar {c : Char} (h : isOperatorChar c = false) (r : List Char) :
    Operand (c :: r) :=
  .inl (List.takeWhile_cons_of_neg (by simp [h]))

namespace Literal

theorem number {text : String} (h : IsSigned text.toList) : Literal text (numberTokens text) := by
  rcases h with h | ⟨r, hr, h⟩
  · obtain ⟨c, r, hs, hc⟩ := h.head
    have ho := isOperatorChar_of_isDigit hc
    have hn : numberTokens text = [.number text] := by
      unfold numberTokens
      split
      · rename_i he; rw [hs] at he; cases he; exact absurd hc (by decide)
      · simp
    rw [hn]
    refine ⟨⟨⟨c, r, hs, isSpace_of_isDigit hc⟩, fun rest hr => ?_⟩, fun rest => ?_⟩
    · simpa using reads_number h hr
    · rw [hs]; exact operand_of_not_operatorChar ho _
  · obtain ⟨c, r', rfl, hc⟩ := h.head
    have hn : numberTokens text = [.operator "-", .number (String.ofList (c :: r'))] := by
      simp [numberTokens, hr]
    rw [hn]
    refine ⟨⟨⟨'-', _, hr, by decide⟩, fun rest hrest => ?_⟩, fun rest => ?_⟩
    · rw [hr]; exact (reads_minus h).append (reads_number h hrest)
    · rw [hr]
      refine .inr ?_
      rw [List.cons_append, List.takeWhile_cons_of_pos (by decide), List.cons_append,
        List.takeWhile_cons_of_neg (by simp [isOperatorChar_of_isDigit hc])]

theorem word {w : String} (hw : isWord w.toList) : Literal w [.word w] where
  toPiece := .word hw
  operand rest := by
    cases h : w.toList with
    | nil => simp [h, isWord] at hw
    | cons c r =>
      simp only [h, isWord, Bool.and_eq_true] at hw
      exact operand_of_not_operatorChar (isOperatorChar_of_isWordStart hw.1) _

end Literal

end Rowgate.Sql
