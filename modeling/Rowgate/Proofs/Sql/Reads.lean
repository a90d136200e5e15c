/-
  Readings of SQL text, and how they join.

  * `Reads s ts r`: the text `s` is read as the tokens `ts` up to `r`, which is still to
    read.  A lexeme is read with all that follows it in view, so that readings of the
    pieces of a text are readings of the text (`Reads.append`);
  * `Reads.tokens?_eq`: a reading up to the end is what `tokens?` finds.
-/
import Mathlib.Data.Nat.Init
import Mathlib.Order.Nat
import Mathlib.Tactic.Common
import Rowgate.Proofs.Sql.Token

namespace Rowgate.Sql

theorem dropWhile_length_le (p : Char → Bool) (s : List Char) : (s.dropWhile p).length ≤ s.length :=
  (List.dropWhile_sublist _).length_le

theorem exists_cons_of_takeWhile {p : Char → Bool} {s u : List Char} {c : Char}
    (h : s.takeWhile p = c :: u) : ∃ s', s = c :: s' := by
  cases s with
  | nil => simp at h
  | cons d s =>
    by_cases hd : p d
    · rw [List.takeWhile_cons_of_pos hd] at h
      cases h
      exact ⟨s, rfl⟩
    · rw [List.takeWhile_cons_of_neg hd] at h
      cases h

/-! ## Every token takes a character -/

theorem stringLexeme?_length {r rest : List Char} {t : Token}
    (h : stringLexeme? r = some (t, rest)) : rest.length < r.length := by
  unfold stringLexeme? at h
  split at h
  · rename_i hu
    split_ifs at h
    cases h
    exact Text.unquote_length hu
  · simp at h

theorem nameLexeme?_length {r rest : List Char} {t : Token}
    (h : nameLexeme? r = some (t, rest)) : rest.length < r.length := by
  unfold nameLexeme? at h
  split at h
  · simp at h
  · rename_i hu
    cases h
    exact Text.unquote_length hu
  · simp at h

theorem wordLexeme?_length {c : Char} {s rest : List Char} {t : Token} (hc : isWordPart c)
    (h : wordLexeme? (c :: s) = some (t, rest)) : rest.length ≤ s.length := by
  simp only [wordLexeme?] at h
  split_ifs at h
  cases h
  rw [List.dropWhile_cons_of_pos hc]
  exact dropWhile_length_le _ _

theorem exponent_length_le (s : List Char) : (exponent s).2.length ≤ s.length := by
  unfold exponent
  split
  · simp
  · dsimp only
    split_ifs
    · exact le_rfl
    · simp only [List.length_drop, List.length_cons]; omega
    · exact le_rfl

theorem fraction_length_le (s : List Char) : (fraction s).2.length ≤ s.length := by
  unfold fraction
  split
  · exact le_rfl
  · exact (dropWhile_length_le _ _).trans (Nat.le_succ _)
  · exact le_rfl

/-- The point of a number with a digit behind it belongs to the number. -/
theorem fraction_length_lt {s : List Char} (h : s.head?.any Char.isDigit) :
    (fraction ('.' :: s)).2.length ≤ s.length := by
  cases s with
  | nil => simp at h
  | cons d s =>
    by_cases hd : d = '.'
    · subst hd; simp at h
    · unfold fraction
      split
      · simp_all
      · rename_i he; cases he; exact dropWhile_length_le _ _
      · rename_i he; exact absurd rfl (he _)

theorem numberLexeme?_length {c : Char} {s rest : List Char} {t : Token}
    (hc : c.isDigit ∨ c = '.' ∧ s.head?.any Char.isDigit)
    (h : numberLexeme? (c :: s) = some (t, rest)) : rest.length ≤ s.length := by
  have hf : (fraction ((c :: s).dropWhile Char.isDigit)).2.length ≤ s.length := by
    rcases hc with hc | ⟨rfl, hs⟩
    · rw [List.dropWhile_cons_of_pos hc]
      exact (fraction_length_le _).trans (dropWhile_length_le _ _)
    · rw [List.dropWhile_cons_of_neg (by decide)]
      exact fraction_length_lt hs
  simp only [numberLexeme?] at h
  split_ifs at h
  cases h
  exact (exponent_length_le _).trans hf

theorem parameterLexeme?_length_le {r rest : List Char} {t : Token}
    (h : parameterLexeme? r = some (t, rest)) : rest.length ≤ r.length := by
  simp only [parameterLexeme?] at h
  split_ifs at h
  cases h
  exact dropWhile_length_le _ _

theorem commentEnd?_length_le {depth : Nat} {s r : List Char} (h : commentEnd? depth s = some r) :
    r.length ≤ s.length := by
  fun_induction commentEnd? depth s with
  | case1 => cases h; simp; omega
  | case2 _ _ ih => have := ih h; simp; omega
  | case3 _ _ ih => have := ih h; simp; omega
  | case4 _ _ _ _ _ _ ih => have := ih h; simp; omega
  | case5 => simp at h

theorem operatorOf_ne_nil {c : Char} {r : List Char} (h : beforeComment (c :: r) ≠ []) :
    operatorOf (c :: r) ≠ [] := by
  unfold operatorOf
  dsimp only
  split_ifs
  · exact h
  · split
    · cases hb : beforeComment (c :: r) with
      | nil => exact absurd hb h
      | cons => simp
    · assumption

theorem beforeComment_ne_nil {c : Char} {r : List Char} (h : ∀ u, c :: r ≠ '-' :: '-' :: u)
    (h' : ∀ u, c :: r ≠ '/' :: '*' :: u) : beforeComment (c :: r) ≠ [] := by
  unfold beforeComment
  split
  · rename_i he; exact absurd he (h _)
  · rename_i he; exact absurd he (h' _)
  · simp
  · rename_i he; simp at he

theorem operatorLexeme?_length {c : Char} {s rest : List Char} {t : Token} (hc : isOperatorChar c)
    (h : operatorLexeme? (c :: s) = some (t, rest)) : rest.length ≤ s.length := by
  unfold operatorLexeme? at h
  split at h
  · rename_i r he
    cases he; cases h
    exact (dropWhile_length_le _ _).trans (Nat.le_succ _)
  · rename_i r he
    cases he
    obtain ⟨rest, hr, he⟩ := Option.map_eq_some_iff.1 h
    cases he
    exact (commentEnd?_length_le hr).trans (Nat.le_succ _)
  · rename_i hn hn'
    cases h
    have hne : operatorOf ((c :: s).takeWhile isOperatorChar) ≠ [] := by
      rw [List.takeWhile_cons_of_pos hc]
      refine operatorOf_ne_nil (beforeComment_ne_nil (fun u he => ?_) fun u he => ?_)
      · obtain ⟨rfl, hu⟩ := List.cons.inj he
        obtain ⟨s, rfl⟩ := exists_cons_of_takeWhile hu
        exact hn _ rfl
      · obtain ⟨rfl, hu⟩ := List.cons.inj he
        obtain ⟨s, rfl⟩ := exists_cons_of_takeWhile hu
        exact hn' _ rfl
    have := List.length_pos_iff.2 hne
    simp only [List.length_drop, List.length_cons]; omega

theorem token?_length {s r : List Char} {t : Token} (h : token? s = some (t, r)) :
    r.length < s.length := by
  unfold token? at h
  split at h
  · simp at h
  · refine Nat.lt_succ_of_le ?_
    split_ifs at h with _ _ hw hd _ ho
    · exact (stringLexeme?_length h).le
    · exact (nameLexeme?_length h).le
    · exact wordLexeme?_length (by simp [isWordPart, hw]) h
    · exact numberLexeme?_length (by simpa using hd) h
    · exact parameterLexeme?_length_le h
    · exact operatorLexeme?_length ho h
    · cases h; exact le_rfl
/-! ## Readings -/

inductive Reads : List Char → List Token → List Char → Prop where
  | done {s : List Char} : Reads s [] s
  | space {c : Char} {s r : List Char} {ts : List Token} (hc : isSpace c) (h : Reads s ts r) :
      Reads (c :: s) ts r
  | token {c : Char} {s m r : List Char} {t : Token} {ts : List Token} (hc : isSpace c = false)
      (ht : token? (c :: s) = some (t, m)) (h : Reads m ts r) : Reads (c :: s) (t :: ts) r

namespace Reads

variable {s m r : List Char} {ts us : List Token} {t : Token}

theorem append (h : Reads s ts m) (h' : Reads m us r) : Reads s (ts ++ us) r := by
  induction h with
  | done => exact h'
  | space hc _ ih => exact .space hc (ih h')
  | token hc ht _ ih => exact .token hc ht (ih h')

theorem single {c : Char} (hc : isSpace c = false) (ht : token? (c :: s) = some (t, r)) :
    Reads (c :: s) [t] r :=
  .token hc ht .done

/-- A reading up to the end finds the tokens of the text. -/
theorem tokensFrom_eq (h : Reads s ts []) : ∀ n, s.length ≤ n → tokensFrom n s = some ts := by
  generalize hr : ([] : List Char) = r at h
  induction h with
  | done => subst hr; intro n _; unfold tokensFrom; rfl
  | space hc _ ih =>
    intro n hn
    unfold tokensFrom
    rw [List.dropWhile_cons_of_pos hc]
    have := ih hr n (Nat.le_of_succ_le hn)
    unfold tokensFrom at this
    exact this
  | token hc ht _ ih =>
    intro n hn
    have hlt := token?_length ht
    unfold tokensFrom
    rw [List.dropWhile_cons_of_neg (by simp [hc])]
    cases n with
    | zero => simp at hn
    | succ n => simp [ht, ih hr n (by omega)]

theorem tokens?_eq {s : String} (h : Reads s.toList ts []) : tokens? s = some ts :=
  h.tokensFrom_eq _ (Nat.le_refl _)

end Reads

end Rowgate.Sql
