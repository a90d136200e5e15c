/-
  The texts of numbers are numerals: digits, a point and more digits or not, and a minus
  sign before them or not.
-/
import Rowgate.Decimal.Layout
import Rowgate.Proofs.Sql.Piece
import Rowgate.Value

namespace Rowgate.Sql

theorem natText_ne_nil (n : Nat) : (toString n).toList ≠ [] := by
  rw [show toString n = n.repr from rfl, Nat.toList_repr]
  exact Nat.toDigits_ne_nil

theorem natText_isDigit (n : Nat) : ∀ c ∈ (toString n).toList, c.isDigit := by
  rw [show toString n = n.repr from rfl, Nat.toList_repr]
  exact fun _ hc => Nat.isDigit_of_mem_toDigits (by decide) (by decide) hc

theorem isNumeral_natText (n : Nat) : IsNumeral (toString n).toList :=
  .whole (natText_ne_nil n) (natText_isDigit n)

theorem isSigned_intText : ∀ n : Int, IsSigned (toString n).toList
  | .ofNat n => .inl (isNumeral_natText n)
  | .negSucc n => .inr ⟨(toString (n + 1)).toList, by
      rw [show toString (Int.negSucc n) = "-" ++ toString (n + 1) from rfl]; simp,
      isNumeral_natText (n + 1)⟩

/-- Digits laid out with or without a point are a numeral. -/
theorem isNumeral_positionalText {digits : List Char} (hne : digits ≠ [])
    (hd : ∀ c ∈ digits, c.isDigit) (n : Int) :
    IsNumeral (DecimalLayout.positionalText false digits n) := by
  have hz : ∀ k, ∀ c ∈ List.replicate k '0', c.isDigit := by
    intro k c hc
    rw [List.eq_of_mem_replicate hc]
    rfl
  simp only [DecimalLayout.positionalText, Bool.false_eq_true, if_false]
  split_ifs with h1 h2
  · have hf : ∀ c ∈ List.replicate (-n).toNat '0' ++ digits, c.isDigit := by
      intro c hc
      exact (List.mem_append.1 hc).elim (hz _ c) (hd c)
    exact .decimal (w := ['0']) (by simp) (by simp) hf
  · rw [List.append_nil]
    refine .whole (by simp [hne]) fun c hc => ?_
    exact (List.mem_append.1 hc).elim (hd c) (hz _ c)
  · refine .decimal ?_ (fun c hc => hd c (List.mem_of_mem_take hc))
      fun c hc => hd c (List.mem_of_mem_drop hc)
    intro he
    rcases List.take_eq_nil_iff.1 he with h | h
    · omega
    · exact hne h

theorem isSigned_doubleText {x : Double} (h : x.isFinite) : IsSigned x.text.toList := by
  have hl : ∀ d : Decimal, IsNumeral (DecimalLayout.plain.decimalText d) := fun d =>
    isNumeral_positionalText Nat.toDigits_ne_nil
      (fun _ hc => Nat.isDigit_of_mem_toDigits (by decide) (by decide) hc) _
  unfold Double.isFinite at h
  unfold Double.text DecimalLayout.text
  cases hx : x.datum with
  | finite negative m e =>
    cases negative with
    | false => exact .inl (by simpa using hl _)
    | true => exact .inr ⟨_, by simp; rfl, hl _⟩
  | infinite => simp [hx] at h
  | nan => simp [hx] at h

end Rowgate.Sql
