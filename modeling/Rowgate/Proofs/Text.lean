/-
  Characters of words and numbers.

  * `of_ascii`, `of_all`: what holds of characters, from each of them;
  * `mem_of_hexValue?`: the digits of base sixteen;
  * `mem_of_sameWord`, `of_mem_sameWord`: words that agree have the same letters, in one case or
    the other.
-/
import Mathlib.Tactic.SplitIfs
import Rowgate.Text.Case
import Rowgate.Text.Hex

namespace Rowgate.Text

variable {c d : Char}

/-- What holds of a character below U+0080, from all of them. -/
theorem of_ascii {P : Char → Prop} (h : ∀ n < 128, P (Char.ofNat n)) (hc : c.toNat < 128) : P c := by
  simpa using h c.toNat hc

/-- What holds of all characters of a text, from each of them. -/
theorem of_all {P : Char → Prop} [DecidablePred P] {l : List Char}
    (h : l.all fun c => decide (P c)) : ∀ c ∈ l, P c := by
  simpa using h

theorem eq_or_eq_toUpper (h : c.toLower = d) : c = d ∨ c = d.toUpper := by
  subst h
  by_cases hc : c.toNat < 128
  · exact of_ascii (P := fun c => c = c.toLower ∨ c = c.toLower.toUpper) (by decide) hc
  · left
    unfold Char.toLower
    rw [dif_neg]
    rintro ⟨-, hz⟩
    exact hc (Nat.lt_of_le_of_lt (UInt32.le_iff_toNat_le.1 hz) (by decide))

theorem mem_of_hexValue? (h : (hexValue? c).isSome) : c ∈ "0123456789abcdefABCDEF".toList := by
  have hc : c.toNat < 128 := by
    unfold hexValue? at h
    split_ifs at h with h₁ h₂ h₃
    · exact Nat.lt_of_le_of_lt h₁.2 (by decide)
    · exact Nat.lt_of_le_of_lt h₂.2 (by decide)
    · exact Nat.lt_of_le_of_lt h₃.2 (by decide)
    · cases h
  revert h
  exact of_ascii (P := fun c => (hexValue? c).isSome → c ∈ "0123456789abcdefABCDEF".toList)
    (by decide) hc

/-- A word has the characters of every word that it agrees with, in one case or the other. -/
theorem mem_of_sameWord {s w : List Char} (h : sameWord s w) (hd : d ∈ lower w) :
    d ∈ s ∨ d.toUpper ∈ s := by
  rw [← of_decide_eq_true h] at hd
  obtain ⟨c, hc, hcd⟩ := List.mem_map.1 hd
  rcases eq_or_eq_toUpper hcd with rfl | rfl
  · exact .inl hc
  · exact .inr hc

/-- A word has no characters but those of a word that it agrees with, in one case or the other. -/
theorem of_mem_sameWord {s w : List Char} (h : sameWord s w) (hc : c ∈ s) :
    ∃ d ∈ lower w, c = d ∨ c = d.toUpper :=
  ⟨c.toLower, of_decide_eq_true h ▸ List.mem_map_of_mem hc, eq_or_eq_toUpper rfl⟩

end Rowgate.Text
