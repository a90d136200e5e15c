/-
  JSON strings are read back.

  * `scanString_escaped`: the reader finds what was escaped, and what follows the string;
  * `joinUnits_escaped`: what it finds is the text;
  * `stringChars_append_inj`: a JSON string at the head of a text is found in one way only.
-/
import Mathlib.Tactic.SplitIfs
import Rowgate.Json.Reader

namespace Rowgate.Json

/-- What the reader finds for an escaped character: the character, or its number for a control
    character without an escape of one letter. -/
def escapedAs (c : Char) : StringUnit :=
  if 0x20 ≤ c.toNat ∨ c.toNat ∈ [8, 9, 10, 12, 13] then .char c else .code c.toNat

theorem fourDigits?_escapedUnit {n : Nat} (h : n < 32) :
    fourDigits? (Text.hexDigit (n / 4096 % 16)) (Text.hexDigit (n / 256 % 16))
      (Text.hexDigit (n / 16 % 16)) (Text.hexDigit (n % 16)) = some n := by
  revert n
  decide

/-- An escape of one letter. -/
theorem scanString_letter {e c : Char} (hu : e ≠ 'u') (he : escape? e = some c) (s : List Char) :
    scanString ('\\' :: e :: s) =
      (scanString s).map fun (units, rest) => (.char c :: units, rest) := by
  rw [scanString]
  · rw [he]
    cases scanString s <;> rfl
  · exact fun _ _ _ _ _ h => absurd h hu

/-- One escaped character is read as one unit. -/
theorem scanString_escapedChar (c : Char) (s : List Char) :
    scanString (escapedChar c ++ s) =
      (scanString s).map fun (units, rest) => (escapedAs c :: units, rest) := by
  have hnat {n : Nat} (h : c.toNat = n) : c = Char.ofNat n := by rw [← h, Char.ofNat_toNat]
  unfold escapedChar
  split_ifs with hquote hback hplain h8 h9 h10 h12 h13
  · subst hquote
    exact scanString_letter (by decide) rfl s
  · subst hback
    exact scanString_letter (by decide) rfl s
  · have hc : ¬ c.toNat < 0x20 := by omega
    have hunit : escapedAs c = .char c := if_pos (.inl hplain)
    rw [List.singleton_append, scanString, if_neg hc, hunit]
    · cases scanString s <;> rfl
    all_goals simp [hquote, hback]
  · rw [hnat h8]
    exact scanString_letter (by decide) rfl s
  · rw [hnat h9]
    exact scanString_letter (by decide) rfl s
  · rw [hnat h10]
    exact scanString_letter (by decide) rfl s
  · rw [hnat h12]
    exact scanString_letter (by decide) rfl s
  · rw [hnat h13]
    exact scanString_letter (by decide) rfl s
  · have hunit : escapedAs c = .code c.toNat := if_neg (by simp; omega)
    have hc := fourDigits?_escapedUnit (n := c.toNat) (by omega)
    rw [hunit]
    simp only [escapedUnit, List.cons_append, List.nil_append, scanString, hc]
    cases scanString s <;> rfl

theorem scanString_escaped (s rest : List Char) :
    scanString (s.flatMap escapedChar ++ '"' :: rest) = some (s.map escapedAs, rest) := by
  induction s with
  | nil => simp [scanString]
  | cons c s ih =>
    rw [List.flatMap_cons, List.append_assoc, scanString_escapedChar, ih]
    rfl

/-- A code unit that is no half of a pair. -/
theorem joinUnits_code {n : Nat} (h : n < 0xD800) (units : List StringUnit) :
    joinUnits (.code n :: units) = (joinUnits units).map (Char.ofNat n :: ·) := by
  cases units with
  | nil => simp [joinUnits, h]
  | cons u units => cases u <;> simp [joinUnits, h]

theorem joinUnits_escaped (s : List Char) : joinUnits (s.map escapedAs) = some s := by
  induction s with
  | nil => rfl
  | cons c s ih =>
    rw [List.map_cons]
    by_cases hc : 0x20 ≤ c.toNat ∨ c.toNat ∈ [8, 9, 10, 12, 13]
    · rw [escapedAs, if_pos hc, joinUnits, ih]
      rfl
    · have hcode : c.toNat < 0xD800 := by
        rw [not_or] at hc
        omega
      rw [escapedAs, if_neg hc, joinUnits_code hcode, ih, Char.ofNat_toNat]
      rfl

/-- A JSON string at the head of a text is found in one way only. -/
theorem stringChars_append_inj {s s' : String} {r r' : List Char}
    (h : stringChars escapedChar s ++ r = stringChars escapedChar s' ++ r') : s = s' ∧ r = r' := by
  simp only [stringChars, List.cons_append, List.append_assoc, List.cons.injEq, true_and,
    List.nil_append] at h
  have hscan := scanString_escaped s.toList r
  rw [h, scanString_escaped, Option.some_inj, Prod.mk.injEq] at hscan
  obtain ⟨hunits, hrest⟩ := hscan
  have hjoin := joinUnits_escaped s.toList
  rw [← hunits, joinUnits_escaped, Option.some_inj] at hjoin
  exact ⟨String.toList_inj.1 hjoin.symm, hrest.symm⟩

end Rowgate.Json
