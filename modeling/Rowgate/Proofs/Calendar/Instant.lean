/-
  The JSON text of an instant tells its SQL text.

  * `padded_inj`, `length_padded`: numbers with leading zeros;
  * `fractionText_inj`: the fraction tells the nanosecond;
  * `text_secondsText`, `text_nano`: two instants with one text agree in all that is written;
  * `sqlText_eq`: so they have one SQL text.
-/
import Mathlib.Tactic.SplitIfs
import Rowgate.Calendar.Instant
import Rowgate.Proofs.Sql.Lexeme
import Rowgate.Proofs.Sql.Numeral

namespace Rowgate

/-! ## Numbers with leading zeros -/

namespace Text

variable {w n n' : Nat}

theorem toList_padded (w n : Nat) : (padded w n).toList =
    List.replicate (w - (toString n).length) '0' ++ Nat.toDigits 10 n := by
  rw [padded, String.toList_append, String.toList_ofList,
    show (toString n).toList = Nat.toDigits 10 n from Nat.toList_repr]

theorem padded_isDigit (w n : Nat) : ∀ c ∈ (padded w n).toList, c.isDigit := by
  intro c hc
  rw [toList_padded] at hc
  rcases List.mem_append.1 hc with hc | hc
  · rw [List.eq_of_mem_replicate hc]
    rfl
  · exact Nat.isDigit_of_mem_toDigits (by decide) (by decide) hc

theorem ofDigitChars_padded (w n : Nat) : Nat.ofDigitChars 10 (padded w n).toList 0 = n := by
  rw [toList_padded, Nat.ofDigitChars_append, Nat.ofDigitChars_replicate_zero, Nat.mul_zero,
    Nat.ofDigitChars_ten_toDigits]

theorem padded_inj (h : padded w n = padded w n') : n = n' := by
  have := congrArg (fun s => Nat.ofDigitChars 10 s.toList 0) h
  simpa only [ofDigitChars_padded] using this

theorem length_padded (hw : 0 < w) (h : n < 10 ^ w) : (padded w n).toList.length = w := by
  have hlen : (toString n).length ≤ w := (Nat.length_repr_le_iff hw).2 h
  have hlist : (Nat.toDigits 10 n).length = (toString n).length := by
    rw [← Nat.toList_repr, String.length_toList]
    rfl
  rw [toList_padded, List.length_append, List.length_replicate, hlist]
  omega

end Text

namespace Instant

/-! ## The fraction of a second -/

/-- The digits of a fraction, with the places that they leave out. -/
theorem fractionText_cases {n : Nat} (hn : n < 1000000000) :
    (n = 0 ∧ fractionText n = "") ∨ ∃ w k, w ∈ [3, 6, 9] ∧ fractionText n = "." ++ Text.padded w k ∧
      k < 10 ^ w ∧ n = k * 10 ^ (9 - w) := by
  unfold fractionText
  split_ifs with h0 h3 h6
  · exact .inl ⟨h0, rfl⟩
  · exact .inr ⟨3, n / 1000000, by simp, rfl, by omega, by omega⟩
  · exact .inr ⟨6, n / 1000, by simp, rfl, by omega, by omega⟩
  · exact .inr ⟨9, n, by simp, rfl, by omega, by omega⟩

theorem fractionText_inj {n n' : Nat} (hn : n < 1000000000) (hn' : n' < 1000000000)
    (h : fractionText n = fractionText n') : n = n' := by
  rcases fractionText_cases hn with ⟨rfl, ht⟩ | ⟨w, k, hw, ht, hk, rfl⟩ <;>
    rcases fractionText_cases hn' with ⟨rfl, ht'⟩ | ⟨w', k', hw', ht', hk', rfl⟩
  · rfl
  · rw [ht, ht'] at h
    simpa using congrArg String.toList h
  · rw [ht, ht'] at h
    simpa using congrArg String.toList h
  · rw [ht, ht'] at h
    have hpad : Text.padded w k = Text.padded w' k' := by simpa using h
    have hpos : ∀ v ∈ [3, 6, 9], 0 < v := by decide
    have hlen := congrArg (fun s => s.toList.length) hpad
    simp only [Text.length_padded (hpos w hw) hk, Text.length_padded (hpos w' hw') hk'] at hlen
    subst hlen
    rw [Text.padded_inj hpad]

/-! ## The parts of a text -/

/-- The date. -/
def dateText (t : Instant) : String :=
  let d := t.date
  yearText d.year ++ "-" ++ Text.padded 2 d.month ++ "-" ++ Text.padded 2 d.day

/-- The time of day to the second. -/
def timeText (t : Instant) : String :=
  Text.padded 2 (t.second / 3600) ++ ":" ++ Text.padded 2 (t.second / 60 % 60) ++ ":" ++
    Text.padded 2 (t.second % 60 + t.nano / 1000000000)

theorem secondsText_eq (separator : String) (t : Instant) :
    secondsText separator t = dateText t ++ separator ++ timeText t := by
  simp [secondsText, dateText, timeText, String.append_assoc]

theorem yearText_chars (y : Int) : ∀ c ∈ (yearText y).toList, c.isDigit ∨ c = '-' ∨ c = '+' := by
  intro c hc
  rw [yearText, String.toList_append] at hc
  rcases List.mem_append.1 hc with hc | hc
  · split_ifs at hc <;> simp_all
  · exact .inl (Text.padded_isDigit 4 _ c hc)

theorem dateText_chars (t : Instant) :
    ∀ c ∈ (dateText t).toList, c.isDigit ∨ c = '-' ∨ c = '+' := by
  intro c hc
  simp only [dateText, String.toList_append, List.mem_append] at hc
  rcases hc with (((hc | hc) | hc) | hc) | hc
  · exact yearText_chars _ c hc
  · exact .inr (.inl (by simpa using hc))
  · exact .inl (Text.padded_isDigit _ _ c hc)
  · exact .inr (.inl (by simpa using hc))
  · exact .inl (Text.padded_isDigit _ _ c hc)

theorem timeText_chars (t : Instant) : ∀ c ∈ (timeText t).toList, c.isDigit ∨ c = ':' := by
  intro c hc
  simp only [timeText, String.toList_append, List.mem_append] at hc
  rcases hc with (((hc | hc) | hc) | hc) | hc
  · exact .inl (Text.padded_isDigit _ _ c hc)
  · exact .inr (by simpa using hc)
  · exact .inl (Text.padded_isDigit _ _ c hc)
  · exact .inr (by simpa using hc)
  · exact .inl (Text.padded_isDigit _ _ c hc)

theorem dateText_ne_letter (t : Instant) : ∀ c ∈ (dateText t).toList, c ≠ 'T' := by
  rintro c hc rfl
  simpa using dateText_chars t _ hc

theorem timeText_ne_point (t : Instant) : ∀ c ∈ (timeText t).toList, c ≠ '.' := by
  rintro c hc rfl
  simpa using timeText_chars t _ hc

theorem fractionText_head {n : Nat} (hn : n < 1000000000) :
    ∀ c ∈ (fractionText n).toList.head?, c = '.' := by
  rcases fractionText_cases hn with ⟨-, ht⟩ | ⟨w, k, -, ht, -⟩ <;> simp [ht]

theorem toList_text (t : Instant) : t.text.toList = (dateText t).toList ++
    'T' :: (((timeText t).toList ++ (fractionText (t.nano % 1000000000)).toList) ++ ['Z']) := by
  have hletter : "T".toList = ['T'] := by decide
  have hend : "Z".toList = ['Z'] := by decide
  simp only [text, secondsText_eq, String.toList_append, List.append_assoc, hletter, hend,
    List.cons_append, List.nil_append]

/-- Two instants with one text agree in everything that is written. -/
theorem text_parts {t t' : Instant} (h : t.text = t'.text) :
    dateText t = dateText t' ∧ timeText t = timeText t' ∧
      t.nano % 1000000000 = t'.nano % 1000000000 := by
  have hlt (n : Nat) : n % 1000000000 < 1000000000 := Nat.mod_lt _ (by decide)
  have hlist := congrArg String.toList h
  rw [toList_text, toList_text] at hlist
  obtain ⟨hdate, hrest⟩ := Sql.split_inj (dateText_ne_letter t) (dateText_ne_letter t')
    (by simp) (by simp) hlist
  have hrest := List.append_cancel_right (List.cons.inj hrest).2
  obtain ⟨htime, hfraction⟩ := Sql.split_inj (timeText_ne_point t) (timeText_ne_point t')
    (fractionText_head (hlt _)) (fractionText_head (hlt _)) hrest
  exact ⟨String.toList_inj.1 hdate, String.toList_inj.1 htime,
    fractionText_inj (hlt _) (hlt _) (String.toList_inj.1 hfraction)⟩

/-- Two instants with one JSON text have one SQL text. -/
theorem sqlText_eq {t t' : Instant} (h : t.text = t'.text) : t.sqlText = t'.sqlText := by
  obtain ⟨hdate, htime, hnano⟩ := text_parts h
  rw [sqlText, sqlText, secondsText_eq, secondsText_eq, hdate, htime, hnano]

end Instant

end Rowgate
