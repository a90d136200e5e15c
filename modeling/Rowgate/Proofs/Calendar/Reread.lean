/-
  The JSON text of an instant is read as that instant.

  * `number?_append`: a run of digits is read off what follows it;
  * `year?_yearText`, `part?_padded`, `fraction?_fractionText`: so are the parts of a text;
  * `parts?_secondsText`: and then date and time together, for every way to part them;
  * `ofReading?_reading`: the parts of an instant make it up again;
  * `relaxed?_text`: the reader of values gives back the instant.
-/
import Rowgate.Proofs.Calendar.Date
import Rowgate.Proofs.Calendar.Instant
import Rowgate.Proofs.Calendar.Reader
import Rowgate.Proofs.Json.Numeral

namespace Rowgate.Instant

open Json (NoDigit)

variable {w r s : List Char} {c : Char} {n : Nat}

/-! ## The readers -/

theorem noDigit_cons (hc : c.isDigit = false) (s : List Char) : NoDigit (c :: s) := by
  intro d hd
  obtain rfl : c = d := Option.some.inj hd
  exact hc

theorem noDigit_take (hr : NoDigit r) (k : Nat) : NoDigit (r.take k) := by
  cases k with
  | zero => nofun
  | succ k =>
    cases r with
    | nil => nofun
    | cons c r => exact hr

/-- A run of digits before something else. -/
theorem number?_append {least most : Nat} (hne : w ≠ []) (hw : ∀ c ∈ w, c.isDigit)
    (hleast : least ≤ w.length) (hmost : w.length ≤ most) (hr : NoDigit r) :
    number? least most (w ++ r) = some (Nat.ofDigitChars 10 w 0, r) := by
  have hdigits : ((w ++ r).take most).takeWhile Char.isDigit = w := by
    rw [List.take_append, List.take_of_length_le hmost]
    exact Sql.takeWhile_append_eq hw (noDigit_take hr _)
  unfold number?
  dsimp only
  rw [hdigits, if_neg (by omega), JsonNumber.digits?_eq hne hw, List.drop_left]
  rfl

theorem padded_ne_nil (w n : Nat) : (Text.padded w n).toList ≠ [] := by
  rw [Text.toList_padded]
  exact List.append_ne_nil_of_right_ne_nil _ Nat.toDigits_ne_nil

/-- A number with leading zeros is read as that number. -/
theorem number?_padded {least most w : Nat} (hleast : least ≤ (Text.padded w n).toList.length)
    (hmost : (Text.padded w n).toList.length ≤ most) (hr : NoDigit r) :
    number? least most ((Text.padded w n).toList ++ r) = some (n, r) := by
  rw [number?_append (padded_ne_nil w n) (Text.padded_isDigit w n) hleast hmost hr,
    Text.ofDigitChars_padded]

theorem skipBlanks_cons (hc : Text.isBlank c = false) (s : List Char) :
    Text.skipBlanks (c :: s) = c :: s := by
  rw [Text.skipBlanks, List.dropWhile_cons_of_neg (by simp [hc])]

theorem isBlank_of_isDigit (hc : c.isDigit) : Text.isBlank c = false := by
  have hrange : 48 ≤ c.toNat ∧ c.toNat ≤ 57 := by
    simpa [Char.isDigit, UInt32.le_iff_toNat_le] using hc
  simp only [Text.isBlank, Bool.or_eq_false_iff, Bool.and_eq_false_iff, decide_eq_false_iff_not,
    beq_eq_false_iff_ne]
  omega

theorem skipBlanks_padded (w n : Nat) (r : List Char) :
    Text.skipBlanks ((Text.padded w n).toList ++ r) = (Text.padded w n).toList ++ r := by
  obtain ⟨c, t, ht⟩ := List.exists_cons_of_ne_nil (padded_ne_nil w n)
  have hc : c.isDigit := Text.padded_isDigit w n c (ht ▸ List.mem_cons_self)
  rw [ht]
  exact skipBlanks_cons (isBlank_of_isDigit hc) _

theorem part?_padded (hn : n < 100) (hr : NoDigit r) :
    part? ((Text.padded 2 n).toList ++ r) = some (n, r) := by
  have hlen := Text.length_padded (w := 2) (by decide) hn
  rw [part?, skipBlanks_padded]
  exact number?_padded (by omega) (by omega) hr

theorem year?_minus (s : List Char) :
    year? ('-' :: s) = (number? 1 s.length s).map fun (n, r) => (-(n : Int), r) := by
  rw [year?, skipBlanks_cons (by decide)]
  rfl

theorem year?_plus (s : List Char) :
    year? ('+' :: s) = (number? 1 s.length s).map fun (n, r) => ((n : Int), r) := by
  rw [year?, skipBlanks_cons (by decide)]
  rfl

theorem year?_digit (hc : c.isDigit) (s : List Char) :
    year? (c :: s) = (number? 1 4 (c :: s)).map fun (n, r) => ((n : Int), r) := by
  rw [year?, skipBlanks_cons (isBlank_of_isDigit hc)]
  split
  case h_1 heq =>
    obtain rfl := (List.cons.inj heq).1
    cases hc
  case h_2 heq =>
    obtain rfl := (List.cons.inj heq).1
    cases hc
  case h_3 => rfl

/-- Every year is read off its text: a sign stands before those that have not four digits. -/
theorem year?_yearText (y : Int) (hr : NoDigit r) :
    year? ((yearText y).toList ++ r) = some (y, r) := by
  have hlen : 1 ≤ (Text.padded 4 y.natAbs).toList.length :=
    List.length_pos_iff.2 (padded_ne_nil 4 _)
  have hsigned : number? 1 ((Text.padded 4 y.natAbs).toList ++ r).length
      ((Text.padded 4 y.natAbs).toList ++ r) = some (y.natAbs, r) :=
    number?_padded hlen (by simp) hr
  rw [yearText, String.toList_append, List.append_assoc]
  split_ifs with hplain hnegative
  · have hwidth := Text.length_padded (w := 4) (by decide) (show y.natAbs < 10 ^ 4 by omega)
    have hread : number? 1 4 ((Text.padded 4 y.natAbs).toList ++ r) = some (y.natAbs, r) :=
      number?_padded hlen (by omega) hr
    obtain ⟨c, t, ht⟩ := List.exists_cons_of_ne_nil (padded_ne_nil 4 y.natAbs)
    have hc : c.isDigit := Text.padded_isDigit 4 y.natAbs c (ht ▸ List.mem_cons_self)
    rw [ht, List.cons_append] at hread
    rw [String.toList_empty, List.nil_append, ht, List.cons_append, year?_digit hc, hread]
    exact congrArg (fun k => some (k, r)) (show (y.natAbs : Int) = y by omega)
  · have hsign : "-".toList = ['-'] := by decide
    rw [hsign, List.cons_append, List.nil_append, year?_minus, hsigned]
    exact congrArg (fun k => some (k, r)) (show -(y.natAbs : Int) = y by omega)
  · have hsign : "+".toList = ['+'] := by decide
    rw [hsign, List.cons_append, List.nil_append, year?_plus, hsigned]
    exact congrArg (fun k => some (k, r)) (show (y.natAbs : Int) = y by omega)

theorem fraction?_point (h : number? 1 9 s = some (n, r)) :
    fraction? ('.' :: s) =
      some (n * 10 ^ (9 - (s.length - r.length)), r.dropWhile Char.isDigit) := by
  rw [fraction?, h]
  rfl

theorem fraction?_fractionText (hn : n < 1000000000) (s : List Char) :
    fraction? ((fractionText n).toList ++ 'Z' :: s) = some (n, 'Z' :: s) := by
  have hend : NoDigit ('Z' :: s) := noDigit_cons rfl s
  rcases fractionText_cases hn with ⟨rfl, ht⟩ | ⟨w, k, hw, ht, hk, rfl⟩
  · rw [ht]
    rfl
  · have hwidth : 0 < w ∧ w ≤ 9 := by
      simp only [List.mem_cons, List.not_mem_nil, or_false] at hw
      omega
    have hlen := Text.length_padded hwidth.1 hk
    have hread : number? 1 9 ((Text.padded w k).toList ++ 'Z' :: s) = some (k, 'Z' :: s) :=
      number?_padded (by omega) (by omega) hend
    have hpoint : (fractionText (k * 10 ^ (9 - w))).toList ++ 'Z' :: s =
        '.' :: ((Text.padded w k).toList ++ 'Z' :: s) := by
      rw [ht, String.toList_append]
      rfl
    rw [hpoint, fraction?_point hread, List.length_append, Nat.add_sub_cancel, hlen]
    rfl

/-- What follows the seconds begins with no digit. -/
theorem noDigit_fractionText (hn : n < 1000000000) :
    NoDigit ((fractionText n).toList ++ ['Z']) := by
  rcases fractionText_cases hn with ⟨-, ht⟩ | ⟨w, k, -, ht, -⟩
  · rw [ht, String.toList_empty, List.nil_append]
    exact noDigit_cons rfl []
  · have hpoint : ".".toList = ['.'] := by decide
    rw [ht, String.toList_append, hpoint]
    exact noDigit_cons rfl _

/-! ## Whole texts -/

/-- The parts that the text of an instant is made of. -/
def reading (t : Instant) : Reading :=
  ⟨t.date, t.second / 3600, t.second / 60 % 60, t.second % 60 + t.nano / 1000000000,
    t.nano % 1000000000⟩

/-- The parts of an instant make it up again; only a leap second has a second of 60. -/
theorem ofReading?_reading (t : Instant) : ofReading? (reading t) 0 = some t := by
  obtain ⟨day, second, nano, hvalid⟩ := t
  obtain ⟨hfirst, hlast, hsecond, hnano⟩ := hvalid
  have hday : (Date.ofDayNumber day).dayNumber = day := Date.dayNumber_ofDayNumber day
  have hdate : (Date.ofDayNumber day).isValid := Date.isValid_ofDayNumber day
  have hinside : second / 3600 < 24 ∧ second / 60 % 60 < 60 ∧
      second % 60 + nano / 1000000000 ≤ 60 := by omega
  have hleap : second % 60 + nano / 1000000000 = 60 ↔ 1000000000 ≤ nano := by omega
  have htotal : day * 86400 + ((second / 3600 * 3600 + second / 60 % 60 * 60 +
      (if second % 60 + nano / 1000000000 = 60 then 59 else second % 60 + nano / 1000000000) : ℕ) :
        Int) - 0 = day * 86400 + second := by
    split_ifs <;> omega
  have hwhole : nano % 1000000000 +
      (if second % 60 + nano / 1000000000 = 60 then 1000000000 else 0) = nano := by
    split_ifs <;> omega
  have hsplit : (day * 86400 + second) / 86400 = day ∧
      ((day * 86400 + second) % 86400).toNat = second := by omega
  unfold ofReading? reading date
  dsimp only
  rw [if_pos ⟨hdate, hday.symm ▸ hfirst, hday.symm ▸ hlast, hinside.1, hinside.2.1, hinside.2.2,
    by decide, by decide⟩, hday, htotal, hwhole, hsplit.1, hsplit.2]
  exact dif_pos ⟨hfirst, hlast, hsecond, hnano⟩

/-- The parts of date and time, with a character between these and what reads on behind it, and a
    fraction that is read off the rest. -/
theorem parts?_secondsText (gap : List Char → List Char)
    (between : List Char → Option (List Char)) {separator : String} (hs : separator.toList = [c])
    (hc : c.isDigit = false)
    (hgap : ∀ s, gap ('-' :: s) = '-' :: s ∧ gap (':' :: s) = ':' :: s)
    (hbetween : ∀ k s, between (c :: ((Text.padded 2 k).toList ++ s)) =
      some ((Text.padded 2 k).toList ++ s))
    (t : Instant) (hr : NoDigit r) (hf : fraction? r = some (n, s)) :
    parts? gap between ((secondsText separator t).toList ++ r) =
      some ({ reading t with nano := n }, s) := by
  have hdate : t.date.month < 100 ∧ t.date.day < 100 :=
    Date.lt_hundred (Date.isValid_ofDayNumber t.day)
  have hvalid := t.valid
  unfold Valid at hvalid
  have htext : (secondsText separator t).toList ++ r = (yearText t.date.year).toList ++ '-' ::
      ((Text.padded 2 t.date.month).toList ++ '-' :: ((Text.padded 2 t.date.day).toList ++ c ::
      ((Text.padded 2 (t.second / 3600)).toList ++ ':' ::
      ((Text.padded 2 (t.second / 60 % 60)).toList ++ ':' ::
      ((Text.padded 2 (t.second % 60 + t.nano / 1000000000)).toList ++ r))))) := by
    simp [secondsText, hs, List.append_assoc]
  have hmark {d : Char} (s : List Char) : char? d (d :: s) = some s := if_pos rfl
  rw [htext, parts?, year?_yearText _ (noDigit_cons rfl _)]
  simp only [Option.bind_eq_bind, Option.bind_some, (hgap _).1, hmark]
  rw [part?_padded hdate.1 (noDigit_cons rfl _)]
  simp only [Option.bind_some, (hgap _).1, hmark]
  rw [part?_padded hdate.2 (noDigit_cons hc _)]
  simp only [Option.bind_some, hbetween]
  rw [part?_padded (by omega) (noDigit_cons rfl _)]
  simp only [Option.bind_some, (hgap _).2, hmark]
  rw [part?_padded (by omega) (noDigit_cons rfl _)]
  simp only [Option.bind_some, (hgap _).2, hmark]
  rw [part?_padded (by omega) hr]
  simp only [Option.bind_some, hf, Option.pure_def, reading]

theorem parts?_text (t : Instant) :
    parts? Text.skipBlanks between? t.text.toList = some (reading t, ['Z']) := by
  have hlt : t.nano % 1000000000 < 1000000000 := Nat.mod_lt _ (by decide)
  have htext : t.text.toList = (secondsText "T" t).toList ++
      ((fractionText (t.nano % 1000000000)).toList ++ ['Z']) := by
    simp [text, List.append_assoc]
  have hskip (s : List Char) : Text.skipBlanks ('-' :: s) = '-' :: s ∧
      Text.skipBlanks (':' :: s) = ':' :: s :=
    ⟨skipBlanks_cons (by decide) s, skipBlanks_cons (by decide) s⟩
  have hletter (s : List Char) : between? ('T' :: s) = some s := rfl
  rw [htext, parts?_secondsText Text.skipBlanks between? (c := 'T') (by decide) (by decide) hskip
    (fun _ _ => hletter _) t (noDigit_fractionText hlt) (fraction?_fractionText hlt [])]
  rfl

theorem relaxed?_text (t : Instant) : relaxed? t.text = some t := by
  have hoffset : relaxedOffset? (Text.skipBlanks ['Z']) = some (0, []) := by decide
  rw [relaxed?, parts?_text]
  simp only [Option.bind_eq_bind, Option.bind_some, hoffset]
  exact ofReading?_reading t

end Rowgate.Instant
