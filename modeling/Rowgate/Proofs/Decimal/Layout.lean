/-
  The decimal text of a double tells what double it is.

  * `numeralValue`: the number that a numeral stands for;
  * `decimalText_value`: the text of a decimal, in any layout, stands for that decimal;
  * `decimalText_parts`: it is digits with a point or without, and an exponent or none;
  * `text_datum_inj`: two finite doubles with one text are one number;
  * `text_spelled`: the plain text of a double is a numeral that rounds to it, or a word.
-/
import Mathlib.Data.List.TakeWhile
import Rowgate.Decimal.Layout
import Rowgate.Proofs.Decimal.Shortest

namespace Rowgate.DecimalLayout

open Decimal

/-! ## Numerals -/

/-- The number of digits with a point among them. -/
def pointValue (s : List Char) : ℚ :=
  Nat.ofDigitChars 10 (s.filter (· ≠ '.')) 0 *
    10 ^ (-((s.dropWhile (· ≠ '.')).tail.length : Int))

/-- The number of an exponent with its sign. -/
def exponentValue : List Char → Int
  | '-' :: r => -(Nat.ofDigitChars 10 r 0 : Int)
  | _ :: r => Nat.ofDigitChars 10 r 0
  | [] => 0

/-- The number of a numeral, with an exponent behind an `e` or without. -/
def numeralValue (s : List Char) : ℚ :=
  pointValue (s.takeWhile (· ≠ 'e')) * 10 ^ exponentValue (s.dropWhile (· ≠ 'e')).tail

/-- Digits and points. -/
def Unmarked (s : List Char) : Prop :=
  ∀ c ∈ s, c.isDigit ∨ c = '.'

variable {w f digits : List Char} {n : Int}

theorem ne_point {c : Char} (h : c.isDigit) : c ≠ '.' := by
  rintro rfl
  cases h

theorem filter_digits (hw : ∀ c ∈ w, c.isDigit) : w.filter (· ≠ '.') = w :=
  List.filter_eq_self.2 fun c hc => by simpa using ne_point (hw c hc)

theorem pointValue_point (hw : ∀ c ∈ w, c.isDigit) (hf : ∀ c ∈ f, c.isDigit) :
    pointValue (w ++ '.' :: f) = Nat.ofDigitChars 10 (w ++ f) 0 * 10 ^ (-(f.length : Int)) := by
  have hdrop : (w ++ '.' :: f).dropWhile (· ≠ '.') = '.' :: f := by
    rw [List.dropWhile_append_of_pos fun c hc => by simpa using ne_point (hw c hc)]
    simp
  unfold pointValue
  rw [hdrop, List.filter_append, List.filter_cons_of_neg (by simp), filter_digits hw,
    filter_digits hf, List.tail_cons]

theorem pointValue_whole (hw : ∀ c ∈ w, c.isDigit) : pointValue w = Nat.ofDigitChars 10 w 0 := by
  have hdrop : w.dropWhile (· ≠ '.') = [] := by
    rw [← List.append_nil w,
      List.dropWhile_append_of_pos fun c hc => by simpa using ne_point (hw c hc)]
    rfl
  unfold pointValue
  rw [hdrop, filter_digits hw]
  simp

theorem isDigit_replicate (n : Nat) : ∀ c ∈ List.replicate n '0', c.isDigit := by
  intro c hc
  rw [List.eq_of_mem_replicate hc]
  rfl

theorem isDigit_append (hw : ∀ c ∈ w, c.isDigit) (hf : ∀ c ∈ f, c.isDigit) :
    ∀ c ∈ w ++ f, c.isDigit := fun c hc =>
  (List.mem_append.1 hc).elim (hw c) (hf c)

theorem pointValue_leading (hd : ∀ c ∈ digits, c.isDigit) (hn : n ≤ 0) :
    pointValue ('0' :: '.' :: List.replicate (-n).toNat '0' ++ digits) =
      Nat.ofDigitChars 10 digits 0 * 10 ^ (n - digits.length) := by
  have hpoint := pointValue_point (w := ['0']) (by simp)
    (isDigit_append (isDigit_replicate (-n).toNat) hd)
  have hexp : -((List.replicate (-n).toNat '0' ++ digits).length : Int) = n - digits.length := by
    rw [List.length_append, List.length_replicate]
    omega
  rw [hexp] at hpoint
  rw [show '0' :: '.' :: List.replicate (-n).toNat '0' ++ digits =
    ['0'] ++ '.' :: (List.replicate (-n).toNat '0' ++ digits) from rfl, hpoint]
  simp [Nat.ofDigitChars_append, Nat.ofDigitChars_replicate_zero, Nat.ofDigitChars_cons]

theorem pointValue_trailing (pointZero : Bool) (hd : ∀ c ∈ digits, c.isDigit) (k : Nat) :
    pointValue (digits ++ List.replicate k '0' ++ if pointZero then ['.', '0'] else []) =
      Nat.ofDigitChars 10 digits 0 * 10 ^ k := by
  have hzeros := isDigit_append hd (isDigit_replicate k)
  have hvalue : Nat.ofDigitChars 10 (digits ++ List.replicate k '0') 0 =
      10 ^ k * Nat.ofDigitChars 10 digits 0 := by
    rw [Nat.ofDigitChars_append, Nat.ofDigitChars_replicate_zero]
  cases pointZero with
  | false =>
    rw [if_neg Bool.false_ne_true, List.append_nil, pointValue_whole hzeros, hvalue]
    push_cast
    ring
  | true =>
    rw [if_pos rfl, pointValue_point hzeros (by simp), Nat.ofDigitChars_append, hvalue]
    simp only [Nat.ofDigitChars_cons, Nat.ofDigitChars_nil, List.length_singleton]
    push_cast
    ring

/-- Digits with the point after the first `n`. -/
theorem pointValue_positional (pointZero : Bool) (hd : ∀ c ∈ digits, c.isDigit) :
    pointValue (positionalText pointZero digits n) =
      Nat.ofDigitChars 10 digits 0 * 10 ^ (n - digits.length) := by
  unfold positionalText
  by_cases hn : n ≤ 0
  · rw [if_pos hn]
    exact pointValue_leading hd hn
  rw [if_neg hn]
  by_cases hlen : digits.length ≤ n.toNat
  · have hpow : (10 : ℚ) ^ (n - digits.length) = 10 ^ (n.toNat - digits.length) := by
      rw [← zpow_natCast]
      congr 1
      omega
    rw [if_pos hlen, pointValue_trailing pointZero hd, hpow]
  · have hexp : -((digits.drop n.toNat).length : Int) = n - digits.length := by
      rw [List.length_drop]
      omega
    rw [if_neg hlen, pointValue_point (fun c hc => hd c (List.mem_of_mem_take hc))
      fun c hc => hd c (List.mem_of_mem_drop hc), List.take_append_drop, hexp]

/-! ## The text of a decimal -/

theorem unmarked_of_digits (hw : ∀ c ∈ w, c.isDigit) : Unmarked w :=
  fun c hc => .inl (hw c hc)

theorem Unmarked.append (hw : Unmarked w) (hf : Unmarked f) : Unmarked (w ++ f) :=
  fun c hc => (List.mem_append.1 hc).elim (hw c) (hf c)

theorem unmarked_point : Unmarked ['.'] := fun _ hc => .inr (List.mem_singleton.1 hc)

theorem Unmarked.ne_mark (h : Unmarked w) : ∀ c ∈ w, decide (c ≠ 'e') := by
  intro c hc
  rcases h c hc with hd | rfl
  · rw [decide_eq_true_eq]
    rintro rfl
    cases hd
  · decide

theorem unmarked_positional (pointZero : Bool) (hd : ∀ c ∈ digits, c.isDigit) :
    Unmarked (positionalText pointZero digits n) := by
  have hdigits := unmarked_of_digits hd
  have hzeros (k : Nat) := unmarked_of_digits (isDigit_replicate k)
  unfold positionalText
  split_ifs
  · exact ((unmarked_of_digits (w := ['0']) (by simp)).append unmarked_point).append
      ((hzeros _).append hdigits)
  · exact (hdigits.append (hzeros _)).append
      (unmarked_point.append (unmarked_of_digits (w := ['0']) (by simp)))
  · exact (hdigits.append (hzeros _)).append (by simp [Unmarked])
  · have htake : Unmarked (digits.take n.toNat) := fun c hc => hdigits c (List.mem_of_mem_take hc)
    exact htake.append (unmarked_point.append fun c hc => hdigits c (List.mem_of_mem_drop hc))

theorem numeralValue_unmarked (h : Unmarked w) : numeralValue w = pointValue w := by
  unfold numeralValue
  rw [List.takeWhile_eq_self_iff.2 h.ne_mark, List.dropWhile_eq_nil_iff.2 h.ne_mark]
  simp [exponentValue]

theorem numeralValue_exponent (h : Unmarked w) (r : List Char) :
    numeralValue (w ++ 'e' :: r) = pointValue w * 10 ^ exponentValue r := by
  unfold numeralValue
  rw [List.takeWhile_append_of_pos h.ne_mark, List.dropWhile_append_of_pos h.ne_mark]
  simp

/-- The first digit and a point before the others. -/
def mantissa : List Char → List Char
  | c :: d :: r => c :: '.' :: d :: r
  | s => s

theorem unmarked_mantissa (hd : ∀ c ∈ digits, c.isDigit) : Unmarked (mantissa digits) := by
  intro c hc
  match digits with
  | [] => cases hc
  | [a] => exact .inl (hd c hc)
  | a :: b :: r =>
    rcases List.mem_cons.1 hc with rfl | hc
    · exact .inl (hd c List.mem_cons_self)
    · rcases List.mem_cons.1 hc with rfl | hc
      · exact .inr rfl
      · exact .inl (hd c (List.mem_cons_of_mem _ hc))

theorem pointValue_mantissa (hne : digits ≠ []) (hd : ∀ c ∈ digits, c.isDigit) :
    pointValue (mantissa digits) =
      Nat.ofDigitChars 10 digits 0 * 10 ^ (1 - (digits.length : Int)) := by
  match digits with
  | [] => exact absurd rfl hne
  | [a] =>
    rw [show mantissa [a] = [a] from rfl, pointValue_whole hd]
    simp
  | a :: b :: r =>
    have hpoint := pointValue_point (w := [a]) (f := b :: r)
      (fun c hc => hd c (by rw [List.mem_singleton.1 hc]; exact List.mem_cons_self))
      fun c hc => hd c (List.mem_cons_of_mem _ hc)
    have hexp : -((b :: r).length : Int) = 1 - ((a :: b :: r).length : Int) := by
      simp only [List.length_cons]
      push_cast
      ring
    rwa [hexp] at hpoint

theorem exponentValue_signed (n : Int) :
    exponentValue ((if n < 0 then '-' else '+') :: Nat.toDigits 10 n.natAbs) = n := by
  split_ifs with hn
  · simp only [exponentValue, Nat.ofDigitChars_ten_toDigits]
    omega
  · have : exponentValue ('+' :: Nat.toDigits 10 n.natAbs) =
        (Nat.ofDigitChars 10 (Nat.toDigits 10 n.natAbs) 0 : Int) := rfl
    rw [this, Nat.ofDigitChars_ten_toDigits]
    omega

theorem numeralValue_scientific (hne : digits ≠ []) (hd : ∀ c ∈ digits, c.isDigit) :
    numeralValue (scientificText digits n) =
      Nat.ofDigitChars 10 digits 0 * 10 ^ (n + 1 - digits.length) := by
  have htext : scientificText digits n =
      mantissa digits ++ 'e' :: (if n < 0 then '-' else '+') :: Nat.toDigits 10 n.natAbs := rfl
  rw [htext, numeralValue_exponent (unmarked_mantissa hd), exponentValue_signed,
    pointValue_mantissa hne hd, mul_assoc, ← zpow_add₀ (by norm_num)]
  ring_nf

/-- The text of a decimal stands for that decimal. -/
theorem decimalText_value (l : DecimalLayout) (d : Decimal) :
    numeralValue (l.decimalText d) = d.value := by
  have hd : ∀ c ∈ Nat.toDigits 10 d.digits, c.isDigit := fun c hc =>
    Nat.isDigit_of_mem_toDigits (by decide) (by decide) hc
  unfold decimalText value
  dsimp only
  split_ifs
  · rw [numeralValue_unmarked (unmarked_positional _ hd), pointValue_positional _ hd,
      Nat.ofDigitChars_ten_toDigits, add_sub_cancel_right]
  · rw [numeralValue_scientific Nat.toDigits_ne_nil hd, Nat.ofDigitChars_ten_toDigits,
      sub_add_cancel, add_sub_cancel_right]

theorem positionalText_ne_nil (pointZero : Bool) (hne : digits ≠ []) :
    positionalText pointZero digits n ≠ [] := by
  unfold positionalText
  split_ifs <;> simp [hne]

theorem mantissa_ne_nil (hne : digits ≠ []) : mantissa digits ≠ [] := by
  match digits with
  | [] => exact hne
  | [_] => exact List.cons_ne_nil _ _
  | _ :: _ :: _ => exact List.cons_ne_nil _ _

/-- An exponent with its mark, or none. -/
def IsExponent (r : List Char) : Prop :=
  r = [] ∨ ∃ sign digits, r = 'e' :: sign :: digits ∧ (sign = '-' ∨ sign = '+') ∧
    ∀ c ∈ digits, c.isDigit

/-- A decimal is written as digits with a point or without, and an exponent or none. -/
theorem decimalText_parts (l : DecimalLayout) (d : Decimal) :
    ∃ w r, l.decimalText d = w ++ r ∧ w ≠ [] ∧ Unmarked w ∧ IsExponent r := by
  have hd (k : Nat) : ∀ c ∈ Nat.toDigits 10 k, c.isDigit := fun c hc =>
    Nat.isDigit_of_mem_toDigits (by decide) (by decide) hc
  unfold decimalText
  dsimp only
  split_ifs
  · exact ⟨_, [], (List.append_nil _).symm, positionalText_ne_nil _ Nat.toDigits_ne_nil,
      unmarked_positional _ (hd _), .inl rfl⟩
  · refine ⟨mantissa (Nat.toDigits 10 d.digits), _, rfl, mantissa_ne_nil Nat.toDigits_ne_nil,
      unmarked_mantissa (hd _), .inr ⟨_, _, rfl, ?_, hd _⟩⟩
    split_ifs <;> simp

/-- The first character of a decimal is no sign. -/
theorem decimalText_head (l : DecimalLayout) (d : Decimal) :
    (l.decimalText d).head? ≠ some '-' := by
  obtain ⟨w, r, htext, hne, hw, -⟩ := decimalText_parts l d
  obtain ⟨c, t, rfl⟩ := List.exists_cons_of_ne_nil hne
  rw [htext, List.cons_append, List.head?_cons, ne_eq, Option.some_inj]
  rintro rfl
  rcases hw '-' List.mem_cons_self with h | h <;> cases h

/-- With `.0` behind whole numbers every decimal has a point or an exponent. -/
theorem exists_mark {l : DecimalLayout} (hl : l.pointZero) (d : Decimal) :
    ∃ c ∈ l.decimalText d, c = '.' ∨ c = 'e' := by
  unfold decimalText
  dsimp only
  rw [hl]
  split_ifs
  · refine ⟨'.', ?_, .inl rfl⟩
    unfold positionalText
    split_ifs <;> simp_all
  · exact ⟨'e', by simp [scientificText], .inr rfl⟩

/-! ## The text of a double -/

theorem normal_of_datum {x : Double} {negative : Bool} {m : Nat} {e : Int}
    (h : x.datum = .finite negative m e) : Normal m e := by
  have hfraction : BinaryFormat.binary64.fractionBits = 52 := rfl
  have hexponent : BinaryFormat.binary64.exponentBits = 11 := rfl
  unfold Double.datum BinaryFormat.decode at h
  dsimp only at h
  split_ifs at h with hfull hpayload hzero
  · obtain ⟨-, rfl, rfl⟩ := Datum.finite.inj h
    rw [hfraction, minExponent_binary64]
    exact ⟨by omega, by omega, by omega, .inr rfl⟩
  · obtain ⟨-, rfl, rfl⟩ := Datum.finite.inj h
    rw [hfraction, hexponent] at hfull hzero ⊢
    rw [minExponent_binary64]
    exact ⟨by omega, by omega, by omega, .inl (by omega)⟩

theorem isFinite_iff {x : Double} : x.isFinite ↔ ∃ negative m e, x.datum = .finite negative m e := by
  unfold Double.isFinite
  cases x.datum <;> simp

/-- The characters of a finite double: a minus sign or none, and a decimal. -/
def finiteText (l : DecimalLayout) (negative : Bool) (m : Nat) (e : Int) : List Char :=
  (if negative then ['-'] else []) ++ l.decimalText (.shortest l.tie m e)

theorem text_finite (l : DecimalLayout) {x : Double} {negative : Bool} {m : Nat} {e : Int}
    (h : x.datum = .finite negative m e) : (l.text x).toList = finiteText l negative m e := by
  simp [text, h, finiteText]

theorem finiteText_inj {l : DecimalLayout} {s t : Bool} {m m' : Nat} {e e' : Int}
    (hm : Normal m e) (hm' : Normal m' e') (h : finiteText l s m e = finiteText l t m' e') :
    s = t ∧ m = m' ∧ e = e' := by
  have hhead := decimalText_head l (.shortest l.tie m e)
  have hhead' := decimalText_head l (.shortest l.tie m' e')
  unfold finiteText at h
  have hsign : s = t := by
    cases s <;> cases t
    · rfl
    · rw [if_neg Bool.false_ne_true, if_pos rfl, List.nil_append] at h
      exact absurd (congrArg List.head? h) hhead
    · rw [if_neg Bool.false_ne_true, if_pos rfl, List.nil_append] at h
      exact absurd (congrArg List.head? h).symm hhead'
    · rfl
  subst hsign
  have hvalue := congrArg numeralValue (List.append_cancel_left h)
  rw [decimalText_value, decimalText_value] at hvalue
  exact ⟨rfl, shortest_value_inj hm hm' hvalue⟩

/-- Finite doubles with one text are one number. -/
theorem text_datum_inj (l : DecimalLayout) {x y : Double} (hx : x.isFinite) (hy : y.isFinite)
    (h : l.text x = l.text y) : x.datum = y.datum := by
  obtain ⟨s, m, e, hxd⟩ := isFinite_iff.1 hx
  obtain ⟨t, m', e', hyd⟩ := isFinite_iff.1 hy
  have htext := congrArg String.toList h
  rw [text_finite l hxd, text_finite l hyd] at htext
  obtain ⟨rfl, rfl, rfl⟩ := finiteText_inj (normal_of_datum hxd) (normal_of_datum hyd) htext
  rw [hxd, hyd]

/-- A text that stands for a double: behind a minus sign or none a numeral that rounds to it; a
    word for an infinity or what is no number. -/
inductive SpelledBy (x : Double) (s : String) : Prop
  | finite {negative : Bool} {m : Nat} {e : Int} {numeral : List Char}
      (hx : x.datum = .finite negative m e)
      (hs : s.toList = (if negative then ['-'] else []) ++ numeral)
      (hnumeral : (interval m e).Contains (numeralValue numeral))
  | infinite {negative : Bool} (hx : x.datum = .infinite negative)
      (hs : s = if negative then "-inf" else "inf")
  | nan {negative : Bool} {payload : Nat} (hx : x.datum = .nan negative payload) (hs : s = "NaN")

theorem interval_zero (e : Int) : (interval 0 e).Contains 0 where
  lo_le := by simp [lo_interval]
  le_hi := mul_nonneg (Nat.cast_nonneg _) (two_zpow_pos _).le
  open_ends h := by simp [interval] at h

theorem text_spelled (x : Double) : SpelledBy x x.text := by
  cases hx : x.datum with
  | nan negative payload => exact .nan hx (by rw [Double.text, text, hx]; rfl)
  | infinite negative => exact .infinite hx (by rw [Double.text, text, hx]; rfl)
  | finite negative m e =>
    refine .finite hx (text_finite plain hx) ?_
    rw [decimalText_value]
    by_cases hm : m = 0
    · subst hm
      rw [shortest_zero]
      exact interval_zero e
    · exact shortest_contains _ hm (normal_of_datum hx)

end Rowgate.DecimalLayout
