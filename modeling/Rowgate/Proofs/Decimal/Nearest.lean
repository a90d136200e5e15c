/-
  The pattern that is computed for a ratio is that of a nearest number of the format.

  * `BinaryFormat.Has`, `BinaryFormat.Nearest`: the finite numbers of a format, and those to
    which none of them is nearer;
  * `scale_spec`: the exponent at which a ratio has a significand of full width;
  * `decode_pack`: a significand and an exponent are found again in the pattern made of them;
  * `nearest_spec`: the pattern stands for a nearest number, and it is infinity from half a
    place above the greatest one on.
-/
import Mathlib.Algebra.Order.Field.Basic
import Mathlib.Algebra.Order.Field.Power
import Mathlib.Data.Rat.Cast.Order
import Mathlib.Tactic.Linarith
import Mathlib.Tactic.NormNum
import Mathlib.Tactic.Positivity
import Mathlib.Tactic.Ring
import Rowgate.Proofs.Decimal.Interval

namespace Rowgate

/-! ## Rounding to a whole number -/

section Round

variable {n d k : Nat}

/-- What is left over is at most half of the divisor. -/
theorem roundHalfEven_near (hd : 0 < d) :
    2 * n ≤ (2 * roundHalfEven n d + 1) * d ∧ 2 * roundHalfEven n d * d ≤ 2 * n + d := by
  have hdiv := Nat.div_add_mod n d
  have hmod := Nat.mod_lt n hd
  unfold roundHalfEven
  dsimp only
  generalize n / d = q at *
  generalize n % d = r at *
  subst hdiv
  split_ifs with h
  · have hr : d ≤ 2 * r := by
      simp only [gt_iff_lt, Bool.or_eq_true, decide_eq_true_eq, Bool.and_eq_true] at h
      omega
    constructor <;> nlinarith
  · have hr : 2 * r ≤ d := by
      simp only [gt_iff_lt, Bool.or_eq_true, decide_eq_true_eq, Bool.and_eq_true] at h
      omega
    constructor <;> nlinarith

theorem le_roundHalfEven (hd : 0 < d) (h : k * d ≤ n) : k ≤ roundHalfEven n d := by
  by_contra hlt
  have hle : roundHalfEven n d + 1 ≤ k := by omega
  have hmul := Nat.mul_le_mul_right d hle
  have hnear := (roundHalfEven_near (n := n) hd).1
  nlinarith

theorem roundHalfEven_le (hd : 0 < d) (h : n ≤ k * d) : roundHalfEven n d ≤ k := by
  by_contra hlt
  have hle : k + 1 ≤ roundHalfEven n d := by omega
  have hmul := Nat.mul_le_mul_right d hle
  have hnear := (roundHalfEven_near (n := n) hd).2
  nlinarith

/-- The error is at most one half. -/
theorem roundHalfEven_error (hd : 0 < d) : |(n : ℚ) / d - roundHalfEven n d| ≤ 1 / 2 := by
  have hpos : (0 : ℚ) < d := by exact_mod_cast hd
  obtain ⟨habove, hbelow⟩ := roundHalfEven_near (n := n) hd
  have habove : (2 : ℚ) * n ≤ (2 * roundHalfEven n d + 1) * d := by exact_mod_cast habove
  have hbelow : (2 : ℚ) * roundHalfEven n d * d ≤ 2 * n + d := by exact_mod_cast hbelow
  rw [abs_le, le_sub_iff_add_le, sub_le_iff_le_add, le_div_iff₀ hpos, div_le_iff₀ hpos]
  constructor <;> linarith

/-- No whole number is nearer. -/
theorem roundHalfEven_nearest (hd : 0 < d) (k : ℤ) :
    |(n : ℚ) / d - roundHalfEven n d| ≤ |(n : ℚ) / d - k| := by
  by_cases hk : k = roundHalfEven n d
  · rw [hk, Int.cast_natCast]
  · have hone : (1 : ℚ) ≤ |(k : ℚ) - roundHalfEven n d| := by
      have : 1 ≤ |k - (roundHalfEven n d : ℤ)| := Int.one_le_abs (sub_ne_zero.2 hk)
      exact_mod_cast this
    have htriangle := abs_sub_le (k : ℚ) ((n : ℚ) / d) (roundHalfEven n d)
    rw [abs_sub_comm (k : ℚ) (n / d)] at htriangle
    have hhalf := roundHalfEven_error (n := n) hd
    linarith

end Round

namespace BinaryFormat

open Decimal (two_zpow_pos)

variable {f : BinaryFormat} {m : Nat} {e : Int} {v y : ℚ}

/-! ## The numbers of a format -/

/-- The exponent of the last place of the greatest numbers. -/
def maxExponent (f : BinaryFormat) : Int :=
  f.minExponent + 2 ^ f.exponentBits - 3

/-- A significand of full width, or a smaller one with the least exponent. -/
structure Holds (f : BinaryFormat) (m : Nat) (e : Int) : Prop where
  width : m < 2 ^ (f.fractionBits + 1)
  least : f.minExponent ≤ e
  greatest : e ≤ f.maxExponent
  full : 2 ^ f.fractionBits ≤ m ∨ e = f.minExponent

/-- The number of a sign, a significand and an exponent. -/
def scaled (negative : Bool) (m : Nat) (e : Int) : ℚ :=
  if negative then -(m * 2 ^ e) else m * 2 ^ e

/-- The finite numbers of a format. -/
def Has (f : BinaryFormat) (y : ℚ) : Prop :=
  ∃ negative m e, f.Holds m e ∧ y = scaled negative m e

/-- A number of the format, and none is nearer. -/
structure Nearest (f : BinaryFormat) (v y : ℚ) : Prop where
  has : f.Has y
  le : ∀ z, f.Has z → |v - y| ≤ |v - z|

/-- Half a place above the greatest number. -/
def limit (f : BinaryFormat) : ℚ :=
  (2 ^ (f.fractionBits + 2) - 1 : ℕ) * 2 ^ (f.maxExponent - 1)

theorem scaled_neg (negative : Bool) (m : Nat) (e : Int) :
    scaled (!negative) m e = -scaled negative m e := by
  cases negative <;> simp [scaled]

theorem scaled_false (m : Nat) (e : Int) : scaled false m e = m * 2 ^ e := by
  simp [scaled]

theorem scaled_true (m : Nat) (e : Int) : scaled true m e = -(m * 2 ^ e) := by
  simp [scaled]

theorem Has.neg (h : f.Has y) : f.Has (-y) := by
  obtain ⟨negative, m, e, hm, rfl⟩ := h
  exact ⟨!negative, m, e, hm, (scaled_neg _ _ _).symm⟩

theorem Nearest.neg (h : f.Nearest v y) : f.Nearest (-v) (-y) where
  has := h.has.neg
  le z hz := by
    have hle := h.le (-z) hz.neg
    rwa [← abs_neg (v - y), ← abs_neg (v - -z), neg_sub', neg_sub', neg_neg] at hle

/-- A number of the format is nearest to itself only. -/
theorem Nearest.eq (h : f.Nearest v y) (hv : f.Has v) : y = v := by
  have hle := h.le v hv
  rw [sub_self, abs_zero] at hle
  linarith [abs_eq_zero.1 (le_antisymm hle (abs_nonneg _))]

/-! ## The exponent of a ratio -/

variable {num den : Nat}

theorem ratio_log2 (hnum : num ≠ 0) (hden : den ≠ 0) :
    (2 : ℚ) ^ ((num.log2 : Int) - den.log2 - 1) ≤ num / den ∧
      (num : ℚ) / den < 2 ^ ((num.log2 : Int) - den.log2 + 1) := by
  have hpos : (0 : ℚ) < den := by exact_mod_cast Nat.pos_of_ne_zero hden
  have hnumlo : (2 : ℚ) ^ (num.log2 : Int) ≤ num := by
    exact_mod_cast Nat.log2_self_le hnum
  have hnumhi : (num : ℚ) < 2 ^ ((num.log2 : Int) + 1) := by
    exact_mod_cast Nat.lt_log2_self (n := num)
  have hdenlo : (2 : ℚ) ^ (den.log2 : Int) ≤ den := by
    exact_mod_cast Nat.log2_self_le hden
  have hdenhi : (den : ℚ) < 2 ^ ((den.log2 : Int) + 1) := by
    exact_mod_cast Nat.lt_log2_self (n := den)
  constructor
  · rw [le_div_iff₀ hpos]
    calc (2 : ℚ) ^ ((num.log2 : Int) - den.log2 - 1) * den
        ≤ 2 ^ ((num.log2 : Int) - den.log2 - 1) * 2 ^ ((den.log2 : Int) + 1) :=
          mul_le_mul_of_nonneg_left hdenhi.le (two_zpow_pos _).le
      _ = 2 ^ (num.log2 : Int) := by rw [← zpow_add₀ (by norm_num)]; congr 1; ring
      _ ≤ num := hnumlo
  · rw [div_lt_iff₀ hpos]
    calc (num : ℚ) < 2 ^ ((num.log2 : Int) + 1) := hnumhi
      _ = 2 ^ ((num.log2 : Int) - den.log2 + 1) * 2 ^ (den.log2 : Int) := by
          rw [← zpow_add₀ (by norm_num)]; congr 1; ring
      _ ≤ 2 ^ ((num.log2 : Int) - den.log2 + 1) * den :=
          mul_le_mul_of_nonneg_left hdenlo (two_zpow_pos _).le

/-- Whether the significand of a ratio at an exponent has full width. -/
def isFull (f : BinaryFormat) (num den : Nat) (e : Int) : Bool :=
  if e < 0 then den * 2 ^ f.fractionBits ≤ num * 2 ^ (-e).toNat
  else den * 2 ^ e.toNat * 2 ^ f.fractionBits ≤ num

theorem scale_eq (f : BinaryFormat) (num den : Nat) :
    f.scale num den =
      let e : Int := (num.log2 : Int) - den.log2 - f.fractionBits
      max (if f.isFull num den e then e else e - 1) f.minExponent :=
  rfl

theorem isFull_iff (f : BinaryFormat) (hden : den ≠ 0) (e : Int) :
    f.isFull num den e ↔ (2 : ℚ) ^ f.fractionBits * 2 ^ e ≤ num / den := by
  have hpos : (0 : ℚ) < den := by exact_mod_cast Nat.pos_of_ne_zero hden
  rw [le_div_iff₀ hpos, isFull]
  by_cases he : e < 0
  · obtain ⟨k, rfl⟩ : ∃ k : Nat, e = -k := ⟨(-e).toNat, by omega⟩
    have hk : (0 : ℚ) < 2 ^ k := by positivity
    rw [if_pos he, decide_eq_true_eq, neg_neg, Int.toNat_natCast, zpow_neg, zpow_natCast,
      ← Nat.cast_le (α := ℚ)]
    push_cast
    rw [← div_eq_mul_inv, div_mul_eq_mul_div, div_le_iff₀ hk, mul_comm (2 ^ f.fractionBits : ℚ)]
  · obtain ⟨k, rfl⟩ : ∃ k : Nat, e = k := ⟨e.toNat, by omega⟩
    rw [if_neg he, decide_eq_true_eq, Int.toNat_natCast, zpow_natCast, ← Nat.cast_le (α := ℚ)]
    push_cast
    rw [show (den : ℚ) * 2 ^ k * 2 ^ f.fractionBits = 2 ^ f.fractionBits * 2 ^ k * den by ring]

theorem two_pow_mul_zpow (p : Nat) (e : Int) : (2 : ℚ) ^ p * 2 ^ e = 2 ^ (p + e : Int) := by
  rw [zpow_add₀ (by norm_num), zpow_natCast]

/-- The significand of a ratio has full width at its exponent, or the exponent is the least. -/
theorem scale_spec (f : BinaryFormat) (hnum : num ≠ 0) (hden : den ≠ 0) :
    f.minExponent ≤ f.scale num den ∧
      (num : ℚ) / den < 2 ^ (f.fractionBits + 1) * 2 ^ f.scale num den ∧
      (2 ^ f.fractionBits * 2 ^ f.scale num den ≤ (num : ℚ) / den ∨
        f.scale num den = f.minExponent) := by
  obtain ⟨hlo, hhi⟩ := ratio_log2 hnum hden
  rw [scale_eq]
  dsimp only
  set e : Int := (num.log2 : Int) - den.log2 - f.fractionBits with he
  obtain ⟨e', hselect, hwidth, hfull⟩ : ∃ e', (if f.isFull num den e then e else e - 1) = e' ∧
      (num : ℚ) / den < 2 ^ (f.fractionBits + 1) * 2 ^ e' ∧
      2 ^ f.fractionBits * 2 ^ e' ≤ (num : ℚ) / den := by
    refine ⟨_, rfl, ?_⟩
    by_cases h : f.isFull num den e
    · rw [if_pos h, two_pow_mul_zpow (_ + 1)]
      refine ⟨hhi.trans_eq ?_, (isFull_iff f hden e).1 h⟩
      congr 1
      push_cast
      omega
    · have hlt := not_le.1 (mt (isFull_iff f hden e).2 h)
      rw [two_pow_mul_zpow] at hlt
      rw [if_neg h, two_pow_mul_zpow, two_pow_mul_zpow]
      refine ⟨hlt.trans_eq ?_, hlo.trans_eq' ?_⟩ <;> congr 1 <;> push_cast <;> omega
  rw [hselect]
  refine ⟨le_max_right _ _, hwidth.trans_le ?_, ?_⟩
  · have hpow : (2 : ℚ) ^ e' ≤ 2 ^ max e' f.minExponent :=
      zpow_le_zpow_right₀ (by norm_num) (le_max_left _ _)
    exact mul_le_mul_of_nonneg_left hpow (by positivity)
  · rcases le_total e' f.minExponent with h | h
    · exact .inr (max_eq_right h)
    · rw [max_eq_left h]
      exact .inl hfull

/-! ## Patterns -/

/-- The pattern of a significand and an exponent. -/
def pack (f : BinaryFormat) (m : Nat) (e : Int) : Nat :=
  m + (e - f.minExponent).toNat * 2 ^ f.fractionBits

/-- Three fields of a whole number. -/
theorem fields {s k r P E : Nat} (hs : s < 2) (hr : r < P) (hk : k < E) :
    (s * (P * E) + (k * P + r)) / (P * E) % 2 = s ∧
      (s * (P * E) + (k * P + r)) / P % E = k ∧ (s * (P * E) + (k * P + r)) % P = r := by
  have hlow : k * P + r < P * E := by nlinarith
  have hsplit : s * (P * E) + (k * P + r) = r + P * (s * E + k) := by ring
  refine ⟨?_, ?_, ?_⟩
  · rw [Nat.add_comm, Nat.add_mul_div_right _ _ (by omega), Nat.div_eq_of_lt hlow, Nat.zero_add,
      Nat.mod_eq_of_lt hs]
  · rw [hsplit, Nat.add_mul_div_left _ _ (by omega), Nat.div_eq_of_lt hr, Nat.zero_add,
      Nat.add_comm, Nat.add_mul_mod_self_right, Nat.mod_eq_of_lt hk]
  · rw [hsplit, Nat.add_mul_mod_self_left, Nat.mod_eq_of_lt hr]

/-- The pattern of a sign and two fields. -/
theorem decode_fields (f : BinaryFormat) (negative : Bool) {k r : Nat}
    (hr : r < 2 ^ f.fractionBits) (hk : k < 2 ^ f.exponentBits) :
    f.decode ((if negative then f.signBit else 0) + (k * 2 ^ f.fractionBits + r)) =
      if k = 2 ^ f.exponentBits - 1 then if r = 0 then .infinite negative else .nan negative r
      else if k = 0 then .finite negative r f.minExponent
      else .finite negative (2 ^ f.fractionBits + r) (f.minExponent + k - 1) := by
  have hproduct : 2 ^ f.fractionBits * 2 ^ f.exponentBits = f.signBit := (Nat.pow_add _ _ _).symm
  have hsign : (if negative then f.signBit else 0) = (if negative then 1 else 0) * f.signBit := by
    split_ifs <;> simp
  obtain ⟨h, hfield, hfraction⟩ := fields (s := if negative then 1 else 0) (by split_ifs <;> omega)
    hr hk
  rw [hproduct, ← hsign] at h hfield hfraction
  unfold decode
  dsimp only
  rw [hfield, hfraction, h]
  cases negative <;> rfl

theorem decode_sign {bits : Nat} {negative : Bool}
    (h : f.decode bits = .finite negative m e) : negative = decide (bits / f.signBit % 2 = 1) := by
  unfold decode at h
  dsimp only at h
  split_ifs at h <;> cases h <;> rfl

/-- The pattern of a number with a minus sign. -/
theorem decode_signBit {bits : Nat} (hbits : bits < f.signBit)
    (h : f.decode bits = .finite false m e) : f.decode (f.signBit + bits) = .finite true m e := by
  have hfield : bits / 2 ^ f.fractionBits < 2 ^ f.exponentBits := by
    refine Nat.div_lt_of_lt_mul (hbits.trans_eq ?_)
    rw [signBit, Nat.pow_add]
  have hfraction := Nat.mod_lt bits (Nat.two_pow_pos f.fractionBits)
  have hsplit : bits / 2 ^ f.fractionBits * 2 ^ f.fractionBits + bits % 2 ^ f.fractionBits = bits :=
    Nat.div_add_mod' _ _
  have hplus := decode_fields f false hfraction hfield
  have hminus := decode_fields f true hfraction hfield
  rw [hsplit] at hplus hminus
  rw [if_neg Bool.false_ne_true, Nat.zero_add, h] at hplus
  rw [if_pos rfl] at hminus
  rw [hminus]
  split_ifs at hplus ⊢ <;> cases hplus <;> rfl

theorem decode_pack (negative : Bool) (h : f.Holds m e) :
    f.decode ((if negative then f.signBit else 0) + f.pack m e) = .finite negative m e := by
  have hwidth := h.width
  have hleast := h.least
  have hgreatest := h.greatest
  have hpos := Nat.two_pow_pos f.exponentBits
  have hcast : ((2 ^ f.exponentBits : Nat) : Int) = 2 ^ f.exponentBits := by push_cast; rfl
  rw [pow_succ] at hwidth
  unfold maxExponent at hgreatest
  by_cases hm : 2 ^ f.fractionBits ≤ m
  · have hpack : f.pack m e =
        ((e - f.minExponent).toNat + 1) * 2 ^ f.fractionBits + (m - 2 ^ f.fractionBits) := by
      rw [pack, Nat.add_mul]
      omega
    rw [hpack, decode_fields f negative (by omega) (by omega), if_neg (by omega),
      if_neg (by omega)]
    congr 1 <;> omega
  · have he : e = f.minExponent := h.full.resolve_left hm
    have hpack : f.pack m e = 0 * 2 ^ f.fractionBits + m := by
      rw [pack, he, sub_self]
      simp
    rw [hpack, decode_fields f negative (by omega) hpos, if_neg (by omega), if_pos rfl, he]

/-! ## The nearest number -/

/-- A ratio in places of an exponent, rounded to a whole number. -/
def places (num den : Nat) (e : Int) : Nat :=
  if e < 0 then roundHalfEven (num * 2 ^ (-e).toNat) den else roundHalfEven num (den * 2 ^ e.toNat)

theorem nearest_eq (f : BinaryFormat) (num den : Nat) :
    f.nearest num den =
      if num = 0 then 0
      else min (f.pack (places num den (f.scale num den)) (f.scale num den)) f.infinityBits :=
  rfl

theorem places_eq (num : Nat) (hden : den ≠ 0) (e : Int) :
    ∃ n d, 0 < d ∧ places num den e = roundHalfEven n d ∧ (n : ℚ) / d = num / den / 2 ^ e := by
  unfold places
  by_cases he : e < 0
  · refine ⟨_, _, Nat.pos_of_ne_zero hden, if_pos he, ?_⟩
    obtain ⟨k, rfl⟩ : ∃ k : Nat, e = -k := ⟨(-e).toNat, by omega⟩
    rw [neg_neg, Int.toNat_natCast, zpow_neg, zpow_natCast, div_inv_eq_mul]
    push_cast
    ring
  · refine ⟨_, _, Nat.mul_pos (Nat.pos_of_ne_zero hden) (Nat.two_pow_pos _), if_neg he, ?_⟩
    obtain ⟨k, rfl⟩ : ∃ k : Nat, e = k := ⟨e.toNat, by omega⟩
    rw [Int.toNat_natCast, zpow_natCast, div_div]
    push_cast
    rfl

/-- Half a place, at most. -/
theorem places_error (num : Nat) (hden : den ≠ 0) (e : Int) :
    |(num : ℚ) / den - places num den e * 2 ^ e| ≤ 2 ^ e / 2 := by
  obtain ⟨n, d, hd, hplaces, hratio⟩ := places_eq num hden e
  have herror := roundHalfEven_error (n := n) hd
  rw [← hplaces, hratio] at herror
  have hpos := two_zpow_pos e
  have hmul := mul_le_mul_of_nonneg_right herror hpos.le
  rw [← abs_of_pos hpos, ← abs_mul, sub_mul, abs_of_pos hpos, div_mul_cancel₀ _ hpos.ne'] at hmul
  linarith

theorem places_nearest (hden : den ≠ 0) (e : Int) (k : ℤ) :
    |(num : ℚ) / den - places num den e * 2 ^ e| ≤ |(num : ℚ) / den - k * 2 ^ e| := by
  obtain ⟨n, d, hd, hplaces, hratio⟩ := places_eq num hden e
  have hnearest := roundHalfEven_nearest (n := n) hd k
  rw [← hplaces, hratio] at hnearest
  have hpos := two_zpow_pos e
  have hmul := mul_le_mul_of_nonneg_right hnearest hpos.le
  rwa [← abs_of_pos hpos, ← abs_mul, ← abs_mul, sub_mul, sub_mul, abs_of_pos hpos,
    div_mul_cancel₀ _ hpos.ne'] at hmul

theorem places_le (hden : den ≠ 0) {k : Nat} (h : (num : ℚ) / den ≤ k * 2 ^ e) :
    places num den e ≤ k := by
  obtain ⟨n, d, hd, hplaces, hratio⟩ := places_eq num hden e
  have hpos : (0 : ℚ) < d := by exact_mod_cast hd
  rw [← div_le_iff₀ (two_zpow_pos e), ← hratio, div_le_iff₀ hpos] at h
  exact hplaces ▸ roundHalfEven_le hd (by exact_mod_cast h)

theorem le_places (hden : den ≠ 0) {k : Nat} (h : (k : ℚ) * 2 ^ e ≤ num / den) :
    k ≤ places num den e := by
  obtain ⟨n, d, hd, hplaces, hratio⟩ := places_eq num hden e
  have hpos : (0 : ℚ) < d := by exact_mod_cast hd
  rw [← le_div_iff₀ (two_zpow_pos e), ← hratio, le_div_iff₀ hpos] at h
  exact hplaces ▸ le_roundHalfEven hd (by exact_mod_cast h)

/-- A multiple of a place that no whole multiple is nearer than is nearest of all numbers, if
    the numbers of smaller places are all below the ratio. -/
theorem nearest_of_places {q : ℚ} (hv : 0 ≤ v)
    (hfull : 2 ^ f.fractionBits * 2 ^ e ≤ v ∨ e = f.minExponent)
    (h : ∀ k : ℤ, |v - q| ≤ |v - k * 2 ^ e|) (z : ℚ) (hz : f.Has z) : |v - q| ≤ |v - z| := by
  obtain ⟨negative, m, e', hm, rfl⟩ := hz
  have hvalue : (0 : ℚ) ≤ m * 2 ^ e' := mul_nonneg (Nat.cast_nonneg _) (two_zpow_pos _).le
  cases negative with
  | true =>
    have hzero := h 0
    rw [Int.cast_zero, zero_mul, sub_zero, abs_of_nonneg hv] at hzero
    refine hzero.trans (le_trans ?_ (le_abs_self _))
    simp only [scaled, if_true]
    linarith
  | false =>
    rw [scaled_false]
    rcases le_or_gt e e' with he | he
    · -- the number is a multiple of the place
      obtain ⟨k, rfl⟩ : ∃ k : Nat, e' = e + k := ⟨(e' - e).toNat, by omega⟩
      have hk := h (m * 2 ^ k)
      push_cast at hk
      rwa [zpow_add₀ (by norm_num), zpow_natCast, mul_comm (2 ^ e : ℚ), ← mul_assoc]
    · -- the number is below the first one with this place
      have hlow : 2 ^ f.fractionBits * 2 ^ e ≤ v :=
        hfull.resolve_right (by have := hm.least; omega)
      have hwidth : (m : ℚ) ≤ 2 ^ (f.fractionBits + 1) := by exact_mod_cast hm.width.le
      have hbelow : (m : ℚ) * 2 ^ e' ≤ 2 ^ f.fractionBits * 2 ^ e := by
        calc (m : ℚ) * 2 ^ e' ≤ 2 ^ (f.fractionBits + 1) * 2 ^ e' :=
              mul_le_mul_of_nonneg_right hwidth (two_zpow_pos _).le
          _ = 2 ^ f.fractionBits * 2 ^ (e' + 1) := by
              rw [pow_succ, zpow_add_one₀ (by norm_num)]; ring
          _ ≤ 2 ^ f.fractionBits * 2 ^ e :=
              mul_le_mul_of_nonneg_left (zpow_le_zpow_right₀ (by norm_num) (by omega))
                (by positivity)
      have hk := h (2 ^ f.fractionBits)
      push_cast at hk
      rw [abs_of_nonneg (sub_nonneg.2 hlow)] at hk
      refine hk.trans (le_trans ?_ (le_abs_self _))
      linarith

/-- A significand that has reached the next power of two is carried into the exponent. -/
theorem exists_holds (hf : f.minExponent ≤ f.maxExponent)
    (hle : m ≤ 2 ^ (f.fractionBits + 1)) (hleast : f.minExponent ≤ e)
    (hfull : 2 ^ f.fractionBits ≤ m ∨ e = f.minExponent) (hlt : f.pack m e < f.infinityBits) :
    ∃ m' e', f.Holds m' e' ∧ f.pack m e = f.pack m' e' ∧ (m : ℚ) * 2 ^ e = m' * 2 ^ e' := by
  have hcast : ((2 ^ f.exponentBits : Nat) : Int) = 2 ^ f.exponentBits := by push_cast; rfl
  have hpos := Nat.two_pow_pos f.fractionBits
  have hplaces : (e - f.minExponent).toNat * 2 ^ f.fractionBits + m <
      (2 ^ f.exponentBits - 1) * 2 ^ f.fractionBits := by
    rw [Nat.add_comm]
    exact hlt
  have hexponent {j : Nat} (hj : j * 2 ^ f.fractionBits ≤ m) :
      (e - f.minExponent).toNat + j < 2 ^ f.exponentBits - 1 := by
    refine Nat.lt_of_mul_lt_mul_right (a := 2 ^ f.fractionBits) ?_
    rw [Nat.add_mul]
    omega
  rcases hle.lt_or_eq with hm | rfl
  · refine ⟨m, e, ⟨hm, hleast, ?_, hfull⟩, rfl, rfl⟩
    rcases hfull with hfull | rfl
    · have := hexponent (j := 1) (by omega)
      unfold maxExponent
      omega
    · exact hf
  · have := hexponent (j := 2) (by rw [pow_succ]; omega)
    refine ⟨2 ^ f.fractionBits, e + 1, ⟨?_, by omega, ?_, .inl le_rfl⟩, ?_, ?_⟩
    · rw [pow_succ]
      omega
    · unfold maxExponent
      omega
    · rw [pack, pack, show (e + 1 - f.minExponent).toNat = (e - f.minExponent).toNat + 1 by omega]
      ring
    · rw [zpow_add_one₀ (by norm_num)]
      push_cast
      ring

theorem limit_le : f.limit ≤ 2 ^ f.fractionBits * 2 ^ (f.maxExponent + 1) := by
  rw [limit, show f.maxExponent + 1 = f.maxExponent - 1 + 2 by ring, zpow_add₀ (by norm_num),
    ← mul_assoc, mul_right_comm]
  refine mul_le_mul_of_nonneg_right ?_ (two_zpow_pos _).le
  exact_mod_cast (Nat.sub_le _ _).trans_eq (pow_add 2 _ 2)

theorem scale_le_maxExponent (hf : f.minExponent ≤ f.maxExponent) (hnum : num ≠ 0) (hden : den ≠ 0)
    (h : (num : ℚ) / den < f.limit) : f.scale num den ≤ f.maxExponent := by
  obtain ⟨-, -, hfull | heq⟩ := scale_spec f hnum hden
  · by_contra hgt
    have hpow : (2 : ℚ) ^ (f.maxExponent + 1) ≤ 2 ^ f.scale num den :=
      zpow_le_zpow_right₀ (by norm_num) (by omega)
    have := mul_le_mul_of_nonneg_left hpow (by positivity : (0 : ℚ) ≤ 2 ^ f.fractionBits)
    linarith [f.limit_le]
  · exact heq ▸ hf

/-- The greatest exponent leaves no room for a carry. -/
theorem places_maxExponent (hden : den ≠ 0) (h : (num : ℚ) / den < f.limit) :
    places num den f.maxExponent < 2 ^ (f.fractionBits + 1) := by
  by_contra! hcarry
  have hhi := (abs_le.1 (places_error num hden f.maxExponent)).1
  have hplaces : ((2 ^ (f.fractionBits + 1) : ℕ) : ℚ) ≤ places num den f.maxExponent := by
    exact_mod_cast hcarry
  have hmul := mul_le_mul_of_nonneg_right hplaces (two_zpow_pos f.maxExponent).le
  have hhalf : (2 : ℚ) ^ f.maxExponent = 2 * 2 ^ (f.maxExponent - 1) := by
    rw [zpow_sub_one₀ (by norm_num)]
    ring
  have hone := Nat.one_le_two_pow (n := f.fractionBits + 2)
  rw [limit, Nat.cast_sub hone] at h
  push_cast at h hmul
  rw [pow_succ, pow_succ] at h
  rw [pow_succ] at hmul
  rw [hhalf] at hhi hmul
  nlinarith [two_zpow_pos (f.maxExponent - 1)]

theorem pack_lt_infinityBits (hm : m ≤ 2 ^ (f.fractionBits + 1)) (hlo : f.minExponent ≤ e)
    (hhi : e ≤ f.maxExponent) (hroom : m < 2 ^ (f.fractionBits + 1) ∨ e < f.maxExponent) :
    f.pack m e < f.infinityBits := by
  have hcast : ((2 ^ f.exponentBits : Nat) : Int) = 2 ^ f.exponentBits := by push_cast; rfl
  have hmax : f.maxExponent = f.minExponent + 2 ^ f.exponentBits - 3 := rfl
  have hpos := Nat.two_pow_pos f.fractionBits
  rw [pack, infinityBits, Nat.add_comm]
  rw [pow_succ] at hm hroom
  rcases hroom with hroom | hlt
  · have hk : (e - f.minExponent).toNat + 2 ≤ 2 ^ f.exponentBits - 1 := by omega
    have := Nat.mul_le_mul_right (2 ^ f.fractionBits) hk
    rw [Nat.add_mul] at this
    omega
  · have hk : (e - f.minExponent).toNat + 3 ≤ 2 ^ f.exponentBits - 1 := by omega
    have := Nat.mul_le_mul_right (2 ^ f.fractionBits) hk
    rw [Nat.add_mul] at this
    omega

/-- Below the limit the pattern is not that of infinity. -/
theorem pack_places_lt (hf : f.minExponent ≤ f.maxExponent) (hnum : num ≠ 0) (hden : den ≠ 0)
    (h : (num : ℚ) / den < f.limit) :
    f.pack (places num den (f.scale num den)) (f.scale num den) < f.infinityBits := by
  obtain ⟨hleast, hwidth, -⟩ := scale_spec f hnum hden
  have hgreatest := scale_le_maxExponent hf hnum hden h
  refine pack_lt_infinityBits (places_le hden (by exact_mod_cast hwidth.le)) hleast hgreatest ?_
  rcases hgreatest.lt_or_eq with hlt | heq
  · exact .inr hlt
  · rw [heq]
    exact .inl (places_maxExponent hden h)

/-- A number found for another by rounding: none is nearer, and the error is small. -/
structure Rounded (f : BinaryFormat) (v : ℚ) (m : Nat) (e : Int) : Prop where
  holds : f.Holds m e
  nearest : f.Nearest v (m * 2 ^ e)
  error : |v - m * 2 ^ e| ≤ v * 2 ^ (-(f.fractionBits : Int) - 1) + 2 ^ (f.minExponent - 1)

theorem places_rounded (hf : f.minExponent ≤ f.maxExponent) (hnum : num ≠ 0) (hden : den ≠ 0)
    (hlt : f.pack (places num den (f.scale num den)) (f.scale num den) < f.infinityBits) :
    ∃ m e, f.pack (places num den (f.scale num den)) (f.scale num den) = f.pack m e ∧
      f.Rounded (num / den) m e := by
  obtain ⟨hleast, hwidth, hfull⟩ := scale_spec f hnum hden
  generalize f.scale num den = e at *
  have hv : (0 : ℚ) ≤ num / den := by positivity
  have hle : places num den e ≤ 2 ^ (f.fractionBits + 1) :=
    places_le hden (by exact_mod_cast hwidth.le)
  have hplaces : 2 ^ f.fractionBits ≤ places num den e ∨ e = f.minExponent :=
    hfull.imp_left fun h => le_places hden (by exact_mod_cast h)
  obtain ⟨m', e', hm, hpack, hvalue⟩ := exists_holds hf hle hleast hplaces hlt
  refine ⟨m', e', hpack, hm, ?_, ?_⟩
  · rw [← hvalue]
    exact ⟨⟨false, m', e', hm, by rw [hvalue, scaled_false]⟩,
      nearest_of_places hv hfull fun k => places_nearest hden e k⟩
  · rw [← hvalue]
    refine (places_error num hden e).trans ?_
    rcases hfull with hfull | rfl
    · have hmul := mul_le_mul_of_nonneg_right hfull (two_zpow_pos (-(f.fractionBits : Int) - 1)).le
      rw [mul_right_comm, two_pow_mul_zpow, ← zpow_add₀ (by norm_num),
        show (f.fractionBits : Int) + (-f.fractionBits - 1) + e = e - 1 by ring,
        zpow_sub_one₀ (by norm_num), ← div_eq_mul_inv] at hmul
      linarith [two_zpow_pos (f.minExponent - 1)]
    · rw [zpow_sub_one₀ (by norm_num) f.minExponent, ← div_eq_mul_inv]
      have := mul_nonneg hv (two_zpow_pos (-(f.fractionBits : Int) - 1)).le
      linarith

/-- The pattern for a ratio is that of a number found by rounding; at the limit or above it may be
    that of infinity. -/
theorem nearest_spec (num : Nat) (hf : f.minExponent ≤ f.maxExponent) (hden : den ≠ 0) :
    (∃ m e, f.nearest num den = f.pack m e ∧ f.Rounded (num / den) m e) ∨
      f.nearest num den = f.infinityBits ∧ f.limit ≤ num / den := by
  by_cases hnum : num = 0
  · have hholds : f.Holds 0 f.minExponent := ⟨Nat.two_pow_pos _, le_rfl, hf, .inr rfl⟩
    have hhas : f.Has 0 := ⟨false, 0, _, hholds, by simp [scaled]⟩
    refine .inl ⟨0, f.minExponent, ?_, hholds, ?_, ?_⟩
    · simp [nearest_eq, hnum, pack]
    · rw [hnum]
      simp only [Nat.cast_zero, zero_div, zero_mul]
      exact ⟨hhas, fun z _ => by simp⟩
    · rw [hnum]
      simp [(two_zpow_pos (f.minExponent - 1)).le]
  · rw [nearest_eq, if_neg hnum]
    rcases lt_or_ge (f.pack (places num den (f.scale num den)) (f.scale num den))
      f.infinityBits with hlt | hge
    · rw [min_eq_left hlt.le]
      exact .inl (places_rounded hf hnum hden hlt)
    · refine .inr ⟨min_eq_right hge, not_lt.1 fun h => ?_⟩
      exact absurd (pack_places_lt hf hnum hden h) (not_lt.2 hge)

end BinaryFormat

end Rowgate
