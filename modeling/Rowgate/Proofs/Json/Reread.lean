/-
  A double that is written as JSON is read as a double close to it.

  The reader multiplies the digits with a power of ten or divides them by one, so that what it
  finds need not be the nearest double.

  * `scaled?_near`: the digits times the power of ten, up to the errors of four roundings;
  * `isFinite_product`: the numeral of a finite double is not beyond the range;
  * `Double.Close`: two finite doubles of one sign that differ by little;
  * `ofNumeral_close`: what the numeral of a double denotes is close to it.
-/
import Mathlib.Tactic.FieldSimp
import Rowgate.Proofs.Decimal.Arithmetic
import Rowgate.Proofs.Json.Numeral

namespace Rowgate

/-- Two finite doubles of one sign that differ by little. -/
inductive Double.Close (x y : Double) : Prop
  | intro {negative : Bool} {m m' : Nat} {e e' : Int} (hx : x.datum = .finite negative m e)
      (hy : y.datum = .finite negative m' e')
      (hnear : |(m' : ℚ) * 2 ^ e' - m * 2 ^ e| ≤ m * 2 ^ e * 2 ^ (-49 : Int) + 2 ^ (-1072 : Int))

open BinaryFormat
open Decimal (two_zpow_pos)

theorem Double.lt_limit_of_datum {x : Double} {s : Bool} {m : Nat} {e : Int}
    (h : x.datum = .finite s m e) : (m : ℚ) * 2 ^ e < binary64.limit := by
  have hholds := holds_binary64.2 (DecimalLayout.normal_of_datum h)
  have hhas : binary64.Has (m * 2 ^ e) := ⟨false, m, e, hholds, (scaled_false m e).symm⟩
  exact (le_abs_self _).trans_lt hhas.abs_lt_limit

namespace JsonNumber

variable {x y : Double} {s : Bool} {m n : Nat} {e k : Int}

/-! ## Powers of ten -/

theorem limit_binary64 : binary64.limit = (2 ^ 54 - 1 : ℕ) * 2 ^ (970 : Int) := by
  rw [limit, show binary64.maxExponent - 1 = 970 by decide,
    show binary64.fractionBits + 2 = 54 by decide]

theorem lt_limit {n b : Nat} (hn : n ≤ b) (hb : b < (2 ^ 54 - 1) * 2 ^ 970) :
    (n : ℚ) < binary64.limit := by
  have hnat : binary64.limit = ((2 ^ 54 - 1) * 2 ^ 970 : ℕ) := by
    rw [limit_binary64, show (970 : Int) = (970 : ℕ) by norm_num, zpow_natCast, Nat.cast_mul,
      Nat.cast_pow 2 970]
    rfl
  rw [hnat]
  exact Nat.cast_lt.2 (hn.trans_lt hb)

/-- A whole number of some size as a double. -/
theorem exists_rounded (hn : 1 ≤ n) (hlimit : (n : ℚ) < binary64.limit) :
    ∃ m e, (Double.ofRatio false n 1).datum = .finite false m e ∧
      Within (1 - 2 ^ (-52 : Int)) (1 + 2 ^ (-52 : Int)) 0 n (m * 2 ^ e) := by
  have hfound := Double.ofRatio_found false n one_ne_zero
  rw [Nat.cast_one, div_one] at hfound
  obtain ⟨m, e, hdatum, hrounded⟩ := hfound.finite_of_lt hlimit
  exact ⟨m, e, hdatum, hrounded.within_of_one_le (by exact_mod_cast hn)⟩

theorem exists_digits (hn : 1 ≤ n) (hfits : n < 2 ^ 64) :
    ∃ m e, (Double.ofInt n).datum = .finite false m e ∧
      Within (1 - 2 ^ (-52 : Int)) (1 + 2 ^ (-52 : Int)) 0 n (m * 2 ^ e) := by
  have hint : Double.ofInt n = Double.ofRatio false n 1 := by
    rw [Double.ofInt, Int.natAbs_natCast, decide_eq_false (by omega)]
  rw [hint]
  exact exists_rounded hn (lt_limit hfits.le (by decide +kernel))

theorem exists_tenTo (hn : n ≤ 308) :
    ∃ m e, (tenTo n).datum = .finite false m e ∧
      Within (1 - 2 ^ (-52 : Int)) (1 + 2 ^ (-52 : Int)) 0 ((10 : ℚ) ^ n) (m * 2 ^ e) := by
  have hpow := Nat.pow_le_pow_right (n := 10) (by decide) hn
  have hlimit := lt_limit hpow (by decide +kernel)
  have h := exists_rounded (n := 10 ^ n) (Nat.one_le_pow _ _ (by decide)) hlimit
  push_cast at h
  exact h

/-! ## Products and quotients -/

/-- A quotient by a power of ten. -/
theorem div_tenTo_within {lo hi rest v : ℚ} (hx : x.datum = .finite false m e)
    (h : Within lo hi rest v (m * 2 ^ e)) (hv : 0 ≤ v) (hlo : 0 ≤ lo) (hhi : 0 ≤ hi)
    (hrest : 0 ≤ rest) (hn : 1 ≤ n) (hn' : n ≤ 308) :
    ∃ m' e', (x.div (tenTo n)).datum = .finite false m' e' ∧
      Within (lo / (1 + 2 ^ (-52 : Int)) * (1 - 2 ^ (-53 : Int)))
        (hi / (1 - 2 ^ (-52 : Int)) * (1 + 2 ^ (-53 : Int))) (2 * rest + 2 ^ (-1075 : Int))
        (v / 10 ^ n) (m' * 2 ^ e') := by
  obtain ⟨t, d, hten, hwithin⟩ := exists_tenTo hn'
  have hpow : (10 : ℚ) ≤ 10 ^ n := le_self_pow₀ (by norm_num) (by omega)
  have hge : 1 ≤ (10 : ℚ) ^ n * (1 - 2 ^ (-52 : Int)) :=
    le_trans (by norm_num) (mul_le_mul_of_nonneg_right hpow (by norm_num))
  have hone : (1 : ℚ) ≤ t * 2 ^ d := by linarith [hwithin.ge]
  have hne : t ≠ 0 := by
    rintro rfl
    norm_num at hone
  have hfound := Double.div_found hx hten hne
  have hquotient : (m : ℚ) * 2 ^ e / (t * 2 ^ d) ≤ m * 2 ^ e :=
    div_le_self (mul_nonneg (Nat.cast_nonneg _) (two_zpow_pos _).le) hone
  obtain ⟨m', e', hdatum, hrounded⟩ :=
    hfound.finite_of_lt (hquotient.trans_lt (Double.lt_limit_of_datum hx))
  refine ⟨m', e', hdatum, ?_⟩
  exact (h.div hwithin hv (by positivity) hlo hhi (by norm_num) hrest hge).round hrest hrounded

/-- The bounds on what is read for a number. -/
def Near (v p : ℚ) : Prop :=
  Within (1 - 5 * 2 ^ (-52 : Int)) (1 + 5 * 2 ^ (-52 : Int)) (2 ^ (-1073 : Int)) v p

/-- Remainders of two roundings. -/
theorem rest_le : 2 * (2 * 0 + (2 : ℚ) ^ (-1075 : Int)) + 2 ^ (-1075 : Int) ≤ 2 ^ (-1073 : Int) := by
  have hpow : (2 : ℚ) ^ (-1073 : Int) = 4 * 2 ^ (-1075 : Int) := by
    rw [show (-1073 : Int) = 2 + -1075 by norm_num, zpow_add₀ (by norm_num)]
    norm_num
  linarith [two_zpow_pos (-1075)]

theorem product_near (hn : 1 ≤ n) (hfits : n < 2 ^ 64) (hk : 0 ≤ k) (hk' : k ≤ 308)
    (hfinite : ((Double.ofInt n).mul (tenTo k.toNat)).isFinite) :
    ∃ m e, ((Double.ofInt n).mul (tenTo k.toNat)).datum = .finite false m e ∧
      Near (n * 10 ^ k) (m * 2 ^ e) := by
  obtain ⟨a, ea, ha, hawithin⟩ := exists_digits hn hfits
  obtain ⟨b, eb, hb, hbwithin⟩ := exists_tenTo (n := k.toNat) (by omega)
  have hfound := Double.mul_found ha hb
  obtain ⟨s, m, e, hdatum⟩ := DecimalLayout.isFinite_iff.1 hfinite
  cases hfound with
  | infinite hx => rw [hdatum] at hx; cases hx
  | finite hx hrounded =>
    refine ⟨_, _, hx, ?_⟩
    have hmul := hawithin.mul hbwithin (Nat.cast_nonneg _) (by positivity) (by norm_num)
      (by norm_num)
    have hround := hmul.round le_rfl hrounded
    have hpow : (10 : ℚ) ^ k = 10 ^ k.toNat := by
      rw [← zpow_natCast, Int.toNat_of_nonneg hk]
    rw [hpow]
    exact hround.mono (by positivity) (by norm_num) (by norm_num)
      (by linarith [rest_le, two_zpow_pos (-1075)])

theorem quotient_near (hn : 1 ≤ n) (hfits : n < 2 ^ 64) {j : Nat} (hj : 1 ≤ j) (hj' : j ≤ 308) :
    ∃ m e, ((Double.ofInt n).div (tenTo j)).datum = .finite false m e ∧
      Near (n / 10 ^ j) (m * 2 ^ e) := by
  obtain ⟨a, ea, ha, hawithin⟩ := exists_digits hn hfits
  obtain ⟨m, e, hdatum, hwithin⟩ := div_tenTo_within ha hawithin (Nat.cast_nonneg _) (by norm_num)
    (by norm_num) le_rfl hj hj'
  exact ⟨m, e, hdatum, hwithin.mono (by positivity) (by norm_num) (by norm_num)
    (by linarith [rest_le, two_zpow_pos (-1075)])⟩

/-- Two divisions, the first by the greatest power of ten. -/
theorem quotients_near (hn : 1 ≤ n) (hfits : n < 2 ^ 64) {j : Nat} (hj : 1 ≤ j) (hj' : j ≤ 308) :
    ∃ m e, (((Double.ofInt n).div (tenTo 308)).div (tenTo j)).datum = .finite false m e ∧
      Near (n / 10 ^ 308 / 10 ^ j) (m * 2 ^ e) := by
  obtain ⟨a, ea, ha, hawithin⟩ := exists_digits hn hfits
  obtain ⟨b, eb, hb, hbwithin⟩ := div_tenTo_within (n := 308) ha hawithin (Nat.cast_nonneg _)
    (by norm_num) (by norm_num) le_rfl (by decide) le_rfl
  obtain ⟨m, e, hdatum, hwithin⟩ := div_tenTo_within hb hbwithin (by positivity) (by norm_num)
    (by norm_num) (by linarith [two_zpow_pos (-1075)]) hj hj'
  exact ⟨m, e, hdatum, hwithin.mono (by positivity) (by norm_num) (by norm_num) rest_le⟩

theorem datum_zero : Double.zero.datum = .finite false 0 (-1074) := by
  decide

/-- What is read is the digits times the power of ten, up to the errors of four roundings. -/
theorem scaled?_near (hn : 1 ≤ n) (hfits : n < 2 ^ 64) (hk : -600 ≤ k) (hk' : k ≤ 308)
    (hfinite : 0 ≤ k → ((Double.ofInt n).mul (tenTo k.toNat)).isFinite) :
    ∃ y m e, scaled? (.ofInt n) k 8 = some y ∧ y.datum = .finite false m e ∧
      Near (n * 10 ^ k) (m * 2 ^ e) := by
  by_cases hpos : 0 ≤ k
  · obtain ⟨m, e, hdatum, hnear⟩ := product_near hn hfits hpos hk' (hfinite hpos)
    refine ⟨_, m, e, ?_, hdatum, hnear⟩
    rw [scaled?, if_pos ⟨hpos, hk'⟩]
    dsimp only
    rw [if_pos (hfinite hpos)]
  · have hout : ¬ (0 ≤ k ∧ k ≤ 308) := fun h => hpos h.1
    by_cases hlow : -308 ≤ k
    · obtain ⟨j, rfl⟩ : ∃ j : Nat, k = -j := ⟨(-k).toNat, by omega⟩
      obtain ⟨m, e, hdatum, hnear⟩ := quotient_near hn hfits (j := j) (by omega) (by omega)
      refine ⟨_, m, e, ?_, hdatum, ?_⟩
      · rw [scaled?, if_neg hout, if_pos ⟨by omega, hlow⟩, neg_neg, Int.toNat_natCast]
      · rwa [zpow_neg, zpow_natCast, ← div_eq_mul_inv]
    · obtain ⟨j, rfl⟩ : ∃ j : Nat, k = -(308 + j : ℕ) := ⟨(-k - 308).toNat, by omega⟩
      obtain ⟨m, e, hdatum, hnear⟩ := quotients_near hn hfits (j := j) (by omega) (by omega)
      have hzero : Double.ofInt n ≠ .zero := by
        intro hzero
        obtain ⟨a, ea, ha, hwithin⟩ := exists_digits hn hfits
        have hone : (1 : ℚ) ≤ n := by exact_mod_cast hn
        have hge := hwithin.ge
        rw [hzero, datum_zero] at ha
        obtain ⟨-, rfl, rfl⟩ := Datum.finite.inj ha
        norm_num at hge
        linarith
      refine ⟨_, m, e, ?_, hdatum, ?_⟩
      · rw [scaled?, if_neg hout, if_neg (by omega), if_neg hzero, if_neg hpos, scaled?,
          if_neg (by omega), if_pos (by omega)]
        congr 3
        omega
      · rwa [zpow_neg, zpow_natCast, pow_add, mul_inv, ← mul_assoc, ← div_eq_mul_inv,
          ← div_eq_mul_inv]

/-! ## The numeral of a double -/

theorem Spelled.value_eq {d : Decimal} (h : Spelled d n k) : (n : ℚ) * 10 ^ k = d.value := by
  cases h with
  | exact => rfl
  | padded hd =>
    obtain ⟨j, hj⟩ : ∃ j : Nat, d.exponent = j := ⟨d.exponent.toNat, by omega⟩
    rw [Decimal.value, hj, show ((j : Int) + 1).toNat = j + 1 by omega, zpow_natCast]
    push_cast
    rw [pow_succ, zpow_neg_one]
    field_simp

open Decimal in
/-- Half a place, of a full significand or of the least exponent. -/
theorem half_place_le (hm : Normal m e) :
    (2 : ℚ) ^ e / 2 ≤ m * 2 ^ e * 2 ^ (-53 : Int) + 2 ^ (-1075 : Int) := by
  rcases hm.full with hfull | rfl
  · have hcast : (2 : ℚ) ^ 52 ≤ m := by exact_mod_cast hfull
    have hprod := mul_le_mul_of_nonneg_right hcast (two_zpow_pos e).le
    have hscale : (2 : ℚ) ^ 52 * 2 ^ e * 2 ^ (-53 : Int) = 2 ^ e / 2 := by
      norm_num
      ring
    have := mul_le_mul_of_nonneg_right hprod (two_zpow_pos (-53)).le
    linarith [two_zpow_pos (-1075)]
  · have hnonneg : (0 : ℚ) ≤ m * 2 ^ (-1074 : Int) * 2 ^ (-53 : Int) := by positivity
    rw [show (-1074 : Int) = -1075 + 1 by norm_num, zpow_add_one₀ (by norm_num)] at hnonneg ⊢
    generalize (2 : ℚ) ^ (-1075 : Int) = rest at *
    generalize (2 : ℚ) ^ (-53 : Int) = u at *
    linarith

open Decimal in
/-- A decimal that rounds to a double is near it. -/
theorem within_of_contains {v : ℚ} (hm : Normal m e) (h : (interval m e).Contains v) :
    Within (1 - 2 ^ (-53 : Int)) (1 + 2 ^ (-53 : Int)) (2 ^ (-1075 : Int)) (m * 2 ^ e) v := by
  have hlo := h.lo_le
  have hhi := h.le_hi
  have hplace : (2 : ℚ) ^ (interval m e).quarter * 4 = 2 ^ e := by
    rw [show (interval m e).quarter = e - 2 from rfl, zpow_sub₀ (by norm_num)]
    norm_num
  have hlast : (4 * m - 2 : ℚ) ≤ (interval m e).lo := by
    have : 4 * m ≤ (interval m e).lo + 2 := by
      rw [lo_interval]
      split_ifs <;> omega
    have : (4 * m : ℚ) ≤ (interval m e).lo + 2 := by exact_mod_cast this
    linarith
  have hfirst : ((interval m e).hi : ℚ) = 4 * m + 2 := by
    simp only [interval]
    push_cast
    ring
  have hpos := two_zpow_pos (interval m e).quarter
  have hmul := mul_le_mul_of_nonneg_right hlast hpos.le
  have hhalf := half_place_le hm
  rw [hfirst] at hhi
  rw [← hplace] at hhalf ⊢
  generalize (2 : ℚ) ^ (interval m e).quarter = place at *
  generalize (2 : ℚ) ^ (-1075 : Int) = rest at *
  generalize (2 : ℚ) ^ (-53 : Int) = u at *
  constructor <;> linarith

theorem Near.close {v : ℚ} {m' : Nat} {e' : Int} (h : Near v (m' * 2 ^ e'))
    (hv : Within (1 - 2 ^ (-53 : Int)) (1 + 2 ^ (-53 : Int)) (2 ^ (-1075 : Int)) (m * 2 ^ e) v) :
    |(m' : ℚ) * 2 ^ e' - m * 2 ^ e| ≤ m * 2 ^ e * 2 ^ (-49 : Int) + 2 ^ (-1072 : Int) := by
  have hx : (0 : ℚ) ≤ m * 2 ^ e := mul_nonneg (Nat.cast_nonneg _) (two_zpow_pos _).le
  obtain ⟨hge, hle⟩ := h
  obtain ⟨hvge, hvle⟩ := hv
  have hrest : (2 : ℚ) ^ (-1073 : Int) = 4 * 2 ^ (-1075 : Int) := by
    rw [show (-1073 : Int) = 2 + -1075 by norm_num, zpow_add₀ (by norm_num)]
    norm_num
  have hrest' : (2 : ℚ) ^ (-1072 : Int) = 8 * 2 ^ (-1075 : Int) := by
    rw [show (-1072 : Int) = 3 + -1075 by norm_num, zpow_add₀ (by norm_num)]
    norm_num
  have hpos := two_zpow_pos (-1075)
  rw [hrest] at hge hle
  rw [hrest', abs_le]
  generalize (2 : ℚ) ^ (-1075 : Int) = rest at *
  generalize (m : ℚ) * 2 ^ e = x at *
  generalize (m' : ℚ) * 2 ^ e' = y at *
  norm_num at *
  constructor <;> linarith

open Decimal in
/-- The numbers that round to a double are well below the limit, but for those that round to one
    of the six greatest. -/
theorem hi_le_of_not_top (h : Normal m e) (htop : ¬ (e = 971 ∧ 2 ^ 53 - 6 ≤ m)) :
    ((interval m e).hi : ℚ) * 2 ^ (interval m e).quarter ≤ (2 ^ 54 - 13 : ℕ) * 2 ^ (970 : Int) := by
  have hwidth := h.width
  have hgreatest := h.greatest
  rw [show (interval m e).hi = 4 * m + 2 from rfl, show (interval m e).quarter = e - 2 from rfl]
  by_cases he : e = 971
  · have hm : 4 * m + 2 ≤ (2 ^ 54 - 13) * 2 := by omega
    rw [he, show (970 : Int) = 971 - 2 + 1 by norm_num, zpow_add_one₀ (by norm_num),
      mul_comm _ (2 : ℚ), ← mul_assoc]
    exact mul_le_mul_of_nonneg_right (by exact_mod_cast hm) (two_zpow_pos _).le
  · have hm : 4 * m + 2 ≤ (2 ^ 54 - 13) * 4 := by omega
    have hpow : (2 : ℚ) ^ (e - 2) * 4 ≤ 2 ^ (970 : Int) := by
      rw [show (4 : ℚ) = 2 ^ (2 : Int) by norm_num, ← zpow_add₀ (by norm_num)]
      exact zpow_le_zpow_right₀ (by norm_num) (by omega)
    calc ((4 * m + 2 : ℕ) : ℚ) * 2 ^ (e - 2) ≤ ((2 ^ 54 - 13) * 4 : ℕ) * 2 ^ (e - 2) :=
          mul_le_mul_of_nonneg_right (by exact_mod_cast hm) (two_zpow_pos _).le
      _ = (2 ^ 54 - 13 : ℕ) * (2 ^ (e - 2) * 4) := by push_cast; ring
      _ ≤ _ := mul_le_mul_of_nonneg_left hpow (Nat.cast_nonneg _)

open Decimal in
/-- No power of ten beyond the range of doubles is written. -/
theorem exponent_le {d : Decimal} (h : Normal m e) (hd : (interval m e).Contains d.value)
    (hn : 1 ≤ d.digits) : d.exponent ≤ 308 := by
  by_contra hgt
  have hlog := log2_le h
  have hgreatest := h.greatest
  have hone : (1 : ℚ) ≤ d.digits := by exact_mod_cast hn
  have hten : (10 : ℚ) ^ (309 : Int) ≤ 10 ^ d.exponent :=
    zpow_le_zpow_right₀ (by norm_num) (by omega)
  have htwo : (2 : ℚ) ^ ((m.log2 : Int) + 1 + e) ≤ 2 ^ (1024 : Int) :=
    zpow_le_zpow_right₀ (by norm_num) (by omega)
  have hpow : (2 : ℚ) ^ (1024 : Int) ≤ 10 ^ (309 : Int) := by
    have hnat : ((2 ^ 1024 : ℕ) : ℚ) ≤ (10 ^ 309 : ℕ) := Nat.cast_le.2 (by decide +kernel)
    rwa [Nat.cast_pow 2, Nat.cast_pow 10, ← zpow_natCast, ← zpow_natCast] at hnat
  have hlt := hd.lt
  have hvalue : (10 : ℚ) ^ d.exponent ≤ d.value :=
    le_mul_of_one_le_left (zpow_pos (by norm_num) _).le hone
  exact not_lt.2 (htwo.trans (hpow.trans (hten.trans hvalue))) hlt

/-- The product for one of the greatest doubles, of which there are six, is computed; for the
    others the decimal is far enough below the limit. -/
theorem isFinite_product {d : Decimal} (hm : m ≠ 0) (h : Decimal.Normal m e)
    (hd : d = Decimal.shortest .toEven m e) (hpos : 0 ≤ d.exponent) (hle : d.exponent ≤ 308)
    (hfits : d.digits < 2 ^ 64) :
    ((Double.ofInt d.digits).mul (tenTo d.exponent.toNat)).isFinite := by
  by_cases htop : e = 971 ∧ 2 ^ 53 - 6 ≤ m
  · obtain ⟨rfl, hlow⟩ := htop
    have hwidth := h.width
    obtain ⟨j, hj, rfl⟩ : ∃ j, j < 6 ∧ m = 2 ^ 53 - 1 - j := ⟨2 ^ 53 - 1 - m, by omega, by omega⟩
    rw [hd]
    clear hd hm h hlow hwidth
    revert j
    decide +kernel
  · have hcontains := Decimal.shortest_contains .toEven hm h
    rw [← hd] at hcontains
    have hn := hcontains.one_le_digits hm
    obtain ⟨a, ea, ha, hawithin⟩ := exists_digits hn hfits
    obtain ⟨b, eb, hb, hbwithin⟩ := exists_tenTo (n := d.exponent.toNat) (by omega)
    have hmul := (hawithin.mul hbwithin (Nat.cast_nonneg _) (by positivity) (by norm_num)
      (by norm_num)).le
    have hvalue : (d.digits : ℚ) * 10 ^ d.exponent.toNat = d.value := by
      rw [Decimal.value, ← zpow_natCast, Int.toNat_of_nonneg hpos]
    rw [hvalue, add_zero] at hmul
    have hbound := hcontains.le_hi.trans (hi_le_of_not_top h htop)
    have hlimit : (a : ℚ) * 2 ^ ea * (b * 2 ^ eb) < binary64.limit := by
      have hpow := two_zpow_pos 970
      rw [limit_binary64]
      generalize (2 : ℚ) ^ (970 : Int) = p at *
      norm_num at *
      linarith
    obtain ⟨m', e', hdatum, -⟩ := (Double.mul_found ha hb).finite_of_lt hlimit
    exact DecimalLayout.isFinite_iff.2 ⟨_, _, _, hdatum⟩

theorem shortest_plain (h : x.datum = .finite s m e) :
    (Decimal.shortest .toEven m e).digits ≠ 0 ∨ Decimal.shortest .toEven m e = ⟨0, 0⟩ := by
  by_cases hm : m = 0
  · subst hm
    exact .inr rfl
  · have hcontains := Decimal.shortest_contains .toEven hm (DecimalLayout.normal_of_datum h)
    exact .inl (Nat.one_le_iff_ne_zero.1 (hcontains.one_le_digits hm))

/-- What the numeral of a finite double denotes. -/
theorem ofNumeral_close (h : x.datum = .finite s m e) :
    ∃ y, ofNumeral (numeralOf s (Decimal.shortest .toEven m e)) = some (.decimal y) ∧
      x.Close y := by
  have hnormal := DecimalLayout.normal_of_datum h
  by_cases hm : m = 0
  · subst hm
    have hzero : (if s then Double.zero.neg else .zero).datum = .finite s 0 (-1074) := by
      cases s <;> decide
    refine ⟨_, ?_, .intro h hzero (by simp)⟩
    rw [show Decimal.shortest .toEven 0 e = ⟨0, 0⟩ from rfl]
    cases s <;> decide
  · obtain ⟨hfits, hlo, hhi⟩ := Decimal.shortest_bounds .toEven hnormal
    have hcontains := Decimal.shortest_contains .toEven hm hnormal
    obtain ⟨d, hd⟩ : ∃ d, d = Decimal.shortest .toEven m e := ⟨_, rfl⟩
    rw [← hd] at hfits hlo hhi hcontains ⊢
    obtain ⟨n, k, hspelled, hn, hof⟩ := ofNumeral_decimal s hfits hlo hhi
    have hvalue := hspelled.value_eq
    have hone : 1 ≤ n := Nat.one_le_iff_ne_zero.2 fun hzero => by
      have hv := hcontains.pos hm
      rw [← hvalue, hzero, Nat.cast_zero, zero_mul] at hv
      exact lt_irrefl 0 hv
    have hle := exponent_le hnormal hcontains (hcontains.one_le_digits hm)
    have hrange : -600 ≤ k ∧ k ≤ 308 := by
      cases hspelled <;> omega
    have hfinite : 0 ≤ k → ((Double.ofInt n).mul (tenTo k.toNat)).isFinite := by
      intro hk
      cases hspelled with
      | exact => exact isFinite_product hm hnormal hd hk hle hfits
      | padded => omega
    obtain ⟨y, m', e', hscaled, hdatum, hnear⟩ := scaled?_near hone hn hrange.1 hrange.2 hfinite
    rw [hvalue] at hnear
    have hclose := hnear.close (within_of_contains hnormal hcontains)
    refine ⟨if s then y.neg else y, ?_, .intro h ?_ hclose⟩
    · rw [hof, ofSignificand, hscaled]
      rfl
    · cases s with
      | false => exact hdatum
      | true => exact Double.datum_neg hdatum

end JsonNumber

end Rowgate
