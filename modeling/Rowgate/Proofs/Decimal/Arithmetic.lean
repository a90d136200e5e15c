/-
  Products and quotients of doubles, and how far rounding takes them from the exact ones.

  * `mul_found`, `div_found`: the product and the quotient are rounded once;
  * `Within`: a number between multiples of another, but for a remainder;
  * `Within.mul`, `Within.div`, `Within.round`: the bounds go through products, quotients and
    roundings;
  * `datum_neg`: the number with the other sign.
-/
import Mathlib.Algebra.Order.Field.Basic
import Rowgate.Proofs.Decimal.Rounding

namespace Rowgate

namespace Double

open BinaryFormat
open Decimal (two_zpow_pos)

variable {x y : Double} {s t : Bool} {m n : Nat} {e d : Int}

theorem mul_found (hx : x.datum = .finite s m e) (hy : y.datum = .finite t n d) :
    Found (s != t) (m * 2 ^ e * (n * 2 ^ d)) (x.mul y) := by
  have h := ofScaled_found (s != t) (m * n) (e + d)
  rw [mul, hx, hy]
  rw [zpow_add₀ (by norm_num), Nat.cast_mul, mul_mul_mul_comm] at h
  exact h

theorem div_found (hx : x.datum = .finite s m e) (hy : y.datum = .finite t n d) (hn : n ≠ 0) :
    Found (s != t) (m * 2 ^ e / (n * 2 ^ d)) (x.div y) := by
  rw [div, hx, hy]
  dsimp only
  rw [if_neg hn]
  by_cases hed : e < d
  · obtain ⟨k, rfl⟩ : ∃ k : Nat, d = e + k := ⟨(d - e).toNat, by omega⟩
    have hden : n * 2 ^ k ≠ 0 := by positivity
    have h := ofRatio_found (s != t) m hden
    rw [if_pos hed, show (e + k - e).toNat = k by omega]
    convert h using 1
    rw [zpow_add₀ (by norm_num), zpow_natCast]
    push_cast
    rw [mul_left_comm, mul_comm (m : ℚ), mul_div_mul_left _ _ (two_zpow_pos e).ne']
  · obtain ⟨k, rfl⟩ : ∃ k : Nat, e = d + k := ⟨(e - d).toNat, by omega⟩
    have h := ofRatio_found (s != t) (m * 2 ^ k) hn
    rw [if_neg hed, show (d + k - d).toNat = k by omega]
    convert h using 1
    rw [zpow_add₀ (by norm_num), zpow_natCast]
    push_cast
    rw [mul_left_comm, mul_comm (n : ℚ), mul_div_mul_left _ _ (two_zpow_pos d).ne']

theorem Found.finite_of_lt {v : ℚ} (h : Found s v x) (hv : v < binary64.limit) :
    ∃ m e, x.datum = .finite s m e ∧ binary64.Rounded v m e := by
  cases h with
  | finite hx hrounded => exact ⟨_, _, hx, hrounded⟩
  | infinite hx hlimit => exact absurd hv (not_lt.2 hlimit)

theorem xor_two_pow {b k : Nat} (h : b < 2 ^ k) : b ^^^ 2 ^ k = 2 ^ k + b := by
  refine Nat.eq_of_testBit_eq fun i => ?_
  rw [Nat.testBit_xor, Nat.testBit_two_pow]
  rcases lt_trichotomy i k with hlt | rfl | hgt
  · rw [Nat.testBit_two_pow_add_gt hlt]
    simp [hlt.ne']
  · simp [Nat.testBit_lt_two_pow h, Nat.testBit_two_pow_add_eq]
  · have hb : b < 2 ^ i := h.trans (Nat.pow_lt_pow_right (by decide) hgt)
    have hsum : 2 ^ k + b < 2 ^ i := by
      have hpow : (2 ^ (k + 1) : ℕ) ≤ 2 ^ i := Nat.pow_le_pow_right (by decide) hgt
      rw [pow_succ] at hpow
      omega
    rw [Nat.testBit_lt_two_pow hb, Nat.testBit_lt_two_pow hsum]
    simp [hgt.ne]

/-- The number with a minus sign. -/
theorem datum_neg (h : x.datum = .finite false m e) : x.neg.datum = .finite true m e := by
  have hlow : x.bits.toNat < binary64.signBit := by
    have hlt := x.bits.toNat_lt
    have hsign := of_decide_eq_false (decode_sign h).symm
    rw [show binary64.signBit = 2 ^ 63 from rfl] at hsign ⊢
    omega
  have hbits : x.neg.bits.toNat = binary64.signBit + x.bits.toNat := by
    rw [neg, UInt64.toNat_xor]
    exact xor_two_pow hlow
  rw [datum, hbits]
  exact decode_signBit hlow h

end Double

/-! ## Bounds -/

/-- A number between multiples of another, but for a remainder. -/
structure Within (lo hi rest v p : ℚ) : Prop where
  ge : v * lo - rest ≤ p
  le : p ≤ v * hi + rest

namespace Within

variable {lo hi lo' hi' rest v w p q : ℚ}

theorem mono (h : Within lo hi rest v p) (hv : 0 ≤ v) {rest' : ℚ} (hlo : lo' ≤ lo) (hhi : hi ≤ hi')
    (hrest : rest ≤ rest') : Within lo' hi' rest' v p where
  ge := by linarith [mul_le_mul_of_nonneg_left hlo hv, h.ge]
  le := by linarith [mul_le_mul_of_nonneg_left hhi hv, h.le]

theorem mul (h : Within lo hi 0 v p) (h' : Within lo' hi' 0 w q) (hv : 0 ≤ v) (hw : 0 ≤ w)
    (hlo : 0 ≤ lo) (hlo' : 0 ≤ lo') : Within (lo * lo') (hi * hi') 0 (v * w) (p * q) where
  ge := by
    have hp : v * lo ≤ p := by linarith [h.ge]
    have hq : w * lo' ≤ q := by linarith [h'.ge]
    rw [sub_zero, mul_mul_mul_comm]
    exact mul_le_mul hp hq (by positivity) ((by positivity : 0 ≤ v * lo).trans hp)
  le := by
    have hp : p ≤ v * hi := by linarith [h.le]
    have hq : q ≤ w * hi' := by linarith [h'.le]
    have hp0 : 0 ≤ p := (by positivity : 0 ≤ v * lo).trans (by linarith [h.ge])
    have hq0 : 0 ≤ q := (by positivity : 0 ≤ w * lo').trans (by linarith [h'.ge])
    rw [add_zero, mul_mul_mul_comm]
    exact mul_le_mul hp hq hq0 (hp0.trans hp)

/-- A divisor of at least one does not make the remainder greater. -/
theorem div (h : Within lo hi rest v p) (h' : Within lo' hi' 0 w q) (hv : 0 ≤ v) (hw : 0 < w)
    (hlo : 0 ≤ lo) (hhi : 0 ≤ hi) (hlo' : 0 < lo') (hrest : 0 ≤ rest) (hone : 1 ≤ w * lo') :
    Within (lo / hi') (hi / lo') rest (v / w) (p / q) := by
  have hq : w * lo' ≤ q := by linarith [h'.ge]
  have hq' : q ≤ w * hi' := by linarith [h'.le]
  have hq1 : 1 ≤ q := hone.trans hq
  have hq0 : 0 < q := by linarith
  have hhi' : 0 < hi' := pos_of_mul_pos_right (hq0.trans_le hq') hw.le
  have hdiv : rest / q ≤ rest := div_le_self hrest hq1
  constructor
  · have hmain : v * lo / (w * hi') ≤ v * lo / q :=
      div_le_div_of_nonneg_left (by positivity) hq0 hq'
    have hp : (v * lo - rest) / q ≤ p / q := div_le_div_of_nonneg_right h.ge hq0.le
    rw [sub_div] at hp
    rw [div_mul_div_comm]
    linarith
  · have hmain : v * hi / q ≤ v * hi / (w * lo') :=
      div_le_div_of_nonneg_left (by positivity) (by positivity) hq
    have hp : p / q ≤ (v * hi + rest) / q := div_le_div_of_nonneg_right h.le hq0.le
    rw [add_div] at hp
    rw [div_mul_div_comm]
    linarith

end Within

open BinaryFormat
open Decimal (two_zpow_pos)

/-- A number found by rounding is near the exact one. -/
theorem BinaryFormat.Rounded.within {v : ℚ} {m : Nat} {e : Int} (h : binary64.Rounded v m e) :
    Within (1 - 2 ^ (-53 : Int)) (1 + 2 ^ (-53 : Int)) (2 ^ (-1075 : Int)) v (m * 2 ^ e) := by
  have herror := abs_le.1 h.error
  have hu : -(binary64.fractionBits : Int) - 1 = -53 := by decide
  have hmin : binary64.minExponent - 1 = -1075 := by decide
  rw [hu, hmin] at herror
  constructor <;> linarith [herror.1, herror.2]

/-- Without a remainder for what is at least one. -/
theorem BinaryFormat.Rounded.within_of_one_le {v : ℚ} {m : Nat} {e : Int}
    (h : binary64.Rounded v m e) (hv : 1 ≤ v) :
    Within (1 - 2 ^ (-52 : Int)) (1 + 2 ^ (-52 : Int)) 0 v (m * 2 ^ e) := by
  have hwithin := h.within
  have hrest : (2 : ℚ) ^ (-1075 : Int) ≤ v * 2 ^ (-53 : Int) :=
    (zpow_le_zpow_right₀ (by norm_num) (by norm_num)).trans
      (le_mul_of_one_le_left (two_zpow_pos _).le hv)
  have hhalf : (2 : ℚ) ^ (-52 : Int) = 2 * 2 ^ (-53 : Int) := by norm_num
  rw [hhalf]
  constructor <;> linarith [hwithin.ge, hwithin.le]

/-- The bounds after one more rounding. -/
theorem Within.round {lo hi rest v p : ℚ} {m : Nat} {e : Int} (h : Within lo hi rest v p)
    (hrest : 0 ≤ rest) (hrounded : binary64.Rounded p m e) :
    Within (lo * (1 - 2 ^ (-53 : Int))) (hi * (1 + 2 ^ (-53 : Int)))
      (2 * rest + 2 ^ (-1075 : Int)) v (m * 2 ^ e) := by
  have hwithin := hrounded.within
  have hu : (0 : ℚ) < 2 ^ (-53 : Int) := two_zpow_pos _
  have hu1 : (2 : ℚ) ^ (-53 : Int) < 1 := by norm_num
  constructor
  · have hmul := mul_le_mul_of_nonneg_right h.ge (sub_pos.2 hu1).le
    nlinarith [hwithin.ge]
  · have hmul := mul_le_mul_of_nonneg_right h.le (by linarith : (0 : ℚ) ≤ 1 + 2 ^ (-53 : Int))
    nlinarith [hwithin.le]

end Rowgate
