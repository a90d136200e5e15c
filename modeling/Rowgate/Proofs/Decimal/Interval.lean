/-
  The intervals of numbers that round to a double.

  * `Interval.Contains`: the numbers of an interval;
  * `Normal`: the significands and exponents that finite doubles have;
  * `contains_unique`: no number rounds to two of them.
-/
import Mathlib.Algebra.Order.Field.Basic
import Mathlib.Data.Rat.Cast.Order
import Mathlib.Tactic.Linarith
import Mathlib.Tactic.NormNum
import Mathlib.Tactic.Positivity
import Rowgate.Decimal.Shortest

namespace Rowgate.Decimal

/-- The number that a decimal stands for. -/
def value (d : Decimal) : ℚ :=
  d.digits * 10 ^ d.exponent

/-- The numbers of an interval, the ends if they belong to it. -/
structure Interval.Contains (i : Interval) (v : ℚ) : Prop where
  lo_le : (i.lo : ℚ) * 2 ^ i.quarter ≤ v
  le_hi : v ≤ (i.hi : ℚ) * 2 ^ i.quarter
  open_ends : i.closed = false →
    (i.lo : ℚ) * 2 ^ i.quarter < v ∧ v < (i.hi : ℚ) * 2 ^ i.quarter

/-- A significand of full width, or a smaller one with the least exponent. -/
structure Normal (m : Nat) (e : Int) : Prop where
  width : m < 2 ^ 53
  least : -1074 ≤ e
  greatest : e ≤ 971
  full : 2 ^ 52 ≤ m ∨ e = -1074

theorem minExponent_binary64 : BinaryFormat.binary64.minExponent = -1074 := by
  decide

/-- The lower end of an interval in quarters: nearer to the middle above a power of two. -/
theorem lo_interval (m : Nat) (e : Int) :
    (interval m e).lo = if m = 2 ^ 52 ∧ -1074 < e then 4 * m - 1 else 4 * m - 2 := by
  simp [interval, minExponent_binary64]

variable {m m' : Nat} {e e' : Int} {v : ℚ}

theorem two_zpow_pos (e : Int) : (0 : ℚ) < 2 ^ e :=
  zpow_pos (by norm_num) e

theorem lo_interval_pos (hm : m ≠ 0) : 0 < (interval m e).lo := by
  rw [lo_interval]
  split_ifs <;> omega

theorem Interval.Contains.pos (h : (interval m e).Contains v) (hm : m ≠ 0) : 0 < v := by
  have hlo : (0 : ℚ) < (interval m e).lo := by exact_mod_cast lo_interval_pos hm
  exact (mul_pos hlo (two_zpow_pos _)).trans_le h.lo_le

/-- A number that meets the end of an interval is in it when the significand is even. -/
theorem even_of_hi (h : (interval m e).Contains v)
    (hv : v = ((interval m e).hi : ℚ) * 2 ^ (interval m e).quarter) : m % 2 = 0 := by
  by_contra hodd
  have hopen : (interval m e).closed = false := by simpa [interval] using hodd
  exact (h.open_ends hopen).2.ne hv

theorem even_of_lo (h : (interval m e).Contains v)
    (hv : v = ((interval m e).lo : ℚ) * 2 ^ (interval m e).quarter) : m % 2 = 0 := by
  by_contra hodd
  have hopen : (interval m e).closed = false := by simpa [interval] using hodd
  exact (h.open_ends hopen).1.ne hv.symm

/-- Intervals of one exponent have no number in common. -/
theorem not_contains_of_lt (hlt : m < m') (h : (interval m e).Contains v)
    (h' : (interval m' e).Contains v) : False := by
  have hends : (interval m e).hi ≤ (interval m' e).lo := by
    rw [lo_interval]
    simp only [interval]
    split_ifs <;> omega
  have hquarter : (interval m' e).quarter = (interval m e).quarter := rfl
  have hle : ((interval m e).hi : ℚ) * 2 ^ (interval m e).quarter ≤
      ((interval m' e).lo : ℚ) * 2 ^ (interval m e).quarter :=
    mul_le_mul_of_nonneg_right (by exact_mod_cast hends) (two_zpow_pos _).le
  have hlo := h'.lo_le
  rw [hquarter] at hlo
  -- the number is where one interval ends and the other starts, and only one of them is closed
  have hhi : v = ((interval m e).hi : ℚ) * 2 ^ (interval m e).quarter :=
    le_antisymm h.le_hi (hle.trans hlo)
  have hlo' : v = ((interval m' e).lo : ℚ) * 2 ^ (interval m' e).quarter :=
    le_antisymm (h.le_hi.trans hle) hlo
  have heq : (interval m e).hi = (interval m' e).lo := by
    have := hhi.symm.trans hlo'
    rw [hquarter] at this
    exact_mod_cast mul_right_cancel₀ (two_zpow_pos _).ne' this
  have heven := even_of_hi h hhi
  have heven' := even_of_lo h' hlo'
  rw [lo_interval] at heq
  simp only [interval] at heq
  split_ifs at heq <;> omega

/-- Intervals of two exponents have no number in common. -/
theorem not_contains_of_exponent_lt (hm : Normal m e) (hm' : Normal m' e') (hlt : e < e')
    (h : (interval m e).Contains v) (h' : (interval m' e').Contains v) : False := by
  have hfull : 2 ^ 52 ≤ m' := hm'.full.resolve_right (by have := hm.least; omega)
  have hwidth := hm.width
  have hleast := hm.least
  have hhi : (interval m e).hi ≤ 2 * (2 ^ 54 - 1) := by
    simp only [interval]
    omega
  have hlo : 2 ^ 54 - 1 ≤ (interval m' e').lo := by
    rw [lo_interval]
    split_ifs <;> omega
  -- the intervals meet at most below the power of two between the exponents
  have hpow : ((2 ^ 54 - 1 : ℕ) : ℚ) * 2 * 2 ^ (e - 2) ≤ (2 ^ 54 - 1 : ℕ) * 2 ^ (e' - 2) := by
    rw [mul_assoc, ← zpow_one_add₀ (by norm_num)]
    have hpow : (2 : ℚ) ^ (1 + (e - 2)) ≤ 2 ^ (e' - 2) :=
      zpow_le_zpow_right₀ (by norm_num) (by omega)
    exact mul_le_mul_of_nonneg_left hpow (Nat.cast_nonneg _)
  have hupper : ((interval m e).hi : ℚ) * 2 ^ (e - 2) ≤ (2 ^ 54 - 1 : ℕ) * 2 * 2 ^ (e - 2) := by
    have hhi : ((interval m e).hi : ℚ) ≤ (2 ^ 54 - 1 : ℕ) * 2 := by
      exact_mod_cast hhi.trans_eq (Nat.mul_comm _ _)
    exact mul_le_mul_of_nonneg_right hhi (two_zpow_pos _).le
  have hlower : ((2 ^ 54 - 1 : ℕ) : ℚ) * 2 ^ (e' - 2) ≤ v :=
    (mul_le_mul_of_nonneg_right (by exact_mod_cast hlo) (two_zpow_pos _).le).trans h'.lo_le
  have heven : m % 2 = 0 :=
    even_of_hi h (le_antisymm h.le_hi (hupper.trans (hpow.trans hlower)))
  have hodd : (2 ^ 54 - 1) * 2 ≤ (interval m e).hi := by
    have := (hpow.trans hlower).trans h.le_hi
    exact_mod_cast le_of_mul_le_mul_right this (two_zpow_pos _)
  simp only [interval] at hodd
  omega

/-- No number rounds to two doubles. -/
theorem contains_unique (hm : Normal m e) (hm' : Normal m' e') (h : (interval m e).Contains v)
    (h' : (interval m' e').Contains v) : m = m' ∧ e = e' := by
  rcases lt_trichotomy e e' with hlt | rfl | hlt
  · exact (not_contains_of_exponent_lt hm hm' hlt h h').elim
  · rcases lt_trichotomy m m' with hlt | rfl | hlt
    · exact (not_contains_of_lt hlt h h').elim
    · exact ⟨rfl, rfl⟩
    · exact (not_contains_of_lt hlt h' h).elim
  · exact (not_contains_of_exponent_lt hm' hm hlt h' h).elim

end Rowgate.Decimal
