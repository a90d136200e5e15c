/-
  Numbers as bytes, the most significant one first.

  * `toNat_ofNat` and `toInt_ofInt`: reading gives back what was written, as far
    as it fits.
-/
import Rowgate.Number

namespace Rowgate.Bytes

/-- The last `width` bytes of a number. -/
def ofNat : Nat → Nat → List UInt8
  | 0, _ => []
  | width + 1, n => ofNat width (n / 256) ++ [UInt8.ofNat n]

/-- The number that bytes stand for. -/
def toNat (bytes : List UInt8) : Nat :=
  bytes.foldl (fun n b => 256 * n + b.toNat) 0

/-- The bytes of a number in two's complement. -/
def ofInt (width : Nat) (n : Int) : List UInt8 :=
  ofNat width (n % 256 ^ width).toNat

/-- The number that bytes stand for in two's complement. -/
def toInt (bytes : List UInt8) : Int :=
  let n := toNat bytes
  if 2 * n < 256 ^ bytes.length then n else (n : Int) - 256 ^ bytes.length

@[simp]
theorem length_ofNat (width n : Nat) : (ofNat width n).length = width := by
  induction width generalizing n with
  | zero => rfl
  | succ w ih => simp [ofNat, ih]

@[simp]
theorem length_ofInt (width : Nat) (n : Int) : (ofInt width n).length = width := by
  simp [ofInt]

theorem toNat_append_singleton (bytes : List UInt8) (b : UInt8) :
    toNat (bytes ++ [b]) = 256 * toNat bytes + b.toNat := by
  simp [toNat]

theorem toNat_ofNat (width n : Nat) : toNat (ofNat width n) = n % 256 ^ width := by
  induction width generalizing n with
  | zero => simp [ofNat, toNat, Nat.mod_one]
  | succ w ih =>
    have h : n % 256 ^ (w + 1) = n % 256 + 256 * (n / 256 % 256 ^ w) := by
      rw [Nat.pow_succ', Nat.mod_mul]
    rw [ofNat, toNat_append_singleton, ih, UInt8.toNat_ofNat', h]
    omega

theorem toInt_ofInt (width : Nat) (n : Int) (lo : -(256 ^ width) ≤ 2 * n)
    (hi : 2 * n < 256 ^ width) : toInt (ofInt width n) = n := by
  have pos : (0 : Int) < 256 ^ width := Int.pow_pos (by decide)
  have cast : ((256 ^ width : Nat) : Int) = 256 ^ width := by simp
  rw [toInt, length_ofInt, ofInt, toNat_ofNat]
  have small : (n % 256 ^ width).toNat % 256 ^ width = (n % 256 ^ width).toNat := by
    apply Nat.mod_eq_of_lt
    have := Int.emod_lt_of_pos n pos
    omega
  rw [small]
  by_cases h : 0 ≤ n
  · have e : n % 256 ^ width = n := Int.emod_eq_of_lt h (by omega)
    rw [e]
    split <;> omega
  · have e : n % 256 ^ width = n + 256 ^ width := by
      rw [← Int.add_emod_right]
      exact Int.emod_eq_of_lt (by omega) (by omega)
    rw [e]
    split <;> omega

end Rowgate.Bytes
