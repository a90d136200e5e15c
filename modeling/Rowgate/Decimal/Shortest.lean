/-
  The shortest decimal of a binary number: of all decimals that round to it, one
  with the fewest digits, and of those the nearest to its exact value.

  The numbers that round to `m · 2^e` form an interval.  Grids of decimals are
  tried from coarse to fine; on each only the two neighbours of the number can
  lie in the interval nearest to it, and the first grid with one inside wins.
-/
import Rowgate.Decimal.Binary

namespace Rowgate

/-- The number `digits · 10^exponent`. -/
structure Decimal where
  digits : Nat
  exponent : Int
deriving DecidableEq

/-- Which of two equally near decimals is taken. -/
inductive DecimalTie where
  | toEven
  | up

namespace Decimal

/-- Divides out factors of ten, at most `fuel` of them. -/
def trimZeros (d : Nat) (k : Int) : Nat → Decimal
  | 0 => ⟨d, k⟩
  | fuel + 1 => if d ≠ 0 ∧ d % 10 = 0 then trimZeros (d / 10) (k + 1) fuel else ⟨d, k⟩

/-- The interval of numbers that round to `m · 2^e`, in quarters of the last
    place: its ends, whether they belong to it, and the exponent of a quarter. -/
structure Interval where
  lo : Nat
  mid : Nat
  hi : Nat
  closed : Bool
  quarter : Int

/-- Below a power of two the next number is half as far away. -/
def interval (m : Nat) (e : Int) : Interval where
  lo := if m = 2 ^ 52 && e > BinaryFormat.binary64.minExponent then 4 * m - 1 else 4 * m - 2
  mid := 4 * m
  hi := 4 * m + 2
  closed := m % 2 = 0
  quarter := e - 2

/-- The decimal on the grid of multiples of `10^k` that lies in the interval
    nearest to its middle, if any does. -/
def onGrid (tie : DecimalTie) (i : Interval) (k : Int) : Option Nat :=
  let quarters (a : Nat) : Nat := a * 2 ^ i.quarter.toNat * 10 ^ (-k).toNat
  let steps (c : Nat) : Nat := c * 10 ^ k.toNat * 2 ^ (-i.quarter).toNat
  let inside (c : Nat) : Bool :=
    if i.closed then quarters i.lo ≤ steps c && steps c ≤ quarters i.hi
    else quarters i.lo < steps c && steps c < quarters i.hi
  let c := quarters i.mid / steps 1
  let below := quarters i.mid - steps c
  let above := steps (c + 1) - quarters i.mid
  match inside c, inside (c + 1) with
  | false, false => none
  | true, false => some c
  | false, true => some (c + 1)
  | true, true =>
    if below < above then some c
    else if above < below then some (c + 1)
    else match tie with
      | .up => some (c + 1)
      | .toEven => some (if c % 2 = 0 then c else c + 1)

/-- The first grid from `10^k` downwards with a decimal inside. -/
def search (tie : DecimalTie) (i : Interval) (k : Int) : Nat → Decimal
  | 0 => ⟨0, 0⟩
  | fuel + 1 =>
    match onGrid tie i k with
    | some c => trimZeros c k 20
    | none => search tie i (k - 1) fuel

/-- The shortest decimal of `m · 2^e`.  The first grid is coarser than the number
    itself, and seventeen digits always suffice. -/
def shortest (tie : DecimalTie) (m : Nat) (e : Int) : Decimal :=
  if m = 0 then ⟨0, 0⟩
  else search tie (interval m e) (((m.log2 : Int) + 1 + e) * 30103 / 100000 + 1) 24

end Decimal

end Rowgate
