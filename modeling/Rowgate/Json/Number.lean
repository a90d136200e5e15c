/-
  The number that a JSON numeral denotes.

  Digits are taken into a 64-bit significand while they fit; those that do not
  fit are dropped, and before the point each of them counts as a power of ten.
  A numeral with a point, an exponent or dropped digits denotes the significand,
  as a double, times or over the double of a power of ten, and so may differ in
  the last place from the nearest double.
-/
import Rowgate.Json.Basic
import Rowgate.Decimal.Reader

namespace Rowgate.JsonNumber

/-- A numeral in its parts, digits as characters. -/
structure Numeral where
  negative : Bool
  whole : List Char
  fraction : Option (List Char)
  exponent : Option (Bool × List Char)

/-- Digits taken so far, the power of ten they stand at, and whether one has been
    dropped. -/
structure Significand where
  digits : Nat
  exponent : Int
  full : Bool

namespace Significand

/-- One more digit before the point. -/
def addWhole (s : Significand) (c : Char) : Significand :=
  let n := 10 * s.digits + (c.toNat - '0'.toNat)
  if s.full || 2 ^ 64 ≤ n then ⟨s.digits, s.exponent + 1, true⟩ else ⟨n, s.exponent, false⟩

/-- One more digit after the point. -/
def addFraction (s : Significand) (c : Char) : Significand :=
  let n := 10 * s.digits + (c.toNat - '0'.toNat)
  if s.full || 2 ^ 64 ≤ n then ⟨s.digits, s.exponent, true⟩ else ⟨n, s.exponent - 1, false⟩

end Significand

/-- The double of `10^n`. -/
def tenTo (n : Nat) : Double :=
  .ofRatio false (10 ^ n) 1

/-- `x · 10^e` by one multiplication or by divisions by at most `10^308` each;
    nothing when the result is infinite.  A significand is gone after three
    divisions. -/
def scaled? (x : Double) (e : Int) : Nat → Option Double
  | 0 => some x
  | fuel + 1 =>
    if 0 ≤ e ∧ e ≤ 308 then
      let y := x.mul (tenTo e.toNat)
      if y.isFinite then some y else none
    else if e < 0 ∧ -308 ≤ e then some (x.div (tenTo (-e).toNat))
    else if x = .zero then some x
    else if 0 ≤ e then none
    else scaled? (x.div (tenTo 308)) (e + 308) fuel

/-- `± digits · 10^e` by `scaled?`. -/
def ofSignificand (negative : Bool) (digits : Nat) (e : Int) : Option JsonNumber :=
  (scaled? (.ofInt digits) e 8).map fun x => .decimal (if negative then x.neg else x)

/-- The number of an exponent's digits, when it is below `2^31`. -/
def exponentSize? (s : List Char) : Option Nat :=
  (Text.digits? s).filter (· < 2 ^ 31)

/-- What a numeral denotes, if its value is in range.  An exponent of `2^31` or
    more leaves zero or is out of range. -/
def ofNumeral (t : Numeral) : Option JsonNumber :=
  let s := t.whole.foldl Significand.addWhole ⟨0, 0, false⟩
  match t.fraction, t.exponent with
  | none, none =>
    if s.full then ofSignificand t.negative s.digits s.exponent
    else if !t.negative then some (.whole s.digits)
    else if 0 < s.digits ∧ s.digits ≤ 2 ^ 63 then some (.whole (-(s.digits : Int)))
    else some (.decimal (Double.ofInt s.digits).neg)
  | fraction, exponent =>
    let s := (fraction.getD []).foldl Significand.addFraction ⟨s.digits, s.exponent, false⟩
    match exponent with
    | none => ofSignificand t.negative s.digits s.exponent
    | some (down, digits) =>
      match exponentSize? digits with
      | some e =>
        ofSignificand t.negative s.digits (if down then s.exponent - e else s.exponent + e)
      | none =>
        if s.digits ≠ 0 && !down then none
        else some (.decimal (if t.negative then Double.zero.neg else .zero))

end Rowgate.JsonNumber
