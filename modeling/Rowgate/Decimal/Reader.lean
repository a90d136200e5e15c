/-
  Reading decimal text to the nearest double.
-/
import Rowgate.Decimal.Binary
import Rowgate.Text.Case
import Rowgate.Text.Whole

namespace Rowgate

/-- The double nearest to `± digits · 10^exponent`.  Outside of the range of the
    format by far, the power of ten is not computed. -/
def Double.ofDecimal (negative : Bool) (digits : Nat) (exponent : Int) : Double :=
  let top : Int := (Nat.toDigits 10 digits).length + exponent
  if digits = 0 || top < -400 then ofRatio negative 0 1
  else if top > 400 then infinity negative
  else if exponent < 0 then ofRatio negative digits (10 ^ (-exponent).toNat)
  else ofRatio negative (digits * 10 ^ exponent.toNat) 1

namespace Decimal

/-- Splits off a leading sign: whether it was a minus, and the rest. -/
def splitSign : List Char → Bool × List Char
  | '-' :: r => (true, r)
  | '+' :: r => (false, r)
  | s => (false, s)

/-- The exponent after its mark: an optional sign and digits to the end. -/
def exponent? (s : List Char) : Option Int :=
  let (negative, s) := splitSign s
  (Text.digits? s).map fun n => if negative then -(n : Int) else n

/-- Digits with an optional point and an optional exponent; a digit must stand on
    at least one side of the point. -/
def unsigned? (negative : Bool) (s : List Char) : Option Double := do
  let whole := s.takeWhile Char.isDigit
  let s := s.dropWhile Char.isDigit
  let (fraction, s) := match s with
    | '.' :: r => (r.takeWhile Char.isDigit, r.dropWhile Char.isDigit)
    | s => ([], s)
  let digits ← Text.digits? (whole ++ fraction)
  let e ← match s with
    | [] => some 0
    | c :: r => if c = 'e' || c = 'E' then exponent? r else none
  return .ofDecimal negative digits (e - fraction.length)

/-- Reads a decimal, an infinity or a not-a-number, in any letter case and with
    an optional sign. -/
def read? (s : List Char) : Option Double :=
  let (negative, s) := splitSign s
  if Text.sameWord s "nan".toList then some (if negative then Double.nan.neg else .nan)
  else if Text.sameWord s "inf".toList || Text.sameWord s "infinity".toList then
    some (.infinity negative)
  else unsigned? negative s

end Decimal

end Rowgate
