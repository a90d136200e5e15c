/-
  Decimal text of doubles.  A layout fixes the decisions that formats differ in;
  the digits are always the shortest that read back.
-/
import Rowgate.Decimal.Shortest

namespace Rowgate

/-- The decisions of one decimal format. -/
structure DecimalLayout where
  /-- Which of two equally near decimals is written. -/
  tie : DecimalTie
  /-- Whether a number whose leading digit stands for `10^n` is written without
      an exponent. -/
  positional : Int → Bool
  /-- Whether a whole number ends in `.0`. -/
  pointZero : Bool
  notANumber : String
  infinite : String
  negativeInfinite : String

namespace DecimalLayout

/-- Digits with the point after the first `n`, which may lie outside of them. -/
def positionalText (pointZero : Bool) (digits : List Char) (n : Int) : List Char :=
  if n ≤ 0 then '0' :: '.' :: List.replicate (-n).toNat '0' ++ digits
  else if digits.length ≤ n.toNat then
    digits ++ List.replicate (n.toNat - digits.length) '0' ++ if pointZero then ['.', '0'] else []
  else digits.take n.toNat ++ '.' :: digits.drop n.toNat

/-- One digit, the others after a point, and the exponent with its sign. -/
def scientificText (digits : List Char) (n : Int) : List Char :=
  let mantissa := match digits with
    | c :: d :: r => c :: '.' :: d :: r
    | s => s
  mantissa ++ 'e' :: (if n < 0 then '-' else '+') :: Nat.toDigits 10 n.natAbs

def decimalText (l : DecimalLayout) (d : Decimal) : List Char :=
  let digits := Nat.toDigits 10 d.digits
  let n : Int := d.exponent + digits.length
  if l.positional (n - 1) then positionalText l.pointZero digits n
  else scientificText digits (n - 1)

def text (l : DecimalLayout) (x : Double) : String :=
  match x.datum with
  | .nan .. => l.notANumber
  | .infinite negative => if negative then l.negativeInfinite else l.infinite
  | .finite negative m e =>
    String.ofList ((if negative then ['-'] else []) ++ l.decimalText (.shortest l.tie m e))

/-- Never an exponent, and no point in a whole number. -/
def plain : DecimalLayout where
  tie := .up
  positional _ := true
  pointZero := false
  notANumber := "NaN"
  infinite := "inf"
  negativeInfinite := "-inf"

end DecimalLayout

/-- The plain decimal text of a double. -/
def Double.text (x : Double) : String :=
  DecimalLayout.plain.text x

end Rowgate
