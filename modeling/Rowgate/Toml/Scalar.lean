/-
  TOML scalars that are not in quotes: truth values, numbers, dates and times.

  The digits of a number may be grouped by single underscores.  Whole numbers are
  limited to 128 bits, floats to the range of doubles.
-/
import Rowgate.Calendar.Date
import Rowgate.Decimal.Reader
import Rowgate.Text.Hex
import Rowgate.Text.Split
import Rowgate.Toml.Basic

namespace Rowgate.Toml

/-- The digits of a number without the underscores that group them. -/
def ungrouped? (isDigit : Char → Bool) (s : List Char) : Option (List Char) :=
  let groups := Text.parts '_' s
  if groups.all fun g => !g.isEmpty && g.all isDigit then some groups.flatten else none

/-- Digits that do not begin with a zero, unless that is all. -/
def wholeDigits? (s : List Char) : Option (List Char) :=
  (ungrouped? Char.isDigit s).filter fun d => d.length = 1 || d.head? ≠ some '0'

/-- A whole number after the prefix of its base. -/
def based? (base : Nat) (s : List Char) : Option Int := do
  let isDigit (c : Char) : Bool := (Text.hexValue? c).any (· < base)
  let n ← Text.inBase? base (← ungrouped? isDigit s)
  return (n : Int)

/-- A whole number in decimal with an optional sign, or one of another base. -/
def integer? (s : List Char) : Option Int :=
  let n := match s with
    | '0' :: 'x' :: r => based? 16 r
    | '0' :: 'o' :: r => based? 8 r
    | '0' :: 'b' :: r => based? 2 r
    | s =>
      let (negative, s) := Decimal.splitSign s
      ((wholeDigits? s).bind Text.digits?).map fun n => if negative then -(n : Int) else n
  n.filter fun n => -(2 ^ 127) ≤ n ∧ n < 2 ^ 128

/-- The exponent of a float: an optional sign and digits. -/
def exponentDigits? (s : List Char) : Option (List Char) :=
  let (negative, s) := Decimal.splitSign s
  (ungrouped? Char.isDigit s).map fun d => if negative then '-' :: d else d

/-- A whole part with an optional fraction. -/
def mantissaDigits? (s : List Char) : Option (List Char) :=
  match Text.cut '.' s with
  | (whole, none) => wholeDigits? whole
  | (whole, some fraction) => do
    return (← wholeDigits? whole) ++ '.' :: (← ungrouped? Char.isDigit fraction)

/-- A whole part with a fraction, an exponent or both. -/
def decimalDigits? (s : List Char) : Option (List Char) := do
  let isMark (c : Char) : Bool := c = 'e' || c = 'E'
  let mantissa := s.takeWhile fun c => !isMark c
  let digits ← mantissaDigits? mantissa
  match s.dropWhile fun c => !isMark c with
  | [] => if mantissa.contains '.' then return digits else none
  | _ :: e => return digits ++ 'e' :: (← exponentDigits? e)

/-- A float with an optional sign; `inf` and `nan` are floats. -/
def float? (s : List Char) : Option Double :=
  let (negative, s) := Decimal.splitSign s
  let x : Option Double := match s with
    | ['i', 'n', 'f'] => some (.infinity false)
    | ['n', 'a', 'n'] => some .nan
    | s => ((decimalDigits? s).bind Decimal.read?).filter Double.isFinite
  x.map fun x => if negative then x.neg else x

/-! ## Dates and times -/

/-- A number of exactly so many digits, and what follows it. -/
def count? (width : Nat) (s : List Char) : Option (Nat × List Char) :=
  if s.length < width then none
  else (Text.digits? (s.take width)).map fun n => (n, s.drop width)

/-- A number of two digits up to a greatest one. -/
def twoDigits? (greatest : Nat) (s : List Char) : Option (Nat × List Char) :=
  (count? 2 s).filter (·.1 ≤ greatest)

/-- What follows a date at the head of a text. -/
def afterDate? (s : List Char) : Option (List Char) :=
  match count? 4 s with
  | some (year, '-' :: r) =>
    match count? 2 r with
    | some (month, '-' :: r) =>
      (count? 2 r).bind fun (day, r) => if Date.isValid ⟨year, month, day⟩ then some r else none
    | _ => none
  | _ => none

/-- What follows the fraction of a second at the head of a text. -/
def afterFraction? : List Char → Option (List Char)
  | '.' :: r => if (r.head?.any Char.isDigit) then some (r.dropWhile Char.isDigit) else none
  | s => some s

/-- What follows a time at the head of a text; the seconds may be left out. -/
def afterTime? (s : List Char) : Option (List Char) :=
  match twoDigits? 23 s with
  | some (_, ':' :: r) =>
    match twoDigits? 59 r with
    | some (_, ':' :: r) => (twoDigits? 60 r).bind fun (_, r) => afterFraction? r
    | some (_, r) => some r
    | none => none
  | _ => none

/-- Whether a text is nothing or the offset of a date-time, which is a day at most. -/
def isOffset : List Char → Bool
  | [] => true
  | ['Z'] | ['z'] => true
  | c :: r =>
    (c = '+' || c = '-') &&
      match twoDigits? 24 r with
      | some (hours, ':' :: r) => (twoDigits? (if hours < 24 then 59 else 0) r).any (·.2.isEmpty)
      | _ => false

/-- Whether a text is a date, a time, or a date-time with or without an offset. -/
def isDateTime (s : List Char) : Bool :=
  match afterDate? s with
  | some [] => true
  | some (c :: r) => (c = 'T' || c = 't' || c = ' ') && (afterTime? r).any isOffset
  | none => afterTime? s = some []

/-! ## Scalars -/

/-- A scalar from its text. -/
def scalar? (s : List Char) : Option Toml :=
  if s = "true".toList then some (boolean true)
  else if s = "false".toList then some (boolean false)
  else
    match integer? s with
    | some n => some (integer n)
    | none =>
      match float? s with
      | some x => some (float x)
      | none => if isDateTime s then some (dateTime (String.ofList s)) else none

def isScalarChar (c : Char) : Bool :=
  c.isAlphanum || c = '+' || c = '-' || c = '_' || c = '.' || c = ':'

/-- The scalar at the head of a text, and what follows it.  A space may stand between a
    date and a time. -/
def readScalar (s : List Char) : Option (Toml × List Char) :=
  let text := s.takeWhile isScalarChar
  let rest := s.dropWhile isScalarChar
  match afterDate? text, rest with
  | some [], ' ' :: d :: r =>
    if d.isDigit then
      let time := (d :: r).takeWhile isScalarChar
      (scalar? (text ++ ' ' :: time)).map (·, (d :: r).dropWhile isScalarChar)
    else (scalar? text).map (·, rest)
  | _, _ => (scalar? text).map (·, rest)

end Rowgate.Toml
