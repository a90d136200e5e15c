/-
  Whole numbers in decimal: an optional sign and at least one ASCII digit, with
  nothing before or after.
-/
import Rowgate.Number

namespace Rowgate.Text

/-- The value of a run of ASCII digits; nothing for an empty run or another character. -/
def digits? (s : List Char) : Option Nat :=
  if s.isEmpty then none
  else s.foldl (fun acc c => acc.bind fun n =>
    if c.isDigit then some (10 * n + (c.toNat - '0'.toNat)) else none) (some 0)

/-- The value of an optionally signed run of digits. -/
def whole? : List Char → Option Int
  | '-' :: r => (digits? r).map fun n => -(n : Int)
  | '+' :: r => (digits? r).map fun n => (n : Int)
  | s => (digits? s).map fun n => (n : Int)

/-- `whole?` within the range of a signed word of `bits` bits. -/
def signed? (bits : Nat) (s : List Char) : Option Int :=
  (whole? s).filter fun n => -(2 ^ (bits - 1) : Int) ≤ n ∧ n < (2 ^ (bits - 1) : Int)

/-- A run of digits, a plus sign before it or not, below `2 ^ bits`. -/
def unsigned? (bits : Nat) (s : List Char) : Option Nat :=
  (digits? (if s.head? = some '+' then s.drop 1 else s)).filter (· < 2 ^ bits)

/-- A number in decimal with at least `width` digits. -/
def padded (width : Nat) (n : Nat) : String :=
  let s := toString n
  String.ofList (List.replicate (width - s.length) '0') ++ s

end Rowgate.Text
