/-
  Digits of bases up to sixteen, and bytes as lower-case hexadecimal text, two
  digits a byte.
-/
namespace Rowgate.Text

/-- The value of a hexadecimal digit of either case. -/
def hexValue? (c : Char) : Option Nat :=
  if '0' ≤ c ∧ c ≤ '9' then some (c.toNat - '0'.toNat)
  else if 'a' ≤ c ∧ c ≤ 'f' then some (c.toNat - 'a'.toNat + 10)
  else if 'A' ≤ c ∧ c ≤ 'F' then some (c.toNat - 'A'.toNat + 10)
  else none

/-- The value of a run of digits of a base; nothing for another character. -/
def inBase? (base : Nat) (s : List Char) : Option Nat :=
  s.foldl (fun acc c => acc.bind fun n =>
    (hexValue? c).bind fun d => if d < base then some (base * n + d) else none) (some 0)

/-- The lower-case digit of a value below 16. -/
def hexDigit (n : Nat) : Char :=
  if n < 10 then Char.ofNat ('0'.toNat + n) else Char.ofNat ('a'.toNat + (n - 10))

def hexByte (b : UInt8) : List Char :=
  [hexDigit (b.toNat / 16), hexDigit (b.toNat % 16)]

def hexText (bytes : List UInt8) : String :=
  String.ofList (bytes.flatMap hexByte)

/-- Reads pairs of digits; nothing for an odd count or another character. -/
def hexBytes? : List Char → Option (List UInt8)
  | [] => some []
  | [_] => none
  | a :: b :: r => do
    let hi ← hexValue? a
    let lo ← hexValue? b
    let rest ← hexBytes? r
    return UInt8.ofNat (16 * hi + lo) :: rest

end Rowgate.Text
