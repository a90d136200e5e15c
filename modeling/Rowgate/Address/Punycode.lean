/-
  Punycode: the encoding of international labels in ASCII, decoded.
-/
import Rowgate.Number

namespace Rowgate.Address.Punycode

/-- The value of a base-36 digit. -/
def digit? (c : Char) : Option Nat :=
  let n := c.toNat
  if 0x61 ≤ n && n ≤ 0x7A then some (n - 0x61)
  else if 0x41 ≤ n && n ≤ 0x5A then some (n - 0x41)
  else if 0x30 ≤ n && n ≤ 0x39 then some (n - 0x30 + 26)
  else none

/-- The threshold of a digit at position `k` (a multiple of 36). -/
def threshold (k bias : Nat) : Nat :=
  if k ≤ bias then 1 else if bias + 26 ≤ k then 26 else k - bias

/-- Reads one variable-length number and adds it to `value`: the sum and the rest.  All
    numbers are limited to 32 bits. -/
def number? (bias : Nat) : Nat → Nat → Nat → List Char → Option (Nat × List Char)
  | _, _, _, [] => none
  | k, weight, value, c :: r => do
    let d ← digit? c
    let value := value + d * weight
    if 2 ^ 32 ≤ value then none
    else
      let t := threshold k bias
      if d < t then some (value, r)
      else
        let weight := weight * (36 - t)
        if 2 ^ 32 ≤ weight then none else number? bias (k + 36) weight value r

/-- Divides by 35 while above 455, counting 36 for each division. -/
def shrink : Nat → Nat → Nat → Nat × Nat
  | 0, delta, k => (delta, k)
  | fuel + 1, delta, k => if 455 < delta then shrink fuel (delta / 35) (k + 36) else (delta, k)

/-- The bias after a delta of a text that now has `points` characters. -/
def adapt (delta points : Nat) (first : Bool) : Nat :=
  let delta := if first then delta / 700 else delta / 2
  let (delta, k) := shrink 20 (delta + delta / points) 0
  k + 36 * delta / (delta + 38)

/-- The state of decoding: the points so far, the last one put in, where the next
    one goes, the bias, and whether none has been put in. -/
structure Progress where
  points : List Nat
  last : Nat
  place : Nat
  bias : Nat
  first : Bool

/-- Puts in the points that the deltas stand for.  Each delta takes at least one
    character of the text. -/
def insertAll : Nat → Progress → List Char → Option (List Nat)
  | 0, _, _ => none
  | _ + 1, p, [] => some p.points
  | fuel + 1, p, s => do
    let (place, r) ← number? p.bias 36 1 p.place s
    let size := p.points.length + 1
    let point := p.last + place / size
    let bias := adapt (place - p.place) size p.first
    let place := place % size
    if point < 0x110000 ∧ (point < 0xD800 ∨ 0xDFFF < point) then
      insertAll fuel ⟨p.points.take place ++ point :: p.points.drop place, point, place + 1,
        bias, false⟩ r
    else none

/-- The characters of an encoded label (without its mark).  Those before the last hyphen
    stand for themselves; a hyphen with none before it is a digit, and not a good one. -/
def decode? (s : List Char) : Option (List Char) :=
  let tail := (s.reverse.takeWhile (· ≠ '-')).reverse
  let basic := s.take (s.length - tail.length - 1)
  if basic.any fun c => 0x80 ≤ c.toNat then none
  else
    (insertAll (s.length + 1) ⟨basic.map Char.toNat, 0x80, 0, 72, true⟩
      (if basic.isEmpty then s else tail)).map (·.map Char.ofNat)

end Rowgate.Address.Punycode
