/-
  Binary interchange formats of IEEE 754 and the numbers their bit patterns
  stand for, in exact integers.

  * `decode` splits a pattern into sign, significand and exponent;
  * `nearest` is the pattern of the number nearest to a ratio, a half going to
    the even significand, and infinity beyond the largest finite number;
  * `Double` is a 64-bit pattern; order and the conversions to and from whole
    numbers and 32-bit patterns are by exact value.
-/
import Rowgate.Number

namespace Rowgate

/-- The widths of the fraction and exponent fields; one sign bit is above them. -/
structure BinaryFormat where
  fractionBits : Nat
  exponentBits : Nat

/-- What a bit pattern stands for: `± m · 2^e`, an infinity, or no number. -/
inductive Datum where
  | finite (negative : Bool) (m : Nat) (e : Int)
  | infinite (negative : Bool)
  | nan (negative : Bool) (payload : Nat)
deriving DecidableEq

/-- `n / d` rounded to the nearest whole number, a half to the even one. -/
def roundHalfEven (n d : Nat) : Nat :=
  let q := n / d
  let r := n % d
  if 2 * r > d || (2 * r = d && q % 2 = 1) then q + 1 else q

namespace BinaryFormat

def binary64 : BinaryFormat := ⟨52, 11⟩

def binary32 : BinaryFormat := ⟨23, 8⟩

/-- The exponent of the last place of the smallest numbers. -/
def minExponent (f : BinaryFormat) : Int :=
  2 - 2 ^ (f.exponentBits - 1) - f.fractionBits

def signBit (f : BinaryFormat) : Nat :=
  2 ^ (f.fractionBits + f.exponentBits)

/-- The pattern of positive infinity. -/
def infinityBits (f : BinaryFormat) : Nat :=
  (2 ^ f.exponentBits - 1) * 2 ^ f.fractionBits

def decode (f : BinaryFormat) (bits : Nat) : Datum :=
  let negative := bits / f.signBit % 2 = 1
  let field := bits / 2 ^ f.fractionBits % 2 ^ f.exponentBits
  let fraction := bits % 2 ^ f.fractionBits
  if field = 2 ^ f.exponentBits - 1 then
    if fraction = 0 then .infinite negative else .nan negative fraction
  else if field = 0 then .finite negative fraction f.minExponent
  else .finite negative (2 ^ f.fractionBits + fraction) (f.minExponent + field - 1)

/-- The exponent at which `num / den` has a significand of full width, not below
    the least one. -/
def scale (f : BinaryFormat) (num den : Nat) : Int :=
  let e : Int := (num.log2 : Int) - den.log2 - f.fractionBits
  let full : Bool :=
    if e < 0 then den * 2 ^ f.fractionBits ≤ num * 2 ^ (-e).toNat
    else den * 2 ^ e.toNat * 2 ^ f.fractionBits ≤ num
  max (if full then e else e - 1) f.minExponent

/-- The pattern of the non-negative number nearest to `num / den`.  A significand
    that reaches the next power of two carries into the exponent field. -/
def nearest (f : BinaryFormat) (num den : Nat) : Nat :=
  if num = 0 then 0
  else
    let e := f.scale num den
    let q := if e < 0 then roundHalfEven (num * 2 ^ (-e).toNat) den
      else roundHalfEven num (den * 2 ^ e.toNat)
    min (q + (e - f.minExponent).toNat * 2 ^ f.fractionBits) f.infinityBits

/-- The pattern nearest to `± m · 2^e`. -/
def ofScaled (f : BinaryFormat) (negative : Bool) (m : Nat) (e : Int) : Nat :=
  (if negative then f.signBit else 0) +
    (if e < 0 then f.nearest m (2 ^ (-e).toNat) else f.nearest (m * 2 ^ e.toNat) 1)

/-- The pattern in format `g` of what a pattern of format `f` stands for.  A
    not-a-number keeps its sign and leading payload bits and becomes quiet. -/
def convert (f g : BinaryFormat) (bits : Nat) : Nat :=
  match f.decode bits with
  | .finite negative m e => g.ofScaled negative m e
  | .infinite negative => (if negative then g.signBit else 0) + g.infinityBits
  | .nan negative payload =>
    let kept :=
      if f.fractionBits ≤ g.fractionBits then payload * 2 ^ (g.fractionBits - f.fractionBits)
      else payload / 2 ^ (f.fractionBits - g.fractionBits)
    (if negative then g.signBit else 0) + g.infinityBits +
      (kept ||| 2 ^ (g.fractionBits - 1))

end BinaryFormat

/-- A number of the 64-bit format, kept as its pattern. -/
structure Double where
  bits : UInt64
deriving DecidableEq, Inhabited

namespace Double

open BinaryFormat

def datum (x : Double) : Datum :=
  binary64.decode x.bits.toNat

/-- The double nearest to `± num / den`. -/
def ofRatio (negative : Bool) (num den : Nat) : Double :=
  ⟨UInt64.ofNat ((if negative then binary64.signBit else 0) + binary64.nearest num den)⟩

/-- The double nearest to `± m · 2^e`. -/
def ofScaled (negative : Bool) (m : Nat) (e : Int) : Double :=
  ⟨UInt64.ofNat (binary64.ofScaled negative m e)⟩

def zero : Double := ⟨0⟩

def infinity (negative : Bool) : Double :=
  ⟨UInt64.ofNat ((if negative then binary64.signBit else 0) + binary64.infinityBits)⟩

/-- The default not-a-number. -/
def nan : Double := ⟨0x7FF8000000000000⟩

/-- The same number with the other sign. -/
def neg (x : Double) : Double := ⟨x.bits ^^^ 0x8000000000000000⟩

/-- The double nearest to a whole number. -/
def ofInt (n : Int) : Double :=
  ofRatio (n < 0) n.natAbs 1

def isFinite (x : Double) : Bool :=
  match x.datum with
  | .finite .. => true
  | _ => false

/-- A finite number as a multiple of the least positive one. -/
def unitsOf (negative : Bool) (m : Nat) (e : Int) : Int :=
  let n : Int := m * 2 ^ (e - binary64.minExponent).toNat
  if negative then -n else n

/-- Order by value.  The two zeros are equal, and no comparison holds of a
    not-a-number. -/
def lt (x y : Double) : Bool :=
  match x.datum, y.datum with
  | .finite s m e, .finite t n d => unitsOf s m e < unitsOf t n d
  | .finite .., .infinite t => !t
  | .infinite s, .finite .. => s
  | .infinite s, .infinite t => s && !t
  | _, _ => false

/-- The product of two finite numbers, rounded. -/
def mul (x y : Double) : Double :=
  match x.datum, y.datum with
  | .finite s m e, .finite t n d => ofScaled (s != t) (m * n) (e + d)
  | _, _ => nan

/-- The quotient of two finite numbers, rounded. -/
def div (x y : Double) : Double :=
  match x.datum, y.datum with
  | .finite s m e, .finite t n d =>
    if n = 0 then nan
    else if e < d then ofRatio (s != t) m (n * 2 ^ (d - e).toNat)
    else ofRatio (s != t) (m * 2 ^ (e - d).toNat) n
  | _, _ => nan

/-- The whole part, held within the range of a signed word of `bits` bits; zero
    for a not-a-number. -/
def toWord (bits : Nat) (x : Double) : Int :=
  let lo : Int := -(2 ^ (bits - 1))
  let hi : Int := 2 ^ (bits - 1) - 1
  match x.datum with
  | .nan .. => 0
  | .infinite negative => if negative then lo else hi
  | .finite negative m e =>
    let n : Nat := if e < 0 then m / 2 ^ (-e).toNat else m * 2 ^ e.toNat
    max lo (min hi (if negative then -(n : Int) else n))

/-- The 32-bit pattern of the nearest number of that format. -/
def toSingle (x : Double) : UInt32 :=
  UInt32.ofNat (binary64.convert binary32 x.bits.toNat)

def ofSingle (bits : UInt32) : Double :=
  ⟨UInt64.ofNat (binary32.convert binary64 bits.toNat)⟩

/-- The 32-bit pattern nearest to a whole number. -/
def singleOfInt (n : Int) : UInt32 :=
  UInt32.ofNat (binary32.ofScaled (n < 0) n.natAbs 0)

end Double

end Rowgate
