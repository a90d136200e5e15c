/-
  Hosts of addresses: which texts name one.

  * `isDomain` is the rule of the schemes that name machines: after percent
    decoding and preparation the text is a name, and a name that ends in a number
    is an IPv4 address;
  * `isOpaque` is the rule of all other schemes;
  * in both, brackets enclose an IPv6 address.
-/
import Rowgate.Address.Name
import Rowgate.Text.Case
import Rowgate.Text.Utf8
import Rowgate.Text.Whole

namespace Rowgate.Address

/-! ## Numbers and addresses -/

/-- A part of an IPv4 address: decimal, octal after `0`, hexadecimal after `0x`. -/
def ipv4Number? : List Char → Option Nat
  | [] => none
  | '0' :: 'x' :: r => Text.inBase? 16 r
  | '0' :: 'X' :: r => Text.inBase? 16 r
  | '0' :: c :: r => Text.inBase? 8 (c :: r)
  | s => Text.inBase? 10 s

/-- Whether the last label, an empty one at the end apart, is a number. -/
def endsInNumber (s : List Char) : Bool :=
  let isNumber (p : List Char) : Bool :=
    (!p.isEmpty && p.all Char.isDigit) || (ipv4Number? p).isSome
  match (Text.parts '.' s).reverse with
  | [] :: last :: _ => isNumber last
  | last :: _ => isNumber last
  | [] => false

/-- One to four numbers: all but the last are bytes, the last fills the rest of the
    32 bits. -/
def isIpv4 (s : List Char) : Bool :=
  let ps := Text.parts '.' s
  let ps := if ps.getLast? = some [] then ps.dropLast else ps
  match ps.mapM ipv4Number? with
  | none => false
  | some ns =>
    match ns.reverse with
    | [] => false
    | last :: others =>
      others.length ≤ 3 && last < 256 ^ (4 - others.length) && others.all (· ≤ 255)

/-- A decimal byte without a leading zero. -/
def isByte (s : List Char) : Bool :=
  s.length ≤ 3 && (s.length ≤ 1 || s.head? ≠ some '0') && (Text.digits? s).any (· ≤ 255)

/-- The last 32 bits of an IPv6 address in four decimal bytes. -/
def isIpv4Tail (s : List Char) : Bool :=
  let ps := Text.parts '.' s
  ps.length = 4 && ps.all isByte

/-- The groups of an IPv6 address from one of them on, `count` groups done, with
    `gap` telling whether a run of groups has been left out. -/
def isIpv6From : Nat → Nat → Bool → List Char → Bool
  | 0, _, _, _ => false
  | fuel + 1, count, gap, s =>
    match s with
    | [] => gap || count = 8
    | ':' :: r => count < 8 && !gap && isIpv6From fuel (count + 1) true r
    | s =>
      let digits := (s.take 4).takeWhile fun c => (Text.hexValue? c).isSome
      if 8 ≤ count then false
      else match s.drop digits.length with
        | [] => gap || count + 1 = 8
        | ':' :: r => !r.isEmpty && isIpv6From fuel (count + 1) gap r
        | '.' :: _ => !digits.isEmpty && count ≤ 6 && isIpv4Tail s && (gap || count + 2 = 8)
        | _ => false

def isIpv6 (s : List Char) : Bool :=
  match s with
  | ':' :: ':' :: r => isIpv6From (r.length + 1) 1 true r
  | ':' :: _ => false
  | s => 2 ≤ s.length && isIpv6From (s.length + 1) 0 false s

/-- Whether the text is an IPv6 address in brackets. -/
def isBracketed (s : List Char) : Bool :=
  2 ≤ s.length && s.getLast? = some ']' && isIpv6 (s.drop 1).dropLast

/-! ## Names -/

/-- The bytes of a text with every `%` and two digits replaced by their byte. -/
def percentDecoded : List Char → List UInt8
  | [] => []
  | '%' :: a :: b :: r =>
    match Text.hexValue? a, Text.hexValue? b with
    | some a, some b => UInt8.ofNat (16 * a + b) :: percentDecoded r
    | _, _ => 0x25 :: percentDecoded (a :: b :: r)
  | c :: r => Text.utf8 c.toString ++ percentDecoded r

/-- Whether the text may stand as the host of a scheme that names machines. -/
def isDomain (s : List Char) : Bool :=
  if s.head? = some '[' then isBracketed s
  else
    ((Text.ofUtf8? (percentDecoded s)).bind fun t => prepared? t.toList).any fun name =>
      isName name && (!endsInNumber name || isIpv4 name)

/-- Whether the text may stand as the host of a scheme that does not interpret it. -/
def isOpaque (s : List Char) : Bool :=
  if s.head? = some '[' then isBracketed s
  else !s.any fun c => "\t\n\r #/:<>?@[\\]^|".toList.contains c || c.toNat = 0

end Rowgate.Address
