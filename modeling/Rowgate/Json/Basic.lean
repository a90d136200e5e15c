/-
  JSON values as a reader finds them, and their compact text.

  A value may be well formed and still denote nothing: a number beyond the range
  of doubles, a string with half a surrogate pair, or a value nested too deep.
  It is kept as `unreadable`, so that a consumer that skips the value does not
  mind, and every other one does.

  * `Json.text` is the compact text: no spaces, members as they come;
  * `Json.asciiText` is the same with every character beyond ASCII by number;
  * `Json.sorted` has the members of every object in order, the last of one name.
-/
import Rowgate.Keyed
import Rowgate.Decimal.Layout
import Rowgate.Text.Hex

namespace Rowgate

/-- A number without fraction or exponent within 64 bits, or a double. -/
inductive JsonNumber where
  | whole (n : Int)
  | decimal (x : Double)
deriving DecidableEq

inductive Json where
  | null
  | bool (b : Bool)
  | number (n : JsonNumber)
  | string (s : String)
  | array (items : List Json)
  | object (members : List (String × Json))
  | unreadable

/-- Doubles in JSON: whole numbers end in `.0`, exponents appear below `1e-5` and
    from `1e16` on, and what is not a number is `null`. -/
def DecimalLayout.json : DecimalLayout where
  tie := .toEven
  positional n := -5 ≤ n && n ≤ 15
  pointZero := true
  notANumber := "null"
  infinite := "null"
  negativeInfinite := "null"

/-- The numeral of a number; `null` for an infinity or what is no number. -/
def JsonNumber.chars : JsonNumber → List Char
  | .whole n => (toString n).toList
  | .decimal x => (DecimalLayout.json.text x).toList

namespace Json

/-- `\u` and the four digits of a code unit. -/
def escapedUnit (n : Nat) : List Char :=
  ['\\', 'u', Text.hexDigit (n / 4096 % 16), Text.hexDigit (n / 256 % 16),
    Text.hexDigit (n / 16 % 16), Text.hexDigit (n % 16)]

/-- A character inside of a JSON string: quote, backslash and control characters
    are escaped. -/
def escapedChar (c : Char) : List Char :=
  if c = '"' then ['\\', '"']
  else if c = '\\' then ['\\', '\\']
  else if 0x20 ≤ c.toNat then [c]
  else if c.toNat = 8 then ['\\', 'b']
  else if c.toNat = 9 then ['\\', 't']
  else if c.toNat = 10 then ['\\', 'n']
  else if c.toNat = 12 then ['\\', 'f']
  else if c.toNat = 13 then ['\\', 'r']
  else escapedUnit c.toNat

/-- `escapedChar`, with characters beyond ASCII as one or two code units. -/
def asciiChar (c : Char) : List Char :=
  let n := c.toNat
  if n < 0x7F then escapedChar c
  else if n < 0x10000 then escapedUnit n
  else escapedUnit (0xD800 + (n - 0x10000) / 0x400) ++ escapedUnit (0xDC00 + (n - 0x10000) % 0x400)

/-- The JSON string of a text. -/
def stringChars (escape : Char → List Char) (s : String) : List Char :=
  '"' :: s.toList.flatMap escape ++ ['"']

def nullChars : List Char := ['n', 'u', 'l', 'l']

def boolChars (b : Bool) : List Char :=
  if b then ['t', 'r', 'u', 'e'] else ['f', 'a', 'l', 's', 'e']

mutual

/-- The compact text of a value, strings written with `escape`. -/
def chars (escape : Char → List Char) : Json → List Char
  | .null => nullChars
  | .bool b => boolChars b
  | .number n => JsonNumber.chars n
  | .string s => stringChars escape s
  | .array items => '[' :: itemsChars escape items ++ [']']
  | .object members => '\x7b' :: membersChars escape members ++ ['\x7d']
  | .unreadable => nullChars

def itemsChars (escape : Char → List Char) : List Json → List Char
  | [] => []
  | [x] => chars escape x
  | x :: y :: r => chars escape x ++ ',' :: itemsChars escape (y :: r)

def membersChars (escape : Char → List Char) : List (String × Json) → List Char
  | [] => []
  | [(k, x)] => stringChars escape k ++ ':' :: chars escape x
  | (k, x) :: m :: r =>
    stringChars escape k ++ ':' :: chars escape x ++ ',' :: membersChars escape (m :: r)

end

def text (j : Json) : String :=
  String.ofList (j.chars escapedChar)

def asciiText (j : Json) : String :=
  String.ofList (j.chars asciiChar)

mutual

/-- Whether nothing inside of the value is unreadable. -/
def readable : Json → Bool
  | .array items => itemsReadable items
  | .object members => membersReadable members
  | .unreadable => false
  | _ => true

def itemsReadable : List Json → Bool
  | [] => true
  | x :: r => readable x && itemsReadable r

def membersReadable : List (String × Json) → Bool
  | [] => true
  | (_, x) :: r => readable x && membersReadable r

end

mutual

/-- The value with the members of every object in ascending order, the last one
    of each name. -/
def sorted : Json → Json
  | .array items => .array (itemsSorted items)
  | .object members => .object (Keyed.ofList (membersSorted members)).entries
  | j => j

def itemsSorted : List Json → List Json
  | [] => []
  | x :: r => sorted x :: itemsSorted r

def membersSorted : List (String × Json) → List (String × Json)
  | [] => []
  | (k, x) :: r => (k, sorted x) :: membersSorted r

end

end Json

end Rowgate
