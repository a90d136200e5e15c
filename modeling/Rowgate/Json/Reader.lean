/-
  The JSON reader: strict grammar, one value and white space around it.

  * `Json.read?` gives nothing exactly when the text is not in the grammar;
  * `Json.readAll?` also refuses a text with anything unreadable in it.
-/
import Rowgate.Json.Number

namespace Rowgate.Json

def isSpace (c : Char) : Bool :=
  c = ' ' || c = '\n' || c = '\t' || c = '\r'

def skipSpace (s : List Char) : List Char :=
  s.dropWhile isSpace

/-- A character of a string, or the number of an escaped code unit. -/
inductive StringUnit where
  | char (c : Char)
  | code (n : Nat)

/-- The character that a single-letter escape stands for. -/
def escape? (c : Char) : Option Char :=
  match c with
  | '"' => some '"'
  | '\\' => some '\\'
  | '/' => some '/'
  | 'b' => some '\x08'
  | 'f' => some '\x0c'
  | 'n' => some '\n'
  | 'r' => some '\r'
  | 't' => some '\t'
  | _ => none

def fourDigits? (a b c d : Char) : Option Nat := do
  let a ← Text.hexValue? a
  let b ← Text.hexValue? b
  let c ← Text.hexValue? c
  let d ← Text.hexValue? d
  return 4096 * a + 256 * b + 16 * c + d

/-- The units of a string up to its closing quote, and what follows it. -/
def scanString : List Char → Option (List StringUnit × List Char)
  | [] => none
  | '"' :: r => some ([], r)
  | '\\' :: 'u' :: a :: b :: c :: d :: r => do
    let n ← fourDigits? a b c d
    let (units, rest) ← scanString r
    return (.code n :: units, rest)
  | '\\' :: e :: r => do
    let c ← escape? e
    let (units, rest) ← scanString r
    return (.char c :: units, rest)
  | c :: r =>
    if c.toNat < 0x20 then none
    else do
      let (units, rest) ← scanString r
      return (.char c :: units, rest)

/-- The characters of a string: two escaped code units that form a surrogate pair
    are one character; half a pair denotes nothing. -/
def joinUnits : List StringUnit → Option (List Char)
  | [] => some []
  | .char c :: r => (joinUnits r).map (c :: ·)
  | .code n :: r =>
    if n < 0xD800 || 0xDFFF < n then (joinUnits r).map (Char.ofNat n :: ·)
    else if 0xDC00 ≤ n then none
    else match r with
      | .code m :: r =>
        if 0xDC00 ≤ m && m ≤ 0xDFFF then
          (joinUnits r).map (Char.ofNat (0x10000 + (n - 0xD800) * 0x400 + (m - 0xDC00)) :: ·)
        else none
      | _ => none

/-- The value of a string's units. -/
def ofUnits (units : List StringUnit) : Option String :=
  (joinUnits units).map String.ofList

/-- Splits off leading digits. -/
def takeDigits (s : List Char) : List Char × List Char :=
  (s.takeWhile Char.isDigit, s.dropWhile Char.isDigit)

/-- The fraction after a whole part, if there is a point; a point needs a digit. -/
def scanFraction : List Char → Option (Option (List Char) × List Char)
  | '.' :: r =>
    match takeDigits r with
    | ([], _) => none
    | (digits, rest) => some (some digits, rest)
  | s => some (none, s)

/-- The exponent, if there is a mark; a mark needs a digit. -/
def scanExponent : List Char → Option (Option (Bool × List Char) × List Char)
  | c :: r =>
    if c = 'e' || c = 'E' then
      let (down, r) := match r with
        | '-' :: r => (true, r)
        | '+' :: r => (false, r)
        | r => (false, r)
      match takeDigits r with
      | ([], _) => none
      | (digits, rest) => some (some (down, digits), rest)
    else some (none, c :: r)
  | [] => some (none, [])

/-- A numeral after its sign.  A whole part of more than one digit does not begin
    with zero. -/
def scanNumeral (negative : Bool) (s : List Char) :
    Option (JsonNumber.Numeral × List Char) := do
  let (whole, r) ← match s with
    | '0' :: r => some (['0'], r)
    | s => match takeDigits s with
      | ([], _) => none
      | p => some p
  let (fraction, r) ← scanFraction r
  let (exponent, r) ← scanExponent r
  return (⟨negative, whole, fraction, exponent⟩, r)

def ofNumeral (t : JsonNumber.Numeral) : Json :=
  match JsonNumber.ofNumeral t with
  | some n => .number n
  | none => .unreadable

/-- The greatest depth of brackets at which a value is read. -/
def depthLimit : Nat := 127

/-- A bracketed value at a depth. -/
def atDepth (depth : Nat) (j : Json) : Json :=
  if depth ≤ depthLimit then j else .unreadable

/-- An object of members whose names may be unreadable. -/
def ofMembers (members : List (Option String × Json)) : Json :=
  match members.mapM fun m => m.1.map (·, m.2) with
  | some members => .object members
  | none => .unreadable

mutual

/-- One value at the head of a text without leading space, with `depth` brackets
    open, and what follows it. -/
def readValue (depth : Nat) : Nat → List Char → Option (Json × List Char)
  | 0, _ => none
  | fuel + 1, s =>
    match s with
    | 'n' :: 'u' :: 'l' :: 'l' :: r => some (.null, r)
    | 't' :: 'r' :: 'u' :: 'e' :: r => some (.bool true, r)
    | 'f' :: 'a' :: 'l' :: 's' :: 'e' :: r => some (.bool false, r)
    | '"' :: r => do
      let (units, r) ← scanString r
      return ((ofUnits units).elim .unreadable .string, r)
    | '[' :: r =>
      match skipSpace r with
      | ']' :: r => some (atDepth (depth + 1) (.array []), r)
      | r => do
        let (items, r) ← readItems (depth + 1) fuel r
        return (atDepth (depth + 1) (.array items), r)
    | '\x7b' :: r =>
      match skipSpace r with
      | '\x7d' :: r => some (atDepth (depth + 1) (.object []), r)
      | r => do
        let (members, r) ← readMembers (depth + 1) fuel r
        return (atDepth (depth + 1) (ofMembers members), r)
    | '-' :: r => do
      let (t, r) ← scanNumeral true r
      return (ofNumeral t, r)
    | s => do
      let (t, r) ← scanNumeral false s
      return (ofNumeral t, r)

/-- The items of an array from its first one to the closing bracket. -/
def readItems (depth : Nat) : Nat → List Char → Option (List Json × List Char)
  | 0, _ => none
  | fuel + 1, s => do
    let (x, r) ← readValue depth fuel s
    match skipSpace r with
    | ']' :: r => return ([x], r)
    | ',' :: r => do
      let (xs, r) ← readItems depth fuel (skipSpace r)
      return (x :: xs, r)
    | _ => none

/-- The members of an object from its first one to the closing brace. -/
def readMembers (depth : Nat) : Nat → List Char → Option (List (Option String × Json) × List Char)
  | 0, _ => none
  | fuel + 1, s =>
    match s with
    | '"' :: r => do
      let (units, r) ← scanString r
      match skipSpace r with
      | ':' :: r => do
        let (x, r) ← readValue depth fuel (skipSpace r)
        match skipSpace r with
        | '\x7d' :: r => return ([(ofUnits units, x)], r)
        | ',' :: r => do
          let (ms, r) ← readMembers depth fuel (skipSpace r)
          return ((ofUnits units, x) :: ms, r)
        | _ => none
      | _ => none
    | _ => none

end

/-- Reads a whole text as one value with space around it.  Every nested call reads
    at least one character, so the length of the text is fuel enough. -/
def readChars? (s : List Char) : Option Json := do
  let (j, r) ← readValue 0 (s.length + 1) (skipSpace s)
  if (skipSpace r).isEmpty then some j else none

def read? (s : String) : Option Json :=
  readChars? s.toList

/-- `read?` of a text in which nothing is unreadable. -/
def readAll? (s : String) : Option Json :=
  (read? s).filter readable

end Rowgate.Json
