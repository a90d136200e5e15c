/-
  TOML strings and keys.

  There are strings in double quotes, with escapes, and in single quotes, without;
  tripled quotes let a string go over several lines.
-/
import Rowgate.Text.Hex

namespace Rowgate.Toml

def isBlank (c : Char) : Bool :=
  c = ' ' || c = '\t'

/-- Whether a character may stand in strings and comments. -/
def isTextChar (c : Char) : Bool :=
  c = '\t' || (0x20 ≤ c.toNat && c.toNat ≠ 0x7F)

/-- What follows a line break at the head of a text. -/
def afterBreak? : List Char → Option (List Char)
  | '\n' :: r => some r
  | '\r' :: '\n' :: r => some r
  | _ => none

/-- The character of a number in so many digits. -/
def codePoint? (width : Nat) (s : List Char) : Option (Char × List Char) := do
  let digits := s.take width
  if digits.length < width then none
  else
    let n ← Text.inBase? 16 digits
    if n < 0xD800 ∨ (0xDFFF < n ∧ n < 0x110000) then some (Char.ofNat n, s.drop width) else none

/-- The character of an escape after its backslash. -/
def escape? : List Char → Option (Char × List Char)
  | 'b' :: r => some ('\x08', r)
  | 't' :: r => some ('\t', r)
  | 'n' :: r => some ('\n', r)
  | 'f' :: r => some ('\x0c', r)
  | 'r' :: r => some ('\r', r)
  | 'e' :: r => some ('\x1b', r)
  | '"' :: r => some ('"', r)
  | '\\' :: r => some ('\\', r)
  | 'x' :: r => codePoint? 2 r
  | 'u' :: r => codePoint? 4 r
  | 'U' :: r => codePoint? 8 r
  | _ => none

/-- What follows white space and line breaks. -/
def skipLines : Nat → List Char → List Char
  | 0, s => s
  | fuel + 1, s =>
    match s with
    | [] => []
    | c :: r =>
      if isBlank c then skipLines fuel r
      else match afterBreak? (c :: r) with
        | some r => skipLines fuel r
        | none => c :: r

/-- A string after its opening quote up to the closing one. -/
def readString (quote : Char) : Nat → List Char → Option (List Char × List Char)
  | 0, _ => none
  | fuel + 1, s =>
    match s with
    | [] => none
    | c :: r =>
      if c = quote then some ([], r)
      else if c = '\\' ∧ quote = '"' then do
        let (c, r) ← escape? r
        let (text, rest) ← readString quote fuel r
        return (c :: text, rest)
      else if isTextChar c then do
        let (text, rest) ← readString quote fuel r
        return (c :: text, rest)
      else none

/-- The rest of a string of several lines; up to two quotes may stand before the three
    that close it. -/
def readLines (quote : Char) : Nat → List Char → Option (List Char × List Char)
  | 0, _ => none
  | fuel + 1, s =>
    match s with
    | [] => none
    | c :: r =>
      if c = quote then
        let quotes := (c :: r).takeWhile (· = quote)
        if quotes.length < 3 then do
          let (text, rest) ← readLines quote fuel r
          return (c :: text, rest)
        else if quotes.length ≤ 5 then some (quotes.drop 3, (c :: r).drop quotes.length)
        else none
      else if c = '\\' ∧ quote = '"' then
        match afterBreak? (r.dropWhile isBlank) with
        | some rest => readLines quote fuel (skipLines rest.length rest)
        | none => do
          let (c, r) ← escape? r
          let (text, rest) ← readLines quote fuel r
          return (c :: text, rest)
      else
        match afterBreak? (c :: r) with
        | some rest => do
          let (text, after) ← readLines quote fuel rest
          return ((c :: r).take (r.length + 1 - rest.length) ++ text, after)
        | none =>
          if isTextChar c then do
            let (text, rest) ← readLines quote fuel r
            return (c :: text, rest)
          else none

/-- A string at the head of a text, of one line or of several; a line break right after
    three opening quotes does not count. -/
def readQuoted (quote : Char) (s : List Char) : Option (List Char × List Char) :=
  if s.take 3 = [quote, quote, quote] then
    let r := s.drop 3
    readLines quote (s.length + 1) ((afterBreak? r).getD r)
  else if s.head? = some quote then readString quote (s.length + 1) (s.drop 1)
  else none

def isBareChar (c : Char) : Bool :=
  c.isAlphanum || c = '_' || c = '-'

/-- One part of a key: bare, or a string of one line. -/
def readKeyPart (s : List Char) : Option (String × List Char) :=
  match s with
  | '"' :: r => (readString '"' (s.length + 1) r).map fun (k, r) => (String.ofList k, r)
  | '\'' :: r => (readString '\'' (s.length + 1) r).map fun (k, r) => (String.ofList k, r)
  | s =>
    let k := s.takeWhile isBareChar
    if k.isEmpty then none else some (String.ofList k, s.dropWhile isBareChar)

/-- A key: parts with dots between them. -/
def readKey : Nat → List Char → Option (List String × List Char)
  | 0, _ => none
  | fuel + 1, s => do
    let (part, r) ← readKeyPart (s.dropWhile isBlank)
    match r.dropWhile isBlank with
    | '.' :: r => do
      let (parts, r) ← readKey fuel r
      return (part :: parts, r)
    | r => return ([part], r)

end Rowgate.Toml
