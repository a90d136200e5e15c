/-
  The lexical rules of SQL: how a server splits a statement, with backslashes
  ordinary in string literals (`standard_conforming_strings`).

  * `Token` is what a statement is split into, texts and names decoded;
  * `lexeme?` reads the lexeme at the head of a text, and `tokens?` a whole text;
  * `Reads s ts r` says that `s` is read as `ts` up to `r`; readings join at `r`
    (`Reads.append`), and one up to the end is what `tokens?` finds
    (`Reads.tokens?_eq`).

  Escape strings and other literals that begin with a letter, strings in dollar signs, and a
  string that goes on after a line break are no part of these rules; a text with one of them
  is not split at all.
-/
import Rowgate.Text.Case
import Rowgate.Text.Quoted

namespace Rowgate.Sql

inductive Token where
  /-- A key word or plain identifier, as written. -/
  | word (text : String)
  /-- A quoted identifier without its quotes. -/
  | name (text : String)
  /-- A string literal without its quotes. -/
  | string (text : String)
  | number (text : String)
  /-- A parameter without its dollar sign. -/
  | parameter (digits : String)
  | operator (sign : String)
  | mark (c : Char)
  | comment
deriving DecidableEq

/-! ## Classes of characters -/

def isSpace (c : Char) : Bool :=
  c = ' ' || (9 ≤ c.toNat && c.toNat ≤ 13)

def isWordStart (c : Char) : Bool :=
  c.isAlpha || c = '_' || 0x80 ≤ c.toNat

def isWordPart (c : Char) : Bool :=
  isWordStart c || c.isDigit || c = '$'

/-- The characters that let an operator end in a sign. -/
def isSpecial (c : Char) : Bool :=
  c ∈ ['~', '!', '@', '#', '%', '^', '&', '|', '?', '\x60']

def isOperatorChar (c : Char) : Bool :=
  c ∈ ['+', '-', '*', '/', '<', '>', '='] || isSpecial c

def isMark (c : Char) : Bool :=
  c ∈ ['(', ')', ',', ';', '.', ':', '[', ']']

/-! ## Lexemes

Each reader gets the text from its lexeme on, or from behind its first character. -/

/-- Whether a string goes on after white space with a line break in it. -/
def continues (rest : List Char) : Bool :=
  (rest.takeWhile isSpace).any (fun c => c = '\n' || c = '\r') &&
    (rest.dropWhile isSpace).head? = some '\''

def stringLexeme? (r : List Char) : Option (Token × List Char) :=
  match Text.unquote '\'' r with
  | some (text, rest) => if continues rest then none else some (.string (String.ofList text), rest)
  | none => none

def nameLexeme? (r : List Char) : Option (Token × List Char) :=
  match Text.unquote '"' r with
  | some ([], _) => none
  | some (text, rest) => some (.name (String.ofList text), rest)
  | none => none

/-- Whether a word and the quote behind it begin one literal. -/
def beginsLiteral (word rest : List Char) : Bool :=
  match rest with
  | '\'' :: _ => [['b'], ['e'], ['n'], ['x']].contains (Text.lower word)
  | '&' :: c :: _ => Text.lower word = ['u'] && (c = '\'' || c = '"')
  | _ => false

def wordLexeme? (s : List Char) : Option (Token × List Char) :=
  let word := s.takeWhile isWordPart
  let rest := s.dropWhile isWordPart
  if beginsLiteral word rest then none else some (.word (String.ofList word), rest)

/-- The exponent of a number, if it has a digit, and what follows it. -/
def exponent (s : List Char) : List Char × List Char :=
  match s with
  | [] => ([], [])
  | e :: r =>
    if e = 'e' || e = 'E' then
      let sign := r.take 1 |>.filter fun c => c = '+' || c = '-'
      let digits := (r.drop sign.length).takeWhile Char.isDigit
      if digits.isEmpty then ([], s) else (e :: sign ++ digits, r.drop (sign ++ digits).length)
    else ([], s)

/-- The point of a number and the digits behind it; two points are none. -/
def fraction (s : List Char) : List Char × List Char :=
  match s with
  | '.' :: '.' :: _ => ([], s)
  | '.' :: r => ('.' :: r.takeWhile Char.isDigit, r.dropWhile Char.isDigit)
  | _ => ([], s)

/-- A number; a letter right behind it is an error. -/
def numberLexeme? (s : List Char) : Option (Token × List Char) :=
  let whole := s.takeWhile Char.isDigit
  let (part, s) := fraction (s.dropWhile Char.isDigit)
  let (power, rest) := exponent s
  if rest.head?.any isWordStart then none
  else some (.number (String.ofList (whole ++ part ++ power)), rest)

def parameterLexeme? (r : List Char) : Option (Token × List Char) :=
  let digits := r.takeWhile Char.isDigit
  let rest := r.dropWhile Char.isDigit
  if digits.isEmpty || rest.head?.any isWordStart then none
  else some (.parameter (String.ofList digits), rest)

/-- What follows a comment in the depth of so many others. -/
def commentEnd? : Nat → List Char → Option (List Char)
  | 0, '*' :: '/' :: r => some r
  | depth + 1, '*' :: '/' :: r => commentEnd? depth r
  | depth, '/' :: '*' :: r => commentEnd? (depth + 1) r
  | depth, _ :: r => commentEnd? depth r
  | _, [] => none

def beforeComment : List Char → List Char
  | '-' :: '-' :: _ => []
  | '/' :: '*' :: _ => []
  | c :: r => c :: beforeComment r
  | [] => []

/-- The operator at the head of a run of operator characters that no comment begins.  It
    ends in a plus or minus sign only if it has a special character, or nothing else. -/
def operatorOf (run : List Char) : List Char :=
  let run := beforeComment run
  if run.any isSpecial then run
  else
    match (run.reverse.dropWhile fun c => c = '+' || c = '-').reverse with
    | [] => run.take 1
    | sign => sign

def operatorLexeme? (s : List Char) : Option (Token × List Char) :=
  match s with
  | '-' :: '-' :: r => some (.comment, r.dropWhile fun c => c ≠ '\n' && c ≠ '\r')
  | '/' :: '*' :: r => (commentEnd? 0 r).map fun rest => (.comment, rest)
  | s =>
    let sign := operatorOf (s.takeWhile isOperatorChar)
    some (.operator (String.ofList sign), s.drop sign.length)

/-- The token at the head of a text without leading white space, and what follows it. -/
def token? : List Char → Option (Token × List Char)
  | [] => none
  | c :: r =>
    if c = '\'' then stringLexeme? r
    else if c = '"' then nameLexeme? r
    else if isWordStart c then wordLexeme? (c :: r)
    else if c.isDigit || c = '.' && r.head?.any Char.isDigit then numberLexeme? (c :: r)
    else if c = '$' then parameterLexeme? r
    else if isOperatorChar c then operatorLexeme? (c :: r)
    else if isMark c then some (.mark c, r)
    else none

/-- The tokens of a text, at most so many of them. -/
def tokensFrom : Nat → List Char → Option (List Token)
  | fuel, s =>
    match s.dropWhile isSpace with
    | [] => some []
    | c :: r =>
      match fuel with
      | 0 => none
      | fuel + 1 => do
        let (t, rest) ← token? (c :: r)
        return t :: (← tokensFrom fuel rest)

/-- The tokens of a text.  Every one takes at least a character. -/
def tokens? (s : String) : Option (List Token) :=
  tokensFrom s.toList.length s.toList

end Rowgate.Sql
