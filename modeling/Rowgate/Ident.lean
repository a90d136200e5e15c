/-
  SQL identifiers: dotted parts, each plain or in double quotes.

  * `Ident.parse` reads a name; a plain part begins with an ASCII letter or an
    underscore and goes on with letters, digits, underscores and dollar signs, a
    quoted one holds anything but NUL, a quote written twice;
  * `Ident.sql` writes it back.
-/
import Rowgate.Error
import Rowgate.Text.Quoted
import Rowgate.Text.Shown

namespace Rowgate

/-- A part of an identifier. -/
inductive IdentPart where
  | unquoted (name : String)
  | quoted (name : String)
deriving DecidableEq

/-- Why a name is no identifier. -/
inductive IdentFault where
  | empty
  | nul
  | trailingDot
  | unexpected (c : Char)
  | unclosed
  | emptyQuoted
  | notPlain

def IdentFault.message : IdentFault → String
  | empty => "identifier cannot be empty"
  | nul => "identifier cannot contain NUL character"
  | trailingDot => "trailing '.'"
  | unexpected c => "unexpected character '" ++ c.toString ++ "'"
  | unclosed => "unclosed quoted identifier"
  | emptyQuoted => "empty quoted identifier"
  | notPlain => "expected [A-Za-z_][A-Za-z0-9_$]*"

structure Ident where
  parts : List IdentPart
deriving DecidableEq

namespace IdentPart

def isPlain : List Char → Bool
  | [] => false
  | c :: r => (c.isAlpha || c = '_') && r.all fun c => c.isAlphanum || c = '_' || c = '$'

/-- The part at the head of a text, and what follows it.  A plain part runs to the
    next dot. -/
def read (s : List Char) : Except IdentFault (IdentPart × List Char) :=
  match s with
  | '"' :: r =>
    match Text.unquote '"' r with
    | none => .error .unclosed
    | some ([], _) => .error .emptyQuoted
    | some (name, rest) => .ok (.quoted (String.ofList name), rest)
  | s =>
    let name := s.takeWhile (· ≠ '.')
    if isPlain name then .ok (.unquoted (String.ofList name), s.dropWhile (· ≠ '.'))
    else .error .notPlain

def sql : IdentPart → String
  | unquoted name => name
  | quoted name => String.ofList (Text.quoted '"' name.toList)

end IdentPart

namespace Ident

/-- The parts from one of them on.  Every part takes at least one character. -/
def readParts : Nat → List Char → Except IdentFault (List IdentPart)
  | 0, _ => .ok []
  | fuel + 1, s => do
    let (part, rest) ← IdentPart.read s
    match rest with
    | [] => return [part]
    | ['.'] => throw .trailingDot
    | '.' :: rest => return part :: (← readParts fuel rest)
    | c :: _ => throw (.unexpected c)

/-- Reads a whole name. -/
def read (s : List Char) : Except IdentFault Ident :=
  if s.isEmpty then .error .empty
  else if s.any (·.toNat = 0) then .error .nul
  else (readParts s.length s).map Ident.mk

def parse (name : String) : Except Error Ident :=
  match read name.toList with
  | .ok i => .ok i
  | .error fault => .error (.invalidIdentifier (Text.shown name ++ ": " ++ fault.message))

/-- The identifier as SQL text. -/
def sql (i : Ident) : String :=
  ".".intercalate (i.parts.map IdentPart.sql)

end Ident

/-- The SQL text of a name, if it is an identifier. -/
def sqlIdent (name : String) : Except Error String :=
  (Ident.parse name).map Ident.sql

end Rowgate
