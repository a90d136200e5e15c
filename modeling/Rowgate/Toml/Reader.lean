/-
  The TOML reader.

  * `Toml.read?` gives the members of a document, nothing for a text that is none.
-/
import Rowgate.Toml.Quoted
import Rowgate.Toml.Scalar
import Rowgate.Toml.Tree

namespace Rowgate.Toml

/-- The end of a comment at the head of a text, if one begins there. -/
def skipComment? : List Char → Option (List Char)
  | '#' :: r =>
    let rest := r.dropWhile isTextChar
    if rest.isEmpty || (afterBreak? rest).isSome then some rest else none
  | s => some s

/-- What follows white space, comments and line breaks. -/
def skipAll? : Nat → List Char → Option (List Char)
  | 0, s => some s
  | fuel + 1, s => do
    let r ← skipComment? (s.dropWhile isBlank)
    match afterBreak? r with
    | some r => skipAll? fuel r
    | none => return r

/-- What follows the rest of a line that has nothing more than a comment. -/
def endLine? (s : List Char) : Option (List Char) := do
  let r ← skipComment? (s.dropWhile isBlank)
  if r.isEmpty then return [] else afterBreak? r

/-- A key and the equals sign after it: the path, the last part, what follows. -/
def readEntry (s : List Char) : Option (List String × String × List Char) := do
  let (parts, r) ← readKey (s.length + 1) s
  match r with
  | '=' :: r => return (parts.dropLast, ← parts.getLast?, r.dropWhile isBlank)
  | _ => none

mutual

/-- The value at the head of a text, and what follows it. -/
def readValue : Nat → List Char → Option (Toml × List Char)
  | 0, _ => none
  | fuel + 1, s =>
    match s with
    | '"' :: _ => (readQuoted '"' s).map fun (t, r) => (.string (String.ofList t), r)
    | '\'' :: _ => (readQuoted '\'' s).map fun (t, r) => (.string (String.ofList t), r)
    | '[' :: r => (readItems fuel r).map fun (items, r) => (.array items, r)
    | '\x7b' :: r => (readMembers fuel [] r).map fun (m, r) => (.table (membersToToml m), r)
    | s => readScalar s

/-- The items of an array up to its closing bracket. -/
def readItems : Nat → List Char → Option (List Toml × List Char)
  | 0, _ => none
  | fuel + 1, s => do
    match ← skipAll? s.length s with
    | ']' :: r => return ([], r)
    | s =>
      let (x, r) ← readValue fuel s
      match ← skipAll? r.length r with
      | ']' :: r => return ([x], r)
      | ',' :: r => do
        let (xs, r) ← readItems fuel r
        return (x :: xs, r)
      | _ => none

/-- The members of a table in braces up to the closing one. -/
def readMembers : Nat → Members → List Char → Option (Members × List Char)
  | 0, _, _ => none
  | fuel + 1, m, s => do
    match ← skipAll? s.length s with
    | '\x7d' :: r => return (m, r)
    | s =>
      let (path, name, r) ← readEntry s
      let (x, r) ← readValue fuel r
      let m ← m.define path name x
      match ← skipAll? r.length r with
      | '\x7d' :: r => return (m, r)
      | ',' :: r => readMembers fuel m r
      | _ => none

end

/-- A header up to the end of its brackets: whether it opens the next table of an
    array, the path, the last part, what follows. -/
def readHeader (s : List Char) : Option (Bool × List String × String × List Char) :=
  match s with
  | '[' :: '[' :: r => do
    let (parts, r) ← readKey (r.length + 1) r
    match r with
    | ']' :: ']' :: r => return (true, parts.dropLast, ← parts.getLast?, r)
    | _ => none
  | '[' :: r => do
    let (parts, r) ← readKey (r.length + 1) r
    match r with
    | ']' :: r => return (false, parts.dropLast, ← parts.getLast?, r)
    | _ => none
  | _ => none

/-- The lines of a document from one of them on; `path` is the table that is open. -/
def readLinesFrom : Nat → List String → Members → List Char → Option Members
  | 0, _, _, _ => none
  | fuel + 1, path, m, s => do
    match ← skipAll? s.length s with
    | [] => return m
    | '[' :: r =>
      let (isNext, within, name, r) ← readHeader ('[' :: r)
      let m ← if isNext then m.openNext within name else m.openTable within name
      readLinesFrom fuel (within ++ [name]) m (← endLine? r)
    | s =>
      let (key, name, r) ← readEntry s
      let (x, r) ← readValue (r.length + 1) r
      let m ← m.change false (fun _ n => n.define key name x) path .header
      readLinesFrom fuel path m (← endLine? r)

/-- Reads a document; a byte order mark may stand before it. -/
def read? (text : String) : Option (List (String × Toml)) :=
  let s := text.toList
  let s := if s.head? = some '\ufeff' then s.drop 1 else s
  (readLinesFrom (s.length + 1) [] [] s).map membersToToml

end Rowgate.Toml
