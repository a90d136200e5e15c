/-
  International names of machines: labels with points between them, in any script.

  A name is prepared first: every character is replaced by what stands for it, and the
  text is normalized.  A label that begins with `xn--` is the encoded form of another
  one, which has to be prepared already.

  * `isName` also keeps marks, joiners and directions of writing to their places.
-/
import Rowgate.Address.NameTable
import Rowgate.Address.Punycode
import Rowgate.Text.Composed
import Rowgate.Text.Direction
import Rowgate.Text.Joining

namespace Rowgate.Address

/-- The zero-width joiner and non-joiner. -/
def isJoiner (c : Char) : Bool :=
  c.toNat = 0x200C || c.toNat = 0x200D

/-- Whether a character from U+0080 on may not stand in a name. -/
def isRefused (c : Char) : Bool :=
  ((Text.isOther c || Text.isSeparator c) && !isJoiner c) || Text.isIn refusedRuns c

/-- What stands for a character in a name; nothing for one that may not be there. -/
def replaced? (c : Char) : Option (List Char) :=
  if c.toNat < 0x80 then some [c.toLower]
  else if Text.isIn ignoredRuns c then some []
  else
    match nameRows.find? (·.run.contains c.toNat) with
    | some row => some ((row.image c.toNat).map Char.ofNat)
    | none => if isRefused c then none else some [c]

/-- A name with every character replaced, in normal form. -/
def prepared? (s : List Char) : Option (List Char) :=
  ((s.flatMap Text.decomposed).mapM replaced?).map fun parts => Text.composed parts.flatten

/-- Whether a character of the ASCII range may not stand in a name. -/
def isForbidden (c : Char) : Bool :=
  c.toNat ≤ 0x20 || c.toNat = 0x7F || "%#/:<>?@[\\]^|".toList.contains c

def isAscii (s : List Char) : Bool :=
  s.all (·.toNat < 0x80)

/-- The label that an encoded one stands for.  It is one that had to be encoded, and it
    is prepared. -/
def decodedLabel? (s : List Char) : Option (List Char) :=
  if 2000 < s.length then none
  else (Punycode.decode? s).filter fun l => !isAscii l && prepared? l = some l

/-- A label as it is read; there is a limit to what can be encoded. -/
def label? : List Char → Option (List Char)
  | 'x' :: 'n' :: '-' :: '-' :: r => decodedLabel? r
  | s => if isAscii s || s.length ≤ 1000 then some s else none

/-- Whether a joiner may stand between two texts, the first one given from its end.  Both
    may stand after a virama, the non-joiner also between letters that join. -/
def mayJoin (joiner : Char) (before after : List Char) : Bool :=
  before.head?.any (Text.combiningClass · = 9) ||
    (joiner.toNat = 0x200C &&
      (before.dropWhile Text.isTransparent).head?.any Text.joinsNext &&
      (after.dropWhile Text.isTransparent).head?.any Text.joinsPrevious)

/-- Whether all joiners of a label are in their places, `before` being what stands before
    it, from its end. -/
def keepsJoiners (before : List Char) : List Char → Bool
  | [] => true
  | c :: r => (!isJoiner c || mayJoin c before r) && keepsJoiners (c :: before) r

/-- Whether the characters of a label are in their places. -/
def isLabel (s : List Char) : Bool :=
  !s.head?.any Text.isMark && keepsJoiners [] s

/-- Whether a prepared text is a name. -/
def isName (s : List Char) : Bool :=
  !s.isEmpty && !s.any isForbidden &&
    ((Text.parts '.' s).mapM label?).any fun labels =>
      labels.all isLabel &&
        (!labels.any (·.any Text.isRightward) || labels.all Text.keepsDirection)

end Rowgate.Address
