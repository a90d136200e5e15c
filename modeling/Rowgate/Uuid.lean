/-
  Universally unique identifiers.

  * `text` is the canonical form: lower-case digits in groups of 8, 4, 4, 4, 12;
  * `read?` also takes upper-case digits, the form without hyphens, and the
    hyphenated form in braces or after `urn:uuid:`.
-/
import Rowgate.Text.Case
import Rowgate.Text.Hex

namespace Rowgate

/-- Sixteen bytes. -/
structure Uuid where
  bytes : List UInt8
  size : bytes.length = 16
deriving DecidableEq

namespace Uuid

def ofBytes? (bytes : List UInt8) : Option Uuid :=
  if h : bytes.length = 16 then some ⟨bytes, h⟩ else none

def text (u : Uuid) : String :=
  let group (first count : Nat) : List Char :=
    ((u.bytes.drop first).take count).flatMap Text.hexByte
  String.ofList (group 0 4 ++ '-' :: group 4 2 ++ '-' :: group 6 2 ++ '-' :: group 8 2 ++
    '-' :: group 10 6)

/-- The digits of the hyphenated form, if the hyphens stand where they should. -/
def unhyphen? (s : List Char) : Option (List Char) :=
  if s.length = 36 ∧ s[8]? = some '-' ∧ s[13]? = some '-' ∧ s[18]? = some '-' ∧
      s[23]? = some '-' then
    some (s.take 8 ++ (s.drop 9).take 4 ++ (s.drop 14).take 4 ++ (s.drop 19).take 4 ++ s.drop 24)
  else none

/-- The digits of a text in any accepted form. -/
def digits? (s : List Char) : Option (List Char) :=
  if s.length = 32 then some s
  else if s.length = 36 then unhyphen? s
  else if s.length = 38 then
    if s.head? = some '\x7b' ∧ s.getLast? = some '\x7d' then unhyphen? ((s.drop 1).take 36)
    else none
  else if s.length = 45 then
    if Text.sameWord (s.take 9) "urn:uuid:".toList then unhyphen? (s.drop 9) else none
  else none

def read? (s : String) : Option Uuid := do
  let digits ← digits? s.toList
  let bytes ← Text.hexBytes? digits
  ofBytes? bytes

end Uuid

end Rowgate
