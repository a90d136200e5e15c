/-
  A loose form of e-mail addresses: one at sign, no white space, something
  before the sign, and after it a point with something on both of its sides.
-/
import Rowgate.Text.Blank

namespace Rowgate.Address

/-- Whether a point stands inside of the text, neither first nor last. -/
def hasInnerPoint (s : List Char) : Bool :=
  (s.drop 1).dropLast.contains '.'

def isEmail (s : String) : Bool :=
  let s := s.toList
  let name := s.takeWhile (· ≠ '@')
  let domain := (s.dropWhile (· ≠ '@')).drop 1
  !name.isEmpty && !s.any Text.isBlank && !domain.contains '@' && hasInnerPoint domain

end Rowgate.Address
