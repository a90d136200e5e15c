/-
  White space as Unicode's property `White_Space` names it, and trimming.
-/
namespace Rowgate.Text

/-- The characters with the property `White_Space`. -/
def isBlank (c : Char) : Bool :=
  let n := c.toNat
  (9 ≤ n && n ≤ 13) || n == 0x20 || n == 0x85 || n == 0xA0 || n == 0x1680 ||
    (0x2000 ≤ n && n ≤ 0x200A) || n == 0x2028 || n == 0x2029 || n == 0x202F || n == 0x205F ||
    n == 0x3000

/-- Drops leading white space. -/
def skipBlanks (s : List Char) : List Char :=
  s.dropWhile isBlank

/-- Drops white space at both ends. -/
def trim (s : List Char) : List Char :=
  (skipBlanks (skipBlanks s).reverse).reverse

/-- Whether a text has no character but white space. -/
def allBlank (s : String) : Bool :=
  s.toList.all isBlank

end Rowgate.Text
