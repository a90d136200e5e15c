/-
  Texts as messages display them: in double quotes, on one line, with a
  backslash before a quote or a backslash and every hidden character by number.
-/
import Rowgate.Text.Hidden

namespace Rowgate.Text

/-- The displayed form of one character. -/
def shownChar (c : Char) : String :=
  if c = '"' then "\\\""
  else if c = '\\' then "\\\\"
  else if c = '\t' then "\\t"
  else if c = '\n' then "\\n"
  else if c = '\r' then "\\r"
  else if c.toNat = 0 then "\\0"
  else if isHidden c then "\\u\x7b" ++ String.ofList (Nat.toDigits 16 c.toNat) ++ "\x7d"
  else c.toString

/-- The displayed form of a text. -/
def shown (s : String) : String :=
  "\"" ++ String.join (s.toList.map shownChar) ++ "\""

end Rowgate.Text
