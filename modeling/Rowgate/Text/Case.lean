/-
  Comparison of words without regard to the case of ASCII letters.
-/
namespace Rowgate.Text

/-- The lower-case form: ASCII letters fold, all else stays. -/
def lower (s : List Char) : List Char :=
  s.map Char.toLower

/-- Whether two texts agree up to the case of ASCII letters. -/
def sameWord (s t : List Char) : Bool :=
  lower s = lower t

end Rowgate.Text
