/-
  The characters that a displayed text writes by number.
-/
import Rowgate.Text.Category

namespace Rowgate.Text

/-- The runs of characters that extend the one before them without being nonspacing
    marks (`Grapheme_Extend`), and of letters without a form of their own
    (`Default_Ignorable_Code_Point`). -/
def extendingRuns : List Run := Table.runs
  "9BE 9D7 B3E B57 BBE BD7 CC0 CC2 CC7-CC8 CCA-CCB CD5-CD6 D3E D57 DCF DDF 115F-1160 1715 1734
   1B35 1B3B 1B3D 1B43-1B44 1BAA 1BF2-1BF3 302E-302F 3164 A953 A9C0 FF9E-FFA0 111C0 11235 1133E
   1134D 11357 113B8 113C2 113C5 113C7-113C9 113CF 114B0 114BD 115AF 116B6 11930 1193D 11F41
   16FF0-16FF1 1D165-1D166 1D16D-1D172"

/-- Whether a displayed text writes `c` by number: control, format, surrogate,
    private-use and unassigned characters, every separator but the plain space, and what
    extends another character or has no form. -/
def isHidden (c : Char) : Bool :=
  isOther c || (isSeparator c && c ≠ ' ') || isNonspacing c ||
    (0x80 ≤ c.toNat && isIn extendingRuns c)

end Rowgate.Text
