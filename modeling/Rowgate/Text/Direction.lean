/-
  The writing direction of characters (`Bidi_Class`), of Unicode 17, and the rule on
  directions within one label of a name.
-/
import Rowgate.Text.Category

namespace Rowgate.Text

/-- What a character does to the direction of writing.  Separators and terminators of
    numbers count as neutral. -/
inductive Direction where
  | left
  | right
  | europeanNumber
  | arabicNumber
  | neutral
  | mark
deriving DecidableEq

/-- The blocks whose letters are written from right to left. -/
def rightRuns : List Run := Table.runs "590-8FF FB1D-FDFF FE70-FEFF 10800-10FFF 1E800-1EFFF"

def europeanNumberRuns : List Run := Table.runs "6F0-6F9 102E1-102FB"

def arabicNumberRuns : List Run := Table.runs
  "660-669 66B-66C 10D30-10D39 10E60-10E7E"

/-- The runs of neutral characters from U+0080 on. -/
def neutralRuns : List Run := Table.runs
  "A1-A7 A9 AB-AC AE B0-B1 B6-B7 BB BF D7 F7 2B9-2BA 2C2-2CF 2D2-2D7 2DE-2DF 2E5-2ED 2EF-2FF 375
   3F6 58A 58D-58F 606-607 609-60A 60C 60E-60F 66A 6DE 6E9 7F6-7F9 9F2-9F3 9FB AF1 BF3-BFA C78-C7E
   E3F F3A-F3D 1390-1399 1400 169B-169C 17DB 17F0-17F9 1800-180A 1940 1944-1945 19DE-19FF
   200C-200D 2010 2012-2016 2018-2023 2027 2030-2032 2035 2038-203B 203D 203F-2046 204A-2056
   2058-205E 20A0-20A7 20A9-20C1 2104 2108 2114 2117-2118 211E-211F 2123 2125 2127 2129 212E 213A
   2141-2144 214A-214D 218A-218B 2190-222B 222E 2231-2328 232B-2335 237B-2394 2396-2429 2440-244A
   24EB-26AB 26AD-27FF 2900-2A0B 2A0D-2A73 2A77-2ADB 2ADD-2B73 2B76-2BFF 2CE5-2CEA 2CF9-2CFF
   2E00-2E5D 2E80-2E99 2E9B-2E9E 2EA0-2EF2 3001 3003-3004 3008-3020 3030 3037 303D-303F 30A0 30FB
   31C0-31E5 4DC0-4DFF A490-A4C6 A60D-A60F A673 A67E-A67F A700-A721 A788 A828-A82B A838-A839
   A874-A877 AB6A-AB6B FBC3-FBD2 FD3E-FD4F FD90-FD91 FDC8-FDCF FDFD-FDFF FE45-FE46 10101
   10140-1018C 10190-1019C 101A0 1091F 10B39-10B3F 10D6E 10ED0-10ED8 11052-11065 11660-1166C
   11FD5-11FF1 16FE2 1CC00-1CCD5 1CCFA-1CCFC 1CD00-1CEB3 1CEBA-1CED0 1CEE0-1CEF0 1D1E9-1D1EA
   1D200-1D241 1D245 1D300-1D356 1E2FF 1EEF0-1EEF1 1F000-1F02B 1F030-1F093 1F0A0-1F0AE 1F0B1-1F0BF
   1F0C1-1F0CF 1F0D1-1F0F5 1F10B-1F10F 1F12F 1F16D-1F16F 1F1AD 1F260-1F265 1F300-1F6D8 1F6DC-1F6EC
   1F6F0-1F6FC 1F700-1F7D9 1F7E0-1F7EB 1F7F0 1F800-1F80B 1F810-1F847 1F850-1F859 1F860-1F887
   1F890-1F8AD 1F8B0-1F8BB 1F8C0-1F8C1 1F8D0-1F8D8 1F900-1FA57 1FA60-1FA6D 1FA70-1FA7C 1FA80-1FA8A
   1FA8E-1FAC6 1FAC8 1FACD-1FADC 1FADF-1FAEA 1FAEF-1FAF8 1FB00-1FB92 1FB94-1FBEF 1FBFA"

/-- The nonspacing marks that count as letters. -/
def leftMarkRuns : List Run := Table.runs "CBF CC6 11A07-11A08 11C3F"

/-- The direction of a character that may stand in a name. -/
def direction (c : Char) : Direction :=
  if c.toNat < 0x80 then
    if c.isDigit then .europeanNumber else if c.isAlpha then .left else .neutral
  else if isNonspacing c && !isIn leftMarkRuns c then .mark
  else if isIn europeanNumberRuns c then .europeanNumber
  else if isIn arabicNumberRuns c then .arabicNumber
  else if isIn neutralRuns c then .neutral
  else if isIn rightRuns c then .right
  else .left

/-- Whether a character makes a name one that is written in both directions. -/
def isRightward (c : Char) : Bool :=
  0x590 ≤ c.toNat && (direction c = .right || direction c = .arabicNumber)

/-- Whether a label keeps to one direction.  It begins with a letter, whose direction is
    that of the label; the last character apart from marks is a letter of that direction
    or a number; no letter of the other direction stands between them, and in a label
    from right to left there are no numbers of two kinds. -/
def keepsDirection (label : List Char) : Bool :=
  match label.map direction with
  | [] => true
  | .left :: r =>
    match r.reverse.dropWhile (· = .mark) with
    | [] => true
    | last :: before =>
      (last = .left || last = .europeanNumber) &&
        before.all fun d => d ≠ .right && d ≠ .arabicNumber
  | .right :: r =>
    match r.reverse.dropWhile (· = .mark) with
    | [] => true
    | last :: before =>
      (last = .right || last = .europeanNumber || last = .arabicNumber) &&
        before.all (· ≠ .left) &&
        !((last :: before).contains .europeanNumber && (last :: before).contains .arabicNumber)
  | _ => false

end Rowgate.Text
