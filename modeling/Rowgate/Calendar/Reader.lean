/-
  Reading instants from text.

  * `relaxed?` is the reader of values: spaces may stand before every part, the
    date and the time are parted by `T`, `t` or one space, the offset may be
    `UTC`;
  * `strict?` is the Internet date-time format, each part with its own width;
  * `local?` is a date and a time without an offset, taken as universal time.

  All of them read a second of 60 as a leap second and drop the digits of a
  fraction after the ninth.
-/
import Rowgate.Calendar.Instant
import Rowgate.Text.Blank
import Rowgate.Text.Case

namespace Rowgate.Instant

/-- A date and a time of day as they are read; a second may be 60. -/
structure Reading where
  date : Date
  hour : Nat
  minute : Nat
  second : Nat
  nano : Nat

/-- The instant of a reading at an offset in seconds from universal time.  The date
    must be in range both as read and in universal time. -/
def ofReading? (r : Reading) (offset : Int) : Option Instant :=
  let day := r.date.dayNumber
  if r.date.isValid ∧ Date.firstDay ≤ day ∧ day ≤ Date.lastDay ∧ r.hour < 24 ∧ r.minute < 60 ∧
      r.second ≤ 60 ∧ -86400 < offset ∧ offset < 86400 then
    let leap := r.second = 60
    let total : Int :=
      day * 86400 + (r.hour * 3600 + r.minute * 60 + (if leap then 59 else r.second) : Nat) - offset
    ofParts? (total / 86400) (total % 86400).toNat (r.nano + if leap then 1000000000 else 0)
  else none

/-- Up to `most` leading digits, at least `least`, as a number, and the rest. -/
def number? (least most : Nat) (s : List Char) : Option (Nat × List Char) :=
  let digits := (s.take most).takeWhile Char.isDigit
  if digits.length < least then none
  else (Text.digits? digits).map (·, s.drop digits.length)

def char? (c : Char) : List Char → Option (List Char)
  | d :: r => if d = c then some r else none
  | [] => none

/-- The fraction of a second, if a point follows, and the rest. -/
def fraction? : List Char → Option (Nat × List Char)
  | '.' :: r => do
    let (n, rest) ← number? 1 9 r
    return (n * 10 ^ (9 - (r.length - rest.length)), rest.dropWhile Char.isDigit)
  | s => some (0, s)

/-- An offset in seconds: `Z`, or a sign, two digits of hours, what `separator`
    reads, and two digits of minutes.  A minus may be the sign U+2212. -/
def offset? (separator : List Char → Option (List Char)) : List Char → Option (Int × List Char)
  | [] => none
  | c :: r =>
    if c = 'Z' || c = 'z' then some (0, r)
    else if c = '+' || c = '-' || c = '\u2212' then do
      let (h, r) ← number? 2 2 r
      let r ← separator r
      let (m, r) ← number? 2 2 r
      if m < 60 then
        let n : Int := (h * 3600 + m * 60 : Nat)
        return (if c = '+' then n else -n, r)
      else none
    else none

/-- The separator between the date and the time. -/
def between? : List Char → Option (List Char)
  | c :: r => if c = 'T' || c = 't' || c = ' ' then some r else none
  | [] => none

/-- A year after leading space: up to four digits, or any number after a sign. -/
def year? (s : List Char) : Option (Int × List Char) :=
  match Text.skipBlanks s with
  | '-' :: r => (number? 1 r.length r).map fun (n, r) => (-(n : Int), r)
  | '+' :: r => (number? 1 r.length r).map fun (n, r) => ((n : Int), r)
  | s => (number? 1 4 s).map fun (n, r) => ((n : Int), r)

/-- A part of one or two digits after leading space. -/
def part? (s : List Char) : Option (Nat × List Char) :=
  number? 1 2 (Text.skipBlanks s)

/-- Date and time up to the fraction, each part after leading space; `gap` reads what
    may stand before a mark, `separator` what parts date and time. -/
def parts? (gap : List Char → List Char) (separator : List Char → Option (List Char))
    (s : List Char) : Option (Reading × List Char) := do
  let (year, s) ← year? s
  let s ← char? '-' (gap s)
  let (month, s) ← part? s
  let s ← char? '-' (gap s)
  let (day, s) ← part? s
  let s ← separator s
  let (hour, s) ← part? s
  let s ← char? ':' (gap s)
  let (minute, s) ← part? s
  let s ← char? ':' (gap s)
  let (second, s) ← part? s
  let (nano, s) ← fraction? s
  return (⟨⟨year, month, day⟩, hour, minute, second, nano⟩, s)

/-- An offset of the relaxed form: `UTC` in any case, or with colons and spaces
    between hours and minutes. -/
def relaxedOffset? (s : List Char) : Option (Int × List Char) :=
  if Text.sameWord (s.take 3) "utc".toList then some (0, s.drop 3)
  else offset? (fun r => some (r.dropWhile fun c => c = ':' || Text.isBlank c)) s

def relaxed? (text : String) : Option Instant := do
  let (r, s) ← parts? Text.skipBlanks between? text.toList
  let (offset, s) ← relaxedOffset? (Text.skipBlanks s)
  if (Text.skipBlanks s).isEmpty then ofReading? r offset else none

def strict? (text : String) : Option Instant := do
  let (year, s) ← number? 4 4 text.toList
  let s ← char? '-' s
  let (month, s) ← number? 2 2 s
  let s ← char? '-' s
  let (day, s) ← number? 2 2 s
  let s ← between? s
  let (hour, s) ← number? 2 2 s
  let s ← char? ':' s
  let (minute, s) ← number? 2 2 s
  let s ← char? ':' s
  let (second, s) ← number? 2 2 s
  let (nano, s) ← fraction? s
  let (offset, s) ← offset? (char? ':') s
  if s.isEmpty then ofReading? ⟨⟨year, month, day⟩, hour, minute, second, nano⟩ offset else none

def local? (text : String) : Option Instant := do
  let (r, s) ← parts? id (fun s => some (Text.skipBlanks s)) text.toList
  if s.isEmpty then ofReading? r 0 else none

end Rowgate.Instant
