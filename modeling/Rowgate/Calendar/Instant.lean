/-
  Instants of universal time to the nanosecond, with leap seconds, and their
  texts and counts.

  * `text` is the JSON form, with a fraction of 0, 3, 6 or 9 digits;
  * `sqlText` is the form inside of SQL literals, with six digits, the rest cut
    off;
  * `microsFromEpoch2000` and `ofMicrosFromEpoch2000?` are the binary form.
-/
import Rowgate.Calendar.Date
import Rowgate.Text.Whole

namespace Rowgate

/-- The conditions on the parts of an instant: a day within the calendar's range, a
    second of the day, and a nanosecond, which exceeds a second only in the leap
    second at the end of a minute. -/
def Instant.Valid (day : Int) (second nano : Nat) : Prop :=
  Date.firstDay ≤ day ∧ day ≤ Date.lastDay ∧ second < 86400 ∧
    (nano < 1000000000 ∨ nano < 2000000000 ∧ second % 60 = 59)

instance (day : Int) (second nano : Nat) : Decidable (Instant.Valid day second nano) :=
  inferInstanceAs (Decidable (_ ∧ _ ∧ _ ∧ _))

/-- An instant: a day number from 1970-01-01, a second of that day, a nanosecond. -/
structure Instant where
  day : Int
  second : Nat
  nano : Nat
  valid : Instant.Valid day second nano
deriving DecidableEq

namespace Instant

def ofParts? (day : Int) (second nano : Nat) : Option Instant :=
  if h : Valid day second nano then some ⟨day, second, nano, h⟩ else none

def date (t : Instant) : Date :=
  .ofDayNumber t.day

/-- A year with at least four digits, and with a sign outside of 0 to 9999. -/
def yearText (y : Int) : String :=
  (if 0 ≤ y ∧ y ≤ 9999 then "" else if y < 0 then "-" else "+") ++ Text.padded 4 y.natAbs

/-- Date and time of day to the second, with a separator between; a leap second is
    written as 60. -/
def secondsText (separator : String) (t : Instant) : String :=
  let d := t.date
  let two := Text.padded 2
  yearText d.year ++ "-" ++ two d.month ++ "-" ++ two d.day ++ separator ++
    two (t.second / 3600) ++ ":" ++ two (t.second / 60 % 60) ++ ":" ++
    two (t.second % 60 + t.nano / 1000000000)

/-- A point and the fewest of 3, 6 or 9 digits that keep the nanosecond; nothing
    for a whole second. -/
def fractionText (nano : Nat) : String :=
  if nano = 0 then ""
  else if nano % 1000000 = 0 then "." ++ Text.padded 3 (nano / 1000000)
  else if nano % 1000 = 0 then "." ++ Text.padded 6 (nano / 1000)
  else "." ++ Text.padded 9 nano

/-- The JSON form. -/
def text (t : Instant) : String :=
  secondsText "T" t ++ fractionText (t.nano % 1000000000) ++ "Z"

/-- The form inside of SQL literals. -/
def sqlText (t : Instant) : String :=
  secondsText " " t ++ "." ++ Text.padded 6 (t.nano % 1000000000 / 1000)

/-- Milliseconds from 1970. -/
def epochMillis (t : Instant) : Int :=
  (t.day * 86400 + t.second) * 1000 + (t.nano / 1000000 : Nat)

/-- The day number of 2000-01-01. -/
def epoch2000 : Int := 10957

/-- Microseconds from 2000-01-01, what is left over cut off towards zero. -/
def microsFromEpoch2000 (t : Instant) : Int :=
  (((t.day - epoch2000) * 86400 + t.second) * 1000000000 + t.nano).tdiv 1000

/-- The instant so many microseconds from 2000-01-01, if the calendar has it. -/
def ofMicrosFromEpoch2000? (n : Int) : Option Instant :=
  ofParts? (n / 86400000000 + epoch2000) (n % 86400000000 / 1000000).toNat
    (n % 1000000 * 1000).toNat

end Instant

end Rowgate
