/-
  Dates of the proleptic Gregorian calendar as day numbers from 1970-01-01.

  Years are taken to begin in March, so that the leap day is the last day of its
  year; four hundred years have 146097 days.
-/
namespace Rowgate

/-- A calendar date: a year, a month from 1 and a day from 1. -/
structure Date where
  year : Int
  month : Nat
  day : Nat
deriving DecidableEq

namespace Date

def isLeap (year : Int) : Bool :=
  year % 4 = 0 && (year % 100 ≠ 0 || year % 400 = 0)

def daysInMonth (year : Int) (month : Nat) : Nat :=
  if month = 2 then (if isLeap year then 29 else 28)
  else if month = 4 || month = 6 || month = 9 || month = 11 then 30
  else 31

/-- Whether the month and the day exist. -/
def isValid (d : Date) : Bool :=
  1 ≤ d.month && d.month ≤ 12 && 1 ≤ d.day && d.day ≤ daysInMonth d.year d.month

/-- The number of days from 1970-01-01. -/
def dayNumber (d : Date) : Int :=
  let y := if d.month ≤ 2 then d.year - 1 else d.year
  let m : Int := if d.month ≤ 2 then (d.month : Int) + 9 else (d.month : Int) - 3
  let yearOfEra := y % 400
  let dayOfYear := (153 * m + 2) / 5 + d.day - 1
  y / 400 * 146097 + (yearOfEra * 365 + yearOfEra / 4 - yearOfEra / 100 + dayOfYear) - 719468

/-- The date of a day number. -/
def ofDayNumber (n : Int) : Date :=
  let z := n + 719468
  let dayOfEra := z % 146097
  let yearOfEra := (dayOfEra - dayOfEra / 1460 + dayOfEra / 36524 - dayOfEra / 146096) / 365
  let dayOfYear := dayOfEra - (365 * yearOfEra + yearOfEra / 4 - yearOfEra / 100)
  let m := (5 * dayOfYear + 2) / 153
  let day := dayOfYear - (153 * m + 2) / 5 + 1
  let month := if m < 10 then m + 3 else m - 9
  ⟨z / 146097 * 400 + yearOfEra + (if month ≤ 2 then 1 else 0), month.toNat, day.toNat⟩

/-- The first day that an instant can fall on. -/
def firstDay : Int := dayNumber ⟨-262143, 1, 1⟩

/-- The last day that an instant can fall on. -/
def lastDay : Int := dayNumber ⟨262142, 12, 31⟩

example : dayNumber ⟨2000, 3, 1⟩ = 11017 ∧ ofDayNumber 11016 = ⟨2000, 2, 29⟩ := by decide

end Date

end Rowgate
