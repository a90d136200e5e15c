/-
  Lengths of time and readings of a clock, in nanoseconds, and the display of lengths.

  A length is less than 2^64 seconds, and a clock goes on for 2^63 seconds.  What lies a length
  after a reading may therefore be none.
-/
import Rowgate.Text.Whole

namespace Rowgate

/-- The nanoseconds of 2^64 seconds. -/
def Span.range : Nat := 2 ^ 64 * 10 ^ 9

instance : NeZero Span.range := ⟨by decide⟩

/-- A number of nanoseconds starts over when it leaves the range. -/
instance : Coe Nat (Fin Span.range) := ⟨Fin.ofNat _⟩

/-- A length of time. -/
structure Span where
  nanos : Fin Span.range
deriving DecidableEq

namespace Span

def ofSeconds (n : Nat) : Span := ⟨1000000000 * n⟩

def ofMillis (n : Nat) : Span := ⟨1000000 * n⟩

def ofMicros (n : Nat) : Span := ⟨1000 * n⟩

def seconds (s : Span) : UInt64 := .ofNat (s.nanos.val / 1000000000)

/-- The milliseconds, of which 64 bits are kept. -/
def millis (s : Span) : UInt64 := .ofNat (s.nanos.val / 1000000)

/-- `n` units of `10^places` parts each, without trailing zeros in the fraction. -/
def inUnits (places n : Nat) (unit : String) : String :=
  let fraction := n % 10 ^ places
  let digits := (Text.padded places fraction).toList.reverse.dropWhile (· = '0')
  toString (n / 10 ^ places) ++
    (if fraction = 0 then "" else "." ++ String.ofList digits.reverse) ++ unit

/-- The length in the largest of s, ms, µs and ns that it reaches. -/
def text (s : Span) : String :=
  let nanos := s.nanos.val
  if 1000000000 ≤ nanos then inUnits 9 nanos "s"
  else if 1000000 ≤ nanos then inUnits 6 nanos "ms"
  else if 1000 ≤ nanos then inUnits 3 nanos "µs"
  else toString nanos ++ "ns"

end Span

/-- The nanoseconds of 2^63 seconds. -/
def Moment.range : Nat := 2 ^ 63 * 10 ^ 9

instance : NeZero Moment.range := ⟨by decide⟩

/-- A reading of a clock, from its start. -/
abbrev Moment := Fin Moment.range

/-- The reading a length of time later, if the clock goes that far. -/
def Moment.after? (m : Moment) (s : Span) : Option Moment :=
  if h : m.val + s.nanos.val < range then some ⟨m.val + s.nanos.val, h⟩ else none

theorem Moment.after?_eq_some_iff {m m' : Moment} {s : Span} :
    m.after? s = some m' ↔ m'.val = m.val + s.nanos.val := by
  unfold after?
  split
  case isTrue h => rw [Option.some_inj, Fin.ext_iff, eq_comm]
  case isFalse h =>
    refine ⟨nofun, fun h' => ?_⟩
    exact absurd (h' ▸ m'.isLt) h

end Rowgate
