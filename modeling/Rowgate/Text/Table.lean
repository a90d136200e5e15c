/-
  Tables of characters, written as text.

  All numbers are hexadecimal.  A run is one code point, or a first and a last one with
  a hyphen between them; with `:2` after it, only every second one counts.  A row is a
  list of words, and rows are parted by commas.
-/
import Rowgate.Text.Hex
import Rowgate.Text.Split

namespace Rowgate.Text

/-- The code points from a first to a last one, `step` apart. -/
structure Run where
  first : Nat
  last : Nat
  step : Nat

def Run.contains (r : Run) (n : Nat) : Bool :=
  r.first ≤ n && n ≤ r.last && (n - r.first) % r.step = 0

/-- The code points of a run and what they stand for. -/
structure Row where
  run : Run
  numbers : List Nat

/-- What a code point of the row stands for: the number that is as far from the only
    one as the point is from the first of the run, or all of several numbers. -/
def Row.image (r : Row) (n : Nat) : List Nat :=
  match r.numbers with
  | [m] => [m + (n - r.run.first)]
  | ms => ms

namespace Table

def number (s : List Char) : Nat :=
  (inBase? 16 s).getD 0

/-- The words of a text, with spaces and line breaks between them. -/
def words (s : List Char) : List (List Char) :=
  (parts ' ' (s.map fun c => if c = '\n' then ' ' else c)).filter (!·.isEmpty)

def run (word : List Char) : Run :=
  let (range, step) := cut ':' word
  let (first, last) := cut '-' range
  ⟨number first, number (last.getD first), (step.map number).getD 1⟩

/-- A table of one row of runs. -/
def runs (s : String) : List Run :=
  (words s.toList).map run

/-- A table whose rows are a run and numbers. -/
def rows (s : String) : List Row :=
  (parts ',' s.toList).filterMap fun row =>
    match words row with
    | [] => none
    | first :: ws => some ⟨run first, ws.map number⟩

/-- A table whose rows are a number and runs. -/
def classes (s : String) : List (Nat × List Run) :=
  (parts ',' s.toList).filterMap fun row =>
    match words row with
    | [] => none
    | first :: ws => some (number first, ws.map run)

end Table

/-- Whether a character is in one of the runs. -/
def isIn (runs : List Run) (c : Char) : Bool :=
  runs.any (·.contains c.toNat)

end Rowgate.Text
