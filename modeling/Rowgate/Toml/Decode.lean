/-
  Reading domain values from TOML values.
-/
import Rowgate.Toml.Basic

namespace Rowgate.Toml

/-- The values of the named fields: the members of a table, or the items of an array by
    position.  A date is a table without any of the names. -/
def fields? (names : List String) : Toml → Option (List (Option Toml))
  | table members => some (names.map (member? members))
  | array items => some ((List.range names.length).map (items[·]?))
  | dateTime _ => some (names.map fun _ => none)
  | _ => none

/-- A field with a value for its absence. -/
def orElse {α : Type} (absent : α) (read : Toml → Option α) : Option Toml → Option α
  | none => some absent
  | some t => read t

def string? : Toml → Option String
  | string s => some s
  | _ => none

def bool? : Toml → Option Bool
  | boolean b => some b
  | _ => none

/-- A whole number from `lo` up to but not including `hi`. -/
def whole? (lo hi : Int) : Toml → Option Int
  | integer n => if lo ≤ n ∧ n < hi then some n else none
  | _ => none

/-- A whole number of 64 bits without sign. -/
def uint64? (t : Toml) : Option UInt64 :=
  (whole? 0 (2 ^ 64) t).map fun n => .ofNat n.toNat

/-- One of a list of words: the word itself, or a table whose only member has its name
    and is empty. -/
def word? {α : Type} (words : List (String × α)) : Toml → Option α
  | string s => (words.find? (·.1 = s)).map (·.2)
  | table [(s, array [])] | table [(s, table [])] => (words.find? (·.1 = s)).map (·.2)
  | _ => none

end Rowgate.Toml
