/-
  Reading domain values from JSON values.

  * `fields?` lays out the members of an object, or the items of an array, by
    the field names of a structure;
  * the other functions read one kind of value each.
-/
import Rowgate.Json.Basic

namespace Rowgate.Json

/-- The values of the named fields.  An object may lack fields and may have others,
    but gives no named one twice; an array gives them by position. -/
def fields? (names : List String) : Json → Option (List (Option Json))
  | .object members => names.mapM fun n =>
    match members.filter (·.1 = n) with
    | [] => some none
    | [m] => some (some m.2)
    | _ => none
  | .array items =>
    if items.length ≤ names.length then
      some (items.map some ++ List.replicate (names.length - items.length) none)
    else none
  | _ => none

/-- A field with a value for its absence. -/
def orElse {α : Type} (absent : α) (read : Json → Option α) : Option Json → Option α
  | none => some absent
  | some j => read j

/-- A field that must be there. -/
def required {α : Type} (read : Json → Option α) (field : Option Json) : Option α :=
  field.bind read

def string? : Json → Option String
  | .string s => some s
  | _ => none

def bool? : Json → Option Bool
  | .bool b => some b
  | _ => none

/-- A whole number from `lo` up to but not including `hi`. -/
def whole? (lo hi : Int) : Json → Option Int
  | .number (.whole n) => if lo ≤ n ∧ n < hi then some n else none
  | _ => none

/-- A whole number of 32 bits with sign. -/
def int32? : Json → Option Int :=
  whole? (-(2 ^ 31)) (2 ^ 31)

/-- A whole number of 64 bits with sign. -/
def int64? : Json → Option Int64 := fun j =>
  (whole? (-(2 ^ 63)) (2 ^ 63) j).map Int64.ofInt

/-- A whole number of 64 bits without sign. -/
def nat64? : Json → Option Nat := fun j =>
  (whole? 0 (2 ^ 64) j).map Int.toNat

/-- The same as a count of 64 bits. -/
def uint64? (j : Json) : Option UInt64 :=
  (nat64? j).map UInt64.ofNat

/-- Any number, as a double. -/
def double? : Json → Option Double
  | .number (.whole n) => some (.ofInt n)
  | .number (.decimal x) => some x
  | _ => none

def list? {α : Type} (read : Json → Option α) : Json → Option (List α)
  | .array items => items.mapM read
  | _ => none

/-- A map from names; a later member replaces an earlier one of its name. -/
def keyed? {α : Type} (read : Json → Option α) : Json → Option (Keyed α)
  | .object members =>
    (members.mapM fun m => (read m.2).map (m.1, ·)).map Keyed.ofList
  | _ => none

/-- `null` or a value. -/
def option? {α : Type} (read : Json → Option α) : Json → Option (Option α)
  | .null => some none
  | j => (read j).map some

/-- One of a list of words: the word itself, or an object whose only member has
    its name and is `null`. -/
def word? {α : Type} (words : List (String × α)) : Json → Option α
  | .string s => (words.find? (·.1 = s)).map (·.2)
  | .object [(s, .null)] => (words.find? (·.1 = s)).map (·.2)
  | _ => none

def ofStrings (l : List String) : Json :=
  .array (l.map .string)

def ofNat (n : Nat) : Json :=
  .number (.whole n)

/-- An object of a map, members in key order. -/
def ofKeyed {α : Type} (write : α → Json) (m : Keyed α) : Json :=
  .object (m.map write).entries

end Rowgate.Json
