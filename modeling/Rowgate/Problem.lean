/-
  Problems that validation finds in records, and their texts.
-/
import Rowgate.Json.Basic

namespace Rowgate

/-- The kind of a problem. -/
inductive ProblemCode where
  /-- A required field is absent or null. -/
  | required
  /-- The value does not fit the declared type. -/
  | type
  | length
  | range
  /-- The record has a key that the model does not declare. -/
  | unknownField
  | custom (code : String)
deriving DecidableEq

namespace ProblemCode

def name : ProblemCode → String
  | required => "required"
  | type => "type"
  | length => "len"
  | range => "range"
  | unknownField => "unknown_field"
  | custom code => code

/-- The kind of a name; an unknown one is custom. -/
def ofName (s : String) : ProblemCode :=
  match [required, type, length, range, unknownField].find? (·.name = s) with
  | some c => c
  | none => custom s

end ProblemCode

/-- One problem with one field, and the number of the record in its batch. -/
structure Problem where
  field : String
  code : ProblemCode
  message : String
  record : Option Nat
deriving DecidableEq

namespace Problem

/-- The problem as one of the record numbered `n`. -/
def inRecord (n : Nat) (p : Problem) : Problem :=
  { p with message := "Record #" ++ toString n ++ ": " ++ p.message, record := some n }

def toJson (p : Problem) : Json :=
  .object ([("field", .string p.field), ("code", .string p.code.name),
    ("message", .string p.message)] ++
    match p.record with
    | some n => [("record", .number (.whole n))]
    | none => [])

def listJson (ps : List Problem) : Json :=
  .array (ps.map toJson)

/-- All problems on one line. -/
def listText (ps : List Problem) : String :=
  "; ".intercalate (ps.map fun p => p.field ++ ": " ++ p.message)

/-- The problems of one field. -/
def ofField (field : String) (ps : List Problem) : List Problem :=
  ps.filter (·.field = field)

end Problem

end Rowgate
