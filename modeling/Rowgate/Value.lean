/-
  The values of fields, and records.
-/
import Rowgate.Keyed
import Rowgate.Decimal.Layout
import Rowgate.Calendar.Instant

namespace Rowgate

/-- A value of one field: nothing, a scalar, or a list of texts or of numbers. -/
inductive Value where
  | null
  | bool (b : Bool)
  | integer (n : Int64)
  | float (x : Double)
  | timestamp (t : Instant)
  | string (s : String)
  | stringArray (items : List String)
  | numericArray (items : List Double)
deriving DecidableEq

/-- A record: the values of its fields, in order of their names. -/
abbrev Record := Keyed Value

namespace Value

/-- The kind of a value, as messages name it. -/
def typeName : Value → String
  | null => "null"
  | bool _ => "bool"
  | integer _ => "integer"
  | float _ => "float"
  | timestamp _ => "timestamp"
  | string _ => "string"
  | stringArray _ => "string-array"
  | numericArray _ => "numeric-array"

def isNull : Value → Bool
  | null => true
  | _ => false

def string? : Value → Option String
  | string s => some s
  | _ => none

def integer? : Value → Option Int64
  | integer n => some n
  | _ => none

/-- A number as a double; an integer goes to the nearest one. -/
def double? : Value → Option Double
  | integer n => some (.ofInt n.toInt)
  | float x => some x
  | _ => none

def bool? : Value → Option Bool
  | bool b => some b
  | _ => none

end Value

/-- The decimal text of an integer. -/
def integerText (n : Int64) : String :=
  toString n.toInt

end Rowgate
