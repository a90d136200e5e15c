/-
  Values at the JSON border.

  * `toJson` writes a value; what kind it was is not written;
  * `ofJson?` takes the first kind that fits: a whole number of 64 bits is an
    integer and any other number a float, a text that reads as an instant is a
    timestamp, an array is one of texts if all its items are (as in an empty
    one), else one of numbers.
-/
import Rowgate.Value
import Rowgate.Calendar.Reader
import Rowgate.Json.Decode

namespace Rowgate

namespace Value

def toJson : Value → Json
  | null => .null
  | bool b => .bool b
  | integer n => .number (.whole n.toInt)
  | float x => .number (.decimal x)
  | timestamp t => .string t.text
  | string s => .string s
  | stringArray items => .array (items.map .string)
  | numericArray items => .array (items.map fun x => .number (.decimal x))

/-- A text is a timestamp if it reads as an instant. -/
def ofText (s : String) : Value :=
  match Instant.relaxed? s with
  | some t => timestamp t
  | none => string s

def ofJson? : Json → Option Value
  | .null => some null
  | .bool b => some (bool b)
  | .number n =>
    match Json.int64? (.number n) with
    | some i => some (integer i)
    | none => (Json.double? (.number n)).map float
  | .string s => some (ofText s)
  | .array items =>
    match items.mapM Json.string? with
    | some texts => some (stringArray texts)
    | none => (items.mapM Json.double?).map numericArray
  | _ => none

/-- The JSON text of a value. -/
def jsonText (v : Value) : String :=
  v.toJson.text

end Value

namespace Record

def toJson (r : Record) : Json :=
  Json.ofKeyed Value.toJson r

/-- The JSON value of a list of records. -/
def listJson (records : List Record) : Json :=
  .array (records.map toJson)

end Record

end Rowgate
