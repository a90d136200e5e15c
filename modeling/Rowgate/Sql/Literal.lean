/-
  Values as SQL literals.

  * `quote` is the string literal of a text;
  * `string` is the literal of a string value: one that is itself JSON is written
    as a JSON string inside of the literal;
  * `scalar` is the literal of any value, `list` the elements of a value list,
    `idList` those of a list of ids.

  Floats that are not finite have no literal.
-/
import Rowgate.Error
import Rowgate.Json.Reader
import Rowgate.Text.Quoted
import Rowgate.Value

namespace Rowgate.Sql

def quote (s : String) : String :=
  String.ofList (Text.quoted '\'' s.toList)

/-- Whether a string value is written as JSON. -/
def looksLikeJson (s : String) : Bool :=
  (Json.readAll? s).isSome

def string (s : String) : String :=
  if looksLikeJson s then quote (Json.string s).text else quote s

def timestamp (t : Instant) : String :=
  quote t.sqlText

/-- The literal of a number; `field` and `operator` label the error. -/
def number (field operator : String) (x : Double) : Except Error String :=
  if x.isFinite then .ok x.text else .error (.unsupportedValue field operator "non-finite float")

/-- An element of an array literal: in double quotes, with a backslash before every
    quote and backslash. -/
def arrayElement (s : String) : String :=
  String.ofList ('"' :: s.toList.flatMap (fun c =>
    if c = '\\' then ['\\', '\\'] else if c = '"' then ['\\', '"'] else [c]) ++ ['"'])

/-- The literal of an array of written elements. -/
def array (elements : List String) : String :=
  quote ("\x7b" ++ ",".intercalate elements ++ "\x7d")

def scalar (field operator : String) : Value → Except Error String
  | .null => .ok "NULL"
  | .bool b => .ok (if b then "true" else "false")
  | .integer n => .ok (integerText n)
  | .float x => number field operator x
  | .timestamp t => .ok (timestamp t)
  | .string s => .ok (string s)
  | .stringArray items => .ok (array (items.map arrayElement))
  | .numericArray items => (items.mapM (number field operator)).map array

/-- The elements of an array value; nothing for any other value. -/
def list (field operator : String) : Value → Except Error (Option String)
  | .stringArray items => .ok (some (", ".intercalate (items.map quote)))
  | .numericArray items =>
    (items.mapM (number field operator)).map fun texts => some (", ".intercalate texts)
  | _ => .ok none

def idList (ids : List String) : String :=
  ", ".intercalate (ids.map quote)

end Rowgate.Sql
