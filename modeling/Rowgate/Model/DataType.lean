/-
  The types that models declare, and the one that fits a value best.
-/
import Rowgate.Address.Email
import Rowgate.Address.Url
import Rowgate.Calendar.Reader
import Rowgate.Json.Reader
import Rowgate.Uuid
import Rowgate.Value

namespace Rowgate

inductive DataType where
  | string
  | text
  | uuid
  | email
  | url
  | json
  | dateTime
  | integer
  | float
  | boolean
  | stringArray
  | numericArray
deriving DecidableEq

namespace DataType

/-- The name of a type in messages. -/
def label : DataType → String
  | string => "string"
  | text => "text"
  | uuid => "uuid"
  | email => "email"
  | url => "url"
  | json => "json"
  | dateTime => "datetime"
  | integer => "integer"
  | float => "float"
  | boolean => "boolean"
  | stringArray => "string-array"
  | numericArray => "numeric-array"

/-- The name of a type in JSON. -/
def word : DataType → String
  | dateTime => "dateTime"
  | stringArray => "stringArray"
  | numericArray => "numericArray"
  | t => t.label

def byWord : List (String × DataType) :=
  [string, text, uuid, email, url, json, dateTime, integer, float, boolean, stringArray,
    numericArray].map fun t => (t.word, t)

/-- Whether a text is a JSON object or array; other JSON is no document. -/
def isDocument (s : String) : Bool :=
  match Json.readAll? s with
  | some (.object _) | some (.array _) => true
  | _ => false

/-- Whether a text is a date-time with an offset, or a local one. -/
def isDateTime (s : String) : Bool :=
  (Instant.strict? s).isSome || (Instant.local? s).isSome

def isUuid (s : String) : Bool :=
  (Uuid.read? s).isSome

/-- The most specific type of a text. -/
def ofText (s : String) : DataType :=
  if isUuid s then uuid
  else if Address.isEmail s then email
  else if Address.isUrl s then url
  else if isDocument s then json
  else if isDateTime s then dateTime
  else string

/-- The most specific type of a value; null has none. -/
def infer : Value → Option DataType
  | .null => none
  | .bool _ => some boolean
  | .integer _ => some integer
  | .float _ => some float
  | .timestamp _ => some dateTime
  | .stringArray _ => some stringArray
  | .numericArray _ => some numericArray
  | .string s => some (ofText s)

/-- Whether a field declared as `declared` takes the value `v` of type `actual`: any
    text is a string, and an integer is a float. -/
def accepts (declared actual : DataType) (v : Value) : Bool :=
  match declared with
  | string | text => v.string?.isSome
  | float => actual = float || actual = integer
  | t => t = actual

end DataType

end Rowgate
