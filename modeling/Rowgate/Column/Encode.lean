/-
  Binding: values as the bytes of a parameter or column of a given type.

  The type decides how a value is read: a text goes to a `uuid` column as the
  identifier it spells, an integer to `int4` if it fits.  A pairing that is not
  named here writes the bytes of the value's own kind.

  * `Value.encode` fails when the value does not fit the type, and in its own way when
    a list is written to a type that is no array;
  * `Value.encode?` forgets why;
  * `Value.null` is bound to every type as NULL.
-/
import Rowgate.Calendar.Reader
import Rowgate.Column.Bytes
import Rowgate.Column.Type
import Rowgate.Json.Reader
import Rowgate.Text.Utf8
import Rowgate.Uuid
import Rowgate.Value

namespace Rowgate

/-- A length and the bytes it counts. -/
def Bytes.counted (bytes : List UInt8) : List UInt8 :=
  ofNat 4 bytes.length ++ bytes

/-- Why a value is not bound. -/
inductive BindFault where
  | unfit
  /-- A list for a type that is no array; the writer of arrays gives up. -/
  | noArray
deriving DecidableEq

/-- Whether a signed number of four bytes can count the items, and the bytes of each. -/
def Bytes.Countable (items : List (List UInt8)) : Prop :=
  items.length < 2 ^ 31 ∧ ∀ item ∈ items, item.length < 2 ^ 31

instance (items : List (List UInt8)) : Decidable (Bytes.Countable items) :=
  inferInstanceAs (Decidable (_ ∧ _))

/-- An array of one dimension with lower bound 1. -/
def Bytes.ofItems (item : BaseType) (items : List (List UInt8)) : List UInt8 :=
  ofNat 4 1 ++ ofNat 4 0 ++ ofNat 4 item.number ++ ofNat 4 items.length ++ ofNat 4 1 ++
    items.flatMap counted

/-- The items as an array of a type. -/
def Bytes.array (items : List (List UInt8)) : ColumnType → Except BindFault (List UInt8)
  | .base _ => .error .noArray
  | .array t => if Countable items then .ok (ofItems t items) else .error .unfit

/-- The bytes of a double. -/
def Double.toBytes (x : Double) : List UInt8 :=
  Bytes.ofNat 8 x.bits.toNat

/-- The bytes of the nearest number of 32 bits. -/
def Double.toSingleBytes (x : Double) : List UInt8 :=
  Bytes.ofNat 4 x.toSingle.toNat

/-- Microseconds from 2000. -/
def Instant.toBytes (t : Instant) : List UInt8 :=
  Bytes.ofInt 8 t.microsFromEpoch2000

namespace Value

/-- An integer at a type; one that does not fit a narrow integer type cannot be bound. -/
def encodeInteger? (n : Int64) : ColumnType → Option (List UInt8)
  | .base .int2 =>
    if -(2 ^ 15) ≤ n.toInt ∧ n.toInt < 2 ^ 15 then some (Bytes.ofInt 2 n.toInt) else none
  | .base .int4 =>
    if -(2 ^ 31) ≤ n.toInt ∧ n.toInt < 2 ^ 31 then some (Bytes.ofInt 4 n.toInt) else none
  | .base .float4 => some (Bytes.ofNat 4 (Double.singleOfInt n.toInt).toNat)
  | .base .float8 => some (Double.ofInt n.toInt).toBytes
  | .base t => some (if t.isText then Text.utf8 (integerText n) else Bytes.ofInt 8 n.toInt)
  | .array _ => some (Bytes.ofInt 8 n.toInt)

def encodeFloat (x : Double) : ColumnType → List UInt8
  | .base .float4 => x.toSingleBytes
  | .base t => if t.isText then Text.utf8 x.text else x.toBytes
  | .array _ => x.toBytes

/-- An instant: microseconds, or the days from 2000 for a date. -/
def encodeTimestamp (t : Instant) : ColumnType → List UInt8
  | .base .date => Bytes.ofInt 4 (t.day - Instant.epoch2000)
  | _ => t.toBytes

/-- The JSON document of a text: the text's own if it is JSON, else the text as a
    JSON string. -/
def documentText (s : String) : String :=
  match Json.readAll? s with
  | some j => j.sorted.text
  | none => (Json.string s).text

/-- `true` or `false`. -/
def boolWord? (s : String) : Option Bool :=
  if s = "true" then some true else if s = "false" then some false else none

/-- A text, read as the type demands. -/
def encodeString? (s : String) : ColumnType → Option (List UInt8)
  | .base .uuid => (Uuid.read? s).map Uuid.bytes
  | .base .json => some (Text.utf8 (documentText s))
  | .base .jsonb => some (1 :: Text.utf8 (documentText s))
  | .base .int2 => (Text.signed? 16 s.toList).map (Bytes.ofInt 2)
  | .base .int4 => (Text.signed? 32 s.toList).map (Bytes.ofInt 4)
  | .base .int8 => (Text.signed? 64 s.toList).map (Bytes.ofInt 8)
  | .base .bool => (boolWord? s).map fun b => [if b then 1 else 0]
  | .base .timestamptz => (Instant.strict? s).map Instant.toBytes
  | .base .timestamp => (Instant.local? s).map Instant.toBytes
  | _ => some (Text.utf8 s)

/-- A list of texts. -/
def encodeStrings (items : List String) : ColumnType → Except BindFault (List UInt8)
  | .array .uuid =>
    match items.mapM Uuid.read? with
    | some ids => Bytes.array (ids.map Uuid.bytes) (.array .uuid)
    | none => .error .unfit
  | t => Bytes.array (items.map Text.utf8) t

/-- A number as the item of an array; integer types take the whole part, held within
    their range. -/
def encodeItem (x : Double) : ColumnType → List UInt8
  | .array .int4 => Bytes.ofInt 4 (x.toWord 32)
  | .array .int8 => Bytes.ofInt 8 (x.toWord 64)
  | .array .float4 => x.toSingleBytes
  | _ => x.toBytes

/-- A list of numbers. -/
def encodeNumbers (items : List Double) (t : ColumnType) : Except BindFault (List UInt8) :=
  Bytes.array (items.map fun x => encodeItem x t) t

/-- Bytes that are there, or a value that does not fit. -/
def fitting : Option (List UInt8) → Except BindFault Cell
  | some bytes => .ok (some bytes)
  | none => .error .unfit

/-- The value at a type. -/
def encode (t : ColumnType) : Value → Except BindFault Cell
  | null => .ok none
  | bool b => .ok (some [if b then 1 else 0])
  | integer n => fitting (encodeInteger? n t)
  | float x => .ok (some (encodeFloat x t))
  | timestamp i => .ok (some (encodeTimestamp i t))
  | string s => fitting (encodeString? s t)
  | stringArray items => (encodeStrings items t).map some
  | numericArray items => (encodeNumbers items t).map some

/-- The value at a type, if it can be bound. -/
def encode? (t : ColumnType) (v : Value) : Option Cell :=
  (encode t v).toOption

end Value

end Rowgate
