/-
  Reading columns: the value that the bytes of a column of a given type stand for.

  * `Value.decode` fails on malformed bytes and on types that are not read;
  * `Row.toRecord` reads every column of a row.
-/
import Rowgate.Column.Bytes
import Rowgate.Column.Type
import Rowgate.Error
import Rowgate.Json.Reader
import Rowgate.Text.Case
import Rowgate.Text.Utf8
import Rowgate.Uuid
import Rowgate.Value

namespace Rowgate

/-- Why a column is not read. -/
inductive DecodeFault where
  | malformed
  | unsupported (type : ColumnType)

def DecodeFault.message? : DecodeFault → Option String
  | malformed => none
  | unsupported t => some ("unsupported column type " ++ t.name)

namespace Bytes

/-- Splits off so many bytes, if there are so many. -/
def take? (n : Nat) (bytes : List UInt8) : Option (List UInt8 × List UInt8) :=
  if n ≤ bytes.length then some (bytes.take n, bytes.drop n) else none

/-- Splits off a signed number of four bytes. -/
def int32? (bytes : List UInt8) : Option (Int × List UInt8) :=
  (take? 4 bytes).map fun (n, rest) => (toInt n, rest)

/-- So many counted items, with nothing after the last. -/
def items? : Nat → List UInt8 → Option (List (List UInt8))
  | 0, bytes => if bytes.isEmpty then some [] else none
  | count + 1, bytes => do
    let (size, rest) ← int32? bytes
    if size < 0 then none
    else
      let (item, rest) ← take? size.toNat rest
      return item :: (← items? count rest)

/-- The items of an array of no or one dimension; NULL is no item. -/
def arrayItems? (bytes : List UInt8) : Option (List (List UInt8)) := do
  let (dimensions, rest) ← int32? bytes
  let (_, rest) ← take? 8 rest
  if dimensions = 0 then items? 0 rest
  else if dimensions = 1 then
    let (count, rest) ← int32? rest
    let (_, rest) ← take? 4 rest
    if count < 0 then none else items? count.toNat rest
  else none

/-- Exactly so many bytes. -/
def exactly? (n : Nat) (bytes : List UInt8) : Option (List UInt8) :=
  if bytes.length = n then some bytes else none

/-- A signed number of exactly so many bytes. -/
def signed? (width : Nat) (bytes : List UInt8) : Option Int :=
  (exactly? width bytes).map toInt

def double? (bytes : List UInt8) : Option Double :=
  (exactly? 8 bytes).map fun b => ⟨UInt64.ofNat (toNat b)⟩

def single? (bytes : List UInt8) : Option Double :=
  (exactly? 4 bytes).map fun b => .ofSingle (UInt32.ofNat (toNat b))

def bool? : List UInt8 → Option Bool
  | [b] => some (b ≠ 0)
  | _ => none

def instant? (bytes : List UInt8) : Option Instant :=
  (signed? 8 bytes).bind Instant.ofMicrosFromEpoch2000?

/-- The compact text of a JSON document. -/
def document? (bytes : List UInt8) : Option String := do
  let s ← Text.ofUtf8? bytes
  let j ← Json.readAll? s
  return j.sorted.text

/-- A document with its version before it. -/
def versioned? : List UInt8 → Option String
  | 1 :: bytes => document? bytes
  | _ => none

/-- The items of an array, each read by `read`. -/
def array? {α : Type} (read : List UInt8 → Option α) (bytes : List UInt8) : Option (List α) :=
  (arrayItems? bytes).bind fun items => items.mapM read

end Bytes

namespace Value

/-- How the bytes of a type are read; nothing for a type that is not. -/
def reader? : ColumnType → Option (List UInt8 → Option Value)
  | .base .bool => some fun b => (Bytes.bool? b).map bool
  | .base .int2 => some fun b => (Bytes.signed? 2 b).map fun n => integer (.ofInt n)
  | .base .int4 => some fun b => (Bytes.signed? 4 b).map fun n => integer (.ofInt n)
  | .base .int8 => some fun b => (Bytes.signed? 8 b).map fun n => integer (.ofInt n)
  | .base .float4 => some fun b => (Bytes.single? b).map float
  | .base .float8 => some fun b => (Bytes.double? b).map float
  | .base .text | .base .varchar | .base .bpchar | .base .name =>
    some fun b => (Text.ofUtf8? b).map string
  | .base .uuid => some fun b => (Uuid.ofBytes? b).map fun u => string u.text
  | .base .json => some fun b => (Bytes.document? b).map string
  | .base .jsonb => some fun b => (Bytes.versioned? b).map string
  | .base .timestamptz | .base .timestamp => some fun b => (Bytes.instant? b).map timestamp
  | .array .text | .array .varchar => some fun b => (Bytes.array? Text.ofUtf8? b).map stringArray
  | .array .uuid => some fun b =>
    (Bytes.array? Uuid.ofBytes? b).map fun ids => stringArray (ids.map Uuid.text)
  | .array .int4 => some fun b =>
    (Bytes.array? (Bytes.signed? 4) b).map fun ns => numericArray (ns.map Double.ofInt)
  | .array .int8 => some fun b =>
    (Bytes.array? (Bytes.signed? 8) b).map fun ns => numericArray (ns.map Double.ofInt)
  | .array .float8 => some fun b => (Bytes.array? Bytes.double? b).map numericArray
  | _ => none

/-- The value of a cell; NULL is read at every type. -/
def decode (t : ColumnType) : Cell → Except DecodeFault Value
  | none => .ok null
  | some bytes =>
    match reader? t with
    | none => .error (.unsupported t)
    | some read =>
      match read bytes with
      | some v => .ok v
      | none => .error .malformed

end Value

/-- A column of a result. -/
structure Column where
  name : String
  type : ColumnType
deriving DecidableEq

/-- A row of a result: its columns, each with a cell. -/
structure Row where
  cells : List (Column × Cell)
deriving DecidableEq

namespace Row

/-- The value of the column at a position. -/
def valueAt (index : Nat) (column : Column) (cell : Cell) : Except Error Value :=
  match Value.decode column.type cell with
  | .ok v => .ok v
  | .error _ => .error (.decode column.name (DriverError.column index).message)

/-- The record of a row; of two columns of one name the later counts. -/
def toRecord (row : Row) : Except Error Record := do
  let entries ← row.cells.zipIdx.mapM fun ((column, cell), i) =>
    (valueAt i column cell).map fun v => (column.name, v)
  return Keyed.ofList entries

/-- The position of a column: that of its name, or else of its name in another case. -/
def find? (row : Row) (name : String) : Option Nat :=
  match row.cells.findIdx? (·.1.name = name) with
  | some i => some i
  | none => row.cells.findIdx? fun c => Text.sameWord c.1.name.toList name.toList

end Row

end Rowgate
