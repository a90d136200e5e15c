/-
  Types of columns and parameters, by the names the server gives them.
-/
namespace Rowgate

/-- A type whose values are no arrays. -/
inductive BaseType where
  | bool
  | int2
  | int4
  | int8
  | float4
  | float8
  | text
  | varchar
  | bpchar
  | name
  | uuid
  | json
  | jsonb
  | timestamptz
  | timestamp
  | date
  | time
  | bytea
  | numeric
  | oid
  | inet
deriving DecidableEq

namespace BaseType

/-- The name of a type and the number that stands for it in arrays. -/
def describe : BaseType → String × Nat
  | bool => ("bool", 16)
  | int2 => ("int2", 21)
  | int4 => ("int4", 23)
  | int8 => ("int8", 20)
  | float4 => ("float4", 700)
  | float8 => ("float8", 701)
  | text => ("text", 25)
  | varchar => ("varchar", 1043)
  | bpchar => ("bpchar", 1042)
  | name => ("name", 19)
  | uuid => ("uuid", 2950)
  | json => ("json", 114)
  | jsonb => ("jsonb", 3802)
  | timestamptz => ("timestamptz", 1184)
  | timestamp => ("timestamp", 1114)
  | date => ("date", 1082)
  | time => ("time", 1083)
  | bytea => ("bytea", 17)
  | numeric => ("numeric", 1700)
  | oid => ("oid", 26)
  | inet => ("inet", 869)

def word (t : BaseType) : String := t.describe.1

/-- The object identifier of a type. -/
def number (t : BaseType) : Nat := t.describe.2

def all : List BaseType :=
  [bool, int2, int4, int8, float4, float8, text, varchar, bpchar, name, uuid, json, jsonb,
    timestamptz, timestamp, date, time, bytea, numeric, oid, inet]

/-- Whether values are plain texts. -/
def isText : BaseType → Bool
  | text | varchar | bpchar | name => true
  | _ => false

end BaseType

/-- The type of a column or parameter. -/
inductive ColumnType where
  | base (t : BaseType)
  | array (item : BaseType)
deriving DecidableEq

namespace ColumnType

/-- The type of a name; an array is written with brackets. -/
def ofName? (s : String) : Option ColumnType :=
  match BaseType.all.find? (·.word = s) with
  | some t => some (base t)
  | none => (BaseType.all.find? (·.word ++ "[]" = s)).map array

/-- The server's name of a type. -/
def name : ColumnType → String
  | base t => t.word
  | array t => "_" ++ t.word

end ColumnType

/-- A value on the wire: its bytes, or nothing for NULL. -/
abbrev Cell := Option (List UInt8)

end Rowgate
