/-
  What the statements on records share: the name of the key field, the choice of
  fields for a batch, and the check of id lists.
-/
import Rowgate.Error
import Rowgate.Value

namespace Rowgate.Statement

/-- The field that holds the primary key. -/
def idField : String := "id"

/-- The fields of a batch: those given, or else the keys of the first record. -/
def resolveFields (records : List Record) (fields : List String) : List String :=
  if fields.isEmpty then (records.head?.map Keyed.keys).getD [] else fields

/-- A list of ids is not empty, and neither is any id. -/
def requireIds (ids : List String) : Except Error Unit :=
  if ids.isEmpty || ids.any String.isEmpty then
    .error (.params "record ids are required and must be non-empty")
  else .ok ()

end Rowgate.Statement
