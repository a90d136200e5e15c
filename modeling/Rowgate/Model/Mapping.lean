/-
  Mappings of other data to records: a list of named accessors.
-/
import Rowgate.Ident
import Rowgate.Value

namespace Rowgate

/-- Named accessors, in the order they were given. -/
structure RecordMapping (α : Type) where
  fields : List (String × (α → Value))

namespace RecordMapping

variable {α : Type}

def empty : RecordMapping α := ⟨[]⟩

/-- Adds an accessor.  Its name must be an identifier and not be taken. -/
def field (m : RecordMapping α) (name : String) (read : α → Value) :
    Except Error (RecordMapping α) := do
  let _ ← Ident.parse name
  if m.fields.any (·.1 = name) then throw (.params ("duplicate mapped field: " ++ name))
  else return ⟨m.fields ++ [(name, read)]⟩

def names (m : RecordMapping α) : List String :=
  m.fields.map (·.1)

def toRecord (m : RecordMapping α) (a : α) : Record :=
  .ofList (m.fields.map fun e => (e.1, e.2 a))

end RecordMapping

end Rowgate
