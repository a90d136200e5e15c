/-
  Scripted replies: what a stand-in for a server answers to one statement after the
  other.
-/
import Rowgate.Column.Decode

namespace Rowgate.Script

/-- What is answered to one statement. -/
structure Reply where
  /-- The columns of the result, if there is one. -/
  columns : Option (List Column)
  rows : List (List Cell)
  /-- The number of affected rows of a statement without result. -/
  affected : Nat
  /-- An error that the server reports. -/
  refusal : Option DriverError
  /-- An error that the connection itself answers with. -/
  failure : Option Error
  /-- How long the answer takes. -/
  delay : Span
  /-- The types of the first parameters; the others are texts. -/
  parameterTypes : List ColumnType

namespace Reply

def empty : Reply where
  columns := none
  rows := []
  affected := 1
  refusal := none
  failure := none
  delay := ⟨0⟩
  parameterTypes := []

def resultRows (r : Reply) : List Row :=
  match r.columns with
  | some columns => r.rows.map fun cells => ⟨columns.zip cells⟩
  | none => []

/-- The number of affected rows: those of the result, if there is one. -/
def count (r : Reply) : UInt64 :=
  .ofNat (if r.columns.isSome then r.rows.length else r.affected)

def parameterType (r : Reply) (index : Nat) : ColumnType :=
  r.parameterTypes[index]?.getD (.base .text)

/-- What the reply comes to when `a` is its answer: the error that it has, or `a`. -/
def outcome {α : Type} (r : Reply) (a : α) : Except Error α :=
  match (r.refusal.map Error.query).or r.failure with
  | some e => .error e
  | none => .ok a

end Reply

/-- The next reply, an empty one when there are no more, and the others. -/
def next : List Reply → Reply × List Reply
  | [] => (.empty, [])
  | r :: rest => (r, rest)

end Rowgate.Script
