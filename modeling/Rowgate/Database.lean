/-
  The database as programs see it.

  A call may carry a limit; one that is not answered in time answers with the
  error `timeout`.  An answer is an error or what the call gives: rows, or a
  number of rows, which has 64 bits.  The client behind the calls is left open:
  nothing is assumed about what it answers.
-/
import Rowgate.Column.Decode
import Rowgate.Program

namespace Rowgate

/-- The calls on a connection. -/
inductive DatabaseCall where
  | query (limit : Option Span) (sql : String) (params : List Value)
  | execute (limit : Option Span) (sql : String) (params : List Value)
  /-- Copies rows into a table; `typesSql` tells the types of its columns. -/
  | copy (limit : Option Span) (sql typesSql : String) (rows : List (List Value))

def DatabaseCall.Answer : DatabaseCall → Type
  | query .. => Except Error (List Row)
  | execute .. => Except Error UInt64
  | copy .. => Except Error UInt64

def database : Interface := ⟨DatabaseCall, DatabaseCall.Answer⟩

namespace Database

/-- A program on the database that may fail. -/
abbrev Action (α : Type) := ExceptT Error (Program database) α

def query (sql : String) (params : List Value) : Action (List Row) :=
  Program.call (I := database) (.query none sql params)

def execute (sql : String) (params : List Value) : Action UInt64 :=
  Program.call (I := database) (.execute none sql params)

/-- The first row of a query, if any. -/
def queryFirst? (sql : String) (params : List Value) : Action (Option Row) := do
  return (← query sql params).head?

/-- The first row of a query; it is an error if there is none. -/
def queryFirst (sql : String) (params : List Value) : Action Row := do
  match ← queryFirst? sql params with
  | some row => return row
  | none => throw (.params "Expected one row, got none")

end Database

end Rowgate
