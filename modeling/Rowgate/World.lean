/-
  What surrounds a keeper of records: a connection to the database, a cache, an
  audit sink, a clock, and a source of savepoint numbers.
-/
import Rowgate.Audit

namespace Rowgate

inductive WorldCall where
  | database (c : DatabaseCall)
  /-- The rows in the cache under a key of a table. -/
  | cached (table key : String)
  /-- Puts rows into the cache.  When the clock does not go as far as they are to live, no
      answer comes to this call, and a run of the program that goes on has no counterpart. -/
  | remember (table key : String) (rows : List Record) (ttl : Span)
  /-- Drops all rows of a table from the cache. -/
  | forget (table : String)
  /-- Hands an entry to the audit sink. -/
  | record (action : Task) (actor : String) (entry : AuditEntry)
  /-- The time in milliseconds from 1970. -/
  | now
  /-- The number of a new savepoint, from a counter of 64 bits. -/
  | savepoint

def WorldCall.Answer : WorldCall → Type
  | database c => c.Answer
  | cached .. => Option (List Record)
  | remember .. => Unit
  | forget _ => Unit
  | record .. => Except Error Unit
  | now => Int
  | savepoint => UInt64

def world : Interface := ⟨WorldCall, WorldCall.Answer⟩

namespace World

/-- A program in the world that may fail. -/
abbrev Action (α : Type) := ExceptT Error (Program world) α

/-- A call that cannot fail. -/
def ask (c : WorldCall) : Action (WorldCall.Answer c) :=
  ExceptT.lift (Program.call (I := world) c)

def query (limit : Option Span) (sql : String) (params : List Value) : Action (List Row) :=
  Program.call (I := world) (.database (.query limit sql params))

def execute (limit : Option Span) (sql : String) (params : List Value) : Action UInt64 :=
  Program.call (I := world) (.database (.execute limit sql params))

def copy (limit : Option Span) (sql typesSql : String) (rows : List (List Value)) :
    Action UInt64 :=
  Program.call (I := world) (.database (.copy limit sql typesSql rows))

/-- A program on the database alone. -/
def ofDatabase {α : Type} (p : Program database α) : Program world α :=
  p.via (J := world) fun c => Program.call (I := world) (.database c)

/-- An action with its failure as a result. -/
def attempt {α : Type} (a : Action α) : Action (Except Error α) :=
  ExceptT.lift a.run

/-- An action with its failure changed. -/
def mapError {α : Type} (f : Error → Error) (a : Action α) : Action α := do
  match ← attempt a with
  | .ok r => return r
  | .error e => throw (f e)

end World

end Rowgate
