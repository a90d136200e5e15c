/-
  A scripted world: a scripted connection, a cache, and an audit sink that keeps its
  entries.  Time stands still.
-/
import Rowgate.Cache
import Rowgate.Script.Connection
import Rowgate.World

namespace Rowgate.Script

/-- An entry as the audit sink was handed it. -/
structure AuditRecord where
  action : Task
  actor : String
  entry : AuditEntry

structure Scene where
  connection : Connection
  cache : Cache
  audit : List AuditRecord
  /-- The text that the audit sink fails with, if it fails. -/
  auditFailure : Option String
  /-- The time in milliseconds from 1970. -/
  now : Int
  /-- The number of the next savepoint. -/
  savepoint : UInt64

namespace Scene

/-- The time that the cache goes by. -/
def cacheTime (s : Scene) : Moment :=
  .ofNat _ (1000000 * s.now.toNat)

def answer : (c : world.Call) → Scene → world.Answer c × Scene
  | .database c, s =>
    let (a, connection) := s.connection.answer c
    (a, { s with connection })
  | .cached table key, s =>
    let (rows, cache) := s.cache.get s.cacheTime table key
    (rows, { s with cache })
  | .remember table key rows ttl, s =>
    ((), { s with cache := s.cache.set s.cacheTime table key rows ttl })
  | .forget table, s => ((), { s with cache := s.cache.deleteTable table })
  | .record action actor entry, s =>
    (match s.auditFailure with
      | some m => .error (.connection m)
      | none => .ok (),
    { s with audit := s.audit ++ [⟨action, actor, entry⟩] })
  | .now, s => (s.now, s)
  | .savepoint, s => (s.savepoint, { s with savepoint := s.savepoint + 1 })

/-- The scene before another step: with new replies, nothing logged, no audit entries. -/
def prepare (replies : List Reply) (s : Scene) : Scene :=
  { s with connection := s.connection.reload replies, audit := [] }

/-- Plays a program in the scene. -/
def play {α : Type} (p : Program world α) (s : Scene) : α × Scene :=
  p.run answer s

end Scene

end Rowgate.Script
