/-
  Transactions: a block of statements between a beginning and a commit or a
  rollback.

  On a plain connection they are `BEGIN`, `COMMIT` and `ROLLBACK`; inside of an
  open transaction they make, release and return to a savepoint of its own.
-/
import Rowgate.World

namespace Rowgate

/-- The statements around one transaction. -/
structure Scope where
  opening : String
  commit : String
  rollback : String
deriving DecidableEq

namespace Scope

def plain : Scope := ⟨"BEGIN", "COMMIT", "ROLLBACK"⟩

/-- The scope of a numbered savepoint. -/
def savepoint (n : UInt64) : Scope :=
  let name := "pgcrud_sp_" ++ toString n
  ⟨"SAVEPOINT " ++ name, "RELEASE SAVEPOINT " ++ name, "ROLLBACK TO SAVEPOINT " ++ name⟩

end Scope

namespace World

/-- The scope to use, a fresh savepoint if `nested`. -/
def newScope (nested : Bool) : Action Scope := do
  if nested then return .savepoint (← ask .savepoint) else return .plain

/-- Runs a block in a transaction.  A block that fails is rolled back, and its error
    is the result; if the rollback fails too, the error says so. -/
def transaction {α : Type} (nested : Bool) (body : Action α) : Action α := do
  let scope ← newScope nested
  let _ ← execute none scope.opening []
  match ← attempt body with
  | .ok a =>
    let _ ← execute none scope.commit []
    return a
  | .error e =>
    match ← attempt (execute none scope.rollback []) with
    | .ok _ => throw e
    | .error r => throw (e.withRollback r)

/-- Executes statements in a transaction, and then goes on with `finish`, whose failure
    counts as one of the block; the sum of the affected rows, in 64 bits. -/
def executeAll (nested : Bool) (statements : List String) (finish : Except Error Unit) :
    Action Nat :=
  transaction nested do
    let counts ← statements.mapM (execute none · [])
    Program.given finish
    return counts.sum.toNat

end World

end Rowgate
