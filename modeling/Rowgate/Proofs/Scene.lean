/-
  Programs that are played in a scripted scene.

  * `Program.trace`: the calls of a program that is answered from a state, with the answers;
    it is a run of the program;
  * `trace_replays`, `trace_counted`: a scene goes by what `Replays` and `Counted` say of the
    cache and of the savepoints.
-/
import Rowgate.Proofs.Replay
import Rowgate.Proofs.Savepoint
import Rowgate.Script.Scene

namespace Rowgate

namespace Program

variable {I : Interface} {α σ : Type}

def trace (answer : (c : I.Call) → σ → I.Answer c × σ) : Program I α → σ → List I.Event
  | done _, _ => []
  | ask c next, s => ⟨c, (answer c s).1⟩ :: (next (answer c s).1).trace answer (answer c s).2

theorem run_trace (answer : (c : I.Call) → σ → I.Answer c × σ) (p : Program I α) (s : σ) :
    Run p (p.trace answer s) (p.run answer s).1 := by
  induction p generalizing s with
  | done a => exact .done a
  | ask c next ih => exact .ask _ (ih _ _)

end Program

namespace Script

/-- A reply of one row. -/
def Reply.ofCells (cells : List (Column × Cell)) : Reply :=
  { Reply.empty with columns := some (cells.map Prod.fst), rows := [cells.map Prod.snd] }

namespace Scene

open Program

/-- A new process, with these replies to its first statements and empty ones to the others. -/
def ofReplies (replies : List Reply) : Scene where
  connection := .direct ⟨false, replies, []⟩
  cache := .ofCapacity Cache.standardCapacity
  audit := []
  auditFailure := none
  now := 0
  savepoint := 0

variable {α : Type}

/-- What a program asks in a scene, with the answers. -/
def trace (p : Program world α) (s : Scene) : List world.Event :=
  p.trace answer s

theorem run_play (p : Program world α) (s : Scene) : Run p (s.trace p) (s.play p).1 :=
  run_trace answer p s

theorem answer_effect (c : world.Call) (s : Scene) :
    Effect s.cache ⟨c, (answer c s).1⟩ (answer c s).2.cache := by
  cases c with
  | database d => exact .database _ d _
  | cached table key => exact .cached _ _ table key
  | remember table key rows ttl => exact .remember _ _ table key rows ttl
  | forget table => exact .forget _ table
  | record action actor entry => exact .record _ action actor entry _
  | now => exact .now _ _
  | savepoint => exact .savepoint _ _

theorem trace_replays (p : Program world α) (s : Scene) :
    Replays s.cache (s.trace p) (s.play p).2.cache := by
  induction p generalizing s with
  | done a => exact .nil _
  | ask c next ih => exact .cons (answer_effect c s) (ih _ _)

/-- Only the call for a savepoint counts. -/
theorem answer_savepoint {c : world.Call} (hc : c ≠ .savepoint) (s : Scene) :
    (answer c s).2.savepoint = s.savepoint := by
  cases c with
  | savepoint => exact absurd rfl hc
  | _ => rfl

theorem trace_counted (p : Program world α) (s : Scene) :
    Counted s.savepoint (s.trace p) (s.play p).2.savepoint := by
  induction p generalizing s with
  | done a => exact .nil _
  | ask c next ih =>
    have ih := ih (answer c s).1 (answer c s).2
    by_cases hc : c = .savepoint
    · subst hc
      exact .savepoint ih
    · rw [answer_savepoint hc] at ih
      exact .other hc ih

end Scene

end Script

end Rowgate
