/-
  Programs with an audit sink beside their other surroundings.

  * `Sink`: what a sink does with each entry; `beside`: surroundings and a sink together;
  * `run_bind`, `trace_bind`: a sequence is played one part after the other;
  * `SinkFree`: nothing is handed to the sink; `SinkFree.play`: then it does not matter
    which sink there is.
-/
import Rowgate.Proofs.Run
import Rowgate.Proofs.Scene

namespace Rowgate

open Program

variable {σ τ α β : Type}

/-! ## Sequences -/

namespace Program

variable {I : Interface} (answer : (c : I.Call) → σ → I.Answer c × σ)

theorem run_bind (p : Program I α) (f : α → Program I β) (s : σ) :
    (p >>= f).run answer s = (f (p.run answer s).1).run answer (p.run answer s).2 := by
  change (p.bind f).run answer s = _
  induction p generalizing s with
  | done a => rfl
  | ask c next ih => exact ih _ _

theorem trace_bind (p : Program I α) (f : α → Program I β) (s : σ) :
    (p >>= f).trace answer s =
      p.trace answer s ++ (f (p.run answer s).1).trace answer (p.run answer s).2 := by
  change (p.bind f).trace answer s = _
  induction p generalizing s with
  | done a => rfl
  | ask c next ih => exact congrArg _ (ih _ _)

end Program

/-! ## Sinks -/

/-- Answers to calls, from a state. -/
abbrev Surroundings (σ : Type) := (c : world.Call) → σ → world.Answer c × σ

/-- What a sink does with an entry, from a state of its own: anything may be taken, and
    anything may fail. -/
abbrev Sink (τ : Type) := Task → String → AuditEntry → τ → Except Error Unit × τ

/-- Surroundings and a sink, each with its own state. -/
def beside (answer : Surroundings σ) (sink : Sink τ) : Surroundings (σ × τ)
  | .record action actor entry, (s, u) =>
    ((sink action actor entry u).1, s, (sink action actor entry u).2)
  | c, (s, u) => ((answer c s).1, (answer c s).2, u)

def WorldCall.isRecord : WorldCall → Bool
  | .record .. => true
  | _ => false

theorem beside_other {c : world.Call} (hc : c.isRecord = false) (answer : Surroundings σ)
    (sink : Sink τ) (s : σ) (u : τ) :
    beside answer sink c (s, u) = ((answer c s).1, (answer c s).2, u) := by
  cases c with
  | record => cases hc
  | _ => rfl

/-- Nothing is handed to the sink. -/
def SinkFree (p : Program world α) : Prop :=
  ∀ t a, Run p t a → ∀ e ∈ t, WorldCall.isRecord e.1 = false

namespace SinkFree

variable {p : Program world α}

/-- Which sink there is does not matter to such a program. -/
theorem play (hp : SinkFree p) (answer : Surroundings σ) (sink : Sink τ) (s : σ) (u : τ) :
    p.run (beside answer sink) (s, u) = ((p.run answer s).1, (p.run answer s).2, u) ∧
      p.trace (beside answer sink) (s, u) = p.trace answer s := by
  induction p generalizing s with
  | done a => exact ⟨rfl, rfl⟩
  | ask c next ih =>
    have hnext : SinkFree (next (answer c s).1) := fun t a h e he =>
      hp _ a (.ask _ h) e (List.mem_cons_of_mem _ he)
    have hc : c.isRecord = false :=
      hp _ _ (run_trace answer (.ask c next) s) _ List.mem_cons_self
    obtain ⟨hrun, htrace⟩ := ih _ hnext (answer c s).2
    rw [Program.run, Program.trace, beside_other hc]
    exact ⟨hrun, congrArg _ htrace⟩

theorem bind {a : World.Action α} {f : α → World.Action β} (ha : SinkFree a.run)
    (hf : ∀ x, SinkFree (f x).run) : SinkFree (a >>= f).run := by
  intro t r h e he
  rcases runs_bind_iff.1 h with ⟨_, h₁, -⟩ | ⟨t₁, t₂, x, rfl, h₁, h₂⟩
  · exact ha _ _ h₁ e he
  · rcases List.mem_append.1 he with he | he
    · exact ha _ _ h₁ e he
    · exact hf x _ _ h₂ e he

theorem pure (a : α) : SinkFree (Pure.pure a : World.Action α).run := by
  intro t r h e he
  obtain ⟨rfl, -⟩ := runs_pure_iff.1 h
  cases he

theorem given (x : Except Error α) : SinkFree (Program.given (I := world) x).run := by
  intro t r h e he
  obtain ⟨rfl, -⟩ := runs_given_iff.1 h
  cases he

theorem ask {c : WorldCall} (hc : c.isRecord = false) : SinkFree (World.ask c).run := by
  intro t r h e he
  obtain ⟨a, rfl, -⟩ := World.runs_ask_iff.1 h
  cases List.mem_singleton.1 he
  exact hc

end SinkFree

end Rowgate
