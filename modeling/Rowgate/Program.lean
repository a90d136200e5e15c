/-
  Programs that ask their surroundings.

  An interface lists the calls a program can make and the type of answer to each.
  A program is done with a result, or asks one call and goes on with whatever the
  answer is; nothing is assumed about the answers.

  * `run` answers the calls from a state; `via` answers them by programs of
    another interface;
  * `Run p t a` says that `p` may come to `a` with the calls and answers of `t`;
    `run_bind_iff` splits a run of a sequence.
-/
namespace Rowgate

/-- Calls, each with its type of answers. -/
structure Interface where
  Call : Type
  Answer : Call → Type

/-- A call together with an answer to it. -/
abbrev Interface.Event (I : Interface) : Type :=
  (c : I.Call) × I.Answer c

inductive Program (I : Interface) (α : Type) : Type where
  | done (a : α)
  | ask (c : I.Call) (next : I.Answer c → Program I α)

namespace Program

variable {I J : Interface} {α β γ : Type}

def bind : Program I α → (α → Program I β) → Program I β
  | done a, f => f a
  | ask c next, f => ask c fun r => (next r).bind f

instance : Monad (Program I) where
  pure := done
  bind := bind

/-- The program of one call. -/
def call (c : I.Call) : Program I (I.Answer c) :=
  ask c done

/-- A result or failure that is already there, as a program that may fail. -/
def given {ε : Type} (r : Except ε α) : ExceptT ε (Program I) α :=
  ExceptT.mk (done r)

theorem bind_done (p : Program I α) : p.bind done = p := by
  induction p with
  | done a => rfl
  | ask c next ih => simp only [bind, ih]

theorem bind_assoc (p : Program I α) (f : α → Program I β) (g : β → Program I γ) :
    (p.bind f).bind g = p.bind fun a => (f a).bind g := by
  induction p with
  | done a => rfl
  | ask c next ih => simp only [bind, ih]

instance : LawfulMonad (Program I) :=
  LawfulMonad.mk' (Program I) bind_done (fun _ _ => rfl) bind_assoc

/-- Runs a program, each call answered from the state. -/
def run {σ : Type} (answer : (c : I.Call) → σ → I.Answer c × σ) : Program I α → σ → α × σ
  | done a, s => (a, s)
  | ask c next, s => (next (answer c s).1).run answer (answer c s).2

/-- The program with each call answered by a program of another interface. -/
def via (answer : (c : I.Call) → Program J (I.Answer c)) : Program I α → Program J α
  | done a => done a
  | ask c next => (answer c).bind fun r => (next r).via answer

/-- The runs of a program: what it asks, what it is answered, what it comes to. -/
inductive Run : Program I α → List I.Event → α → Prop where
  | done (a : α) : Run (done a) [] a
  | ask {c : I.Call} {next : I.Answer c → Program I α} {t : List I.Event} {a : α}
      (r : I.Answer c) (h : Run (next r) t a) : Run (ask c next) (⟨c, r⟩ :: t) a

theorem run_bind_iff {p : Program I α} {f : α → Program I β} {t : List I.Event} {b : β} :
    Run (p >>= f) t b ↔ ∃ t₁ t₂ a, t = t₁ ++ t₂ ∧ Run p t₁ a ∧ Run (f a) t₂ b := by
  change Run (p.bind f) t b ↔ _
  induction p generalizing t with
  | done a =>
    constructor
    · intro h; exact ⟨[], t, a, rfl, .done a, h⟩
    · rintro ⟨t₁, t₂, _, rfl, ⟨⟩, h⟩; exact h
  | ask c next ih =>
    constructor
    · intro h
      cases h with
      | ask r h =>
        obtain ⟨t₁, t₂, a, rfl, h₁, h₂⟩ := (ih r).1 h
        exact ⟨_, t₂, a, rfl, .ask r h₁, h₂⟩
    · rintro ⟨t₁, t₂, a, rfl, h₁, h₂⟩
      cases h₁ with
      | ask r h => exact .ask r ((ih r).2 ⟨_, t₂, a, rfl, h, h₂⟩)

end Program

end Rowgate
