/-
  Statements that fail in a transaction.

  * `Error.rolledBack e a`: a failure of a block whose rollback was answered with `a`;
    `told_rolledBack` is what a response says of it whatever that answer was;
  * `Blames`: an action fails with the failure of its last statement;
  * `Undoes`: a statement that fails is followed by the rollback of its transaction and by
    nothing else; a transaction does so, and sequences with it do.
-/
import Rowgate.Proofs.Transaction
import Rowgate.Response

namespace Rowgate

open Program World

/-! ## Failures of a block -/

namespace Error

/-- The failure of a block, with the answer to its rollback. -/
def rolledBack (e : Error) : Except Error UInt64 → Error
  | .ok _ => e
  | .error r => e.withRollback r

/-- The code of a failed statement of a stage, in an entry point with a fallback. -/
def statementCode (stage : Stage) (fallback : ResponseCode) : Error → ResponseCode
  | timeout _ | decode .. => fallback
  | execution s _ => s.responseCode
  | _ => stage.responseCode

/-- What a failure says: that of a driver, what the server or the driver says. -/
def cause : Error → String
  | query (.server _ message _) => message
  | query e => e.message
  | e => e.message

variable {stage : Stage} {fallback : ResponseCode}

theorem responseCode_withRollback (e r : Error) (stage : Stage) (fallback : ResponseCode) :
    ((e.tagged stage).withRollback r).responseCode fallback =
      (e.tagged stage).responseCode fallback := by
  cases e with
  | query d =>
    cases d with
    | server _ _ constraint => cases constraint <;> rfl
    | _ => rfl
  | _ => rfl

/-- The code of a failed statement does not depend on the rollback. -/
theorem responseCode_rolledBack (e : Error) (a : Except Error UInt64) :
    ((e.tagged stage).rolledBack a).responseCode fallback = e.statementCode stage fallback := by
  have hcode : (e.tagged stage).responseCode fallback = e.statementCode stage fallback := by
    cases e with
    | query d =>
      cases d with
      | server _ _ constraint => cases constraint <;> rfl
      | _ => rfl
    | _ => rfl
  cases a with
  | ok n => exact hcode
  | error r => exact (responseCode_withRollback e r stage fallback).trans hcode

end Error

/-- A text is part of a text. -/
def PartOf (s t : String) : Prop :=
  s.toList <:+: t.toList

namespace PartOf

variable {s t : String}

theorem refl (s : String) : PartOf s s :=
  List.infix_rfl

theorem after (h : PartOf s t) (r : String) : PartOf s (r ++ t) := by
  rw [PartOf, String.toList_append]
  exact h.trans (List.suffix_append _ _).isInfix

theorem before (h : PartOf s t) (r : String) : PartOf s (t ++ r) := by
  rw [PartOf, String.toList_append]
  exact h.trans (List.prefix_append _ _).isInfix

theorem trans {r : String} (h : PartOf r s) (h' : PartOf s t) : PartOf r t :=
  List.IsInfix.trans h h'

end PartOf

namespace Error

theorem message_execution (stage : Stage) (m : String) : PartOf m (execution stage m).message :=
  (PartOf.refl m).after _

theorem cause_tagged (e : Error) (stage : Stage) : PartOf e.cause (e.tagged stage).message := by
  cases e with
  | query d =>
    cases d with
    | server code message constraint =>
      cases constraint with
      | none =>
        have hserver : PartOf message (message ++ " (" ++ code ++ ")") :=
          (((PartOf.refl message).before _).before _).before _
        exact hserver.trans (message_execution stage _)
      | some c =>
        have hserver : PartOf message (message ++ " (" ++ code ++ ": " ++ c ++ ")") :=
          (((((PartOf.refl message).before _).before _).before _).before _).before _
        exact hserver.trans (message_execution stage _)
    | _ => exact message_execution stage _
  | timeout | decode | execution => exact .refl _
  | _ => exact message_execution stage _

theorem message_rolledBack (e : Error) (a : Except Error UInt64) :
    PartOf e.message (e.rolledBack a).message := by
  cases a with
  | ok n => exact .refl _
  | error r =>
    cases e with
    | execution stage m =>
      have hm : PartOf (stage.name ++ " error: " ++ m)
          (stage.name ++ " error: " ++ (m ++ (" (rollback failed: " ++ r.message ++ ")"))) := by
        rw [← String.append_assoc]
        exact (PartOf.refl _).before _
      exact hm
    | _ => exact ((PartOf.refl (message _)).before _).after "Connection error: "

end Error

/-- What a response tells of a failed statement of a stage. -/
structure Told (stage : Stage) (fallback : ResponseCode) (e : Error) (r : Response) : Prop where
  code : r.code = e.statementCode stage fallback
  message : PartOf (e.tagged stage).message r.message
  cause : PartOf e.cause r.message

theorem told_rolledBack (stage : Stage) (fallback : ResponseCode) (e : Error)
    (a : Except Error UInt64) :
    Told stage fallback e (.ofResult fallback (.error ((e.tagged stage).rolledBack a))) := by
  have hmessage := Error.message_rolledBack (e.tagged stage) a
  exact ⟨Error.responseCode_rolledBack e a, hmessage, (Error.cause_tagged e stage).trans hmessage⟩

/-! ## Failing statements -/

def failureOf {α : Type} : Except Error α → Option Error
  | .ok _ => none
  | .error e => some e

theorem failureOf_eq_some {α : Type} {r : Except Error α} {e : Error} :
    failureOf r = some e ↔ r = .error e := by
  cases r <;> simp [failureOf]

/-- What a statement fails with: an error, or that a row cannot be read. -/
def DatabaseCall.failure? : (c : DatabaseCall) → c.Answer → Option Error
  | .query .., a => failureOf (a.bind fun rows => rows.mapM Row.toRecord)
  | .execute .., a => failureOf a
  | .copy .., a => failureOf a

theorem DatabaseCall.succeeds_eq_false {c : DatabaseCall} {x : c.Answer} {e : Error}
    (h : c.failure? x = some e) : c.succeeds x = false := by
  cases c with
  | query | execute | copy =>
    have hx := failureOf_eq_some.1 h
    simp only [succeeds, hx]
    rfl

/-- A row that cannot be read is a failure of decoding. -/
theorem toRecord_eq_error {row : Row} {e : Error} (h : row.toRecord = .error e) :
    ∃ column m, e = .decode column m := by
  rcases Except.bind_eq_error.1 h with h | ⟨entries, -, h⟩
  · obtain ⟨⟨⟨column, cell⟩, i⟩, -, hcell⟩ := mapM_eq_error h
    have hvalue := Except.map_eq_error.1 hcell
    simp only [Row.valueAt] at hvalue
    split at hvalue
    · cases hvalue
    · cases hvalue
      exact ⟨_, _, rfl⟩
  · cases h

variable {α β : Type} {stage : Stage} {cs : List DatabaseCall}

/-- A failure is that of the last statement, as one of a stage. -/
def Blames (stage : Stage) (a : Action α) : Prop :=
  ∀ t e', Runs a t (.error e') → ∃ u c x e, t = u ++ [⟨.database c, x⟩] ∧
    c.failure? x = some e ∧ e' = e.tagged stage

namespace Blames

theorem pure (a : α) : Blames stage (Pure.pure a) := by
  intro t e' h
  obtain ⟨-, he⟩ := runs_pure_iff.1 h
  cases he

theorem bind {a : Action α} {f : α → Action β} (ha : Blames stage a)
    (hf : ∀ x, Blames stage (f x)) : Blames stage (a >>= f) := by
  intro t e' h
  rcases runs_bind_iff.1 h with ⟨e, h₁, he⟩ | ⟨t₁, t₂, y, rfl, h₁, h₂⟩
  · cases he
    exact ha _ _ h₁
  · obtain ⟨u, c, x, e, rfl, hx, he⟩ := hf y _ _ h₂
    exact ⟨t₁ ++ u, c, x, e, (List.append_assoc ..).symm, hx, he⟩

/-- A last step that cannot fail. -/
theorem map {a : Action α} (ha : Blames stage a) (f : α → β) :
    Blames stage (a >>= fun x => Pure.pure (f x)) :=
  ha.bind fun x => .pure (f x)

theorem mapM {γ : Type} {f : γ → Action β} (hf : ∀ x, Blames stage (f x)) (xs : List γ) :
    Blames stage (xs.mapM f) := by
  induction xs with
  | nil => exact .pure []
  | cons x xs ih =>
    rw [List.mapM_cons]
    exact (hf x).bind fun y => ih.map fun ys => y :: ys

/-- One statement. -/
theorem single {a : Action α} {c : DatabaseCall}
    (ha : ∀ t e', Runs a t (.error e') → ∃ x e, t = [⟨.database c, x⟩] ∧
      c.failure? x = some e ∧ e' = e.tagged stage) : Blames stage a := by
  intro t e' h
  obtain ⟨x, e, rfl, hx, he⟩ := ha t e' h
  exact ⟨[], c, x, e, rfl, hx, he⟩

end Blames

/-! ## The rollback behind a failing statement -/

/-- An element of two lists in a row is one of the first or of the second. -/
theorem append_eq_append_cons {γ : Type} {xs ys us vs : List γ} {z : γ}
    (h : xs ++ ys = us ++ z :: vs) :
    (∃ ws, xs = us ++ z :: ws ∧ vs = ws ++ ys) ∨ ∃ ws, us = xs ++ ws ∧ ys = ws ++ z :: vs := by
  rcases List.append_eq_append_iff.1 h with ⟨ws, hu, hy⟩ | ⟨ws, hx, hy⟩
  · exact .inr ⟨ws, hu, hy⟩
  · rcases List.append_eq_cons_iff.1 hy.symm with ⟨rfl, hys⟩ | ⟨ws', rfl, hvs⟩
    · exact .inr ⟨[], by rw [hx, List.append_nil, List.append_nil], hys⟩
    · exact .inl ⟨ws', hx, hvs⟩

theorem Sent.last {t u v : List world.Event} {done : Bool} (h : Sent cs t done)
    {c : DatabaseCall} {x : c.Answer} (ht : t = u ++ ⟨.database c, x⟩ :: v)
    (hx : c.succeeds x = false) : done = false ∧ v = [] := by
  induction h generalizing u with
  | nil => simp at ht
  | failed cs h =>
    cases u with
    | nil =>
      obtain ⟨-, hv⟩ := List.cons.inj ht
      exact ⟨rfl, hv.symm⟩
    | cons e u =>
      obtain ⟨-, hv⟩ := List.cons.inj ht
      simp at hv
  | next h _ ih =>
    cases u with
    | nil =>
      obtain ⟨he, -⟩ := List.cons.inj ht
      cases he
      exact absurd hx (ne_false_of_eq_true h)
    | cons e u =>
      obtain ⟨-, ht⟩ := List.cons.inj ht
      exact ih ht

/-- A statement between those of a scope. -/
theorem scopeEvent_split {sql sql' : String} {a a' : Except Error UInt64} {t u v : List world.Event}
    {c : DatabaseCall} {x : c.Answer} (hfirst : c ≠ .execute none sql [])
    (hlast : c ≠ .execute none sql' [])
    (h : scopeEvent sql a :: t ++ [scopeEvent sql' a'] = u ++ ⟨.database c, x⟩ :: v) :
    ∃ w w', u = scopeEvent sql a :: w ∧ t = w ++ ⟨.database c, x⟩ :: w' ∧
      v = w' ++ [scopeEvent sql' a'] := by
  rcases append_eq_append_cons h with ⟨w', ht, hv⟩ | ⟨w, -, hl⟩
  · cases u with
    | nil =>
      obtain ⟨he, -⟩ := List.cons.inj ht
      cases he
      exact absurd rfl hfirst
    | cons e w =>
      obtain ⟨he, ht⟩ := List.cons.inj ht
      exact ⟨w, w', by rw [he], ht, hv⟩
  · cases w with
    | nil =>
      obtain ⟨he, -⟩ := List.cons.inj hl
      cases he
      exact absurd rfl hlast
    | cons e w =>
      obtain ⟨-, hl⟩ := List.cons.inj hl
      simp at hl

/-- The statements are none that begin or end a transaction. -/
def Inner (cs : List DatabaseCall) : Prop :=
  ∀ c ∈ cs, ¬ScopeCall c

/-- A block whose statement fails goes back at once. -/
theorem Block.undone {nested : Bool} {scope : Scope} {t₀ : List world.Event} {body : Action α}
    (ho : Opened nested scope t₀) (hb : Sends body cs) (hf : Blames stage body) (hcs : Inner cs)
    {t u v : List world.Event} {r : Except Error α} (h : Block scope body t r) {c : DatabaseCall}
    {x : c.Answer} {e : Error} (ht : t = u ++ ⟨.database c, x⟩ :: v) (hc : c ∈ cs)
    (hx : c.failure? x = some e) :
    ∃ m w b, u = scopeEvent scope.opening (.ok m) :: w ∧ v = [scopeEvent scope.rollback b] ∧
      r = .error ((e.tagged stage).rolledBack b) := by
  have hscope := ho.scope_eq
  have hopening : c ≠ .execute none scope.opening [] := fun he =>
    hcs c hc ⟨scope, hscope, .inl he⟩
  have hcommit : c ≠ .execute none scope.commit [] := fun he =>
    hcs c hc ⟨scope, hscope, .inr (.inl he)⟩
  have hrollback : c ≠ .execute none scope.rollback [] := fun he =>
    hcs c hc ⟨scope, hscope, .inr (.inr he)⟩
  have hfails := DatabaseCall.succeeds_eq_false hx
  -- the failure of a block is that of the statement, which is its last one
  have hblamed {t w w' : List world.Event} {e' : Error} (hrun : Runs body t (.error e'))
      (ht : t = w ++ ⟨.database c, x⟩ :: w') : w' = [] ∧ e' = e.tagged stage := by
    obtain ⟨-, rfl⟩ := (hb _ _ hrun).last ht hfails
    obtain ⟨u₂, c₂, x₂, e₂, ht₂, hx₂, rfl⟩ := hf _ _ hrun
    obtain ⟨-, he⟩ := List.append_inj' (ht.symm.trans ht₂) rfl
    cases he
    cases hx.symm.trans hx₂
    exact ⟨rfl, rfl⟩
  cases h with
  | refused e' =>
    cases u with
    | nil =>
      obtain ⟨he, -⟩ := List.cons.inj ht
      cases he
      exact absurd rfl hopening
    | cons e u =>
      obtain ⟨-, ht⟩ := List.cons.inj ht
      simp at ht
  | committed m n hrun | uncommitted m e' hrun =>
    obtain ⟨w, w', -, ht, -⟩ := scopeEvent_split hopening hcommit ht
    obtain ⟨hdone, -⟩ := (hb _ _ hrun).last ht hfails
    cases hdone
  | rolledBack m n hrun =>
    obtain ⟨w, w', hu, ht, hv⟩ := scopeEvent_split hopening hrollback ht
    obtain ⟨rfl, rfl⟩ := hblamed hrun ht
    exact ⟨m, w, .ok n, hu, hv, rfl⟩
  | stuck m e' hrun =>
    obtain ⟨w, w', hu, ht, hv⟩ := scopeEvent_split hopening hrollback ht
    obtain ⟨rfl, rfl⟩ := hblamed hrun ht
    exact ⟨m, w, .error e', hu, hv, rfl⟩

/-- A transaction was begun along a trace. -/
inductive Begun (nested : Bool) (scope : Scope) : List world.Event → Prop where
  | intro {t : List world.Event} (ho : Opened nested scope t) (m : UInt64)
      (u v : List world.Event) :
      Begun nested scope (u ++ (t ++ scopeEvent scope.opening (.ok m) :: v))

theorem Begun.behind {nested : Bool} {scope : Scope} {u : List world.Event}
    (h : Begun nested scope u) (t : List world.Event) : Begun nested scope (t ++ u) := by
  cases h with
  | intro ho m u v =>
    rw [← List.append_assoc]
    exact .intro ho m (t ++ u) v

/-- If one of the statements fails, the transaction goes back at once and nothing else is
    asked; the failure is that of the statement with the answer to the rollback. -/
def Undoes (nested : Bool) (stage : Stage) (cs : List DatabaseCall) (a : Action α) : Prop :=
  ∀ ⦃t r⦄, Runs a t r → ∀ ⦃u c x v e⦄, t = u ++ ⟨.database c, x⟩ :: v → c ∈ cs →
    c.failure? x = some e → ∃ scope b, Begun nested scope u ∧
      v = [scopeEvent scope.rollback b] ∧ r = .error ((e.tagged stage).rolledBack b)

variable {nested : Bool}

namespace Undoes

theorem transaction {body : Action α} (hb : Sends body cs) (hf : Blames stage body)
    (hcs : Inner cs) : Undoes nested stage cs (World.transaction nested body) := by
  intro t r h u c x v e ht hc hx
  obtain ⟨scope, t₀, t₁, rfl, ho, hblock⟩ := transaction_run h
  rcases append_eq_append_cons ht with ⟨w, ht₀, -⟩ | ⟨w, rfl, ht₁⟩
  · have hsavepoint := ho.mem (e := ⟨.database c, x⟩) (by simp [ht₀])
    cases hsavepoint
  · obtain ⟨m, w, b, rfl, hv, hr⟩ := hblock.undone ho hb hf hcs ht₁ hc hx
    exact ⟨scope, b, .intro ho m [] w, hv, hr⟩

/-- An action that sends none of the statements. -/
theorem of_unsent {a : Action α}
    (ha : ∀ t r, Runs a t r → ∀ e ∈ t, ∀ c ∈ cs, e.1 ≠ .database c) :
    Undoes nested stage cs a := by
  intro t r h u c x v e ht hc _
  exact absurd rfl (ha t r h ⟨.database c, x⟩ (by simp [ht]) c hc)

theorem pure (a : α) : Undoes nested stage cs (Pure.pure a) := by
  refine of_unsent fun t r h e he => ?_
  obtain ⟨rfl, -⟩ := runs_pure_iff.1 h
  cases he

theorem bind {a : Action α} {f : α → Action β} (ha : Undoes nested stage cs a)
    (hf : ∀ x, Undoes nested stage cs (f x)) : Undoes nested stage cs (a >>= f) := by
  intro t r h u c x v e ht hc hx
  rcases runs_bind_iff.1 h with ⟨e', h₁, rfl⟩ | ⟨t₁, t₂, y, rfl, h₁, h₂⟩
  · obtain ⟨scope, b, hu, hv, he⟩ := ha h₁ ht hc hx
    cases he
    exact ⟨scope, b, hu, hv, rfl⟩
  · rcases append_eq_append_cons ht with ⟨w, ht₁, -⟩ | ⟨w, rfl, ht₂⟩
    · -- an action that succeeds has sent no failing statement
      obtain ⟨_, _, -, -, hy⟩ := ha h₁ ht₁ hc hx
      cases hy
    · obtain ⟨scope, b, hu, hv, hr⟩ := hf y h₂ ht₂ hc hx
      exact ⟨scope, b, hu.behind t₁, hv, hr⟩

theorem map {a : Action α} (ha : Undoes nested stage cs a) (f : α → β) :
    Undoes nested stage cs (a >>= fun x => Pure.pure (f x)) :=
  ha.bind fun x => .pure (f x)

theorem given_bind {x : Except Error α} {y : α} (hx : x = .ok y) {f : α → Action β}
    (hf : Undoes nested stage cs (f y)) : Undoes nested stage cs (given x >>= f) := by
  subst hx
  exact hf

theorem ask {w : WorldCall} (hw : ∀ c, w ≠ .database c) :
    Undoes nested stage cs (World.ask w) := by
  refine of_unsent fun t r h e he c _ hd => ?_
  obtain ⟨a, rfl, -⟩ := runs_ask_iff.1 h
  cases List.mem_singleton.1 he
  exact hw c hd

end Undoes

end Rowgate
