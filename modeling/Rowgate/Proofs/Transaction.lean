/-
  Transactions: which statements they send, and in which scope.

  * `Block scope body t r`: the ways that a transaction can go, `transaction_run` says that
    there are no others;
  * `Sends a calls`: an action sends these statements in order, up to the first that fails;
    `Transacted` is what a transaction makes of them;
  * `transaction_scoped`: a transaction sends the statements of its body in a scope of its own.
-/
import Rowgate.Proofs.Run
import Rowgate.Transaction

namespace Rowgate

open Program World

variable {α β : Type}

/-! ## How a transaction goes -/

/-- The statements of a scope carry no limit. -/
def scopeEvent (sql : String) (a : Except Error UInt64) : world.Event :=
  ⟨.database (.execute none sql []), a⟩

/-- The scope of a transaction, and what is asked for it. -/
inductive Opened : Bool → Scope → List world.Event → Prop where
  | plain : Opened false .plain []
  | savepoint (n : UInt64) : Opened true (.savepoint n) [⟨.savepoint, n⟩]

namespace Opened

variable {nested : Bool} {scope : Scope} {t : List world.Event}

theorem scope_eq (h : Opened nested scope t) : scope = .plain ∨ ∃ n, scope = .savepoint n := by
  cases h with
  | plain => exact .inl rfl
  | savepoint n => exact .inr ⟨n, rfl⟩

/-- Nothing is sent before the transaction is begun. -/
theorem mem (h : Opened nested scope t) {e : world.Event} (he : e ∈ t) : e.1 = .savepoint := by
  cases h with
  | plain => cases he
  | savepoint n =>
    cases List.mem_singleton.1 he
    rfl

end Opened

/-- The ways that a block in a scope can go. -/
inductive Block (scope : Scope) (body : Action α) : List world.Event → Except Error α → Prop where
  | refused (e : Error) : Block scope body [scopeEvent scope.opening (.error e)] (.error e)
  | committed {t : List world.Event} {a : α} (m n : UInt64) (h : Runs body t (.ok a)) :
      Block scope body
        (scopeEvent scope.opening (.ok m) :: t ++ [scopeEvent scope.commit (.ok n)]) (.ok a)
  | uncommitted {t : List world.Event} {a : α} (m : UInt64) (e : Error) (h : Runs body t (.ok a)) :
      Block scope body
        (scopeEvent scope.opening (.ok m) :: t ++ [scopeEvent scope.commit (.error e)]) (.error e)
  | rolledBack {t : List world.Event} {e : Error} (m n : UInt64) (h : Runs body t (.error e)) :
      Block scope body
        (scopeEvent scope.opening (.ok m) :: t ++ [scopeEvent scope.rollback (.ok n)]) (.error e)
  | stuck {t : List world.Event} {e : Error} (m : UInt64) (e' : Error) (h : Runs body t (.error e)) :
      Block scope body
        (scopeEvent scope.opening (.ok m) :: t ++ [scopeEvent scope.rollback (.error e')])
        (.error (e.withRollback e'))

theorem newScope_run {nested : Bool} {t : List world.Event} {r : Except Error Scope}
    (h : Runs (newScope nested) t r) : ∃ scope, r = .ok scope ∧ Opened nested scope t := by
  unfold newScope at h
  cases nested with
  | false =>
    obtain ⟨rfl, rfl⟩ := runs_pure_iff.1 h
    exact ⟨_, rfl, .plain⟩
  | true =>
    obtain ⟨x, hx, rfl⟩ := runs_bind_pure_iff.1 h
    obtain ⟨n, rfl, rfl⟩ := runs_ask_iff.1 hx
    exact ⟨_, rfl, .savepoint n⟩

theorem runs_execute_iff {limit : Option Span} {sql : String} {params : List Value}
    {t : List world.Event} {r : Except Error UInt64} :
    Runs (World.execute limit sql params) t r ↔
      t = [⟨.database (.execute limit sql params), r⟩] :=
  run_call_iff

theorem transaction_run {nested : Bool} {body : Action α} {t : List world.Event}
    {r : Except Error α} (h : Runs (transaction nested body) t r) :
    ∃ scope t₀ t₁, t = t₀ ++ t₁ ∧ Opened nested scope t₀ ∧ Block scope body t₁ r := by
  rcases runs_bind_iff.1 h with ⟨e, h₁, -⟩ | ⟨t₀, t₁, scope, rfl, h₁, h₂⟩
  · obtain ⟨_, h, -⟩ := newScope_run h₁
    cases h
  obtain ⟨_, hs, hopened⟩ := newScope_run h₁
  cases hs
  refine ⟨scope, t₀, t₁, rfl, hopened, ?_⟩
  rcases runs_bind_iff.1 h₂ with ⟨e, h₃, rfl⟩ | ⟨t₂, t₃, m, rfl, h₃, h₄⟩
  · obtain rfl := runs_execute_iff.1 h₃
    exact .refused e
  obtain rfl := runs_execute_iff.1 h₃
  rcases runs_bind_iff.1 h₄ with ⟨e, h₅, -⟩ | ⟨t₄, t₅, x, rfl, h₅, h₆⟩
  · obtain ⟨_, -, h⟩ := runs_attempt_iff.1 h₅
    cases h
  obtain ⟨_, hbody, hx⟩ := runs_attempt_iff.1 h₅
  cases hx
  cases x with
  | ok a =>
    obtain ⟨n, hn, rfl⟩ := runs_bind_pure_iff.1 h₆
    obtain rfl := runs_execute_iff.1 hn
    cases n with
    | ok n => exact .committed m n hbody
    | error e => exact .uncommitted m e hbody
  | error e =>
    rcases runs_bind_iff.1 h₆ with ⟨e', h₇, -⟩ | ⟨t₆, t₇, y, rfl, h₇, h₈⟩
    · obtain ⟨_, -, h⟩ := runs_attempt_iff.1 h₇
      cases h
    obtain ⟨_, hrollback, hy⟩ := runs_attempt_iff.1 h₇
    cases hy
    obtain rfl := runs_execute_iff.1 hrollback
    cases y with
    | ok n =>
      obtain ⟨rfl, rfl⟩ := runs_throw_iff.1 h₈
      exact .rolledBack m n hbody
    | error e' =>
      obtain ⟨rfl, rfl⟩ := runs_throw_iff.1 h₈
      exact .stuck m e' hbody

/-! ## Blocks of statements -/

/-- Whether a block goes on after the answer to a statement: rows that can be read, or a
    number of rows. -/
def DatabaseCall.succeeds : (c : DatabaseCall) → c.Answer → Bool
  | .query .., a => (a.bind fun rows => rows.mapM Row.toRecord).isOk
  | .execute .., a => a.isOk
  | .copy .., a => a.isOk

/-- Statements sent in order, up to and with the first that fails; whether none does. -/
inductive Sent : List DatabaseCall → List world.Event → Bool → Prop where
  | nil : Sent [] [] true
  | failed {c : DatabaseCall} {a : c.Answer} (cs : List DatabaseCall)
      (h : c.succeeds a = false) : Sent (c :: cs) [⟨.database c, a⟩] false
  | next {c : DatabaseCall} {a : c.Answer} {cs : List DatabaseCall} {t : List world.Event}
      {done : Bool} (h : c.succeeds a = true) (h' : Sent cs t done) :
      Sent (c :: cs) (⟨.database c, a⟩ :: t) done

namespace Sent

variable {cs ds : List DatabaseCall} {t u : List world.Event} {done : Bool}

theorem single (c : DatabaseCall) (a : c.Answer) : Sent [c] [⟨.database c, a⟩] (c.succeeds a) := by
  cases h : c.succeeds a with
  | false => exact .failed [] h
  | true => exact .next h .nil

theorem append (h : Sent cs t true) (h' : Sent ds u done) : Sent (cs ++ ds) (t ++ u) done := by
  generalize hd : true = d at h
  induction h with
  | nil => exact h'
  | failed => cases hd
  | next h _ ih => exact .next h (ih hd)

theorem append_failed (h : Sent cs t false) (ds : List DatabaseCall) :
    Sent (cs ++ ds) t false := by
  generalize hd : false = d at h
  induction h with
  | nil => cases hd
  | failed cs h => exact .failed (cs ++ ds) h
  | next h _ ih => exact .next h (ih hd)

theorem head {c : DatabaseCall} (h : Sent (c :: cs) t done) :
    ∃ a w, t = ⟨.database c, a⟩ :: w := by
  cases h with
  | failed => exact ⟨_, _, rfl⟩
  | next => exact ⟨_, _, rfl⟩

/-- Nothing but the statements is sent. -/
theorem mem (h : Sent cs t done) {e : world.Event} (he : e ∈ t) : ∃ c ∈ cs, e.1 = .database c := by
  induction h with
  | nil => cases he
  | @failed c a cs h =>
    cases List.mem_singleton.1 he
    exact ⟨c, List.mem_cons_self, rfl⟩
  | @next c a cs t done h _ ih =>
    rcases List.mem_cons.1 he with rfl | he
    · exact ⟨c, List.mem_cons_self, rfl⟩
    · obtain ⟨c', hc', he⟩ := ih he
      exact ⟨c', List.mem_cons_of_mem _ hc', he⟩

end Sent

/-- An action sends these statements, and succeeds just if all of them do. -/
def Sends (a : Action α) (calls : List DatabaseCall) : Prop :=
  ∀ t r, Runs a t r → Sent calls t r.isOk

namespace Sends

theorem pure (a : α) : Sends (Pure.pure a) [] := by
  intro t r h
  obtain ⟨rfl, rfl⟩ := runs_pure_iff.1 h
  exact .nil

theorem bind {a : Action α} {f : α → Action β} {cs ds : List DatabaseCall} (ha : Sends a cs)
    (hf : ∀ x, Sends (f x) ds) : Sends (a >>= f) (cs ++ ds) := by
  intro t r h
  rcases runs_bind_iff.1 h with ⟨e, h₁, rfl⟩ | ⟨t₁, t₂, x, rfl, h₁, h₂⟩
  · exact (ha _ _ h₁).append_failed ds
  · exact (ha _ _ h₁).append (hf x _ _ h₂)

/-- A last step that sends nothing. -/
theorem map {a : Action α} {cs : List DatabaseCall} (ha : Sends a cs) (f : α → β) :
    Sends (a >>= fun x => Pure.pure (f x)) cs := by
  have := ha.bind fun x => Sends.pure (f x)
  rwa [List.append_nil] at this

theorem mapM {γ : Type} {f : γ → Action β} {c : γ → DatabaseCall} (hf : ∀ x, Sends (f x) [c x])
    (xs : List γ) : Sends (xs.mapM f) (xs.map c) := by
  induction xs with
  | nil => exact Sends.pure []
  | cons x xs ih =>
    rw [List.mapM_cons]
    exact (hf x).bind fun y => ih.map fun ys => y :: ys

end Sends

/-- A block of statements in a scope: begun, and then committed or rolled back. -/
inductive Transacted (scope : Scope) (calls : List DatabaseCall) :
    List world.Event → Bool → Prop where
  | refused (e : Error) : Transacted scope calls [scopeEvent scope.opening (.error e)] false
  | ended {t : List world.Event} (m : UInt64) (h : Sent calls t true) (a : Except Error UInt64) :
      Transacted scope calls
        (scopeEvent scope.opening (.ok m) :: t ++ [scopeEvent scope.commit a]) a.isOk
  | undone {t : List world.Event} (m : UInt64) (h : Sent calls t false) (a : Except Error UInt64) :
      Transacted scope calls
        (scopeEvent scope.opening (.ok m) :: t ++ [scopeEvent scope.rollback a]) false

theorem Block.transacted {scope : Scope} {body : Action α} {calls : List DatabaseCall}
    {t : List world.Event} {r : Except Error α} (hb : Sends body calls)
    (h : Block scope body t r) : Transacted scope calls t r.isOk := by
  cases h with
  | refused e => exact .refused e
  | committed m n h => exact .ended m (hb _ _ h) (.ok n)
  | uncommitted m e h => exact .ended m (hb _ _ h) (.error e)
  | rolledBack m n h => exact .undone m (hb _ _ h) (.ok n)
  | stuck m e' h => exact .undone m (hb _ _ h) (.error e')

/-- A block of statements with its scope. -/
def Scoped (nested : Bool) (calls : List DatabaseCall) (t : List world.Event) (done : Bool) :
    Prop :=
  ∃ scope t₀ t₁, t = t₀ ++ t₁ ∧ Opened nested scope t₀ ∧ Transacted scope calls t₁ done

theorem transaction_scoped {nested : Bool} {body : Action α} {calls : List DatabaseCall}
    (hb : Sends body calls) {t : List world.Event} {r : Except Error α}
    (h : Runs (transaction nested body) t r) : Scoped nested calls t r.isOk := by
  obtain ⟨scope, t₀, t₁, rfl, ho, hblock⟩ := transaction_run h
  exact ⟨scope, t₀, t₁, rfl, ho, hblock.transacted hb⟩

/-- A statement that begins or ends a transaction. -/
def ScopeCall (d : DatabaseCall) : Prop :=
  ∃ scope : Scope, (scope = .plain ∨ ∃ n, scope = .savepoint n) ∧
    (d = .execute none scope.opening [] ∨ d = .execute none scope.commit [] ∨
      d = .execute none scope.rollback [])

theorem Transacted.mem {scope : Scope} {calls : List DatabaseCall} {t : List world.Event}
    {done : Bool} (h : Transacted scope calls t done) {e : world.Event} (he : e ∈ t) :
    ∃ d, e.1 = .database d ∧ (d = .execute none scope.opening [] ∨
      d = .execute none scope.commit [] ∨ d = .execute none scope.rollback [] ∨ d ∈ calls) := by
  cases h with
  | refused e =>
    cases List.mem_singleton.1 he
    exact ⟨_, rfl, .inl rfl⟩
  | ended m hs a =>
    rcases List.mem_append.1 he with he | he
    · rcases List.mem_cons.1 he with rfl | he
      · exact ⟨_, rfl, .inl rfl⟩
      · obtain ⟨c, hc, hec⟩ := hs.mem he
        exact ⟨c, hec, .inr (.inr (.inr hc))⟩
    · cases List.mem_singleton.1 he
      exact ⟨_, rfl, .inr (.inl rfl)⟩
  | undone m hs a =>
    rcases List.mem_append.1 he with he | he
    · rcases List.mem_cons.1 he with rfl | he
      · exact ⟨_, rfl, .inl rfl⟩
      · obtain ⟨c, hc, hec⟩ := hs.mem he
        exact ⟨c, hec, .inr (.inr (.inr hc))⟩
    · cases List.mem_singleton.1 he
      exact ⟨_, rfl, .inr (.inr (.inl rfl))⟩

/-- A block asks for the number of its savepoint, and sends its own statements. -/
theorem Scoped.mem {nested : Bool} {calls : List DatabaseCall} {t : List world.Event} {done : Bool}
    (h : Scoped nested calls t done) {e : world.Event} (he : e ∈ t) :
    e.1 = .savepoint ∨ ∃ d, e.1 = .database d ∧ (ScopeCall d ∨ d ∈ calls) := by
  obtain ⟨scope, t₀, t₁, rfl, ho, ht⟩ := h
  rcases List.mem_append.1 he with he | he
  · exact .inl (ho.mem he)
  · have hscope := ho.scope_eq
    obtain ⟨d, hd, h | h | h | h⟩ := ht.mem he
    · exact .inr ⟨d, hd, .inl ⟨scope, hscope, .inl h⟩⟩
    · exact .inr ⟨d, hd, .inl ⟨scope, hscope, .inr (.inl h)⟩⟩
    · exact .inr ⟨d, hd, .inl ⟨scope, hscope, .inr (.inr h)⟩⟩
    · exact .inr ⟨d, hd, .inr h⟩

theorem Scoped.sends {nested : Bool} {calls : List DatabaseCall} {t : List world.Event}
    {done : Bool} (h : Scoped nested calls t done) {e : world.Event} (he : e ∈ t)
    {d : DatabaseCall} (hd : e.1 = .database d) : ScopeCall d ∨ d ∈ calls := by
  rcases h.mem he with hs | ⟨d', hd', h⟩
  · rw [hs] at hd
    cases hd
  · rw [hd'] at hd
    cases hd
    exact h

end Rowgate
