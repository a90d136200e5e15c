/-
  The audit sink beside a call.

  * `Concludes`: a task ends by handing what it did to the sink, and does not ask it before;
    `Entry.run_concludes`: so do all entry points;
  * `Ending`, `play_ends`: what a call comes to, and what it hands to the sink, is settled before
    the sink answers;
  * `play_aside`: with any two sinks a call does the same, and tells its user of a failure.
-/
import Rowgate.Proofs.Keeper.Refusal
import Rowgate.Proofs.Sink

namespace Rowgate

open Program World Keeper

/-- What a task says that is done. -/
def Task.report : Task → String
  | .create => "Record(s) created successfully"
  | .read => "Record(s) retrieved successfully"
  | .update => "Record(s) updated successfully"
  | .delete => "Record(s) deleted successfully"

/-- Whether a task is written to the audit log. -/
def AuditFlags.covers (f : AuditFlags) : Task → Bool
  | .create => f.create
  | .read => f.read
  | .update => f.update
  | .delete => f.delete

/-- What the answer of the sink adds to a message. -/
def sinkNote : Except Error Unit → String
  | .ok _ => ""
  | .error e => " | Audit-log-error: " ++ e.message

namespace Keeper

variable {α : Type} {k : Keeper} {nested : Bool} {p : Params} {task : Task} {ids : List String}

/-! ## Steps that the sink is not asked in -/

theorem authorize_sinkFree : SinkFree (k.authorize p task ids).run := by
  intro t r h e he
  have hcall := authorize_calls h e he
  generalize e.1 = c at hcall
  cases hcall <;> rfl

theorem Plans.sinkFree {a : Action α} {calls : Except Error (List DatabaseCall)}
    (h : Plans nested a calls) : SinkFree a.run := by
  intro t r hr e he
  rcases h t r hr with ⟨_, -, rfl, -⟩ | ⟨cs, -, hs⟩
  · cases he
  · rcases hs.mem he with hd | ⟨d, hd, -⟩ <;> rw [hd] <;> rfl

theorem fetch_sinkFree {cached : Bool} : SinkFree (k.fetch p cached).run := by
  intro t r h e he
  have hmissed {t : List world.Event} {useCache : Bool} (hm : Missed p useCache t) (he : e ∈ t) :
      WorldCall.isRecord e.1 = false := by
    cases hm with
    | unused => cases he
    | missed => cases List.mem_singleton.1 he; rfl
  cases fetch_run h with
  | hit => cases List.mem_singleton.1 he; rfl
  | unplanned hm => exact hmissed hm he
  | asked hm hs a =>
    rcases List.mem_append.1 he with he | he
    · exact hmissed hm he
    · rcases List.mem_cons.1 he with rfl | he
      · rfl
      · unfold remembered at he
        split at he
        · split_ifs at he
          · cases List.mem_singleton.1 he; rfl
          · cases he
        · cases he

/-! ## Tasks -/

/-- What a task did: for its entry in the audit log, and for its answer. -/
structure Performed where
  before : List Record
  after : Json
  outcome : Outcome

/-- The end of a task that is done. -/
def conclude (k : Keeper) (p : Params) (task : Task) (d : Performed) : Action (String × Outcome) := do
  let message ← k.recordAudit (k.options.audit.covers task) task p.user
    ⟨p.table, d.before, d.after⟩ task.report
  return (message, d.outcome)

/-- The sink is asked at the end alone. -/
def Concludes (k : Keeper) (p : Params) (task : Task) (a : Action (String × Outcome)) : Prop :=
  ∃ work : Action Performed, SinkFree work.run ∧ a = work >>= k.conclude p task

theorem Concludes.of (d : Performed) : Concludes k p task (k.conclude p task d) :=
  ⟨pure d, .pure d, rfl⟩

theorem Concludes.bind {a : Action α} {f : α → Action (String × Outcome)} (ha : SinkFree a.run)
    (hf : ∀ x, Concludes k p task (f x)) : Concludes k p task (a >>= f) := by
  choose work hwork heq using hf
  refine ⟨a >>= work, ha.bind hwork, ?_⟩
  rw [LawfulMonad.bind_assoc]
  exact congrArg _ (funext heq)

theorem create_concludes (k : Keeper) (nested : Bool) (p : Params) (records : List Record) :
    Concludes k p .create (k.create nested p records) := by
  refine .bind authorize_sinkFree fun _ => .bind (.given _) fun rs => ?_
  refine .bind (k.insertRecords_plans nested p rs).sinkFree fun ids => .bind (.ask rfl) fun _ => ?_
  exact .of ⟨[], Record.listJson rs, { Outcome.empty with ids, count := .ofNat rs.length }⟩

theorem update_concludes (k : Keeper) (nested : Bool) (p : Params) :
    Concludes k p .update (k.update nested p) := by
  refine .bind authorize_sinkFree fun _ => .bind (.given _) fun _ => .bind (.given _) ?_
  rintro ⟨statements, beforeSql⟩
  refine .bind ?_ fun x => .bind (.ask rfl) fun _ => ?_
  · have hsends := Sends.mapM (fun sql => k.execute_sends .update sql []) statements
    exact (plans_transaction (before_sends (fun before => hsends.map _) k
      k.options.audit.update .update beforeSql)).sinkFree
  · exact .of ⟨x.1, Record.listJson p.records, ⟨p.condition, updateIds p, x.2, []⟩⟩

/-- The steps of a deletion behind its plan. -/
theorem delete_concludes (k : Keeper) (nested : Bool) (p : Params) {statements : String × String}
    (hs : deleteStatements p = .ok statements) :
    ∃ a, Concludes k p .delete a ∧ k.delete nested p = answer .removeError a := by
  obtain ⟨sql, beforeSql⟩ := statements
  unfold delete
  rw [hs]
  refine ⟨_, .bind authorize_sinkFree fun _ => .bind ?_ fun x => .bind (.ask rfl) fun _ => ?_, rfl⟩
  · have hsends := k.execute_sends .delete sql []
    exact (plans_transaction (before_sends (fun before => hsends.map _) k
      k.options.audit.delete .delete beforeSql)).sinkFree
  · exact .of ⟨x.1, requestJson p, ⟨p.condition, p.ids, x.2, []⟩⟩

theorem get_concludes (k : Keeper) (p : Params) :
    ∃ a, Concludes k p .read a ∧ k.get p = answer .readError a :=
  ⟨_, .bind authorize_sinkFree fun _ => .bind fetch_sinkFree fun rows =>
    .of ⟨[], requestJson p, readOutcome p rows⟩, rfl⟩

end Keeper

/-- A call that names a task concludes; one that does not has failed. -/
theorem Entry.run_concludes (k : Keeper) (nested : Bool) (p : Params) (entry : Entry) :
    (∃ e, entry.run k nested p = answer entry.fallback (given (.error e))) ∨
      ∃ task ids a, entry.checked? p = some (task, ids) ∧ Concludes k p task a ∧
        entry.run k nested p = answer entry.fallback a := by
  cases entry with
  | save =>
    cases hs : SaveTask.classify p with
    | error e =>
      refine .inl ⟨e, ?_⟩
      rw [run, Keeper.save, hs]
      rfl
    | ok task =>
      right
      rw [checked?, run, Keeper.save, hs]
      cases task with
      | create records => exact ⟨_, _, _, rfl, k.create_concludes nested p records, rfl⟩
      | update => exact ⟨_, _, _, rfl, k.update_concludes nested p, rfl⟩
  | get =>
    obtain ⟨a, ha, hrun⟩ := k.get_concludes p
    exact .inr ⟨_, _, a, rfl, ha, hrun⟩
  | delete =>
    cases hs : deleteStatements p with
    | error e =>
      refine .inl ⟨e, ?_⟩
      rw [run, Keeper.delete, hs]
      rfl
    | ok statements =>
      obtain ⟨a, ha, hrun⟩ := k.delete_concludes nested p hs
      exact .inr ⟨_, _, a, by rw [checked?, hs], ha, hrun⟩

/-! ## Calls with a sink beside them -/

/-- What was asked and answered in a call, its answer, and what it left of its surroundings. -/
structure Played (σ : Type) where
  trace : List world.Event
  response : Response
  state : σ

variable {σ τ τ₁ τ₂ : Type}

def Entry.play (k : Keeper) (nested : Bool) (p : Params) (answer : Surroundings σ) (sink : Sink τ)
    (s : σ) (u : τ) (entry : Entry) : Played σ :=
  ⟨(entry.run k nested p).trace (beside answer sink) (s, u),
    ((entry.run k nested p).run (beside answer sink) (s, u)).1,
    ((entry.run k nested p).run (beside answer sink) (s, u)).2.1⟩

namespace Keeper

variable {k : Keeper} {nested : Bool} {p : Params} {task : Task} {ids : List String}
  {entry : Entry}

/-- The task of a request is written to the audit log. -/
def Audits (k : Keeper) (p : Params) (entry : Entry) (task : Task) : Prop :=
  k.audited ∧ k.options.audit.covers task ∧ ∃ ids, entry.checked? p = some (task, ids)

/-- What a call comes to, with the entry that it hands to the sink, but for what the sink
    says to it. -/
inductive Ending (k : Keeper) (p : Params) (entry : Entry) :
    Response → Option (Task × AuditEntry) → Prop
  | failed (e : Error) : Ending k p entry (.ofResult entry.fallback (.error e)) none
  | silent {task : Task} {ids : List String} (hc : entry.checked? p = some (task, ids))
      (hn : (k.options.audit.covers task && k.audited) = false) (outcome : Outcome) :
      Ending k p entry (.success task.report outcome) none
  | recorded {task : Task} {ids : List String} (hc : entry.checked? p = some (task, ids))
      (hr : (k.options.audit.covers task && k.audited) = true) (before : List Record)
      (after : Json) (outcome : Outcome) :
      Ending k p entry (.success task.report outcome) (some (task, ⟨p.table, before, after⟩))

/-- The call with the sink's answer to its entry, if there is one. -/
def finish (p : Params) (sink : Sink τ) (u : τ) (x : Played σ) :
    Option (Task × AuditEntry) → Played σ
  | none => x
  | some (task, e) =>
    { x with
      trace := x.trace ++ [⟨.record task p.user e, (sink task p.user e u).1⟩]
      response.message := x.response.message ++ sinkNote (sink task p.user e u).1 }

theorem recordAudit_recorded {enabled : Bool} (hr : (enabled && k.audited) = true)
    (actor message : String) (e : AuditEntry) :
    (k.recordAudit enabled task actor e message).run = .ask (.record task actor e)
      fun a => done (.ok (message ++ sinkNote a)) := by
  unfold recordAudit
  rw [if_pos hr]
  refine congrArg (Program.ask _) (funext fun a => ?_)
  cases a with
  | ok _ => exact congrArg (fun m => done (Except.ok m)) String.append_empty.symm
  | error e => exact congrArg (fun m => done (Except.ok m)) (String.append_assoc ..)

theorem conclude_silent (hn : (k.options.audit.covers task && k.audited) = false) (d : Performed) :
    (k.conclude p task d).run = done (.ok (task.report, d.outcome)) := by
  unfold conclude recordAudit
  rw [hn]
  rfl

theorem conclude_recorded (hr : (k.options.audit.covers task && k.audited) = true) (d : Performed) :
    (k.conclude p task d).run = .ask (.record task p.user ⟨p.table, d.before, d.after⟩)
      fun a => done (.ok (task.report ++ sinkNote a, d.outcome)) := by
  unfold conclude
  rw [ExceptT.run_bind, recordAudit_recorded hr]
  rfl

theorem answer_bind {α : Type} {fallback : ResponseCode} (a : Action α)
    (f : α → Action (String × Outcome)) :
    Keeper.answer fallback (a >>= f) = a.run >>= fun
      | .ok x => Keeper.answer fallback (f x)
      | .error e => done (.ofResult fallback (.error e)) := by
  unfold Keeper.answer
  rw [ExceptT.run_bind, LawfulMonad.bind_assoc]
  refine congrArg _ (funext fun x => ?_)
  cases x <;> rfl

/-- All is settled before the sink is asked. -/
theorem play_ends (k : Keeper) (nested : Bool) (p : Params) (entry : Entry)
    (answer : Surroundings σ) (s : σ) :
    ∃ x r, (∀ e ∈ x.trace, WorldCall.isRecord e.1 = false) ∧ Ending k p entry x.response r ∧
      ∀ {τ : Type} (sink : Sink τ) (u : τ),
        entry.play k nested p answer sink s u = finish p sink u x r := by
  rcases entry.run_concludes k nested p with ⟨e, hrun⟩ | ⟨task, ids, a, hc, ⟨work, hq, rfl⟩, hrun⟩
  · refine ⟨⟨[], _, s⟩, none, nofun, .failed e, fun sink u => ?_⟩
    rw [Entry.play, hrun]
    rfl
  rw [answer_bind] at hrun
  have hsilent := hq _ _ (run_trace answer work.run s)
  have hplay {τ : Type} (sink : Sink τ) (u : τ) := hq.play answer sink s u
  generalize work.run.trace answer s = t at hsilent hplay
  generalize work.run.run answer s = y at hplay
  obtain ⟨e | d, s'⟩ := y
  · refine ⟨⟨t, _, s'⟩, none, hsilent, .failed e, fun sink u => ?_⟩
    obtain ⟨hr, ht⟩ := hplay sink u
    rw [Entry.play, hrun, run_bind, trace_bind, hr, ht]
    exact congrArg (Played.mk · _ _) (List.append_nil t)
  cases hk : k.options.audit.covers task && k.audited with
  | false =>
    refine ⟨⟨t, _, s'⟩, none, hsilent, .silent hc hk d.outcome, fun sink u => ?_⟩
    obtain ⟨hr, ht⟩ := hplay sink u
    rw [Entry.play, hrun, run_bind, trace_bind, hr, ht]
    dsimp only
    rw [Keeper.answer, conclude_silent hk]
    exact congrArg (Played.mk · _ _) (List.append_nil t)
  | true =>
    refine ⟨⟨t, _, s'⟩, _, hsilent, .recorded hc hk d.before d.after d.outcome, fun sink u => ?_⟩
    obtain ⟨hr, ht⟩ := hplay sink u
    rw [Entry.play, hrun, run_bind, trace_bind, hr, ht]
    dsimp only
    rw [Keeper.answer, conclude_recorded hk]
    rfl

/-! ## Two sinks -/

/-- The entries that the sink was handed. -/
def recorded (t : List world.Event) : List (Task × String × AuditEntry) :=
  t.filterMap fun
    | ⟨.record task actor e, _⟩ => some (task, actor, e)
    | _ => none

/-- What the answers of the sink add to a message. -/
def notes : List world.Event → String
  | [] => ""
  | ⟨.record _ _ _, a⟩ :: t => sinkNote a ++ notes t
  | _ :: t => notes t

/-- Everything but the sink's answer, and the message, is the same. -/
structure Alike (x y : Played σ) : Prop where
  others : x.trace.filter (!WorldCall.isRecord ·.1) = y.trace.filter (!WorldCall.isRecord ·.1)
  recorded : recorded x.trace = recorded y.trace
  state : x.state = y.state
  cache (c c' : Cache) : Replays c x.trace c' ↔ Replays c y.trace c'
  code : x.response.code = y.response.code
  outcome : x.response.outcome = y.response.outcome

/-- A call hands one entry to the sink if it succeeds in a task that is audited, and none
    otherwise; its message tells of a failure of the sink. -/
structure Reported (k : Keeper) (p : Params) (entry : Entry) (plain : String) (x : Played σ) :
    Prop where
  message : x.response.message = plain ++ notes x.trace
  plain : x.response.code = .success →
    ∃ task ids, entry.checked? p = some (task, ids) ∧ plain = task.report
  one (task : Task) (h : Audits k p entry task) (hs : x.response.code = .success) :
    ∃ e, Keeper.recorded x.trace = [(task, p.user, e)] ∧ e.table = p.table
  none (h : x.response.code = .success → ∀ task, ¬ Audits k p entry task) :
    Keeper.recorded x.trace = []

section Finish

variable {t : List world.Event} {x : Played σ} {r : Option (Task × AuditEntry)}
  (hx : ∀ e ∈ x.trace, WorldCall.isRecord e.1 = false) (sink : Sink τ) (u : τ)

theorem recorded_sinkFree (ht : ∀ e ∈ t, WorldCall.isRecord e.1 = false) : recorded t = [] := by
  refine List.filterMap_eq_nil_iff.2 fun e he => ?_
  have he := ht e he
  obtain ⟨c, a⟩ := e
  cases c with
  | record => cases he
  | _ => rfl

theorem notes_sinkFree_append (ht : ∀ e ∈ t, WorldCall.isRecord e.1 = false)
    (t' : List world.Event) : notes (t ++ t') = notes t' := by
  induction t with
  | nil => rfl
  | cons e t ih =>
    have he := ht e List.mem_cons_self
    have ih := ih fun e he => ht e (List.mem_cons_of_mem _ he)
    obtain ⟨c, a⟩ := e
    cases c with
    | record => cases he
    | _ => exact ih

include hx

theorem finish_others : (finish p sink u x r).trace.filter (!WorldCall.isRecord ·.1) = x.trace := by
  have hall : x.trace.filter (!WorldCall.isRecord ·.1) = x.trace :=
    List.filter_eq_self.2 fun e he => by rw [hx e he]; rfl
  cases r with
  | none => exact hall
  | some r =>
    rw [finish, List.filter_append, hall]
    exact List.append_nil _

theorem finish_recorded :
    recorded (finish p sink u x r).trace = (r.map fun r => (r.1, p.user, r.2)).toList := by
  cases r with
  | none => exact recorded_sinkFree hx
  | some r =>
    rw [finish, recorded, List.filterMap_append, ← recorded, recorded_sinkFree hx]
    rfl

omit hx in
theorem finish_replays (c c' : Cache) :
    Replays c (finish p sink u x r).trace c' ↔ Replays c x.trace c' := by
  cases r with
  | none => rfl
  | some r =>
    rw [finish, Replays.append_iff]
    have hrecord (c₁ : Cache) : Replays c₁ [⟨.record r.1 p.user r.2, (sink r.1 p.user r.2 u).1⟩] c' ↔
        c' = c₁ := Replays.iff_unchanged fun e he => by cases List.mem_singleton.1 he; rfl
    simp only [hrecord, exists_eq_right']

theorem finish_message : (finish p sink u x r).response.message =
    x.response.message ++ notes (finish p sink u x r).trace := by
  cases r with
  | none =>
    have := notes_sinkFree_append hx []
    rw [List.append_nil] at this
    rw [finish, this]
    exact String.append_empty.symm
  | some r =>
    have hnote : sinkNote (sink r.1 p.user r.2 u).1 =
        notes [⟨.record r.1 p.user r.2, (sink r.1 p.user r.2 u).1⟩] := String.append_empty.symm
    rw [finish, notes_sinkFree_append hx, ← hnote]

omit hx in
theorem finish_response : (finish p sink u x r).response.code = x.response.code ∧
    (finish p sink u x r).response.outcome = x.response.outcome ∧
      (finish p sink u x r).state = x.state := by
  cases r <;> exact ⟨rfl, rfl, rfl⟩

end Finish

theorem Ending.reported {x : Played σ} {r : Option (Task × AuditEntry)}
    (h : Ending k p entry x.response r) (hx : ∀ e ∈ x.trace, WorldCall.isRecord e.1 = false)
    (sink : Sink τ) (u : τ) :
    Reported k p entry x.response.message (finish p sink u x r) := by
  have hmessage := finish_message (p := p) (r := r) hx sink u
  have hrecorded := finish_recorded (p := p) (r := r) hx sink u
  obtain ⟨hcode, -, -⟩ := finish_response (p := p) (x := x) (r := r) sink u
  generalize finish p sink u x r = y at hmessage hrecorded hcode ⊢
  obtain ⟨t, response, s⟩ := x
  cases h with
  | failed e =>
    have hfailed : y.response.code ≠ .success := hcode ▸ (entry.ofResult_error e).1
    exact ⟨hmessage, fun hs => absurd hs hfailed, fun _ _ hs => absurd hs hfailed,
      fun _ => hrecorded⟩
  | silent hc hn outcome =>
    refine ⟨hmessage, fun _ => ⟨_, _, hc, rfl⟩, fun task h => ?_, fun _ => hrecorded⟩
    obtain ⟨haudited, hcovers, ids, hc'⟩ := h
    cases hc.symm.trans hc'
    rw [hcovers, haudited] at hn
    cases hn
  | recorded hc hr before after outcome =>
    obtain ⟨hcovers, haudited⟩ := Bool.and_eq_true_iff.1 hr
    refine ⟨hmessage, fun _ => ⟨_, _, hc, rfl⟩, fun task h _ => ?_, fun h => ?_⟩
    · obtain ⟨-, -, ids, hc'⟩ := h
      cases hc.symm.trans hc'
      exact ⟨_, hrecorded, rfl⟩
    · exact absurd ⟨haudited, hcovers, _, hc⟩ (h hcode _)

/-- **The audit log stands aside.**  With any two sinks a call asks the same of its surroundings
    and leaves them, and any cache, the same; it hands both the same entry and gives the same
    answer, but that its message tells of a failure of the sink.  There is one entry, with the
    task, the user and the table, if the call succeeds in a task that is audited, and none
    otherwise. -/
theorem play_aside (k : Keeper) (nested : Bool) (p : Params) (entry : Entry)
    (answer : Surroundings σ) (s : σ) (sink₁ : Sink τ₁) (sink₂ : Sink τ₂) (u₁ : τ₁) (u₂ : τ₂) :
    Alike (entry.play k nested p answer sink₁ s u₁) (entry.play k nested p answer sink₂ s u₂) ∧
      ∃ plain, Reported k p entry plain (entry.play k nested p answer sink₁ s u₁) ∧
        Reported k p entry plain (entry.play k nested p answer sink₂ s u₂) := by
  obtain ⟨x, r, hx, hend, hplay⟩ := play_ends k nested p entry answer s
  rw [hplay sink₁, hplay sink₂]
  refine ⟨?_, _, hend.reported hx sink₁ u₁, hend.reported hx sink₂ u₂⟩
  obtain ⟨hcode₁, houtcome₁, hstate₁⟩ := finish_response (p := p) (x := x) (r := r) sink₁ u₁
  obtain ⟨hcode₂, houtcome₂, hstate₂⟩ := finish_response (p := p) (x := x) (r := r) sink₂ u₂
  exact {
    others := (finish_others hx sink₁ u₁).trans (finish_others hx sink₂ u₂).symm
    recorded := (finish_recorded hx sink₁ u₁).trans (finish_recorded hx sink₂ u₂).symm
    state := hstate₁.trans hstate₂.symm
    cache := fun c c' => (finish_replays sink₁ u₁ c c').trans (finish_replays sink₂ u₂ c c').symm
    code := hcode₁.trans hcode₂.symm
    outcome := houtcome₁.trans houtcome₂.symm }

/-- A new process that has the answer to a request in its cache. -/
def warm (p : Params) : Script.Scene :=
  { Script.Scene.ofReplies [] with
    cache := (Cache.ofCapacity 1).set 0 p.table p.hashKey [.ofList [("id", .string "7")]]
      (.ofSeconds 60) }

/-- A read that the cache answers is written to the log as well. -/
example : (recorded (Entry.get.play
      ⟨Options.standard.withAudit ⟨false, true, false, false⟩, true, none⟩ false
      (.ofIds "notes" "ann" ["7"]) Script.Scene.answer
      (fun _ _ _ u => (.error (.connection "full"), u)) (warm (.ofIds "notes" "ann" ["7"]))
      ()).trace).map (fun r => (r.1, r.2.1)) = [(.read, "ann")] := by
  rfl

end Keeper

end Rowgate
