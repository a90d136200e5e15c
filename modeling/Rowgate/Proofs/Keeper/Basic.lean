/-
  Runs of the steps that the entry points of a keeper share.

  * `accessCheck` is the access check of a task, with the time that it asks for;
    `authorize_run` says when an action gets past it;
  * `queryRecords_sends`, `returningIds_sends`, `execute_sends`: one statement each;
  * `recordAudit_logged`, `recordAudit_run`: the audit sink is handed the entry if the task is
    written to the log, else none, and its failure is none of the action.
-/
import Rowgate.Keeper.Basic
import Rowgate.Proofs.Access.SqlStore
import Rowgate.Proofs.Transaction

namespace Rowgate.Keeper

open Program World

variable {k : Keeper} {p : Params} {task : Task} {ids : List String} {t : List world.Event}

/-! ## The access check -/

/-- The request that a task of some parameters is checked with. -/
def request (p : Params) (task : Task) (ids : List String) : AccessRequest :=
  ⟨p.user, p.token, task, p.table, ids⟩

/-- The access check of a task on records. -/
def accessCheck (k : Keeper) (p : Params) (task : Task) (ids : List String) :
    Action AccessDecision := do
  let now ← ask .now
  ExceptT.mk (ofDatabase ((Access.check now (request p task ids)).run.via
    (SqlStore.answer k.options.tables)))

theorem accessCheck_run {d : Except Error AccessDecision}
    (h : Runs (k.accessCheck p task ids) t d) :
    ∃ now u, t = ⟨.now, now⟩ :: u.map databaseEvent ∧
      Run ((Access.check now (request p task ids)).run.via (SqlStore.answer k.options.tables))
        u d := by
  rcases runs_bind_iff.1 h with ⟨e, h₁, -⟩ | ⟨t₁, t₂, now, rfl, h₁, h₂⟩
  · obtain ⟨_, -, h⟩ := runs_ask_iff.1 h₁
    cases h
  · obtain ⟨_, rfl, hn⟩ := runs_ask_iff.1 h₁
    cases hn
    obtain ⟨u, hu, rfl⟩ := run_ofDatabase_iff.1 h₂
    exact ⟨now, u, rfl, hu⟩

theorem authorize_eq (hk : k.options.checkAccess) :
    k.authorize p task ids = k.accessCheck p task ids >>= fun d =>
      if !d.permitted then
        throw (.unauthorized (task.name ++ " access denied on " ++ p.table ++ ": " ++ d.reason))
      else pure () := by
  unfold authorize accessCheck
  rw [if_pos hk, LawfulMonad.bind_assoc]
  rfl

/-- What comes of the access check decides what comes of the step. -/
theorem authorize_run (hk : k.options.checkAccess) {r : Except Error Unit}
    (h : Runs (k.authorize p task ids) t r) :
    (∃ reason, r = .ok () ∧ Runs (k.accessCheck p task ids) t (.ok ⟨true, reason⟩)) ∨
      ∃ e d, r = .error e ∧ Runs (k.accessCheck p task ids) t d ∧
        ∀ reason, d ≠ .ok ⟨true, reason⟩ := by
  rw [authorize_eq hk] at h
  rcases runs_bind_iff.1 h with ⟨e, h₁, rfl⟩ | ⟨t₁, t₂, ⟨permitted, reason⟩, rfl, h₁, h₂⟩
  · exact .inr ⟨e, _, rfl, h₁, fun _ h => by cases h⟩
  · cases permitted with
    | true =>
      obtain ⟨rfl, rfl⟩ := runs_pure_iff.1 h₂
      rw [List.append_nil]
      exact .inl ⟨reason, rfl, h₁⟩
    | false =>
      obtain ⟨rfl, rfl⟩ := runs_throw_iff.1 h₂
      rw [List.append_nil]
      exact .inr ⟨_, _, rfl, h₁, fun _ h => by cases h⟩

theorem authorize_permitted (hk : k.options.checkAccess) {reason : String}
    (h : Runs (k.accessCheck p task ids) t (.ok ⟨true, reason⟩)) :
    Runs (k.authorize p task ids) t (.ok ()) := by
  rw [authorize_eq hk]
  exact runs_bind_iff.2 (.inr ⟨t, [], _, (List.append_nil t).symm, h, runs_pure_iff.2 ⟨rfl, rfl⟩⟩)

theorem authorize_off (hk : k.options.checkAccess = false) {r : Except Error Unit}
    (h : Runs (k.authorize p task ids) t r) : t = [] ∧ r = .ok () := by
  unfold authorize at h
  rw [hk, if_neg Bool.false_ne_true] at h
  exact runs_pure_iff.1 h

/-! ## One statement -/

theorem isOk_mapError {α : Type} (f : Error → Error) (x : Except Error α) :
    (x.mapError f).isOk = x.isOk := by
  cases x <;> rfl

/-- What a stage makes of the answer to a query. -/
def records (stage : Stage) (a : Except Error (List Row)) : Except Error (List Record) :=
  (a.mapError (.tagged stage)).bind fun rows => rows.mapM Row.toRecord

theorem queryRecords_run {stage : Stage} {sql : String} {params : List Value}
    {r : Except Error (List Record)} (h : Runs (k.queryRecords stage sql params) t r) :
    ∃ a, t = [⟨.database (.query k.options.timeout sql params), a⟩] ∧ r = records stage a := by
  rcases runs_bind_iff.1 h with ⟨e, h₁, rfl⟩ | ⟨t₁, t₂, rows, rfl, h₁, h₂⟩
  · obtain ⟨a, ha, he⟩ := runs_mapError_iff.1 h₁
    exact ⟨a, run_call_iff.1 ha, by rw [records, ← he]; rfl⟩
  · obtain ⟨a, ha, he⟩ := runs_mapError_iff.1 h₁
    obtain ⟨rfl, rfl⟩ := runs_given_iff.1 h₂
    rw [List.append_nil]
    exact ⟨a, run_call_iff.1 ha, by rw [records, ← he]; rfl⟩

theorem queryRecords_runs (stage : Stage) (sql : String) (params : List Value)
    (a : Except Error (List Row)) : Runs (k.queryRecords stage sql params)
      [⟨.database (.query k.options.timeout sql params), a⟩] (records stage a) := by
  have hquery : Runs (mapError (.tagged stage) (query k.options.timeout sql params))
      [⟨.database (.query k.options.timeout sql params), a⟩] (a.mapError (.tagged stage)) :=
    runs_mapError_iff.2 ⟨a, run_call_iff.2 rfl, rfl⟩
  cases a with
  | error e => exact runs_bind_iff.2 (.inl ⟨_, hquery, rfl⟩)
  | ok rows =>
    exact runs_bind_iff.2 (.inr ⟨[_], [], rows, rfl, hquery, runs_given_iff.2 ⟨rfl, rfl⟩⟩)

theorem queryRecords_sends (k : Keeper) (stage : Stage) (sql : String) (params : List Value) :
    Sends (k.queryRecords stage sql params) [.query k.options.timeout sql params] := by
  intro t r h
  obtain ⟨a, rfl, rfl⟩ := queryRecords_run h
  have := Sent.single (.query k.options.timeout sql params) a
  cases a with
  | ok rows => exact this
  | error e => exact this

theorem returningIds_sends (k : Keeper) (stage : Stage) (sql : String) (params : List Value) :
    Sends (k.returningIds stage sql params) [.query k.options.timeout sql params] :=
  (k.queryRecords_sends stage sql params).map _

theorem mapError_sends {α : Type} {f : Error → Error} {c : DatabaseCall} {a : Action α}
    (ha : ∀ {t r}, Runs a t r → Sent [c] t r.isOk) : Sends (mapError f a) [c] := by
  intro t r h
  obtain ⟨x, hx, rfl⟩ := runs_mapError_iff.1 h
  rw [isOk_mapError]
  exact ha hx

theorem execute_sends (k : Keeper) (stage : Stage) (sql : String) (params : List Value) :
    Sends (k.execute stage sql params) [.execute k.options.timeout sql params] :=
  mapError_sends fun {_ r} h => by
    obtain rfl := run_call_iff.1 h
    exact .single (.execute k.options.timeout sql params) r

theorem copy_sends (k : Keeper) (stage : Stage) (c : Copy) :
    Sends (mapError (.tagged stage) (World.copy k.options.timeout c.sql c.typesSql c.rows))
      [.copy k.options.timeout c.sql c.typesSql c.rows] :=
  mapError_sends fun {_ r} h => by
    obtain rfl := run_call_iff.1 h
    exact .single (.copy k.options.timeout c.sql c.typesSql c.rows) r

/-! ## Audit -/

/-- At most one entry of a task goes to the sink. -/
inductive Audited (task : Task) (actor : String) : List world.Event → Prop where
  | silent : Audited task actor []
  | recorded (entry : AuditEntry) (a : Except Error Unit) :
      Audited task actor [⟨.record task actor entry, a⟩]

/-- The entry of a task goes to the sink just if the task is written to the log. -/
inductive Logged (k : Keeper) (enabled : Bool) (task : Task) (actor : String)
    (entry : AuditEntry) : List world.Event → Prop where
  | silent (h : (enabled && k.audited) = false) : Logged k enabled task actor entry []
  | recorded (h : (enabled && k.audited) = true) (a : Except Error Unit) :
      Logged k enabled task actor entry [⟨.record task actor entry, a⟩]

theorem Logged.audited {enabled : Bool} {actor : String} {entry : AuditEntry}
    (h : Logged k enabled task actor entry t) : Audited task actor t := by
  cases h with
  | silent => exact .silent
  | recorded _ a => exact .recorded entry a

theorem recordAudit_logged {enabled : Bool} {actor message : String} {entry : AuditEntry}
    {r : Except Error String} (h : Runs (k.recordAudit enabled task actor entry message) t r) :
    Logged k enabled task actor entry t ∧ ∃ m, r = .ok m := by
  unfold recordAudit at h
  split_ifs at h with hlog
  · rcases runs_bind_iff.1 h with ⟨e, h₁, -⟩ | ⟨t₁, t₂, a, rfl, h₁, h₂⟩
    · obtain ⟨_, -, h⟩ := runs_ask_iff.1 h₁
      cases h
    · obtain ⟨a, rfl, -⟩ := runs_ask_iff.1 h₁
      split at h₂
      · obtain ⟨rfl, rfl⟩ := runs_pure_iff.1 h₂
        exact ⟨.recorded hlog a, _, rfl⟩
      · obtain ⟨rfl, rfl⟩ := runs_pure_iff.1 h₂
        exact ⟨.recorded hlog a, _, rfl⟩
  · obtain ⟨rfl, rfl⟩ := runs_pure_iff.1 h
    exact ⟨.silent (Bool.eq_false_iff.2 hlog), _, rfl⟩

theorem recordAudit_run {enabled : Bool} {actor message : String} {entry : AuditEntry}
    {r : Except Error String} (h : Runs (k.recordAudit enabled task actor entry message) t r) :
    Audited task actor t ∧ ∃ m, r = .ok m := by
  obtain ⟨hlogged, hm⟩ := recordAudit_logged h
  exact ⟨hlogged.audited, hm⟩

/-! ## Answers -/

theorem answer_run {fallback : ResponseCode} {a : Action (String × Outcome)} {r : Response}
    (h : Run (answer fallback a) t r) : ∃ x, Runs a t x ∧ r = .ofResult fallback x := by
  obtain ⟨t₁, t₂, x, rfl, h₁, h₂⟩ := run_bind_iff.1 h
  obtain ⟨rfl, rfl⟩ := run_done_iff.1 h₂
  exact ⟨x, by rwa [List.append_nil], rfl⟩

end Rowgate.Keeper

namespace Rowgate

theorem Stage.responseCode_ne_success (s : Stage) : s.responseCode ≠ .success := by
  cases s <;> decide

theorem Error.responseCode_ne_success {fallback : ResponseCode} (hf : fallback ≠ .success)
    (e : Error) : e.responseCode fallback ≠ .success := by
  cases e with
  | execution stage m => exact stage.responseCode_ne_success
  | query | decode | timeout | pool | connection | config | serialization => exact hf
  | _ => exact fun h => by cases h

end Rowgate
