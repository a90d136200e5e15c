/-
  What the caller is told when a write is rolled back.

  * `queryRecords_blames`, `execute_blames`: a statement that fails is what its step fails with;
  * `create_undoes`, `update_undoes`, `delete_undoes`: each write goes back at once if one of its
    planned statements fails;
  * `rollback_unheard`: with any answer to the rollback, a write is answered with the same code
    and with the text of the failed statement.
-/
import Rowgate.Proofs.Keeper.Atomic
import Rowgate.Proofs.Keeper.Verb
import Rowgate.Proofs.Undoing

namespace Rowgate

open Program World Script

/-- The stage of the statements of a task. -/
def Task.stage : Task → Stage
  | .create => .insert
  | .read => .read
  | .update => .update
  | .delete => .delete

namespace Keeper

variable {α : Type} {k : Keeper} {nested : Bool} {p : Params} {task : Task} {ids : List String}
  {stage : Stage} {cs : List DatabaseCall}

/-! ## Failing statements -/

theorem queryRecords_blames (k : Keeper) (stage : Stage) (sql : String) (params : List Value) :
    Blames stage (k.queryRecords stage sql params) := by
  refine .single (c := .query k.options.timeout sql params) fun t e' h => ?_
  obtain ⟨a, rfl, he⟩ := queryRecords_run h
  cases a with
  | error e =>
    cases he
    exact ⟨_, e, rfl, rfl, rfl⟩
  | ok rows =>
    have hrows : rows.mapM Row.toRecord = .error e' := he.symm
    obtain ⟨row, -, hrow⟩ := mapM_eq_error hrows
    obtain ⟨column, m, rfl⟩ := toRecord_eq_error hrow
    exact ⟨.ok rows, .decode column m, rfl, failureOf_eq_some.2 hrows, rfl⟩

theorem returningIds_blames (k : Keeper) (sql : String) (params : List Value) :
    Blames stage (k.returningIds stage sql params) :=
  (k.queryRecords_blames stage sql params).map _

theorem execute_blames (k : Keeper) (sql : String) (params : List Value) :
    Blames stage (k.execute stage sql params) := by
  refine .single (c := .execute k.options.timeout sql params) fun t e' h => ?_
  obtain ⟨a, rfl, he⟩ := execute_run h
  cases a with
  | ok n => cases he
  | error e =>
    cases he
    exact ⟨_, e, rfl, rfl, rfl⟩

theorem copy_blames (k : Keeper) (c : Copy) :
    Blames stage
      (mapError (.tagged stage) (World.copy k.options.timeout c.sql c.typesSql c.rows)) := by
  refine .single (c := .copy k.options.timeout c.sql c.typesSql c.rows) fun t e' h => ?_
  obtain ⟨a, ha, he⟩ := runs_mapError_iff.1 h
  obtain rfl := run_call_iff.1 ha
  cases a with
  | ok n => cases he
  | error e =>
    cases he
    exact ⟨_, e, rfl, rfl, rfl⟩

/-! ## What is sent that is not planned -/

theorem inner_of_leads
    (h : ∀ c ∈ cs, ∀ sql ∈ texts c, Leads ["INSERT", "COPY", "UPDATE", "DELETE", "SELECT"] sql) :
    Inner cs := by
  intro c hc hscope
  have ⟨scope, hs, hd⟩ := hscope
  obtain ⟨sql, hsql⟩ : ∃ sql, sql ∈ texts c := by
    rcases hd with rfl | rfl | rfl <;> exact ⟨_, List.mem_cons_self⟩
  exact absurd ((h c hc sql hsql).meet (scope_leads hscope sql hsql)) (by decide)

/-- An access check sends its statements with parameters. -/
theorem check_params {t : List world.Event} {d : DatabaseCall}
    (h : CheckCall k p task ids t (.database d)) :
    ∃ sql params, params ≠ [] ∧ (d = .query none sql params ∨ d = .execute none sql params) := by
  cases h with
  | lookup hc h =>
    cases hc <;> obtain ⟨table, -, rfl⟩ := Except.map_eq_ok.1 h <;>
      exact ⟨_, _, List.cons_ne_nil _ _, .inl rfl⟩
  | discard _ _ _ _ h =>
    obtain ⟨table, -, rfl⟩ := Except.map_eq_ok.1 h
    exact ⟨_, _, List.cons_ne_nil _ _, .inr rfl⟩

/-- Statements that no access check sends. -/
def Unchecked (k : Keeper) (cs : List DatabaseCall) : Prop :=
  ∀ c ∈ cs, ∀ p task ids t, ¬CheckCall k p task ids t (.database c)

theorem unchecked_of_bare
    (h : ∀ c ∈ cs, ∃ limit sql, c = .query limit sql [] ∨ c = .execute limit sql []) :
    Unchecked k cs := by
  intro c hc p task ids t hcheck
  obtain ⟨sql, params, hne, hd⟩ := check_params hcheck
  obtain ⟨limit, sql', rfl | rfl⟩ := h c hc <;> rcases hd with hd | hd <;> cases hd <;> exact hne rfl

theorem insertCalls_unchecked {records : List Record} (h : k.insertCalls p records = .ok cs) :
    Unchecked k cs := by
  intro c hc p task ids t hcheck
  rcases insertCalls_cases h c hc with ⟨sql, params, rfl, hinsert⟩ | ⟨b, rfl⟩
  · exact absurd (hinsert.meet (check_leads hcheck sql List.mem_cons_self)) (by decide)
  · obtain ⟨_, _, -, hd | hd⟩ := check_params hcheck <;> cases hd

/-! ## Writes -/

theorem authorize_undoes (h : Unchecked k cs) :
    Undoes nested stage cs (k.authorize p task ids) := by
  refine .of_unsent fun t r hr e he c hc hd => ?_
  exact h c hc p task ids t (hd ▸ authorize_calls hr e he)

theorem recordAudit_undoes {enabled : Bool} {actor message : String} {entry : AuditEntry} :
    Undoes nested stage cs (k.recordAudit enabled task actor entry message) := by
  refine .of_unsent fun t r hr e he c hc hd => ?_
  obtain ⟨haudit, -⟩ := recordAudit_run hr
  cases haudit with
  | silent => cases he
  | recorded =>
    cases List.mem_singleton.1 he
    cases hd

/-- The steps behind a transaction ask nothing of the database. -/
theorem concluded_undoes {a : Action α} (ha : Undoes nested stage cs a) {enabled : Bool}
    {entry : α → AuditEntry} {message : String} {outcome : α → Outcome} :
    Undoes nested stage cs (do
      let x ← a
      ask (.forget p.table)
      let m ← k.recordAudit enabled task p.user (entry x) message
      return (m, outcome x)) := by
  have hforget : Undoes nested stage cs (ask (.forget p.table)) := .ask fun c h => by cases h
  exact ha.bind fun x => hforget.bind fun _ => recordAudit_undoes.map fun m => (m, outcome x)

theorem insertRecords_undoes {records : List Record} (h : k.insertCalls p records = .ok cs) :
    Undoes nested .insert cs (k.insertRecords nested p records) := by
  have hinner : Inner cs := inner_of_leads fun c hc sql hsql =>
    (insertCalls_leads h c hc sql hsql).mono (by decide)
  unfold insertRecords
  unfold insertCalls at h
  cases hm : k.options.insertMode with
  | parameterized =>
    rw [hm] at h
    obtain ⟨insert, hi, h⟩ := Except.bind_eq_ok.1 h
    cases h
    refine .given_bind hi (.transaction (Sends.map ?_ _) (Blames.map (.mapM ?_ _) _) hinner)
    · exact Sends.mapM (fun row => k.returningIds_sends .insert insert.sql row) insert.rows
    · exact fun row => k.returningIds_blames insert.sql row
  | literal =>
    rw [hm] at h
    obtain ⟨statements, hs, h⟩ := Except.bind_eq_ok.1 h
    cases h
    refine .given_bind hs (.transaction (Sends.map ?_ _) (Blames.map (.mapM ?_ _) _) hinner)
    · exact Sends.mapM (fun sql => k.returningIds_sends .insert sql []) statements
    · exact fun sql => k.returningIds_blames sql []
  | copy =>
    rw [hm] at h
    obtain ⟨copy, hc, h⟩ := Except.bind_eq_ok.1 h
    cases h
    exact .given_bind hc (.map (.transaction (k.copy_sends .insert copy) (k.copy_blames copy) hinner) _)

theorem create_undoes {records : List Record} (h : k.createCalls p records = .ok cs) :
    Undoes nested .insert cs (k.create nested p records) := by
  obtain ⟨rs, hrs, h⟩ := Except.bind_eq_ok.1 h
  refine (authorize_undoes (insertCalls_unchecked h)).bind fun _ => ?_
  exact .given_bind hrs (concluded_undoes (insertRecords_undoes h))

/-- The rows before a task, and then its statements. -/
theorem before_blames {f : List Record → Action α} (hf : ∀ before, Blames stage (f before))
    (k : Keeper) (enabled : Bool) (sql : String) :
    Blames stage
      (if k.wantsBefore enabled then k.queryRecords stage sql [] >>= f else pure [] >>= f) := by
  split_ifs
  · exact (k.queryRecords_blames stage sql []).bind hf
  · exact (Blames.pure []).bind hf

theorem update_undoes (h : k.updateCalls p = .ok cs) :
    Undoes nested .update cs (k.update nested p) := by
  have hinner : Inner cs := inner_of_leads fun c hc sql hsql =>
    (updateCalls_leads h c hc sql hsql).mono (by decide)
  obtain ⟨_, hpartial, h⟩ := Except.bind_eq_ok.1 h
  obtain ⟨⟨statements, beforeSql⟩, hs, h⟩ := Except.bind_eq_ok.1 h
  cases h
  have hbare : Unchecked k (k.beforeCalls k.options.audit.update beforeSql ++
      statements.map fun sql => .execute k.options.timeout sql []) := by
    refine unchecked_of_bare fun c hc => ?_
    rcases List.mem_append.1 hc with hc | hc
    · exact ⟨_, _, .inl (mem_beforeCalls hc)⟩
    · obtain ⟨sql, -, rfl⟩ := List.mem_map.1 hc
      exact ⟨_, sql, .inr rfl⟩
  refine (authorize_undoes hbare).bind fun _ => .given_bind hpartial (.given_bind hs ?_)
  refine concluded_undoes (.transaction ?_ ?_ hinner)
  · refine before_sends (fun before => Sends.map ?_ _) k k.options.audit.update .update beforeSql
    exact Sends.mapM (fun sql => k.execute_sends .update sql []) statements
  · refine before_blames (fun before => Blames.map ?_ _) k k.options.audit.update beforeSql
    exact .mapM (fun sql => k.execute_blames sql []) statements

theorem delete_undoes (h : k.deleteCalls p = .ok cs) {t : List world.Event} {r : Response}
    (hr : Run (k.delete nested p) t r) : ∃ a, Undoes nested .delete cs a ∧
      ∃ x, Runs a t x ∧ r = .ofResult .removeError x := by
  have hinner : Inner cs := inner_of_leads fun c hc sql hsql =>
    (deleteCalls_leads h c hc sql hsql).mono (by decide)
  obtain ⟨⟨sql, beforeSql⟩, hs, h⟩ := Except.bind_eq_ok.1 h
  cases h
  have hbare : Unchecked k (k.beforeCalls k.options.audit.delete beforeSql ++
      [.execute k.options.timeout sql []]) := by
    refine unchecked_of_bare fun c hc => ?_
    rcases List.mem_append.1 hc with hc | hc
    · exact ⟨_, _, .inl (mem_beforeCalls hc)⟩
    · exact ⟨_, sql, .inr (List.mem_singleton.1 hc)⟩
  refine ⟨_, ?_, answer_run hr⟩
  refine .given_bind hs ((authorize_undoes hbare).bind fun _ => ?_)
  refine concluded_undoes (.transaction ?_ ?_ hinner)
  · refine before_sends (fun before => Sends.map ?_ _) k k.options.audit.delete .delete beforeSql
    exact k.execute_sends .delete sql []
  · refine before_blames (fun before => Blames.map ?_ _) k k.options.audit.delete beforeSql
    exact k.execute_blames sql []

theorem entry_undoes {entry : Entry} (hne : entry ≠ .get)
    (hc : entry.checked? p = some (task, ids)) (hp : entry.planned k p = .ok cs)
    {t : List world.Event} {r : Response} (h : Run (entry.run k nested p) t r) :
    ∃ a, Undoes nested task.stage cs a ∧ ∃ x, Runs a t x ∧ r = .ofResult entry.fallback x := by
  cases entry with
  | get => exact absurd rfl hne
  | delete =>
    simp only [Entry.checked?] at hc
    split at hc
    · cases hc
      exact delete_undoes hp h
    · cases hc
  | save =>
    refine ⟨_, ?_, answer_run h⟩
    simp only [Entry.checked?] at hc
    split at hc
    · rename_i records hs
      cases hc
      rw [Entry.planned, hs] at hp
      exact .given_bind hs (create_undoes hp)
    · rename_i hs
      cases hc
      rw [Entry.planned, hs] at hp
      exact .given_bind hs (update_undoes hp)
    · cases hc

/-- **A rollback is not heard.**  If a planned statement of a write fails, all that follows is
    the rollback.  Whatever that is answered with, the caller is told the same code, by the
    failure of the statement and the task, and a message with the text of that failure. -/
theorem rollback_unheard {entry : Entry} (hne : entry ≠ .get)
    (hc : entry.checked? p = some (task, ids)) (hp : entry.planned k p = .ok cs)
    {t : List world.Event} {r : Response} (h : Run (entry.run k nested p) t r) {c : DatabaseCall}
    (hcs : c ∈ cs) {x : c.Answer} (hx : ⟨.database c, x⟩ ∈ t) {e : Error}
    (he : c.failure? x = some e) :
    ∃ u scope b, Begun nested scope u ∧
      t = u ++ [⟨.database c, x⟩, scopeEvent scope.rollback b] ∧
      ∀ b', (∃ r', Run (entry.run k nested p)
          (u ++ [⟨.database c, x⟩, scopeEvent scope.rollback b']) r') ∧
        ∀ r', Run (entry.run k nested p)
            (u ++ [⟨.database c, x⟩, scopeEvent scope.rollback b']) r' →
          Told task.stage entry.fallback e r' := by
  have hundone {t u v : List world.Event} {r : Response} (h : Run (entry.run k nested p) t r)
      (ht : t = u ++ ⟨.database c, x⟩ :: v) : ∃ scope b, Begun nested scope u ∧
        v = [scopeEvent scope.rollback b] ∧ Told task.stage entry.fallback e r := by
    obtain ⟨a, ha, y, hy, rfl⟩ := entry_undoes hne hc hp h
    obtain ⟨scope, b, hu, hv, rfl⟩ := ha hy ht hcs he
    exact ⟨scope, b, hu, hv, told_rolledBack _ _ e b⟩
  obtain ⟨u, v, rfl⟩ := List.append_of_mem hx
  obtain ⟨scope, b, hu, rfl, -⟩ := hundone h rfl
  refine ⟨u, scope, b, hu, rfl, fun b' => ⟨?_, fun r' hr' => ?_⟩⟩
  · -- the rollback is the last call whatever it is answered with
    have hsplit : u ++ [⟨.database c, x⟩, scopeEvent scope.rollback b] =
        (u ++ [⟨.database c, x⟩]) ++ [scopeEvent scope.rollback b] := by simp
    rw [hsplit] at h
    obtain ⟨w, r', hr'⟩ := h.reanswer (fun d => (Scene.answer d (Scene.ofReplies [])).1) b'
    rw [List.append_assoc] at hr'
    obtain ⟨_, _, -, hw, -⟩ := hundone hr' rfl
    obtain ⟨-, rfl⟩ := List.cons.inj hw
    exact ⟨r', hr'⟩
  · obtain ⟨_, _, -, -, htold⟩ := hundone hr' rfl
    exact htold

/-- The deletion whose connection is lost is told so, however its savepoint is left. -/
theorem rollback_unheard_lost : ∃ u scope, Begun true scope u ∧ ∀ b, ∃ r,
    Run lostDelete (u ++ [⟨.database (.execute none "DELETE FROM notes WHERE id IN ('7')" []),
      .error (.connection "lost")⟩, scopeEvent scope.rollback b]) r ∧
      r.code = .deleteError ∧ PartOf "Connection error: lost" r.message := by
  have hrun : Run lostDelete (lostScene.trace lostDelete) _ := lostScene.run_play lostDelete
  have hne : Entry.delete ≠ .get := nofun
  obtain ⟨u, scope, b, hu, -, hany⟩ := rollback_unheard hne rfl rfl hrun
    (List.mem_singleton.2 rfl) (.tail _ (.tail _ (.head _))) rfl
  refine ⟨u, scope, hu, fun b' => ?_⟩
  obtain ⟨⟨r', hr'⟩, htold⟩ := hany b'
  exact ⟨r', hr', (htold r' hr').code, (htold r' hr').cause⟩

end Keeper

end Rowgate
