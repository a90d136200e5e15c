/-
  What creating, updating and deleting do behind the access check.

  * `createCalls`, `updateCalls` and `deleteCalls` are the statements that a request plans to
    send, if they can be built; `InsertBuilt`, `UpdateBuilt` and `DeleteBuilt` are the ways to
    build them;
  * `Written`: the ways that a write with such a plan can go;
  * `create_written`, `update_written`, `delete_written`: there are no others.
-/
import Rowgate.Keeper.Delete
import Rowgate.Keeper.Save
import Rowgate.Proofs.Keeper.Basic
import Rowgate.Proofs.Statement.Insert

namespace Rowgate.Keeper

open Program World Statement

variable {α : Type} {k : Keeper} {nested : Bool} {p : Params} {t : List world.Event}

/-! ## Plans -/

/-- The query for the rows before a task, if they are kept. -/
def beforeCalls (k : Keeper) (enabled : Bool) (sql : String) : List DatabaseCall :=
  if k.wantsBefore enabled then [.query k.options.timeout sql []] else []

theorem beforeCalls_unwanted {enabled : Bool} (hk : k.wantsBefore enabled = false) (sql : String) :
    k.beforeCalls enabled sql = [] := by
  simp [beforeCalls, hk]

theorem mem_beforeCalls {enabled : Bool} {sql : String} {c : DatabaseCall}
    (h : c ∈ k.beforeCalls enabled sql) : c = .query k.options.timeout sql [] := by
  unfold beforeCalls at h
  split_ifs at h
  · exact List.mem_singleton.1 h
  · cases h

/-- The statements that insert records in the mode of the options. -/
def insertCalls (k : Keeper) (p : Params) (records : List Record) :
    Except Error (List DatabaseCall) :=
  match k.options.insertMode with
  | .parameterized => do
    let insert ← insertParameterized p.table records p.fields
    return insert.rows.map fun row => .query k.options.timeout insert.sql row
  | .literal => do
    let statements ← insertLiteral p.table records p.fields
    return statements.map fun sql => .query k.options.timeout sql []
  | .copy => do
    let copy ← insertCopy p.table records p.fields
    return [.copy k.options.timeout copy.sql copy.typesSql copy.rows]

def createCalls (k : Keeper) (p : Params) (records : List Record) :
    Except Error (List DatabaseCall) := do
  k.insertCalls p (← k.withDefaults records)

/-- The ids of an update: those of the records if all have one, else those of the request. -/
def updateIds (p : Params) : List String :=
  (p.records.mapM recordId?).getD p.ids

def updateCalls (k : Keeper) (p : Params) : Except Error (List DatabaseCall) := do
  k.checkPartial p.records
  let (statements, beforeSql) ← updateStatements p (p.records.mapM recordId?).isSome (updateIds p)
  return k.beforeCalls k.options.audit.update beforeSql ++
    statements.map fun sql => .execute k.options.timeout sql []

def deleteCalls (k : Keeper) (p : Params) : Except Error (List DatabaseCall) := do
  let (sql, beforeSql) ← deleteStatements p
  return k.beforeCalls k.options.audit.delete beforeSql ++ [.execute k.options.timeout sql []]

/-- The ways that the rows of a batch are inserted: by a query for each, with its values as
    parameters or as literals, or all by one COPY. -/
inductive InsertBuilt (k : Keeper) (b : Batch) : List DatabaseCall → Prop where
  | parameterized (hm : k.options.insertMode = .parameterized) :
      InsertBuilt k b
        (b.rows.map fun row => .query k.options.timeout b.parameterized.sql row)
  | literal {texts : List String} (hm : k.options.insertMode = .literal)
      (h : List.Forall₂ (IsLiteral b.table b.columns b.fields) b.rows texts) :
      InsertBuilt k b (texts.map fun sql => .query k.options.timeout sql [])
  | copy (hm : k.options.insertMode = .copy) :
      InsertBuilt k b [.copy k.options.timeout b.copy.sql b.copy.typesSql b.rows]

theorem insertCalls_built {records : List Record} {cs : List DatabaseCall}
    (h : k.insertCalls p records = .ok cs) :
    ∃ b, batch p.table records p.fields = .ok b ∧ InsertBuilt k b cs := by
  unfold insertCalls at h
  cases hm : k.options.insertMode with
  | parameterized =>
    rw [hm] at h
    obtain ⟨i, hi, h⟩ := Except.bind_eq_ok.1 h
    rw [insertParameterized_eq] at hi
    obtain ⟨b, hb, rfl⟩ := Except.map_eq_ok.1 hi
    cases h
    exact ⟨b, hb, .parameterized hm⟩
  | literal =>
    rw [hm] at h
    obtain ⟨texts, ht, h⟩ := Except.bind_eq_ok.1 h
    obtain ⟨b, hb, htexts⟩ := insertLiteral_eq_ok.1 ht
    cases h
    exact ⟨b, hb, .literal hm ((mapM_forall₂ htexts).imp fun _ _ => Batch.literal_isLiteral)⟩
  | copy =>
    rw [hm] at h
    obtain ⟨c, hc, h⟩ := Except.bind_eq_ok.1 h
    rw [insertCopy_eq] at hc
    obtain ⟨b, hb, rfl⟩ := Except.map_eq_ok.1 hc
    cases h
    exact ⟨b, hb, .copy hm⟩

/-- The ways that the statements of an update are built, with the query for the rows before:
    by the ids of the records if all have one, by those of the request, or by its condition. -/
inductive UpdateBuilt (p : Params) (select : Select) : List String → String → Prop where
  | records {own statements : List String} {before : String}
      (hown : p.records.mapM recordId? = some own)
      (h : updateByRecords p.table p.records p.fields = .ok statements)
      (hb : select.byIds own = .ok before) : UpdateBuilt p select statements before
  | ids {text before : String} (hown : p.records.mapM recordId? = none) (hne : p.ids ≠ [])
      (h : updateByIds p.table p.records p.fields p.ids = .ok text)
      (hb : select.byIds p.ids = .ok before) : UpdateBuilt p select [text] before
  | condition {text before : String} (hown : p.records.mapM recordId? = none) (he : p.ids = [])
      (h : updateByCondition p.table p.records p.fields p.condition = .ok text)
      (hb : select.byCondition p.condition = .ok before) : UpdateBuilt p select [text] before

theorem updateStatements_built {statements : List String} {before : String}
    (h : updateStatements p (p.records.mapM recordId?).isSome (updateIds p) =
      .ok (statements, before)) :
    ∃ select, Select.ofTable p.table = .ok select ∧ UpdateBuilt p select statements before := by
  obtain ⟨select, hselect, h⟩ := Except.bind_eq_ok.1 h
  refine ⟨select, hselect, ?_⟩
  cases hown : p.records.mapM recordId? with
  | some own =>
    have hids : updateIds p = own := by rw [updateIds, hown, Option.getD_some]
    rw [hown, hids] at h
    obtain ⟨statements, hs, h⟩ := Except.bind_eq_ok.1 h
    obtain ⟨before, hb, h⟩ := Except.bind_eq_ok.1 h
    cases h
    exact .records hown hs hb
  | none =>
    have hids : updateIds p = p.ids := by rw [updateIds, hown, Option.getD_none]
    rw [hown, if_neg (by simp), hids] at h
    split_ifs at h with hne hc
    · obtain ⟨text, ht, h⟩ := Except.bind_eq_ok.1 h
      obtain ⟨before, hb, h⟩ := Except.bind_eq_ok.1 h
      cases h
      exact .ids hown (by simpa using hne) ht hb
    · obtain ⟨text, ht, h⟩ := Except.bind_eq_ok.1 h
      obtain ⟨before, hb, h⟩ := Except.bind_eq_ok.1 h
      cases h
      exact .condition hown (by simpa using hne) ht hb

/-- The ways that the statement of a deletion is built, with the query for the rows before. -/
inductive DeleteBuilt (p : Params) (select : Select) : String → String → Prop where
  | ids {text before : String} (hne : p.ids ≠ []) (h : deleteByIds p.table p.ids = .ok text)
      (hb : select.byIds p.ids = .ok before) : DeleteBuilt p select text before
  | condition {text before : String} (he : p.ids = [])
      (h : deleteByCondition p.table p.condition = .ok text)
      (hb : select.byCondition p.condition = .ok before) : DeleteBuilt p select text before

theorem deleteStatements_built {text before : String}
    (h : deleteStatements p = .ok (text, before)) :
    ∃ select, Select.ofTable p.table = .ok select ∧ DeleteBuilt p select text before := by
  obtain ⟨select, hselect, h⟩ := Except.bind_eq_ok.1 h
  refine ⟨select, hselect, ?_⟩
  split_ifs at h with hne hc
  · obtain ⟨text, ht, h⟩ := Except.bind_eq_ok.1 h
    obtain ⟨before, hb, h⟩ := Except.bind_eq_ok.1 h
    cases h
    exact .ids (by simpa using hne) ht hb
  · obtain ⟨text, ht, h⟩ := Except.bind_eq_ok.1 h
    obtain ⟨before, hb, h⟩ := Except.bind_eq_ok.1 h
    cases h
    exact .condition (by simpa using hne) ht hb

/-! ## Behind a plan -/

/-- The ways that a planned write can go: the plan is none; its statements are not all done;
    or they are, and then the table is forgotten and the sink may be handed an entry. -/
inductive Written (nested : Bool) (p : Params) (task : Task)
    (calls : Except Error (List DatabaseCall)) :
    List world.Event → Except Error (String × Outcome) → Prop where
  | unplanned {e : Error} (h : calls = .error e) : Written nested p task calls [] (.error e)
  | undone {cs : List DatabaseCall} {t : List world.Event} (h : calls = .ok cs)
      (hs : Scoped nested cs t false) (e : Error) : Written nested p task calls t (.error e)
  | done {cs : List DatabaseCall} {t t' : List world.Event} (h : calls = .ok cs)
      (hs : Scoped nested cs t true) (ha : Audited task p.user t') (x : String × Outcome) :
      Written nested p task calls (t ++ ⟨.forget p.table, ()⟩ :: t') (.ok x)

/-- An action that builds a plan and then transacts it. -/
def Plans (nested : Bool) (a : Action α) (calls : Except Error (List DatabaseCall)) : Prop :=
  ∀ t r, Runs a t r → (∃ e, calls = .error e ∧ t = [] ∧ r = .error e) ∨
    ∃ cs, calls = .ok cs ∧ Scoped nested cs t r.isOk

theorem plans_transaction {body : Action α} {cs : List DatabaseCall} (hb : Sends body cs) :
    Plans nested (transaction nested body) (.ok cs) :=
  fun _ _ h => .inr ⟨cs, rfl, transaction_scoped hb h⟩

/-- A step of the building. -/
theorem plans_given {γ : Type} {x : Except Error γ} {f : γ → Action α}
    {g : γ → Except Error (List DatabaseCall)} (hf : ∀ y, Plans nested (f y) (g y)) :
    Plans nested (given x >>= f) (x >>= g) := by
  intro t r h
  rcases runs_given_bind_iff.1 h with ⟨e, rfl, rfl, rfl⟩ | ⟨y, rfl, h⟩
  · exact .inl ⟨e, rfl, rfl, rfl⟩
  · exact hf y t r h

theorem plans_map {β : Type} {a : Action α} {calls : Except Error (List DatabaseCall)}
    (ha : Plans nested a calls) (f : α → β) :
    Plans nested (a >>= fun x => pure (f x)) calls := by
  intro t r h
  obtain ⟨x, hx, rfl⟩ := runs_bind_pure_iff.1 h
  rcases ha t x hx with ⟨e, he, rfl, rfl⟩ | ⟨cs, hc, hs⟩
  · exact .inl ⟨e, he, rfl, rfl⟩
  · refine .inr ⟨cs, hc, ?_⟩
    cases x with
    | ok _ => exact hs
    | error _ => exact hs

/-- The steps behind a transaction: the cache is told, then the audit sink. -/
theorem report_run {task : Task} {enabled : Bool} {entry : AuditEntry} {message : String}
    {outcome : Outcome} {r : Except Error (String × Outcome)}
    (h : Runs (do
      ask (.forget p.table)
      let m ← k.recordAudit enabled task p.user entry message
      return (m, outcome)) t r) :
    ∃ u m, t = ⟨.forget p.table, ()⟩ :: u ∧
      Runs (k.recordAudit enabled task p.user entry message) u (.ok m) ∧ r = .ok (m, outcome) := by
  rcases runs_bind_iff.1 h with ⟨e, h₁, -⟩ | ⟨t₁, t₂, _, rfl, h₁, h₂⟩
  · obtain ⟨_, -, he⟩ := runs_ask_iff.1 h₁
    cases he
  obtain ⟨_, rfl, -⟩ := runs_ask_iff.1 h₁
  obtain ⟨m, hm, rfl⟩ := runs_bind_pure_iff.1 h₂
  obtain ⟨-, m, rfl⟩ := recordAudit_run hm
  exact ⟨t₂, m, rfl, hm, rfl⟩

theorem written_of_plans {a : Action α} {calls : Except Error (List DatabaseCall)}
    (ha : Plans nested a calls) {task : Task} {enabled : Bool} {entry : α → AuditEntry}
    {message : String} {outcome : α → Outcome} {r : Except Error (String × Outcome)}
    (h : Runs (do
      let x ← a
      ask (.forget p.table)
      let m ← k.recordAudit enabled task p.user (entry x) message
      return (m, outcome x)) t r) : Written nested p task calls t r := by
  rcases runs_bind_iff.1 h with ⟨e, h₁, rfl⟩ | ⟨t₁, t₂, x, rfl, h₁, h₂⟩
  · rcases ha _ _ h₁ with ⟨e', hc, rfl, he⟩ | ⟨cs, hc, hs⟩
    · cases he
      exact .unplanned hc
    · exact .undone hc hs e
  · rcases ha _ _ h₁ with ⟨e', -, -, he⟩ | ⟨cs, hc, hs⟩
    · cases he
    obtain ⟨u, m, rfl, hm, rfl⟩ := report_run h₂
    exact .done hc hs (recordAudit_run hm).1 _

/-! ## The three writes -/

theorem insertRecords_plans (k : Keeper) (nested : Bool) (p : Params) (records : List Record) :
    Plans nested (k.insertRecords nested p records) (k.insertCalls p records) := by
  unfold insertRecords insertCalls
  cases k.options.insertMode with
  | parameterized =>
    refine plans_given fun insert => plans_transaction (Sends.map ?_ _)
    exact Sends.mapM (fun row => k.returningIds_sends .insert insert.sql row) insert.rows
  | literal =>
    refine plans_given fun statements => plans_transaction (Sends.map ?_ _)
    exact Sends.mapM (fun sql => k.returningIds_sends .insert sql []) statements
  | copy =>
    exact plans_given fun copy => plans_map (plans_transaction (k.copy_sends .insert copy)) _

theorem create_written {records : List Record} {r : Except Error (String × Outcome)}
    (h : Runs (k.create nested p records) t r) :
    (∃ e, r = .error e ∧ Runs (k.authorize p .create []) t (.error e)) ∨
      ∃ t₁ t₂, t = t₁ ++ t₂ ∧ Runs (k.authorize p .create []) t₁ (.ok ()) ∧
        Written nested p .create (k.createCalls p records) t₂ r := by
  rcases runs_bind_iff.1 h with ⟨e, h₁, rfl⟩ | ⟨t₁, t₂, _, rfl, h₁, h₂⟩
  · exact .inl ⟨e, rfl, h₁⟩
  refine .inr ⟨t₁, t₂, rfl, h₁, ?_⟩
  unfold createCalls
  rcases runs_given_bind_iff.1 h₂ with ⟨e, he, rfl, rfl⟩ | ⟨rs, hrs, h₃⟩
  · rw [he]
    exact .unplanned rfl
  · rw [hrs]
    exact written_of_plans (k.insertRecords_plans nested p rs) h₃

/-- The rows before a task, and then its statements. -/
theorem before_sends {f : List Record → Action α} {cs : List DatabaseCall}
    (hf : ∀ before, Sends (f before) cs) (k : Keeper) (enabled : Bool) (stage : Stage)
    (sql : String) :
    Sends (if k.wantsBefore enabled then k.queryRecords stage sql [] >>= f else pure [] >>= f)
      (k.beforeCalls enabled sql ++ cs) := by
  unfold beforeCalls
  split_ifs
  · exact (k.queryRecords_sends stage sql []).bind hf
  · exact (Sends.pure []).bind hf

theorem update_written {r : Except Error (String × Outcome)} (h : Runs (k.update nested p) t r) :
    (∃ e, r = .error e ∧ Runs (k.authorize p .update (updateIds p)) t (.error e)) ∨
      ∃ t₁ t₂, t = t₁ ++ t₂ ∧ Runs (k.authorize p .update (updateIds p)) t₁ (.ok ()) ∧
        Written nested p .update (k.updateCalls p) t₂ r := by
  rcases runs_bind_iff.1 h with ⟨e, h₁, rfl⟩ | ⟨t₁, t₂, _, rfl, h₁, h₂⟩
  · exact .inl ⟨e, rfl, h₁⟩
  refine .inr ⟨t₁, t₂, rfl, h₁, ?_⟩
  unfold updateCalls updateIds
  rcases runs_given_bind_iff.1 h₂ with ⟨e, he, rfl, rfl⟩ | ⟨_, hpartial, h₃⟩
  · rw [he]
    exact .unplanned rfl
  rw [hpartial]
  rcases runs_given_bind_iff.1 h₃ with ⟨e, he, rfl, rfl⟩ | ⟨⟨statements, beforeSql⟩, hs, h₄⟩
  · rw [he]
    exact .unplanned rfl
  rw [hs]
  refine written_of_plans (plans_transaction ?_) h₄
  refine before_sends (fun before => Sends.map ?_ _) k k.options.audit.update .update beforeSql
  exact Sends.mapM (fun sql => k.execute_sends .update sql []) statements

theorem delete_written {r : Response} (h : Run (k.delete nested p) t r) :
    ∃ x, r = .ofResult .removeError x ∧
      ((∃ e, deleteStatements p = .error e ∧ t = [] ∧ x = .error e) ∨
        (∃ statements, deleteStatements p = .ok statements) ∧
          ((∃ e, x = .error e ∧ Runs (k.authorize p .delete p.ids) t (.error e)) ∨
            ∃ t₁ t₂, t = t₁ ++ t₂ ∧ Runs (k.authorize p .delete p.ids) t₁ (.ok ()) ∧
              Written nested p .delete (k.deleteCalls p) t₂ x)) := by
  obtain ⟨x, h₀, rfl⟩ := answer_run h
  refine ⟨x, rfl, ?_⟩
  rcases runs_given_bind_iff.1 h₀ with ⟨e, he, rfl, rfl⟩ | ⟨⟨sql, beforeSql⟩, hs, h₁⟩
  · exact .inl ⟨e, he, rfl, rfl⟩
  refine .inr ⟨⟨_, hs⟩, ?_⟩
  rcases runs_bind_iff.1 h₁ with ⟨e, h₂, rfl⟩ | ⟨t₁, t₂, _, rfl, h₂, h₃⟩
  · exact .inl ⟨e, rfl, h₂⟩
  refine .inr ⟨t₁, t₂, rfl, h₂, ?_⟩
  unfold deleteCalls
  rw [hs]
  refine written_of_plans (plans_transaction ?_) h₃
  refine before_sends (fun before => Sends.map ?_ _) k k.options.audit.delete .delete beforeSql
  exact k.execute_sends .delete sql []

end Rowgate.Keeper
