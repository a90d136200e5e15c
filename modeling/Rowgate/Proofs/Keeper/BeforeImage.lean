/-
  The rows before a change.

  * `Covers`: a query for whole rows has the condition of the statement of a change, or asks for
    the ids that its statements name one by one; `updateStatements_covers` and
    `deleteStatements_covers`: the queries that are built do;
  * `Imaged`: the ways that a change can go whose rows are read before;
  * `change_imaged`: an audited change reads the rows that it is about before it writes any, and
    these are the rows of its entry; no other change reads whole rows.
-/
import Rowgate.Proofs.Keeper.Report
import Rowgate.Proofs.Keeper.Routing
import Rowgate.Proofs.Keeper.Unplanned

namespace Rowgate.Keeper

open Program World Statement Script

variable {α : Type} {k : Keeper} {nested enabled : Bool} {p : Params} {task : Task}
  {entry : Entry} {name query text : String} {ids statements : List String}
  {t : List world.Event}

/-! ## The rows that a change is about -/

/-- Whole rows: all that meet a condition, in no order. -/
def selectText (name condition : String) : String :=
  "SELECT * FROM " ++ name ++ " WHERE " ++ condition

def deleteText (name condition : String) : String :=
  "DELETE FROM " ++ name ++ " WHERE " ++ condition

def idCondition (ids : List String) : String :=
  "id IN (" ++ Sql.idList ids ++ ")"

/-- The condition of a request: its ids, or else its own condition. -/
inductive Aim (p : Params) : String → Prop where
  | ids (hne : p.ids ≠ []) : Aim p (idCondition p.ids)
  | condition {text : String} (he : p.ids = []) (h : Condition.predicate p.condition = .ok text) :
      Aim p text

/-- The statement updates the row with an id, which it writes as a text or as an integer. -/
def UpdatesRow (name id text : String) : Prop :=
  ∃ set literal, text = updateText name set ("id=" ++ literal) ∧
    (literal = Sql.quote id ∨ literal = id ∧ ∃ n : Int64, id = integerText n)

/-- The rows of a query are those that the statements of a change are about. -/
inductive Covers (p : Params) (name : String) : Task → String → List String → Prop where
  | records {own statements : List String} (hown : p.records.mapM recordId? = some own)
      (h : List.Forall₂ (UpdatesRow name) own statements) :
      Covers p name .update (selectText name (idCondition own)) statements
  | update {condition : String} (hown : p.records.mapM recordId? = none) (h : Aim p condition)
      (set : String) :
      Covers p name .update (selectText name condition) [updateText name set condition]
  | delete {condition : String} (h : Aim p condition) :
      Covers p name .delete (selectText name condition) [deleteText name condition]

theorem render_whole (name condition : String) :
    (⟨name, [], [], 0, 0⟩ : Select).render (some ("WHERE " ++ condition)) =
      selectText name condition := by
  have hwhere : " " ++ ("WHERE " ++ condition) = " WHERE " ++ condition := by
    rw [← String.append_assoc]
    rfl
  unfold Select.render selectText
  simp only [List.isEmpty_nil, ↓reduceIte, String.reduceAppend, String.append_empty,
    lt_self_iff_false, hwhere, String.append_assoc]

theorem byIds_whole (h : (⟨name, [], [], 0, 0⟩ : Select).byIds ids = .ok text) :
    text = selectText name (idCondition ids) := by
  obtain ⟨_, -, h⟩ := Except.bind_eq_ok.1 h
  rw [← render_whole, ← Except.ok.inj h]
  exact congrArg _ (congrArg some (String.toList_inj.1 (by simp [idCondition, idField])))

theorem byCondition_whole {groups : List QueryGroup}
    (h : (⟨name, [], [], 0, 0⟩ : Select).byCondition groups = .ok text) :
    ∃ condition, Condition.predicate groups = .ok condition ∧
      text = selectText name condition := by
  obtain ⟨_, hwhere, h⟩ := Except.bind_eq_ok.1 h
  obtain ⟨condition, hc, rfl⟩ := Except.map_eq_ok.1 hwhere
  exact ⟨condition, hc, (Except.ok.inj h).symm.trans (render_whole name condition)⟩

theorem deleteByIds_text (h : deleteByIds p.table ids = .ok text) :
    ∃ name, sqlIdent p.table = .ok name ∧ text = deleteText name (idCondition ids) := by
  obtain ⟨name, hname, h⟩ := Except.bind_eq_ok.1 h
  obtain ⟨_, -, h⟩ := Except.bind_eq_ok.1 h
  rw [← Except.ok.inj h]
  exact ⟨name, hname, String.toList_inj.1 (by simp [deleteText, idCondition, idField])⟩

theorem deleteByCondition_text {groups : List QueryGroup}
    (h : deleteByCondition p.table groups = .ok text) :
    ∃ name condition, sqlIdent p.table = .ok name ∧ Condition.predicate groups = .ok condition ∧
      text = deleteText name condition := by
  obtain ⟨name, hname, h⟩ := Except.bind_eq_ok.1 h
  obtain ⟨_, hwhere, h⟩ := Except.bind_eq_ok.1 h
  obtain ⟨condition, hc, rfl⟩ := Except.map_eq_ok.1 hwhere
  rw [← Except.ok.inj h]
  exact ⟨name, condition, hname, hc, String.toList_inj.1 (by simp [deleteText])⟩

/-- The id of a record is the text of what its statement names. -/
theorem updatesRow_of_own {fields : List String} {record : Record}
    (h : UpdatesOwn name fields record text) {id : String} (hid : recordId? record = some id) :
    UpdatesRow name id text := by
  obtain ⟨set, literal, -, hown, rfl⟩ := h
  refine ⟨set, literal, rfl, ?_⟩
  unfold recordId? at hid
  cases hown with
  | string hs hne =>
    rw [hs] at hid
    dsimp only at hid
    split_ifs at hid
    cases hid
    exact .inl rfl
  | integer hn =>
    rw [hn] at hid
    cases hid
    exact .inr ⟨rfl, _, rfl⟩

theorem updateStatements_covers
    (h : updateStatements p (p.records.mapM recordId?).isSome (updateIds p) =
      .ok (statements, query)) :
    ∃ name, sqlIdent p.table = .ok name ∧ Covers p name .update query statements := by
  obtain ⟨select, hselect, hbuilt⟩ := updateStatements_built h
  obtain ⟨name, hname, rfl⟩ := Except.map_eq_ok.1 hselect
  refine ⟨name, hname, ?_⟩
  cases hbuilt with
  | records hown hu hb =>
    obtain ⟨name', hname', htexts⟩ := updateByRecords_eq_ok_iff.1 hu
    cases hname.symm.trans hname'
    rw [byIds_whole hb]
    exact .records hown (forall₂_share (mapM_some_forall₂ hown) htexts fun hid hu =>
      updatesRow_of_own hu hid)
  | ids hown hne hu hb =>
    obtain ⟨name', _, set, hname', -, -, -, -, rfl⟩ := updateByIds_eq_ok_iff.1 hu
    cases hname.symm.trans hname'
    rw [byIds_whole hb]
    exact .update hown (.ids hne) set
  | condition hown he hu hb =>
    obtain ⟨name', _, set, condition, hname', -, hc, -, rfl⟩ := updateByCondition_eq_ok_iff.1 hu
    obtain ⟨condition', hc', rfl⟩ := byCondition_whole hb
    cases hname.symm.trans hname'
    cases hc.symm.trans hc'
    exact .update hown (.condition he hc) set

theorem deleteStatements_covers (h : deleteStatements p = .ok (text, query)) :
    ∃ name, sqlIdent p.table = .ok name ∧ Covers p name .delete query [text] := by
  obtain ⟨select, hselect, hbuilt⟩ := deleteStatements_built h
  obtain ⟨name, hname, rfl⟩ := Except.map_eq_ok.1 hselect
  refine ⟨name, hname, ?_⟩
  cases hbuilt with
  | ids hne hd hb =>
    obtain ⟨name', hname', rfl⟩ := deleteByIds_text hd
    cases hname.symm.trans hname'
    rw [byIds_whole hb]
    exact .delete (.ids hne)
  | condition he hd hb =>
    obtain ⟨name', condition, hname', hc, rfl⟩ := deleteByCondition_text hd
    obtain ⟨condition', hc', rfl⟩ := byCondition_whole hb
    cases hname.symm.trans hname'
    cases hc.symm.trans hc'
    exact .delete (.condition he hc)

/-! ## Changes with an image of the rows before -/

/-- The query for the rows before a change, and then its statements. -/
def imageCalls (k : Keeper) (query : String) (statements : List String) : List DatabaseCall :=
  .query k.options.timeout query [] :: statements.map fun sql => .execute k.options.timeout sql []

/-- The query for the rows before, with its answer. -/
def imageEvent (k : Keeper) (query : String) (a : Except Error (List Row)) : world.Event :=
  ⟨.database (.query k.options.timeout query []), a⟩

/-- A change that comes to its transaction: its check is passed, nothing is written, and there
    are statements with a query that covers them. -/
structure Prepared (k : Keeper) (nested : Bool) (p : Params) (task : Task) (scope : Scope)
    (query : String) (statements : List String) (t : List world.Event) : Prop where
  checked : ∃ ids t₁ t₂, t = t₁ ++ t₂ ∧ Runs (k.authorize p task ids) t₁ (.ok ()) ∧
    Opened nested scope t₂
  unwritten : ∀ sql, SentText t sql → ¬ Writes sql
  covers : ∃ name, sqlIdent p.table = .ok name ∧ Covers p name task query statements

/-- The ways that a change can go whose rows are read before; whether it is done. -/
inductive Imaged (k : Keeper) (nested : Bool) (p : Params) (task : Task) :
    List world.Event → Bool → Prop where
  | unprepared {t : List world.Event} (ids : List String)
      (h : ∀ e ∈ t, CheckCall k p task ids t e.1) : Imaged k nested p task t false
  | refused {scope : Scope} {query : String} {statements : List String} {t : List world.Event}
      (h : Prepared k nested p task scope query statements t) (e : Error) :
      Imaged k nested p task (t ++ [scopeEvent scope.opening (.error e)]) false
  | undone {scope : Scope} {query : String} {statements : List String} {t w : List world.Event}
      (h : Prepared k nested p task scope query statements t) (m : UInt64)
      {a : Except Error (List Row)} {sent : Bool} {b : Except Error UInt64}
      (hs : Sent (k.imageCalls query statements) (k.imageEvent query a :: w) sent)
      (hb : sent = true → b.isOk = false) :
      Imaged k nested p task (t ++ scopeEvent scope.opening (.ok m) :: k.imageEvent query a :: w ++
        [scopeEvent (if sent then scope.commit else scope.rollback) b]) false
  | done {scope : Scope} {query : String} {statements : List String} {t w : List world.Event}
      (h : Prepared k nested p task scope query statements t) (m n : UInt64) {rows : List Row}
      {before : List Record}
      (hs : Sent (k.imageCalls query statements) (k.imageEvent query (.ok rows) :: w) true)
      (hrows : rows.mapM Row.toRecord = .ok before) (after : Json) (b : Except Error Unit) :
      Imaged k nested p task (t ++
        scopeEvent scope.opening (.ok m) :: k.imageEvent query (.ok rows) :: w ++
          [scopeEvent scope.commit (.ok n), ⟨.forget p.table, ()⟩,
            ⟨.record task p.user ⟨p.table, before, after⟩, b⟩]) true

theorem Prepared.of {scope : Scope} {t₁ t₂ : List world.Event}
    (ha : Runs (k.authorize p task ids) t₁ (.ok ())) (ho : Opened nested scope t₂)
    (hcovers : ∃ name, sqlIdent p.table = .ok name ∧ Covers p name task query statements) :
    Prepared k nested p task scope query statements (t₁ ++ t₂) := by
  refine ⟨⟨ids, t₁, t₂, rfl, ha, ho⟩, ?_, hcovers⟩
  rintro sql ⟨e, he, d, hd, hsql⟩
  rcases List.mem_append.1 he with he | he
  · rcases authorize_lookups ha e he with hnow | ⟨d', hd', c, hc, hlookup⟩
    · rw [hd] at hnow
      cases hnow
    · rw [hd] at hd'
      cases hd'
      exact reads (lookup_leads hc hlookup sql hsql)
  · rw [ho.mem he] at hd
    cases hd

/-- A block that begins with the query, and whose result has its rows. -/
structure Images (k : Keeper) (query : String) (statements : List String)
    (body : Action (List Record × α)) : Prop where
  sends : Sends body (k.imageCalls query statements)
  rows {t : List world.Event} {x : List Record × α} (h : Runs body t (.ok x)) :
    ∃ rows w, t = k.imageEvent query (.ok rows) :: w ∧ rows.mapM Row.toRecord = .ok x.1

theorem queryRecords_rows {stage : Stage} {before : List Record}
    (h : Runs (k.queryRecords stage query []) t (.ok before)) :
    ∃ rows, t = [k.imageEvent query (.ok rows)] ∧ rows.mapM Row.toRecord = .ok before := by
  obtain ⟨a, rfl, hrecords⟩ := queryRecords_run h
  cases a with
  | error e => cases hrecords
  | ok rows => exact ⟨rows, rfl, hrecords.symm⟩

theorem before_images {β : Type} {a : Action β}
    (ha : Sends a (statements.map fun sql => .execute k.options.timeout sql [])) (f : β → α)
    (hk : k.wantsBefore enabled = true) (stage : Stage) (query : String) :
    let rest := fun before => a >>= fun x => pure (before, f x)
    Images k query statements
      (if k.wantsBefore enabled then k.queryRecords stage query [] >>= rest
        else pure [] >>= rest) := by
  intro rest
  rw [if_pos hk]
  refine ⟨(k.queryRecords_sends stage query []).bind fun before => ha.map _, fun h => ?_⟩
  rcases runs_bind_iff.1 h with ⟨e, -, he⟩ | ⟨t₁, t₂, before, rfl, h₁, h₂⟩
  · cases he
  · obtain ⟨rows, rfl, hbefore⟩ := queryRecords_rows h₁
    obtain ⟨y, -, hy⟩ := runs_bind_pure_iff.1 h₂
    obtain ⟨y, -, rfl⟩ := Except.map_eq_ok.1 hy.symm
    exact ⟨rows, t₂, rfl, hbefore⟩

theorem Images.undone {body : Action (List Record × α)} (hi : Images k query statements body)
    {scope : Scope} {t w : List world.Event} {x : Except Error (List Record × α)}
    (hp : Prepared k nested p task scope query statements t) (m : UInt64) (h : Runs body w x)
    {b : Except Error UInt64} (hb : x.isOk = true → b.isOk = false) :
    Imaged k nested p task (t ++ (scopeEvent scope.opening (.ok m) :: w ++
      [scopeEvent (if x.isOk then scope.commit else scope.rollback) b])) false := by
  have hs := hi.sends w x h
  obtain ⟨a, w, rfl⟩ := hs.head
  rw [← List.append_assoc]
  exact .undone hp m hs hb

theorem recordAudit_entry {actor message : String} {entry : AuditEntry} {r : Except Error String}
    (hk : k.wantsBefore enabled = true)
    (h : Runs (k.recordAudit enabled task actor entry message) t r) :
    ∃ b, t = [⟨.record task actor entry, b⟩] := by
  obtain ⟨hlogged, -⟩ := recordAudit_logged h
  cases hlogged with
  | silent hn => exact absurd hk (Bool.eq_false_iff.1 hn)
  | recorded _ b => exact ⟨b, rfl⟩

theorem Images.imaged {body : Action (List Record × α)} (hi : Images k query statements body)
    (hk : k.wantsBefore enabled = true)
    (hcovers : ∃ name, sqlIdent p.table = .ok name ∧ Covers p name task query statements)
    {t₁ t₂ : List world.Event} (ha : Runs (k.authorize p task ids) t₁ (.ok ())) {after : Json}
    {message : String} {outcome : List Record × α → Outcome}
    {x : Except Error (String × Outcome)}
    (h : Runs (do
      let y ← transaction nested body
      ask (.forget p.table)
      let m ← k.recordAudit enabled task p.user ⟨p.table, y.1, after⟩ message
      return (m, outcome y)) t₂ x) : Imaged k nested p task (t₁ ++ t₂) x.isOk := by
  rcases runs_bind_iff.1 h with ⟨e, h₁, rfl⟩ | ⟨t₃, t₄, y, rfl, h₁, h₂⟩
  · -- without the transaction there is no news and no entry
    obtain ⟨scope, t₃, t₄, rfl, ho, hblock⟩ := transaction_run h₁
    have hp := Prepared.of ha ho hcovers
    rw [← List.append_assoc]
    cases hblock with
    | refused e => exact .refused hp e
    | uncommitted m e hbody => exact hi.undone hp m hbody fun _ => rfl
    | rolledBack m n hbody => exact hi.undone hp m hbody nofun
    | stuck m e' hbody => exact hi.undone hp m hbody nofun
  · obtain ⟨scope, t₃, t₅, rfl, ho, hblock⟩ := transaction_run h₁
    obtain ⟨u, m, rfl, hm, rfl⟩ := report_run h₂
    obtain ⟨b, rfl⟩ := recordAudit_entry hk hm
    cases hblock with
    | committed m n hbody =>
      obtain ⟨rows, w, rfl, hrows⟩ := hi.rows hbody
      have hdone := Imaged.done (Prepared.of ha ho hcovers) m n (hi.sends _ _ hbody) hrows after b
      show Imaged k nested p task _ true
      simpa using hdone

theorem update_imaged (hk : k.wantsBefore k.options.audit.update = true)
    {x : Except Error (String × Outcome)} (h : Runs (k.update nested p) t x) :
    Imaged k nested p .update t x.isOk := by
  rcases runs_bind_iff.1 h with ⟨e, h₁, rfl⟩ | ⟨t₁, t₂, _, rfl, h₁, h₂⟩
  · exact .unprepared _ (authorize_calls h₁)
  -- the check is passed, but the statements cannot be built
  have hunbuilt : Imaged k nested p .update (t₁ ++ []) false := by
    rw [List.append_nil]
    exact .unprepared _ (authorize_calls h₁)
  rcases runs_given_bind_iff.1 h₂ with ⟨e, -, rfl, rfl⟩ | ⟨_, -, h₃⟩
  · exact hunbuilt
  rcases runs_given_bind_iff.1 h₃ with ⟨e, -, rfl, rfl⟩ | ⟨⟨statements, beforeSql⟩, hs, h₄⟩
  · exact hunbuilt
  have hsends := Sends.mapM (fun sql => k.execute_sends .update sql []) statements
  exact (before_images hsends List.sum hk .update beforeSql).imaged hk (updateStatements_covers hs) h₁ h₄

theorem delete_imaged (hk : k.wantsBefore k.options.audit.delete = true) {r : Response}
    (h : Run (k.delete nested p) t r) : ∃ x, r = .ofResult .removeError x ∧
      Imaged k nested p .delete t x.isOk := by
  obtain ⟨x, h₀, rfl⟩ := answer_run h
  refine ⟨x, rfl, ?_⟩
  rcases runs_given_bind_iff.1 h₀ with ⟨e, -, rfl, rfl⟩ | ⟨⟨sql, beforeSql⟩, hs, h₁⟩
  · exact .unprepared p.ids fun e he => by cases he
  rcases runs_bind_iff.1 h₁ with ⟨e, h₂, rfl⟩ | ⟨t₁, t₂, _, rfl, h₂, h₃⟩
  · exact .unprepared _ (authorize_calls h₂)
  have hsends := k.execute_sends .delete sql []
  exact (before_images hsends id hk .delete beforeSql).imaged hk (deleteStatements_covers hs) h₂ h₃

/-! ## Changes of a call -/

/-- The calls that change rows which are there, with their tasks. -/
inductive Changes (p : Params) : Entry → Task → Prop where
  | update (h : SaveTask.classify p = .ok .update) : Changes p .save .update
  | delete : Changes p .delete .delete

theorem Changes.imaged (hc : Changes p entry task)
    (hk : k.wantsBefore (k.options.audit.covers task) = true) {r : Response}
    (h : Run (entry.run k nested p) t r) :
    ∃ done, (r.code = .success ↔ done = true) ∧ Imaged k nested p task t done := by
  cases hc with
  | update hclass =>
    obtain ⟨x, hx, rfl⟩ := answer_run h
    refine ⟨_, Entry.save.ofResult_success x, ?_⟩
    rcases runs_given_bind_iff.1 hx with ⟨e, he, -, -⟩ | ⟨_, hclass', hupdate⟩
    · rw [hclass] at he
      cases he
    · cases hclass.symm.trans hclass'
      exact update_imaged hk hupdate
  | delete =>
    obtain ⟨x, rfl, himaged⟩ := delete_imaged hk h
    exact ⟨_, Entry.delete.ofResult_success x, himaged⟩

/-- Without an image nothing is planned but the statements of the change. -/
theorem Changes.planned_leads (hc : Changes p entry task)
    (hk : k.wantsBefore (k.options.audit.covers task) = false) {cs : List DatabaseCall}
    (h : entry.planned k p = .ok cs) :
    ∀ d ∈ cs, ∀ sql ∈ texts d, Leads ["UPDATE", "DELETE"] sql := by
  intro d hd sql hsql
  cases hc with
  | update hclass =>
    obtain ⟨_, hclass', h⟩ := Except.bind_eq_ok.1 h
    cases hclass.symm.trans hclass'
    obtain ⟨_, -, h⟩ := Except.bind_eq_ok.1 h
    obtain ⟨⟨statements, query⟩, hs, h⟩ := Except.bind_eq_ok.1 h
    have hnone : k.beforeCalls k.options.audit.update query = [] := beforeCalls_unwanted hk query
    rw [← Except.ok.inj h, hnone] at hd
    obtain ⟨text, htext, rfl⟩ := List.mem_map.1 hd
    cases List.mem_singleton.1 hsql
    exact ((updateStatements_leads hs).1 _ htext).mono (by decide)
  | delete =>
    obtain ⟨⟨text, query⟩, hs, h⟩ := Except.bind_eq_ok.1 h
    have hnone : k.beforeCalls k.options.audit.delete query = [] := beforeCalls_unwanted hk query
    rw [← Except.ok.inj h, hnone] at hd
    cases List.mem_singleton.1 hd
    cases List.mem_singleton.1 hsql
    exact (deleteStatements_leads hs).1.mono (by decide)

theorem Changes.unimaged (hc : Changes p entry task)
    (hk : k.wantsBefore (k.options.audit.covers task) = false) {r : Response}
    (h : Run (entry.run k nested p) t r) {sql : String} (hs : SentText t sql) :
    ¬ Begins "SELECT *" sql := by
  obtain ⟨e, he, d, hd, hsql⟩ := hs
  have hrun : Run ((Operation.entry entry).run k nested p) t r := h
  rcases Operation.run_sent hrun he hd with ⟨task, ids, -, hcheck⟩ | hscope | ⟨cs, hcs, hmem⟩
  · exact (check_columns hcheck sql hsql).not_begins (by decide)
  · exact (scope_leads hscope sql hsql).not_begins (by decide)
  · exact (hc.planned_leads hk hcs d hmem sql hsql).not_begins (by decide)

/-- **The image before a change covers the rows of the change.**  A call that updates or deletes
    rows and is written to the audit log comes to its transaction only behind a check that is
    passed, with nothing written before.  The transaction begins with one query for whole rows;
    it has the condition of the statement, or asks for the ids that the statements name one by
    one, in order.  What it found is in the entry if the change is done.  Without audit log no
    call reads whole rows. -/
theorem change_imaged (hc : Changes p entry task) {r : Response}
    (h : Run (entry.run k nested p) t r) :
    (k.wantsBefore (k.options.audit.covers task) = true →
      ∃ done, (r.code = .success ↔ done = true) ∧ Imaged k nested p task t done) ∧
    (k.wantsBefore (k.options.audit.covers task) = false →
      ∀ sql, SentText t sql → ¬ Begins "SELECT *" sql) :=
  ⟨fun hk => hc.imaged hk h, fun hk _ hs => hc.unimaged hk h hs⟩

/-- A keeper with a log of updates, or with none. -/
def updateLog (update : Bool) : Keeper :=
  ⟨(Options.standard.withCheckAccess false).withAudit ⟨false, false, update, false⟩, true, none⟩

/-- A process that finds a note. -/
def noteScene : Scene :=
  .ofReplies [.empty, .ofCells [(⟨"id", .base .int2⟩, some [255, 249])]]

def loggedSave (update : Bool) : Program world Response :=
  Entry.save.run (updateLog update) true titleParams

theorem change_imaged_title :
    Imaged (updateLog true) true titleParams .update (noteScene.trace (loggedSave true)) true ∧
      recorded (noteScene.trace (loggedSave true)) = [(.update, "ann", ⟨"notes",
        [.ofList [("id", .integer (-7))]], Record.listJson titleParams.records⟩)] ∧
      ∀ sql, SentText (noteScene.trace (loggedSave false)) sql → ¬ Begins "SELECT *" sql := by
  have hchanges : Changes titleParams .save .update := .update rfl
  have hlogged : Run (loggedSave true) _ _ := noteScene.run_play (loggedSave true)
  have hplain : Run (loggedSave false) _ _ := noteScene.run_play (loggedSave false)
  obtain ⟨himaged, -⟩ := change_imaged hchanges hlogged
  obtain ⟨-, hunimaged⟩ := change_imaged hchanges hplain
  obtain ⟨done, hdone, h⟩ := himaged rfl
  obtain rfl : done = true := hdone.1 rfl
  exact ⟨h, rfl, hunimaged rfl⟩

end Rowgate.Keeper
