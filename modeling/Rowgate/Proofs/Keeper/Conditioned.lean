/-
  Writes have a condition of their request.

  * `Writes`: a statement that changes or deletes rows;
  * `Conditioned p sql`: an UPDATE or a DELETE of the request's table by ids, by the id of a
    record, or by a condition with a comparison of an item that is not skipped;
  * `planned_write`: all writes that are planned are such;
  * `sent_write`: apart from deleting all rows, every write that is sent is such, or removes
    a session that had expired; `session_removed` is one of the latter.
-/
import Rowgate.Proofs.Keeper.Verb
import Rowgate.Proofs.Sql.Skipped

namespace Rowgate.Keeper

open Program World Script Statement Sql Entry

variable {k : Keeper} {nested : Bool} {p : Params} {op : Operation} {task : Task}
  {ids : List String} {t : List world.Event} {sql : String}

/-- Whether a statement changes or deletes rows. -/
def Writes (sql : String) : Prop :=
  "UPDATE".toList <+: sql.toList ∨ "DELETE".toList <+: sql.toList

/-- Predicates with a condition of the request: the key is one of its ids, or that of one of
    its records, or a field is compared as an item says that is not skipped. -/
inductive FromRequest (p : Params) : List Token → Prop where
  | ids (hne : p.ids ≠ []) (h : ∀ id ∈ p.ids, id ≠ "") : FromRequest p (keyInTokens p.ids)
  | key {record : Record} (hr : record ∈ p.records) {id : String}
      (hid : recordId? record = some id) (hne : id ≠ "") : FromRequest p (keyIsTokens record)
  | item {g : QueryGroup} (hg : g ∈ p.condition) {i : QueryItem} (hi : i ∈ g.items)
      (hs : ¬ i.Skippable) {ts : List Token} (hc : Compares i ts)
      (h : ts <:+: conditionTokens p.condition) : FromRequest p (conditionTokens p.condition)

/-- Writes to the request's table with such a predicate. -/
inductive ConditionedTokens (p : Params) : List Token → Prop where
  | update (record : Record) (fields : List String) {predicate : List Token}
      (h : FromRequest p predicate) :
      ConditionedTokens p (updateTokens p.table record fields predicate)
  | delete {predicate : List Token} (h : FromRequest p predicate) :
      ConditionedTokens p (deleteTokens p.table (some predicate))

def Conditioned (p : Params) (sql : String) : Prop :=
  ∃ ts, tokens? sql = some ts ∧ ConditionedTokens p ts

/-! ## Statements that do not write -/

theorem not_writes {words : List String} (h : Leads words sql)
    (hu : ∀ w ∈ words, ¬ w.toList <+: "UPDATE".toList ∧ ¬ "UPDATE".toList <+: w.toList)
    (hd : ∀ w ∈ words, ¬ w.toList <+: "DELETE".toList ∧ ¬ "DELETE".toList <+: w.toList) :
    ¬ Writes sql := by
  rintro (hupdate | hdelete)
  · exact h.not_begins hu hupdate
  · exact h.not_begins hd hdelete

theorem reads (h : Leads ["SELECT"] sql) : ¬ Writes sql :=
  not_writes h (by decide) (by decide)

/-- No statement of a call writes, except with a condition of the request. -/
def Guarded (p : Params) (d : DatabaseCall) : Prop :=
  ∀ sql ∈ texts d, Writes sql → Conditioned p sql

theorem insertCalls_guarded {records : List Record} {cs : List DatabaseCall}
    (h : k.insertCalls p records = .ok cs) : ∀ d ∈ cs, Guarded p d := by
  intro d hd sql hsql hw
  exact absurd hw (not_writes (insertCalls_leads h d hd sql hsql) (by decide) (by decide))

theorem before_guarded {enabled : Bool} (h : ¬ Writes sql) :
    ∀ d ∈ k.beforeCalls enabled sql, Guarded p d := by
  intro d hd sql' hsql hw
  rw [mem_beforeCalls hd] at hsql
  cases List.mem_singleton.1 hsql
  exact absurd hw h

theorem execute_guarded {limit : Option Span} {params : List Value} (h : Conditioned p sql) :
    Guarded p (.execute limit sql params) := by
  intro sql' hsql _
  cases List.mem_singleton.1 hsql
  exact h

/-! ## Statements that write -/

theorem recordId?_ne_empty {record : Record} {id : String} (h : recordId? record = some id) :
    id ≠ "" := by
  unfold recordId? at h
  split at h
  · split_ifs at h with he
    cases h
    exact fun h => he (String.isEmpty_iff.2 h)
  · rename_i n _
    cases h
    obtain ⟨c, r, hs, -⟩ := (literal_integer n).solid
    intro h
    rw [h] at hs
    cases hs
  · cases h

theorem fromRequest_condition {text : String} (h : Condition.whereClause p.condition = .ok text) :
    FromRequest p (conditionTokens p.condition) := by
  obtain ⟨text, htext, -⟩ := Except.map_eq_ok.1 h
  obtain ⟨g, hg, i, hi, ts, hc, hinfix⟩ := predicate_compares htext
  have ⟨_, _, _, _, hclause, _⟩ := hc
  exact .item hg hi (clause?_eq_some hclause) hc hinfix

theorem updateByIds_conditioned
    (h : updateByIds p.table p.records p.fields p.ids = .ok sql) : Conditioned p sql := by
  obtain ⟨record, -, hpiece⟩ := updateByIds_piece h
  obtain ⟨_, -, h⟩ := Except.bind_eq_ok.1 h
  obtain ⟨_, hids, -⟩ := Except.bind_eq_ok.1 h
  obtain ⟨hne, hall⟩ := requireIds_eq_ok hids
  exact ⟨_, hpiece.tokens?_eq, .update record _ (.ids hne hall)⟩

theorem updateByCondition_conditioned
    (h : updateByCondition p.table p.records p.fields p.condition = .ok sql) :
    Conditioned p sql := by
  obtain ⟨record, -, hpiece⟩ := updateByCondition_piece h
  obtain ⟨_, -, h⟩ := Except.bind_eq_ok.1 h
  obtain ⟨_, -, h⟩ := Except.bind_eq_ok.1 h
  obtain ⟨_, hwhere, -⟩ := Except.bind_eq_ok.1 h
  exact ⟨_, hpiece.tokens?_eq, .update record _ (fromRequest_condition hwhere)⟩

theorem updateByRecords_conditioned (hids : p.records.mapM recordId? = some ids)
    {all : List String} (h : updateByRecords p.table p.records p.fields = .ok all) :
    ∀ sql ∈ all, Conditioned p sql := by
  have hp := updateByRecords_pieces h
  rw [List.forall₂_map_right_iff] at hp
  intro sql hsql
  obtain ⟨record, hr, hpiece⟩ := forall₂_exists_right hp hsql
  obtain ⟨id, -, hid⟩ := recordIds_mem hids record hr
  exact ⟨_, hpiece.tokens?_eq, .update record _ (.key hr hid (recordId?_ne_empty hid))⟩

theorem deleteByIds_conditioned (h : deleteByIds p.table p.ids = .ok sql) : Conditioned p sql := by
  have hpiece := deleteByIds_piece h
  obtain ⟨_, -, h⟩ := Except.bind_eq_ok.1 h
  obtain ⟨_, hids, -⟩ := Except.bind_eq_ok.1 h
  obtain ⟨hne, hall⟩ := requireIds_eq_ok hids
  exact ⟨_, hpiece.tokens?_eq, .delete (.ids hne hall)⟩

theorem deleteByCondition_conditioned (h : deleteByCondition p.table p.condition = .ok sql) :
    Conditioned p sql := by
  have hpiece := deleteByCondition_piece h
  obtain ⟨_, -, h⟩ := Except.bind_eq_ok.1 h
  obtain ⟨_, hwhere, -⟩ := Except.bind_eq_ok.1 h
  exact ⟨_, hpiece.tokens?_eq, .delete (fromRequest_condition hwhere)⟩

/-! ## Planned statements -/

theorem updateStatements_conditioned {statements : List String} {beforeSql : String}
    (h : updateStatements p (p.records.mapM recordId?).isSome (updateIds p) =
      .ok (statements, beforeSql)) :
    (∀ sql ∈ statements, Conditioned p sql) ∧ ¬ Writes beforeSql := by
  obtain ⟨select, -, hbuilt⟩ := updateStatements_built h
  cases hbuilt with
  | records hown hu hb =>
    exact ⟨updateByRecords_conditioned hown hu, reads (byIds_leads hb List.mem_cons_self)⟩
  | ids _ _ hu hb =>
    exact ⟨List.forall_mem_singleton.2 (updateByIds_conditioned hu),
      reads (byIds_leads hb List.mem_cons_self)⟩
  | condition _ _ hu hb =>
    exact ⟨List.forall_mem_singleton.2 (updateByCondition_conditioned hu),
      reads (byCondition_leads hb List.mem_cons_self)⟩

theorem updateCalls_guarded {cs : List DatabaseCall} (h : k.updateCalls p = .ok cs) :
    ∀ d ∈ cs, Guarded p d := by
  obtain ⟨_, -, h⟩ := Except.bind_eq_ok.1 h
  obtain ⟨⟨statements, beforeSql⟩, hs, h⟩ := Except.bind_eq_ok.1 h
  obtain ⟨hstatements, hbefore⟩ := updateStatements_conditioned hs
  rw [← Except.ok.inj h]
  intro d hd
  rcases List.mem_append.1 hd with hd | hd
  · exact before_guarded hbefore d hd
  · obtain ⟨sql, hsql, rfl⟩ := List.mem_map.1 hd
    exact execute_guarded (hstatements sql hsql)

theorem deleteStatements_conditioned {sql beforeSql : String}
    (h : deleteStatements p = .ok (sql, beforeSql)) :
    Conditioned p sql ∧ ¬ Writes beforeSql := by
  obtain ⟨select, -, hbuilt⟩ := deleteStatements_built h
  cases hbuilt with
  | ids _ hd hb => exact ⟨deleteByIds_conditioned hd, reads (byIds_leads hb List.mem_cons_self)⟩
  | condition _ hd hb =>
    exact ⟨deleteByCondition_conditioned hd, reads (byCondition_leads hb List.mem_cons_self)⟩

theorem deleteCalls_guarded {cs : List DatabaseCall} (h : k.deleteCalls p = .ok cs) :
    ∀ d ∈ cs, Guarded p d := by
  obtain ⟨⟨sql, beforeSql⟩, hs, h⟩ := Except.bind_eq_ok.1 h
  obtain ⟨hsql, hbefore⟩ := deleteStatements_conditioned hs
  rw [← Except.ok.inj h]
  intro d hd
  rcases List.mem_append.1 hd with hd | hd
  · exact before_guarded hbefore d hd
  · cases List.mem_singleton.1 hd
    exact execute_guarded hsql

theorem readStatement_reads (h : k.readStatement p = .ok sql) : ¬ Writes sql := by
  unfold readStatement at h
  obtain ⟨_, -, h⟩ := Except.bind_eq_ok.1 h
  obtain ⟨_, -, h⟩ := Except.bind_eq_ok.1 h
  obtain ⟨_, -, h⟩ := Except.bind_eq_ok.1 h
  split_ifs at h
  · exact reads (byIds_leads h List.mem_cons_self)
  · exact reads (byCondition_leads h List.mem_cons_self)
  · cases h
    exact reads (render_leads _ _ List.mem_cons_self)

theorem get_guarded {cs : List DatabaseCall} (h : Entry.get.planned k p = .ok cs) :
    ∀ d ∈ cs, Guarded p d := by
  obtain ⟨sql, hsql, h⟩ := Except.bind_eq_ok.1 h
  cases h
  intro d hd sql' hsql' hw
  cases List.mem_singleton.1 hd
  cases List.mem_singleton.1 hsql'
  exact absurd hw (readStatement_reads hsql)

/-- Apart from deleting all rows, every write that is planned has a condition. -/
theorem planned_write (hop : op ≠ .deleteAll) {cs : List DatabaseCall}
    (h : op.planned k p = .ok cs) : ∀ d ∈ cs, Guarded p d := by
  cases op with
  | entry entry =>
    cases entry with
    | save =>
      obtain ⟨task, -, h⟩ := Except.bind_eq_ok.1 h
      cases task with
      | create records =>
        obtain ⟨_, -, h⟩ := Except.bind_eq_ok.1 h
        exact insertCalls_guarded h
      | update => exact updateCalls_guarded h
    | get => exact get_guarded h
    | delete => exact deleteCalls_guarded h
  | lookup => exact get_guarded h
  | deleteAll => exact absurd rfl hop

/-! ## What is sent besides -/

/-- The removal of a session that the access check has read and that had expired. -/
inductive Discard (k : Keeper) (p : Params) (t : List world.Event) : DatabaseCall → Prop where
  | intro {now : Int} {s : Rowgate.Session} {table : String} {row : Row} {rows : List Row}
      {d : DatabaseCall} (hnow : ⟨.now, now⟩ ∈ t) (hs : s.isExpiredAt now)
      (hfound : databaseEvent ⟨SqlStore.sessionQuery table p.user p.token, .ok (row :: rows)⟩ ∈ t)
      (hrow : SqlStore.session row = .ok s)
      (h : SqlStore.statement k.options.tables (.deleteSession s.user s.token) = .ok d) :
      Discard k p t d

theorem check_writes {d : DatabaseCall} (h : CheckCall k p task ids t (.database d))
    (hsql : sql ∈ texts d) (hw : Writes sql) : Discard k p t d := by
  cases h with
  | lookup hc h => exact absurd hw (reads (lookup_leads hc h sql hsql))
  | discard hnow hs hfound hrow h => exact .intro hnow hs hfound hrow h

/-! ## What is sent -/

/-- A request that names no row: no id, no record with an id, and no item that is not skipped. -/
structure Blank (p : Params) : Prop where
  ids : p.ids = []
  records : ∀ record ∈ p.records, recordId? record = none
  condition : ∀ g ∈ p.condition, ∀ i ∈ g.items, i.Skippable

theorem Blank.not_conditioned (h : Blank p) : ¬ Conditioned p sql := by
  rintro ⟨ts, -, hts⟩
  have hnone : ∀ predicate, ¬ FromRequest p predicate := by
    intro predicate hp
    cases hp with
    | ids hne => exact hne h.ids
    | key hr hid =>
      rw [h.records _ hr] at hid
      cases hid
    | item hg hi hs => exact hs (h.condition _ hg _ hi)
  cases hts with
  | update _ _ hp => exact hnone _ hp
  | delete hp => exact hnone _ hp

/-- **No write without a condition.**  Apart from deleting all rows, every UPDATE or DELETE that
    an operation sends is about the rows of the request's table that meet a condition taken
    from the request, or it removes a session that had expired.  A request that names no row
    writes to none. -/
theorem sent_write {r : Response} (h : Run (op.run k nested p) t r) (hop : op ≠ .deleteAll) :
    (∀ e ∈ t, ∀ d, e.1 = .database d → ∀ sql ∈ texts d, Writes sql →
      Discard k p t d ∨ Conditioned p sql) ∧
      (Blank p → ∀ e ∈ t, ∀ d, e.1 = .database d → ∀ sql ∈ texts d, Writes sql →
        Discard k p t d) := by
  have hsent : ∀ e ∈ t, ∀ d, e.1 = .database d → ∀ sql ∈ texts d, Writes sql →
      Discard k p t d ∨ Conditioned p sql := by
    intro e he d hd sql hsql hw
    rcases Operation.run_sent h he hd with ⟨task, ids, -, hc⟩ | hs | ⟨cs, hcs, hmem⟩
    · exact .inl (check_writes hc hsql hw)
    · exact absurd hw (not_writes (scope_leads hs sql hsql) (by decide) (by decide))
    · exact .inr (planned_write hop hcs d hmem sql hsql hw)
  exact ⟨hsent, fun hb e he d hd sql hsql hw =>
    (hsent e he d hd sql hsql hw).resolve_right hb.not_conditioned⟩

/-- A title for a note with an id, in an open transaction. -/
def titleParams : Params :=
  { Params.ofIds "notes" "ann" [] with
    records := [.ofList [("id", .integer (-7)), ("title", .string "it's")]] }

def titleSave : Program world Response :=
  (Operation.entry .save).run (.standard false) true titleParams

/-- What is asked if everything succeeds. -/
def titleTrace : List world.Event :=
  [⟨.savepoint, (0 : UInt64)⟩,
    ⟨.database (.execute none "SAVEPOINT pgcrud_sp_0" []), .ok 1⟩,
    ⟨.database (.execute none "UPDATE notes SET title='it''s' WHERE id=-7" []), .ok 1⟩,
    ⟨.database (.execute none "RELEASE SAVEPOINT pgcrud_sp_0" []), .ok 1⟩,
    ⟨.forget "notes", ()⟩]

theorem sent_write_title : (Scene.ofReplies []).trace titleSave = titleTrace ∧
    Conditioned titleParams "UPDATE notes SET title='it''s' WHERE id=-7" := by
  refine ⟨rfl, ?_⟩
  have hrun : Run titleSave titleTrace _ := (Scene.ofReplies []).run_play titleSave
  obtain ⟨hsent, -⟩ := sent_write hrun (by decide)
  rcases hsent _ (.tail _ (.tail _ (.head _))) _ rfl _ List.mem_cons_self (.inl ⟨_, rfl⟩) with
    hdiscard | h
  · cases hdiscard with
    | intro hnow =>
      simp only [titleTrace, List.mem_cons, List.not_mem_nil, or_false] at hnow
      rcases hnow with h | h | h | h | h <;> cases h
  · exact h

/-- A process that finds a session that ended before the time 0. -/
def endedScene : Scene :=
  let text (name : String) : Column := ⟨name, .base .text⟩
  .ofReplies [.ofCells [(text "user_id", none), (text "token", none), (text "login_name", none),
    (⟨"expire", .base .int8⟩, some [255, 255, 255, 255, 255, 255, 255, 255])]]

def endedDelete : Program world Response :=
  (Operation.entry .delete).run (.standard true) false (.ofIds "notes" "ann" ["7"])

/-- The DELETE of a session takes no condition from the request. -/
theorem session_removed : ∃ (t : List world.Event) (r : Response) (sql : String)
    (params : List Value) (a : Except Error UInt64), Run endedDelete t r ∧
      ⟨.database (.execute none sql params), a⟩ ∈ t ∧ Writes sql ∧
      ¬ Conditioned (.ofIds "notes" "ann" ["7"]) sql := by
  refine ⟨endedScene.trace endedDelete, _,
    "DELETE FROM access_keys WHERE user_id = $1 AND token = $2", [.string "", .string ""], .ok 1,
    endedScene.run_play endedDelete, .tail _ (.tail _ (.head _)), .inr ⟨_, rfl⟩, ?_⟩
  rintro ⟨ts, hts, hc⟩
  have htokens : tokens? "DELETE FROM access_keys WHERE user_id = $1 AND token = $2" = some
      [.word "DELETE", .word "FROM", .word "access_keys", .word "WHERE", .word "user_id",
        .operator "=", .parameter "1", .word "AND", .word "token", .operator "=",
        .parameter "2"] := by decide
  have hname : nameTokens "notes" = [.word "notes"] := by decide
  rw [htokens] at hts
  cases hc with
  | update => simp [updateTokens] at hts
  | delete => simp [deleteTokens, Params.ofIds, hname] at hts

end Rowgate.Keeper
