/-
  What a permit licenses.

  * `Restricted p ids ts`: the statement is about rows of the request's table whose key is
    one of the ids;
  * `planned_restricted`: with ids to check, all planned statements are restricted to them;
  * `permitted_call`: a permit without ids goes to an admin or rests on the grants on the
    table; with ids, a call sends restricted statements and those of its scope, nothing else.
-/
import Rowgate.Proofs.Keeper.Refusal
import Rowgate.Proofs.Sql.Builder

namespace Rowgate.Keeper

open Program World Script Statement Sql Entry

variable {k : Keeper} {nested : Bool} {p : Params} {entry : Entry} {task : Task}
  {ids : List String} {t : List world.Event}

/-- Statements about rows of the request's table whose keys are among the ids: `id IN (…)`
    with some of them, or `id = …` with that of a record. -/
inductive Restricted (p : Params) (ids : List String) : List Token → Prop where
  | select (steps : List SelectStep) {used : List String} (hne : used ≠ [])
      (h : ∀ id ∈ used, id ∈ ids) :
      Restricted p ids ((steps.foldl SelectStep.shape (.ofTable p.table)).tokens
        (some (keyInTokens used)))
  | updateIn (record : Record) (fields : List String) {used : List String} (hne : used ≠ [])
      (h : ∀ id ∈ used, id ∈ ids) :
      Restricted p ids (updateTokens p.table record fields (keyInTokens used))
  | updateIs {record : Record} (fields : List String) {id : String}
      (hid : recordId? record = some id) (h : id ∈ ids) :
      Restricted p ids (updateTokens p.table record fields (keyIsTokens record))
  | delete {used : List String} (hne : used ≠ []) (h : ∀ id ∈ used, id ∈ ids) :
      Restricted p ids (deleteTokens p.table (some (keyInTokens used)))

/-- The text of a statement that is restricted to the ids. -/
def RestrictedText (p : Params) (ids : List String) (sql : String) : Prop :=
  ∃ ts, tokens? sql = some ts ∧ Restricted p ids ts

inductive RestrictedCall (p : Params) (ids : List String) : DatabaseCall → Prop where
  | query (limit : Option Span) {sql : String} (h : RestrictedText p ids sql)
      (params : List Value) : RestrictedCall p ids (.query limit sql params)
  | execute (limit : Option Span) {sql : String} (h : RestrictedText p ids sql)
      (params : List Value) : RestrictedCall p ids (.execute limit sql params)

/-! ## Planned statements -/

theorem byIds_restricted {select : Select} (steps : List SelectStep)
    (hs : Shaped select (steps.foldl SelectStep.shape (.ofTable p.table))) {sql : String}
    (h : select.byIds ids = .ok sql) : RestrictedText p ids sql := by
  obtain ⟨_, hids, h⟩ := Except.bind_eq_ok.1 h
  obtain ⟨hne, -⟩ := requireIds_eq_ok hids
  rw [← Except.ok.inj h]
  exact ⟨_, (hs.render (.some (piece_keyIn hne))).tokens?_eq, .select steps hne fun _ h => h⟩

theorem before_restricted {enabled : Bool} {sql : String} (h : RestrictedText p ids sql) :
    ∀ d ∈ k.beforeCalls enabled sql, RestrictedCall p ids d := by
  intro d hd
  unfold beforeCalls at hd
  split_ifs at hd
  · cases List.mem_singleton.1 hd
    exact .query _ h []
  · cases hd

theorem recordIds_mem {records : List Record} (h : records.mapM recordId? = some ids) :
    ∀ record ∈ records, ∃ id ∈ ids, recordId? record = some id := by
  intro record hr
  exact forall₂_exists_right (mapM_some_forall₂ h) hr

/-- One statement per record, each about the record's own id. -/
theorem updateByRecords_restricted (hids : p.records.mapM recordId? = some ids)
    {texts : List String} (h : updateByRecords p.table p.records p.fields = .ok texts) :
    ∀ sql ∈ texts, RestrictedText p ids sql := by
  have hp := updateByRecords_pieces h
  rw [List.forall₂_map_right_iff] at hp
  intro sql hsql
  obtain ⟨record, hr, hpiece⟩ := forall₂_exists_right hp hsql
  obtain ⟨id, hm, hid⟩ := recordIds_mem hids record hr
  exact ⟨_, hpiece.tokens?_eq, .updateIs _ hid hm⟩

theorem updateStatements_restricted {statements : List String} {beforeSql : String}
    (h : updateStatements p (p.records.mapM recordId?).isSome (updateIds p) =
      .ok (statements, beforeSql)) (hne : updateIds p ≠ []) :
    (∀ sql ∈ statements, RestrictedText p (updateIds p) sql) ∧
      RestrictedText p (updateIds p) beforeSql := by
  obtain ⟨select, hselect, hbuilt⟩ := updateStatements_built h
  have hs := Shaped.ofTable hselect
  cases hbuilt with
  | @records own _ _ hown hu hb =>
    have hids : updateIds p = own := by rw [updateIds, hown, Option.getD_some]
    rw [hids]
    exact ⟨updateByRecords_restricted hown hu, byIds_restricted [] hs hb⟩
  | ids hown _ hu hb =>
    have hids : updateIds p = p.ids := by rw [updateIds, hown, Option.getD_none]
    rw [hids] at hne ⊢
    obtain ⟨record, -, hpiece⟩ := updateByIds_piece hu
    have htext : RestrictedText p p.ids _ :=
      ⟨_, hpiece.tokens?_eq, .updateIn record _ hne fun _ h => h⟩
    exact ⟨List.forall_mem_singleton.2 htext, byIds_restricted [] hs hb⟩
  | condition hown he =>
    rw [updateIds, hown] at hne
    exact absurd he hne

theorem updateCalls_restricted {cs : List DatabaseCall} (h : k.updateCalls p = .ok cs)
    (hne : updateIds p ≠ []) : ∀ d ∈ cs, RestrictedCall p (updateIds p) d := by
  obtain ⟨_, -, h⟩ := Except.bind_eq_ok.1 h
  obtain ⟨⟨statements, beforeSql⟩, hs, h⟩ := Except.bind_eq_ok.1 h
  obtain ⟨hstatements, hbefore⟩ := updateStatements_restricted hs hne
  rw [← Except.ok.inj h]
  intro d hd
  rcases List.mem_append.1 hd with hd | hd
  · exact before_restricted hbefore d hd
  · obtain ⟨sql, hsql, rfl⟩ := List.mem_map.1 hd
    exact .execute _ (hstatements sql hsql) []

theorem deleteCalls_restricted {cs : List DatabaseCall} (h : k.deleteCalls p = .ok cs)
    (hne : p.ids ≠ []) : ∀ d ∈ cs, RestrictedCall p p.ids d := by
  obtain ⟨⟨sql, beforeSql⟩, hs, h⟩ := Except.bind_eq_ok.1 h
  obtain ⟨select, hselect, hbuilt⟩ := deleteStatements_built hs
  rw [← Except.ok.inj h]
  cases hbuilt with
  | condition he => exact absurd he hne
  | ids _ h hb =>
    intro d hd
    rcases List.mem_append.1 hd with hd | hd
    · exact before_restricted (byIds_restricted [] (Shaped.ofTable hselect) hb) d hd
    · cases List.mem_singleton.1 hd
      exact .execute _ ⟨_, (deleteByIds_piece h).tokens?_eq, .delete hne fun _ h => h⟩ []

theorem readStatement_restricted {sql : String} (h : k.readStatement p = .ok sql)
    (hne : p.ids ≠ []) : RestrictedText p p.ids sql := by
  unfold readStatement at h
  obtain ⟨select, hselect, h⟩ := Except.bind_eq_ok.1 h
  obtain ⟨projected, hproject, h⟩ := Except.bind_eq_ok.1 h
  obtain ⟨sorted, hsort, h⟩ := Except.bind_eq_ok.1 h
  rw [if_pos (by simpa using hne)] at h
  have hs := ((((Shaped.ofTable hselect).project hproject).sort hsort).withLimit
    (k.options.effectiveLimit p.limit)).withOffset (max p.skip 0)
  exact byIds_restricted [.project p.projection, .sort p.order,
    .limit (k.options.effectiveLimit p.limit), .offset (max p.skip 0)] hs h

/-- With ids to check, all planned statements are restricted to them. -/
theorem planned_restricted {cs : List DatabaseCall} (hc : entry.checked? p = some (task, ids))
    (h : entry.planned k p = .ok cs) (hne : ids ≠ []) :
    ∀ d ∈ cs, RestrictedCall p ids d := by
  cases entry with
  | save =>
    obtain ⟨task, hs, h⟩ := Except.bind_eq_ok.1 h
    rw [Entry.checked?, hs] at hc
    cases task with
    | create records =>
      cases hc
      exact absurd rfl hne
    | update =>
      cases hc
      exact updateCalls_restricted h hne
  | get =>
    cases hc
    obtain ⟨sql, hsql, h⟩ := Except.bind_eq_ok.1 h
    cases h
    intro d hd
    cases List.mem_singleton.1 hd
    exact .query _ (readStatement_restricted hsql hne) []
  | delete =>
    cases hs : deleteStatements p with
    | ok statements =>
      rw [Entry.checked?, hs] at hc
      cases hc
      exact deleteCalls_restricted h hne
    | error e =>
      rw [Entry.checked?, hs] at hc
      cases hc

/-! ## What is sent behind a check -/

theorem Missed.no_database {useCache : Bool} (h : Missed p useCache t) :
    ∀ e ∈ t, ∀ d, e.1 ≠ .database d := by
  intro e he d hd
  cases h with
  | unused => cases he
  | missed =>
    cases List.mem_singleton.1 he
    cases hd

theorem remembered_no_database {useCache : Bool} {r : Except Error (List Record)} :
    ∀ e ∈ k.remembered p useCache r, ∀ d, e.1 ≠ .database d := by
  intro e he d hd
  unfold remembered at he
  split at he
  · split_ifs at he
    · cases List.mem_singleton.1 he
      cases hd
    · cases he
  · cases he

theorem Audited.no_database {actor : String} (h : Audited task actor t) :
    ∀ e ∈ t, ∀ d, e.1 ≠ .database d := by
  intro e he d hd
  cases h with
  | silent => cases he
  | recorded =>
    cases List.mem_singleton.1 he
    cases hd

theorem fetched_calls {useCache : Bool} {r : Except Error (List Record)}
    (h : Fetched k p useCache t r) {e : world.Event} (he : e ∈ t) {d : DatabaseCall}
    (hd : e.1 = .database d) : ∃ cs, Entry.get.planned k p = .ok cs ∧ d ∈ cs := by
  cases h with
  | hit =>
    cases List.mem_singleton.1 he
    cases hd
  | unplanned hm => exact absurd hd (hm.no_database e he d)
  | @asked t sql hm hs a =>
    rcases List.mem_append.1 he with he | he
    · exact absurd hd (hm.no_database e he d)
    rcases List.mem_cons.1 he with rfl | he
    · cases hd
      refine ⟨[.query k.options.timeout sql []], ?_, List.mem_cons_self⟩
      rw [Entry.planned, hs]
      rfl
    · exact absurd hd (remembered_no_database e he d)

theorem behind_calls {r : Except Error (String × Outcome)} (h : Behind k nested p task entry t r)
    {e : world.Event} (he : e ∈ t) {d : DatabaseCall} (hd : e.1 = .database d) :
    ScopeCall d ∨ ∃ cs, entry.planned k p = .ok cs ∧ d ∈ cs := by
  cases h with
  | read hf ha =>
    rcases List.mem_append.1 he with he | he
    · exact .inr (fetched_calls hf he hd)
    · exact absurd hd (ha.no_database e he d)
  | unread hf => exact .inr (fetched_calls hf he hd)
  | written _ hw =>
    cases hw with
    | unplanned => cases he
    | undone hp hs =>
      exact (hs.sends he hd).imp_right fun h => ⟨_, hp, h⟩
    | done hp hs ha =>
      rcases List.mem_append.1 he with he | he
      · exact (hs.sends he hd).imp_right fun h => ⟨_, hp, h⟩
      rcases List.mem_cons.1 he with rfl | he
      · cases hd
      · exact absurd hd (ha.no_database e he d)

/-- **Licence.**  Either access was checked without ids, and then the permit goes to an admin
    or rests on the grants on the table; or all that is sent behind the check are the
    statements of the scope, and statements about rows with the ids that were checked. -/
theorem permitted_call {r : Response} {t₁ t₂ : List world.Event} {reason : String}
    (hk : k.options.checkAccess) (h : Run (entry.run k nested p) (t₁ ++ t₂) r)
    (hc : entry.checked? p = some (task, ids))
    (hp : Runs (k.accessCheck p task ids) t₁ (.ok ⟨true, reason⟩)) :
    ids = [] ∧ (reason = "admin" ∨ reason = "table role") ∨
      ids ≠ [] ∧ ∀ e ∈ t₂, ∀ d, e.1 = .database d → ScopeCall d ∨ RestrictedCall p ids d := by
  obtain ⟨x, -, hcourse⟩ := Entry.run_course h
  have hb := hcourse.behind hc (authorize_permitted hk hp)
  by_cases hne : ids = []
  · refine .inl ⟨hne, ?_⟩
    obtain ⟨now, u, -, hu⟩ := accessCheck_run hp
    obtain ⟨u', hu', -⟩ := run_via_iff.1 hu
    rcases Access.check_licence hu' with h | h | ⟨-, h⟩
    · exact .inl h
    · exact .inr h
    · exact absurd hne h
  · refine .inr ⟨hne, fun e he d hd => ?_⟩
    rcases behind_calls hb he hd with h | ⟨cs, hcs, hmem⟩
    · exact .inl h
    · exact .inr (planned_restricted hc hcs hne d hmem)

/-- A process that finds a session, an active account with a group, no service, a grant on
    nothing, and that the account owns one record. -/
def ownerScene : Scene :=
  let text (name : String) : Column := ⟨name, .base .text⟩
  let bool (name : String) : Column := ⟨name, .base .bool⟩
  .ofReplies [
    .ofCells [(text "user_id", none), (text "token", none), (text "login_name", none),
      (⟨"expire", .base .int8⟩, some [0, 0, 0, 0, 0, 0, 0, 9])],
    .ofCells [(text "id", some [97]), (text "groups", some [97]), (bool "is_admin", none),
      (bool "is_active", some [1])],
    .empty,
    .ofCells [(text "service_id", none), (text "group_id", none), (bool "is_active", none),
      (bool "can_read", none), (bool "can_create", none), (bool "can_update", none),
      (bool "can_delete", none)],
    .ofCells [(⟨"count", .base .int8⟩, some [0, 0, 0, 0, 0, 0, 0, 1])]]

def ownerCheck : Action AccessDecision :=
  accessCheck (.standard true) (.ofIds "notes" "ann" ["7"]) .read ["7"]

/-- What is asked behind the check. -/
def ownerTrace : List world.Event :=
  [⟨.cached "notes" (Params.ofIds "notes" "ann" ["7"]).hashKey, (none : Option (List Record))⟩,
    ⟨.database (.query none "SELECT * FROM notes WHERE id IN ('7') LIMIT 10000" []), .ok []⟩]

/-- The owner of a row reads it, and nothing else. -/
theorem permitted_call_owner :
    (ownerScene.play ownerCheck).1 = .ok ⟨true, "owner"⟩ ∧
      RestrictedCall (.ofIds "notes" "ann" ["7"]) ["7"]
        (.query none "SELECT * FROM notes WHERE id IN ('7') LIMIT 10000" []) := by
  refine ⟨rfl, ?_⟩
  have hcheck : Runs ownerCheck _ (.ok ⟨true, "owner"⟩) := ownerScene.run_play ownerCheck
  have hrun : Run _ (ownerScene.trace ownerCheck ++ ownerTrace) _ :=
    ownerScene.run_play (Entry.get.run (.standard true) false (.ofIds "notes" "ann" ["7"]))
  rcases permitted_call rfl hrun rfl hcheck with ⟨h, -⟩ | ⟨-, h⟩
  · cases h
  rcases h _ (.tail _ (.head _)) _ rfl with ⟨scope, -, h | h | h⟩ | h
  · cases h
  · cases h
  · cases h
  · exact h

end Rowgate.Keeper
