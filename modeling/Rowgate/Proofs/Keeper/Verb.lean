/-
  The words that statements begin with.

  * `Leads words sql`: the text begins with one of the words; `Leads.not_begins` excludes others;
  * `insertCalls_leads`, `updateCalls_leads`, `deleteCalls_leads`: what is planned to insert, to
    update and to delete records;
  * `scope_leads`, `check_leads`: what goes around a transaction, and what an access check asks.
-/
import Rowgate.Proofs.Keeper.Operation
import Rowgate.Proofs.Statement.Update

namespace Rowgate.Keeper

open Program World Statement

variable {k : Keeper} {p : Params} {sql : String} {words : List String}

/-- The text of a statement, and of the query that goes with a COPY. -/
def texts : DatabaseCall → List String
  | .query _ sql _ | .execute _ sql _ => [sql]
  | .copy _ sql typesSql _ => [sql, typesSql]

/-! ## First words -/

def Begins (word sql : String) : Prop :=
  word.toList <+: sql.toList

def Leads (words : List String) (sql : String) : Prop :=
  ∃ word ∈ words, Begins word sql

instance : DecidableRel Begins := fun word sql =>
  inferInstanceAs (Decidable (word.toList <+: sql.toList))

instance : DecidableRel Leads := fun words sql =>
  inferInstanceAs (Decidable (∃ word ∈ words, Begins word sql))

theorem leads_append {w s r : String} (hw : w ∈ words) (h : w.toList <+: s.toList) :
    Leads words (s ++ r) := by
  refine ⟨w, hw, ?_⟩
  rw [Begins, String.toList_append]
  exact h.trans (List.prefix_append _ _)

theorem Leads.mono (h : Leads words sql) {words' : List String} (hw : ∀ w ∈ words, w ∈ words') :
    Leads words' sql := by
  obtain ⟨w, hmem, hbegins⟩ := h
  exact ⟨w, hw w hmem, hbegins⟩

/-- A text begins with what its first words begin with. -/
theorem Leads.shorten (h : Leads words sql) {words' : List String}
    (hw : ∀ w ∈ words, Leads words' w) : Leads words' sql := by
  obtain ⟨w, hmem, hbegins⟩ := h
  obtain ⟨w', hmem', hbegins'⟩ := hw w hmem
  exact ⟨w', hmem', hbegins'.trans hbegins⟩

/-- Of the first words of one text, one begins the other. -/
theorem Leads.meet (h : Leads words sql) {words' : List String} (h' : Leads words' sql) :
    ∃ w ∈ words, ∃ w' ∈ words', w.toList <+: w'.toList ∨ w'.toList <+: w.toList := by
  obtain ⟨w, hmem, hbegins⟩ := h
  obtain ⟨w', hmem', hbegins'⟩ := h'
  exact ⟨w, hmem, w', hmem', List.prefix_or_prefix_of_prefix hbegins hbegins'⟩

/-- A text that begins with one word begins with no other, if neither begins the other. -/
theorem Leads.not_begins (h : Leads words sql) {word : String}
    (hw : ∀ w ∈ words, ¬ w.toList <+: word.toList ∧ ¬ word.toList <+: w.toList) :
    ¬ Begins word sql := by
  intro hword
  obtain ⟨w, hmem, w', hmem', hmeet⟩ := h.meet ⟨word, List.mem_singleton_self word, hword⟩
  cases List.mem_singleton.1 hmem'
  exact not_or_intro (hw w hmem).1 (hw w hmem).2 hmeet

/-! ## Statements on records -/

theorem render_leads (s : Select) (predicate : Option String) (hw : "SELECT" ∈ words) :
    Leads words (s.render predicate) := by
  unfold Select.render
  simp only [String.append_assoc]
  exact leads_append hw (by decide)

theorem byIds_leads {s : Select} {ids : List String} (h : s.byIds ids = .ok sql)
    (hw : "SELECT" ∈ words) : Leads words sql := by
  obtain ⟨_, -, h⟩ := Except.bind_eq_ok.1 h
  rw [← Except.ok.inj h]
  exact render_leads s _ hw

theorem byCondition_leads {s : Select} {groups : List QueryGroup}
    (h : s.byCondition groups = .ok sql) (hw : "SELECT" ∈ words) : Leads words sql := by
  obtain ⟨_, -, h⟩ := Except.bind_eq_ok.1 h
  rw [← Except.ok.inj h]
  exact render_leads s _ hw

theorem insertText_leads (table : String) (columns values : List String) (hw : "INSERT" ∈ words) :
    Leads words (insertText table columns values) := by
  unfold insertText
  simp only [String.append_assoc]
  exact leads_append hw (by decide)

theorem updateText_leads (name set condition : String) (hw : "UPDATE" ∈ words) :
    Leads words (updateText name set condition) := by
  unfold updateText
  simp only [String.append_assoc]
  exact leads_append hw (by decide)

theorem copy_leads (b : Batch) (hc : "COPY" ∈ words) (hs : "SELECT" ∈ words) :
    Leads words b.copy.sql ∧ Leads words b.copy.typesSql := by
  simp only [Batch.copy, String.append_assoc]
  exact ⟨leads_append hc (by decide), leads_append hs (by decide)⟩

/-! ## Planned statements -/

/-- Records are inserted by queries, or by one COPY. -/
theorem insertCalls_cases {records : List Record} {cs : List DatabaseCall}
    (h : k.insertCalls p records = .ok cs) :
    ∀ d ∈ cs, (∃ sql params, d = .query k.options.timeout sql params ∧ Leads ["INSERT"] sql) ∨
      ∃ b : Batch, d = .copy k.options.timeout b.copy.sql b.copy.typesSql b.copy.rows := by
  obtain ⟨b, -, hbuilt⟩ := insertCalls_built h
  intro d hd
  cases hbuilt with
  | parameterized =>
    obtain ⟨row, -, rfl⟩ := List.mem_map.1 hd
    exact .inl ⟨_, _, rfl, insertText_leads _ _ _ List.mem_cons_self⟩
  | literal _ htexts =>
    obtain ⟨text, htext, rfl⟩ := List.mem_map.1 hd
    obtain ⟨row, -, values, -, rfl⟩ := forall₂_exists_right htexts.flip htext
    exact .inl ⟨_, _, rfl, insertText_leads _ _ _ List.mem_cons_self⟩
  | copy =>
    cases List.mem_singleton.1 hd
    exact .inr ⟨b, rfl⟩

theorem insertCalls_leads {records : List Record} {cs : List DatabaseCall}
    (h : k.insertCalls p records = .ok cs) :
    ∀ d ∈ cs, ∀ sql ∈ texts d, Leads ["INSERT", "COPY", "SELECT"] sql := by
  intro d hd sql hsql
  rcases insertCalls_cases h d hd with ⟨_, _, rfl, hinsert⟩ | ⟨b, rfl⟩
  · cases List.mem_singleton.1 hsql
    exact hinsert.mono (by decide)
  · have ⟨hcopy, htypes⟩ : Leads ["INSERT", "COPY", "SELECT"] b.copy.sql ∧
        Leads ["INSERT", "COPY", "SELECT"] b.copy.typesSql :=
      copy_leads b (by decide) (by decide)
    simp only [texts, List.mem_cons, List.not_mem_nil, or_false] at hsql
    rcases hsql with rfl | rfl
    · exact hcopy
    · exact htypes

theorem before_leads {enabled : Bool} (h : Leads words sql) :
    ∀ d ∈ k.beforeCalls enabled sql, ∀ sql ∈ texts d, Leads words sql := by
  intro d hd sql' hsql
  rw [mem_beforeCalls hd] at hsql
  cases List.mem_singleton.1 hsql
  exact h

theorem updateStatements_leads {statements : List String} {before : String}
    (h : updateStatements p (p.records.mapM recordId?).isSome (updateIds p) =
      .ok (statements, before)) :
    (∀ sql ∈ statements, Leads ["UPDATE"] sql) ∧ Leads ["SELECT"] before := by
  obtain ⟨select, -, hbuilt⟩ := updateStatements_built h
  cases hbuilt with
  | records _ hu hb =>
    refine ⟨fun sql hsql => ?_, byIds_leads hb List.mem_cons_self⟩
    obtain ⟨name, -, htexts⟩ := updateByRecords_eq_ok_iff.1 hu
    obtain ⟨record, -, set, id, -, -, rfl⟩ := forall₂_exists_right htexts.flip hsql
    exact updateText_leads _ _ _ List.mem_cons_self
  | ids _ _ hu hb =>
    obtain ⟨name, record, set, -, -, -, -, -, rfl⟩ := updateByIds_eq_ok_iff.1 hu
    exact ⟨List.forall_mem_singleton.2 (updateText_leads _ _ _ List.mem_cons_self),
      byIds_leads hb List.mem_cons_self⟩
  | condition _ _ hu hb =>
    obtain ⟨name, record, set, condition, -, -, -, -, rfl⟩ := updateByCondition_eq_ok_iff.1 hu
    exact ⟨List.forall_mem_singleton.2 (updateText_leads _ _ _ List.mem_cons_self),
      byCondition_leads hb List.mem_cons_self⟩

theorem updateCalls_leads {cs : List DatabaseCall} (h : k.updateCalls p = .ok cs) :
    ∀ d ∈ cs, ∀ sql ∈ texts d, Leads ["UPDATE", "SELECT"] sql := by
  obtain ⟨_, -, h⟩ := Except.bind_eq_ok.1 h
  obtain ⟨⟨statements, before⟩, hs, h⟩ := Except.bind_eq_ok.1 h
  obtain ⟨hstatements, hbefore⟩ := updateStatements_leads hs
  rw [← Except.ok.inj h]
  intro d hd sql hsql
  rcases List.mem_append.1 hd with hd | hd
  · exact before_leads (hbefore.mono (by decide)) d hd sql hsql
  · obtain ⟨text, htext, rfl⟩ := List.mem_map.1 hd
    cases List.mem_singleton.1 hsql
    exact (hstatements _ htext).mono (by decide)

theorem deleteStatements_leads {text before : String}
    (h : deleteStatements p = .ok (text, before)) :
    Leads ["DELETE"] text ∧ Leads ["SELECT"] before := by
  obtain ⟨select, -, hbuilt⟩ := deleteStatements_built h
  cases hbuilt with
  | ids _ hd hb =>
    obtain ⟨name, -, hd⟩ := Except.bind_eq_ok.1 hd
    obtain ⟨_, -, hd⟩ := Except.bind_eq_ok.1 hd
    rw [← Except.ok.inj hd]
    simp only [String.append_assoc]
    exact ⟨leads_append List.mem_cons_self (by decide), byIds_leads hb List.mem_cons_self⟩
  | condition _ hd hb =>
    obtain ⟨name, -, hd⟩ := Except.bind_eq_ok.1 hd
    obtain ⟨_, -, hd⟩ := Except.bind_eq_ok.1 hd
    rw [← Except.ok.inj hd]
    simp only [String.append_assoc]
    exact ⟨leads_append List.mem_cons_self (by decide), byCondition_leads hb List.mem_cons_self⟩

theorem deleteCalls_leads {cs : List DatabaseCall} (h : k.deleteCalls p = .ok cs) :
    ∀ d ∈ cs, ∀ sql ∈ texts d, Leads ["DELETE", "SELECT"] sql := by
  obtain ⟨⟨text, before⟩, hs, h⟩ := Except.bind_eq_ok.1 h
  obtain ⟨htext, hbefore⟩ := deleteStatements_leads hs
  rw [← Except.ok.inj h]
  intro d hd sql hsql
  rcases List.mem_append.1 hd with hd | hd
  · exact before_leads (hbefore.mono (by decide)) d hd sql hsql
  · cases List.mem_singleton.1 hd
    cases List.mem_singleton.1 hsql
    exact htext.mono (by decide)

/-! ## What is sent besides -/

theorem scope_leads {d : DatabaseCall} (h : ScopeCall d) :
    ∀ sql ∈ texts d, Leads ["BEGIN", "COMMIT", "ROLLBACK", "SAVEPOINT", "RELEASE"] sql := by
  obtain ⟨scope, hscope, hd⟩ := h
  intro sql hsql
  rcases hscope with rfl | ⟨n, rfl⟩
  · rcases hd with rfl | rfl | rfl <;> cases List.mem_singleton.1 hsql <;>
      exact ⟨_, by decide, List.prefix_rfl⟩
  · rcases hd with rfl | rfl | rfl <;> cases List.mem_singleton.1 hsql
    · exact leads_append (w := "SAVEPOINT") (by decide) (by decide)
    · exact leads_append (w := "RELEASE") (by decide) (by decide)
    · exact leads_append (w := "ROLLBACK") (by decide) (by decide)

/-- A lookup of an access check names its columns. -/
theorem lookup_columns {tables : TableNames} {request : AccessRequest} {c : accessStore.Call}
    (hc : Access.IsLookup request c) {d : DatabaseCall} (h : SqlStore.statement tables c = .ok d) :
    ∀ sql ∈ texts d,
      Leads ["SELECT user_id", "SELECT id", "SELECT service_id", "SELECT COUNT"] sql := by
  intro sql hsql
  cases hc <;> obtain ⟨table, -, rfl⟩ := Except.map_eq_ok.1 h <;>
    cases List.mem_singleton.1 hsql <;> simp only [String.append_assoc]
  · exact leads_append (w := "SELECT user_id") (by decide) (by decide)
  · exact leads_append (w := "SELECT id") (by decide) (by decide)
  · exact leads_append (w := "SELECT id") (by decide) (by decide)
  · exact leads_append (w := "SELECT service_id") (by decide) (by decide)
  · exact leads_append (w := "SELECT COUNT") (by decide) (by decide)

theorem lookup_leads {tables : TableNames} {request : AccessRequest} {c : accessStore.Call}
    (hc : Access.IsLookup request c) {d : DatabaseCall} (h : SqlStore.statement tables c = .ok d) :
    ∀ sql ∈ texts d, Leads ["SELECT"] sql := by
  intro sql hsql
  exact (lookup_columns hc h sql hsql).shorten (by decide)

/-- An access check reads columns by their names, and may delete a session. -/
theorem check_columns {task : Task} {ids : List String} {t : List world.Event} {d : DatabaseCall}
    (h : CheckCall k p task ids t (.database d)) :
    ∀ sql ∈ texts d,
      Leads ["SELECT user_id", "SELECT id", "SELECT service_id", "SELECT COUNT", "DELETE"] sql := by
  intro sql hsql
  cases h with
  | lookup hc h => exact (lookup_columns hc h sql hsql).mono (by decide)
  | discard _ _ _ _ h =>
    obtain ⟨table, -, rfl⟩ := Except.map_eq_ok.1 h
    cases List.mem_singleton.1 hsql
    simp only [String.append_assoc]
    exact leads_append (w := "DELETE") (by decide) (by decide)

theorem check_leads {task : Task} {ids : List String} {t : List world.Event} {d : DatabaseCall}
    (h : CheckCall k p task ids t (.database d)) :
    ∀ sql ∈ texts d, Leads ["SELECT", "DELETE"] sql := by
  intro sql hsql
  exact (check_columns h sql hsql).shorten (by decide)

end Rowgate.Keeper
