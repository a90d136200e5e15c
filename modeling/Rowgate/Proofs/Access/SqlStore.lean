/-
  What the access check sends to a database.

  * `statement tables c` is the statement of a call of the store, and `answer_run` says that
    answering the call sends it or nothing;
  * `session_found`: a session that is found was read from the first row of its query;
  * `check_statements`: the check of a request sends the statements of its lookups, and the
    deletion of an expired session that a row told of.
-/
import Rowgate.Access.SqlStore
import Rowgate.Proofs.Access.Check

namespace Rowgate.SqlStore

open Program

/-- The query for a session in a table. -/
def sessionQuery (table user token : String) : database.Call :=
  .query none ("SELECT user_id, token, login_name, expire FROM " ++ table ++
    " WHERE user_id = $1 AND token = $2") [.string user, .string token]

/-- The statement of a call, once the name of its table is accepted. -/
def statement (tables : TableNames) : accessStore.Call → Except Error database.Call
  | .findSession user token => (sqlIdent tables.access).map fun t => sessionQuery t user token
  | .deleteSession user token => (sqlIdent tables.access).map fun t =>
    .execute none ("DELETE FROM " ++ t ++ " WHERE user_id = $1 AND token = $2")
      [.string user, .string token]
  | .findActor user => (sqlIdent tables.user).map fun t =>
    .query none ("SELECT id, groups, is_admin, is_active FROM " ++ t ++ " WHERE id = $1")
      [.string user]
  | .findService name => (sqlIdent tables.service).map fun t =>
    .query none ("SELECT id, name, category FROM " ++ t ++ " WHERE name = $1") [.string name]
  | .roleGrants services groups => (sqlIdent tables.role).map fun t =>
    .query none ("SELECT service_id, group_id, is_active, can_read, can_create, " ++
      "can_update, can_delete FROM " ++ t ++
      " WHERE service_id = ANY($1) AND group_id = ANY($2) AND is_active = true")
      [.stringArray services, .stringArray groups]
  | .countOwned table ids user => (sqlIdent table).map fun t =>
    .query none ("SELECT COUNT(*) FROM " ++ t ++ " WHERE id = ANY($1) AND created_by = $2")
      [.stringArray ids, .string user]

/-! ## One call of the store -/

theorem queryFirst?_run {sql : String} {params : List Value} {t : List database.Event}
    {r : Except Error (Option Row)} (h : Runs (Database.queryFirst? sql params) t r) :
    ∃ a : Except Error (List Row), t = [⟨.query none sql params, a⟩] ∧ r = a.map List.head? := by
  obtain ⟨a, ha, rfl⟩ := runs_bind_pure_iff.1 h
  exact ⟨a, run_call_iff.1 ha, rfl⟩

theorem queryFirst_run {sql : String} {params : List Value} {t : List database.Event}
    {r : Except Error Row} (h : Runs (Database.queryFirst sql params) t r) :
    ∃ a : Except Error (List Row), t = [⟨.query none sql params, a⟩] := by
  rcases runs_bind_iff.1 h with ⟨e, h₁, -⟩ | ⟨t₁, t₂, row?, rfl, h₁, h₂⟩
  · obtain ⟨a, rfl, -⟩ := queryFirst?_run h₁
    exact ⟨a, rfl⟩
  · obtain ⟨a, rfl, -⟩ := queryFirst?_run h₁
    cases row? with
    | none =>
      obtain ⟨rfl, -⟩ := runs_throw_iff.1 h₂
      exact ⟨a, rfl⟩
    | some row =>
      obtain ⟨rfl, -⟩ := runs_pure_iff.1 h₂
      exact ⟨a, rfl⟩

theorem firstOf_run {α : Type} {sql : String} {params : List Value} {read : Row → Except Error α}
    {t : List database.Event} {r : Except Error (Option α)}
    (h : Runs (firstOf sql params read) t r) :
    ∃ a : Except Error (List Row), t = [⟨.query none sql params, a⟩] ∧
      ∀ x, r = .ok (some x) → ∃ row rows, a = .ok (row :: rows) ∧ read row = .ok x := by
  rcases runs_bind_iff.1 h with ⟨e, h₁, rfl⟩ | ⟨t₁, t₂, row?, rfl, h₁, h₂⟩
  · obtain ⟨a, rfl, -⟩ := queryFirst?_run h₁
    exact ⟨a, rfl, fun _ h => by cases h⟩
  · obtain ⟨a, rfl, ha⟩ := queryFirst?_run h₁
    obtain ⟨rows, rfl, rfl⟩ := Except.map_eq_ok.1 ha.symm
    cases rows with
    | nil =>
      obtain ⟨rfl, rfl⟩ := runs_pure_iff.1 h₂
      exact ⟨_, rfl, fun _ h => by cases h⟩
    | cons row rows =>
      obtain ⟨y, hy, rfl⟩ := runs_bind_pure_iff.1 h₂
      obtain ⟨rfl, rfl⟩ := runs_given_iff.1 hy
      refine ⟨_, rfl, fun x hx => ⟨row, rows, rfl, ?_⟩⟩
      obtain ⟨y, hy, hxy⟩ := Except.map_eq_ok.1 hx
      cases hxy
      exact hy

/-- One statement on a table, if its name is accepted. -/
theorem onTable_run {α : Type} {name : Except Error String} {f : String → Database.Action α}
    {d : String → database.Call} {t : List database.Event} {r : Except Error α}
    (hf : ∀ {table t r}, Runs (f table) t r → ∃ a, t = [⟨d table, a⟩])
    (h : Runs (given name >>= f) t r) : t = [] ∨ ∃ c a, name.map d = .ok c ∧ t = [⟨c, a⟩] := by
  rcases runs_given_bind_iff.1 h with ⟨e, -, rfl, -⟩ | ⟨table, rfl, h⟩
  · exact .inl rfl
  · obtain ⟨a, rfl⟩ := hf h
    exact .inr ⟨d table, a, rfl, rfl⟩

theorem roleGrants_run {tables : TableNames} {services groups : List String}
    {t : List database.Event} {r : Except Error (List Grant)}
    (h : Runs (roleGrants tables services groups) t r) :
    t = [] ∨ ∃ d a, statement tables (.roleGrants services groups) = .ok d ∧ t = [⟨d, a⟩] := by
  unfold roleGrants at h
  split_ifs at h
  · exact .inl (runs_pure_iff.1 h).1
  · refine onTable_run (fun h => ?_) h
    rcases runs_bind_iff.1 h with ⟨e, h₁, -⟩ | ⟨t₁, t₂, rows, rfl, h₁, h₂⟩
    · exact ⟨_, run_call_iff.1 h₁⟩
    · obtain ⟨rfl, -⟩ := runs_given_iff.1 h₂
      rw [List.append_nil]
      exact ⟨_, run_call_iff.1 h₁⟩

theorem countOwned_run {tables : TableNames} {table user : String} {ids : List String}
    {t : List database.Event} {r : Except Error Nat} (h : Runs (countOwned table ids user) t r) :
    t = [] ∨ ∃ d a, statement tables (.countOwned table ids user) = .ok d ∧ t = [⟨d, a⟩] := by
  unfold countOwned at h
  split_ifs at h
  · exact .inl (runs_pure_iff.1 h).1
  · refine onTable_run (fun h => ?_) h
    rcases runs_bind_iff.1 h with ⟨e, h₁, -⟩ | ⟨t₁, t₂, row, rfl, h₁, h₂⟩
    · exact queryFirst_run h₁
    · obtain ⟨rfl, -⟩ := runs_given_iff.1 h₂
      rw [List.append_nil]
      exact queryFirst_run h₁

/-- The statement of the call, or nothing, with the answer to it. -/
theorem answer_run {tables : TableNames} {c : accessStore.Call} {t : List database.Event}
    {r : accessStore.Answer c} (h : Run (answer tables c) t r) :
    t = [] ∨ ∃ d a, statement tables c = .ok d ∧ t = [⟨d, a⟩] := by
  cases c with
  | findSession user token =>
    refine onTable_run (fun h => ?_) h
    obtain ⟨a, rfl, -⟩ := firstOf_run h
    exact ⟨a, rfl⟩
  | deleteSession user token =>
    refine onTable_run (fun h => ?_) h
    obtain ⟨_, h, -⟩ := runs_bind_pure_iff.1 h
    exact ⟨_, run_call_iff.1 h⟩
  | findActor user =>
    refine onTable_run (fun h => ?_) h
    obtain ⟨a, rfl, -⟩ := firstOf_run h
    exact ⟨a, rfl⟩
  | findService name =>
    refine onTable_run (fun h => ?_) h
    obtain ⟨a, rfl, -⟩ := firstOf_run h
    exact ⟨a, rfl⟩
  | roleGrants services groups => exact roleGrants_run h
  | countOwned table ids user => exact countOwned_run h

/-- What a lookup finds was read from the first row. -/
theorem firstOf_found {α : Type} {name : Except Error String} {sql : String → String}
    {params : List Value} {read : Row → Except Error α} {t : List database.Event} {x : α}
    (h : Runs (given name >>= fun table => firstOf (sql table) params read) t (.ok (some x))) :
    ∃ table row rows, name = .ok table ∧ read row = .ok x ∧
      t = [⟨.query none (sql table) params, .ok (row :: rows)⟩] := by
  rcases runs_given_bind_iff.1 h with ⟨e, -, -, h⟩ | ⟨table, ht, h⟩
  · cases h
  · obtain ⟨a, rfl, ha⟩ := firstOf_run h
    obtain ⟨row, rows, rfl, hrow⟩ := ha x rfl
    exact ⟨table, row, rows, ht, hrow, rfl⟩

/-- A session that is found was read from the first row of its query. -/
theorem session_found {tables : TableNames} {user token : String} {t : List database.Event}
    {s : Session} (h : Runs (findSession tables user token) t (.ok (some s))) :
    ∃ table row rows, sqlIdent tables.access = .ok table ∧ session row = .ok s ∧
      t = [⟨sessionQuery table user token, .ok (row :: rows)⟩] :=
  firstOf_found h

/-! ## A whole check -/

/-- The statements that the check of a request at a time may send: those of lookups, and the
    deletion of an expired session that was read from the answer to an earlier statement. -/
inductive CheckStatement (tables : TableNames) (request : AccessRequest) (now : Int)
    (t : List database.Event) : database.Call → Prop where
  | lookup {c : accessStore.Call} {d : database.Call} (hc : Access.IsLookup request c)
      (h : statement tables c = .ok d) : CheckStatement tables request now t d
  | discard {s : Session} {table : String} {row : Row} {rows : List Row} {d : database.Call}
      (hs : s.isExpiredAt now) (hrow : session row = .ok s)
      (hfound : ⟨sessionQuery table request.user request.token, .ok (row :: rows)⟩ ∈ t)
      (h : statement tables (.deleteSession s.user s.token) = .ok d) :
      CheckStatement tables request now t d

theorem check_statements {tables : TableNames} {request : AccessRequest} {now : Int}
    {t : List database.Event} {r : Except Error AccessDecision}
    (h : Run ((Access.check now request).run.via (answer tables)) t r) :
    ∀ e ∈ t, CheckStatement tables request now t e.1 := by
  intro e he
  obtain ⟨u, hu, hserved⟩ := run_via_iff.1 h
  obtain ⟨c, r', t', hc, hr', he⟩ := hserved.exists_run he
  rcases answer_run hr' with rfl | ⟨d, a, hd, rfl⟩
  · cases he
  · cases List.mem_singleton.1 he
    rcases Access.check_calls hu _ hc with hl | ⟨s, hs, hfound, rfl⟩
    · exact .lookup hl hd
    · obtain ⟨t'', ht'', hsub⟩ := hserved.run_of_mem hfound
      obtain ⟨table, row, rows, -, hrow, rfl⟩ := session_found ht''
      exact .discard hs hrow (hsub _ List.mem_cons_self) hd

/-- A check that comes to a decision sends nothing but the statements of lookups. -/
theorem check_lookups {tables : TableNames} {request : AccessRequest} {now : Int}
    {t : List database.Event} {d : AccessDecision}
    (h : Run ((Access.check now request).run.via (answer tables)) t (.ok d)) :
    ∀ e ∈ t, ∃ c, Access.IsLookup request c ∧ statement tables c = .ok e.1 := by
  intro e he
  obtain ⟨u, hu, hserved⟩ := run_via_iff.1 h
  obtain ⟨c, r, t', hc, hr, he⟩ := hserved.exists_run he
  rcases answer_run hr with rfl | ⟨d, a, hd, rfl⟩
  · cases he
  · cases List.mem_singleton.1 he
    exact ⟨c, Access.check_lookups hu _ hc, hd⟩

end Rowgate.SqlStore
