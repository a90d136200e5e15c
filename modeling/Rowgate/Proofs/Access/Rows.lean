/-
  What rows an access check must have been returned for a permit.

  * `StoredTrue`, `NotBefore`, `Counts`: what a cell must hold to count in favour of a
    request; NULL, a column that is not there and a value of another type do not
    (`flag_true_iff`, `notBefore_of_millis`, `counts_of_count`);
  * `Opened` is what must have been returned, row by row and column by column;
  * `permit_opened`: whatever a database answers, a check that permits was returned that.
-/
import Rowgate.Proofs.Access.Decision
import Rowgate.Proofs.Access.SqlStore
import Rowgate.Proofs.Scene

namespace Rowgate

open Program

/-! ## Cells -/

/-- Whether a number is at least a whole one, by its exact value. -/
def Double.AtLeast (x : Double) (n : Nat) : Prop :=
  match x.datum with
  | .finite false m e => if e < 0 then n * 2 ^ (-e).toNat ≤ m else n ≤ m * 2 ^ e.toNat
  | .infinite false => True
  | _ => False

theorem Double.atLeast_of_toWord {x : Double} {n : Nat} (hn : 0 < n)
    (h : (n : Int) ≤ x.toWord 64) : x.AtLeast n := by
  have hlow : -(2 ^ (64 - 1) : Int) < 0 := by decide
  unfold toWord at h
  unfold AtLeast
  cases hx : x.datum with
  | nan =>
    rw [hx] at h
    dsimp only at h
    omega
  | infinite negative =>
    rw [hx] at h
    cases negative with
    | false => trivial
    | true => exact absurd (h.trans_lt hlow) (by omega)
  | finite negative m e =>
    rw [hx] at h
    rcases le_max_iff.1 h with h | h
    · omega
    replace h := (le_min_iff.1 h).2
    cases negative with
    | true =>
      simp only [if_true] at h
      omega
    | false =>
      simp only [Bool.false_eq_true, if_false, Int.ofNat_le] at h
      dsimp only
      split_ifs at h ⊢
      · exact (Nat.le_div_iff_mul_le (Nat.two_pow_pos _)).1 h
      · exact h

namespace SqlStore

/-- A true that is stored under a name. -/
def StoredTrue (row : Row) (name : String) : Prop :=
  ∃ i c b, row.find? name = some i ∧ row.cells[i]? = some (c, some [b]) ∧
    c.type = .base .bool ∧ b ≠ 0

/-- A number of milliseconds, or an instant, that is not before a time; for a fraction its
    whole part counts. -/
def NotBefore (now : Int) : Value → Prop
  | .integer n => now ≤ n.toInt
  | .float x => now ≤ x.toWord 64 ∧ (0 < now → x.AtLeast now.toNat)
  | .timestamp t => now ≤ t.epochMillis
  | _ => False

/-- A row that starts with a number, in a column of type `int8`. -/
def Counts (row : Row) (n : Nat) : Prop :=
  ∃ c cell rest k, row.cells = (c, cell) :: rest ∧ c.type = .base .int8 ∧
    Value.decode c.type cell = .ok (.integer k) ∧ k.toInt = n

theorem column_eq_ok {row : Row} {name : String} {v : Value} (h : column row name = .ok v) :
    ∃ i c cell, row.find? name = some i ∧ row.cells[i]? = some (c, cell) ∧
      Value.decode c.type cell = .ok v := by
  unfold column at h
  split at h
  · cases h
  rename_i i hi
  split at h
  · cases h
  rename_i c cell hc
  split at h
  · rename_i v' hv
    cases h
    exact ⟨i, c, cell, hi, hc, hv⟩
  · cases h

/-- Only a column of type `bool` holds a flag. -/
theorem decode_bool {t : ColumnType} {cell : Cell} {x : Bool}
    (h : Value.decode t cell = .ok (.bool x)) :
    ∃ b, cell = some [b] ∧ t = .base .bool ∧ x = (b ≠ 0 : Bool) := by
  cases cell with
  | none => cases h
  | some bytes =>
  unfold Value.decode at h
  dsimp only at h
  split at h
  · cases h
  rename_i read hread
  split at h
  swap
  · cases h
  rename_i v hv
  cases h
  unfold Value.reader? at hread
  split at hread <;> cases hread <;> obtain ⟨y, hy, hvy⟩ := Option.map_eq_some_iff.1 hv <;>
    cases hvy
  unfold Bytes.bool? at hy
  split at hy
  · rename_i b
    exact ⟨b, rfl, rfl, (Option.some.inj hy).symm⟩
  · cases hy

theorem flag_true_iff {row : Row} {name : String} :
    flag row name = .ok true ↔ StoredTrue row name := by
  constructor
  · intro h
    obtain ⟨v, hv, h⟩ := Except.bind_eq_ok.1 h
    cases v with
    | bool b =>
      cases h
      obtain ⟨i, c, cell, hi, hc, hd⟩ := column_eq_ok hv
      obtain ⟨b, rfl, ht, hb⟩ := decode_bool hd
      exact ⟨i, c, b, hi, hc, ht, of_decide_eq_true hb.symm⟩
    | _ => cases h
  · rintro ⟨i, c, b, hi, hc, ht, hb⟩
    have hv : column row name = .ok (.bool true) := by
      simp [column, hi, hc, ht, Value.decode, Value.reader?, Bytes.bool?, hb]
    rw [flag, hv]
    rfl

theorem flag_eq_ok {row : Row} {name : String} {x : Bool} (h : flag row name = .ok x) :
    x ↔ StoredTrue row name := by
  rw [← flag_true_iff, h, Except.ok.injEq]

theorem notBefore_of_millis {row : Row} {name : String} {now millis : Int}
    (h : SqlStore.millis row name = .ok millis) (hnow : now ≤ millis) :
    ∃ v, column row name = .ok v ∧ NotBefore now v := by
  obtain ⟨v, hv, h⟩ := Except.bind_eq_ok.1 h
  refine ⟨v, hv, ?_⟩
  cases v with
  | integer | timestamp =>
    cases h
    exact hnow
  | float x =>
    cases h
    exact ⟨hnow, fun hpos => Double.atLeast_of_toWord (by omega) (by omega)⟩
  | _ => cases h

theorem counts_of_count {row : Row} {n : Nat} (h : count row = .ok n) (hn : 0 < n) :
    Counts row n := by
  unfold count at h
  split at h
  · cases h
  rename_i c cell rest hrow
  split at h
  · rename_i k ht hk
    cases h
    exact ⟨c, cell, rest, k, hrow, ht, hk, by omega⟩
  · cases h

/-- The column that tells whether a task is allowed. -/
def capability (task : Task) : String :=
  "can_" ++ task.name

/-- Which service a row of a role is about, and which tasks it allows. -/
theorem grant_eq_ok {row : Row} {g : Grant} (h : grant row = .ok g) :
    text row "service_id" = .ok g.service ∧
      ∀ task, g.permits task ↔ StoredTrue row (capability task) := by
  obtain ⟨service, hs, h⟩ := Except.bind_eq_ok.1 h
  obtain ⟨group, -, h⟩ := Except.bind_eq_ok.1 h
  obtain ⟨isActive, -, h⟩ := Except.bind_eq_ok.1 h
  obtain ⟨canRead, hread, h⟩ := Except.bind_eq_ok.1 h
  obtain ⟨canCreate, hcreate, h⟩ := Except.bind_eq_ok.1 h
  obtain ⟨canUpdate, hupdate, h⟩ := Except.bind_eq_ok.1 h
  obtain ⟨canDelete, hdelete, h⟩ := Except.bind_eq_ok.1 h
  cases h
  refine ⟨hs, fun task => ?_⟩
  cases task with
  | create => exact flag_eq_ok hcreate
  | read => exact flag_eq_ok hread
  | update => exact flag_eq_ok hupdate
  | delete => exact flag_eq_ok hdelete

theorem session_eq_ok {row : Row} {s : Session} (h : session row = .ok s) :
    millis row "expire" = .ok s.expire := by
  obtain ⟨user, -, h⟩ := Except.bind_eq_ok.1 h
  obtain ⟨token, -, h⟩ := Except.bind_eq_ok.1 h
  obtain ⟨loginName, -, h⟩ := Except.bind_eq_ok.1 h
  obtain ⟨expire, he, h⟩ := Except.bind_eq_ok.1 h
  cases h
  exact he

theorem actor_eq_ok {row : Row} {a : Actor} (h : actor row = .ok a) :
    text row "id" = .ok a.user ∧ idList row "groups" = .ok a.groups ∧
      (a.isAdmin ↔ StoredTrue row "is_admin") ∧ (a.isActive ↔ StoredTrue row "is_active") := by
  obtain ⟨user, hu, h⟩ := Except.bind_eq_ok.1 h
  obtain ⟨groups, hg, h⟩ := Except.bind_eq_ok.1 h
  obtain ⟨isAdmin, hadmin, h⟩ := Except.bind_eq_ok.1 h
  obtain ⟨isActive, hactive, h⟩ := Except.bind_eq_ok.1 h
  cases h
  exact ⟨hu, hg, flag_eq_ok hadmin, flag_eq_ok hactive⟩

theorem service_eq_ok {row : Row} {s : Service} (h : service row = .ok s) :
    text row "id" = .ok s.id ∧ text row "category" = .ok s.category := by
  obtain ⟨id, hi, h⟩ := Except.bind_eq_ok.1 h
  obtain ⟨name, -, h⟩ := Except.bind_eq_ok.1 h
  obtain ⟨category, hc, h⟩ := Except.bind_eq_ok.1 h
  cases h
  exact ⟨hi, hc⟩

/-! ## What lookups are returned -/

variable {tables : TableNames} {t : List database.Event}

/-- Whether the statement of a call was answered with rows. -/
def Returned (tables : TableNames) (t : List database.Event) (c : accessStore.Call)
    (rows : List Row) : Prop :=
  ∃ sql params, statement tables c = .ok (.query none sql params) ∧
    ⟨.query none sql params, .ok rows⟩ ∈ t

theorem Returned.mono {t' : List database.Event} {c : accessStore.Call} {rows : List Row}
    (h : Returned tables t c rows) (ht : ∀ e ∈ t, e ∈ t') : Returned tables t' c rows :=
  let ⟨sql, params, hc, he⟩ := h
  ⟨sql, params, hc, ht _ he⟩

/-- A lookup that finds something was returned the row that it was read from. -/
theorem found_returned {α : Type} {c : accessStore.Call} {name : Except Error String}
    {sql : String → String} {params : List Value} {read : Row → Except Error α} {x : α}
    (hc : statement tables c = name.map fun table => .query none (sql table) params)
    (h : Runs (given name >>= fun table => firstOf (sql table) params read) t (.ok (some x))) :
    ∃ row rows, Returned tables t c (row :: rows) ∧ read row = .ok x := by
  obtain ⟨table, row, rows, rfl, hrow, rfl⟩ := firstOf_found h
  exact ⟨row, rows, ⟨_, _, hc, List.mem_cons_self⟩, hrow⟩

theorem grants_returned {services groups : List String} {grants : List Grant}
    (h : Runs (roleGrants tables services groups) t (.ok grants)) (hne : grants ≠ []) :
    ∃ rows, Returned tables t (.roleGrants services groups) rows ∧
      List.Forall₂ (fun row g => grant row = .ok g) rows grants := by
  unfold roleGrants at h
  split_ifs at h
  · cases (runs_pure_iff.1 h).2
    exact absurd rfl hne
  rcases runs_given_bind_iff.1 h with ⟨e, -, -, h⟩ | ⟨table, ht, h⟩
  · cases h
  rcases runs_bind_iff.1 h with ⟨e, -, h⟩ | ⟨t₁, t₂, rows, rfl, h₁, h₂⟩
  · cases h
  obtain rfl := run_call_iff.1 h₁
  obtain ⟨rfl, hrows⟩ := runs_given_iff.1 h₂
  exact ⟨rows, ⟨_, _, congrArg (Except.map _) ht, List.mem_cons_self⟩, mapM_forall₂ hrows.symm⟩

theorem count_returned {table user : String} {ids : List String} {n : Nat}
    (h : Runs (countOwned table ids user) t (.ok n)) (hne : ids ≠ []) :
    ∃ row rows, Returned tables t (.countOwned table ids user) (row :: rows) ∧
      count row = .ok n := by
  unfold countOwned at h
  rw [if_neg (by simpa using hne)] at h
  rcases runs_given_bind_iff.1 h with ⟨e, -, -, h⟩ | ⟨name, ht, h⟩
  · cases h
  rcases runs_bind_iff.1 h with ⟨e, -, h⟩ | ⟨t₁, t₂, row, rfl, h₁, h₂⟩
  · cases h
  obtain ⟨rfl, hcount⟩ := runs_given_iff.1 h₂
  rcases runs_bind_iff.1 h₁ with ⟨e, -, h₁⟩ | ⟨t₃, t₄, row?, rfl, h₃, h₄⟩
  · cases h₁
  obtain ⟨a, rfl, ha⟩ := queryFirst?_run h₃
  obtain ⟨rows, rfl, rfl⟩ := Except.map_eq_ok.1 ha.symm
  cases rows with
  | nil => cases (runs_throw_iff.1 h₄).2
  | cons row' rows =>
    obtain ⟨rfl, hrow⟩ := runs_pure_iff.1 h₄
    cases hrow
    exact ⟨row, rows, ⟨_, _, congrArg (Except.map _) ht, List.mem_cons_self⟩, hcount.symm⟩

/-! ## What a permit rests on -/

/-- The table of the request is in the catalog, as a table, with this id. -/
def TableRow (tables : TableNames) (t : List database.Event) (request : AccessRequest)
    (id : String) : Prop :=
  ∃ row rows category, Returned tables t (.findService request.table) (row :: rows) ∧
    text row "id" = .ok id ∧ text row "category" = .ok category ∧
    (Text.sameWord category.toList "table".toList ∨
      Text.sameWord category.toList "collection".toList)

/-- As many records were counted as the user's as the request has different ids. -/
def OwnedRows (tables : TableNames) (t : List database.Event) (request : AccessRequest)
    (user : String) : Prop :=
  request.ids ≠ [] ∧ ∃ row rows,
    Returned tables t (.countOwned request.table (Keyed.nameSet request.ids) user)
      (row :: rows) ∧ Counts row request.ids.toFinset.card

/-- A service has role rows, and each of them has a stored true for the task. -/
def TableRuleRows (task : Task) (id : String) (rows : List Row) : Prop :=
  (∃ row ∈ rows, text row "service_id" = .ok id) ∧
    ∀ row ∈ rows, text row "service_id" = .ok id → StoredTrue row (capability task)

/-- Every record, of which there are some, has a role row with a stored true for the task,
    which goes record by record. -/
def RecordRuleRows (task : Task) (ids : List String) (rows : List Row) : Prop :=
  task ≠ .create ∧ ids ≠ [] ∧
    ∀ id ∈ ids, ∃ row ∈ rows, text row "service_id" = .ok id ∧ StoredTrue row (capability task)

/-- What must have been returned in favour of a user who is no admin: role rows for the records
    and the table, and that one of the rules holds of them. -/
structure RoleRows (tables : TableNames) (t : List database.Event) (request : AccessRequest)
    (user : Row) (tableId : Option String) (grants : List Row) : Prop where
  table : ∀ id, tableId = some id → TableRow tables t request id
  returned : ∃ groups, idList user "groups" = .ok groups ∧
    Returned tables t (.roleGrants (request.ids ++ tableId.toList) groups) grants
  nonempty : grants ≠ []
  rule : (∃ name, text user "id" = .ok name ∧ OwnedRows tables t request name) ∨
    (∃ id, tableId = some id ∧ TableRuleRows request.task id grants) ∨
    RecordRuleRows request.task request.ids grants

/-- What must have been returned to a check at a time that permits a request. -/
structure Opened (tables : TableNames) (now : Int) (request : AccessRequest)
    (t : List database.Event) : Prop where
  session : ∃ row rows expire,
    Returned tables t (.findSession request.user request.token) (row :: rows) ∧
      column row "expire" = .ok expire ∧ NotBefore now expire
  user : ∃ row rows, Returned tables t (.findActor request.user) (row :: rows) ∧
    StoredTrue row "is_active" ∧
      (StoredTrue row "is_admin" ∨ ∃ tableId grants, RoleRows tables t request row tableId grants)

theorem tableRuleRows_of {task : Task} {id : String} {rows : List Row} {grants : List Grant}
    (hrows : List.Forall₂ (fun row g => grant row = .ok g) rows grants)
    (hex : ∃ g ∈ grants, g.service = id) (hall : ∀ g ∈ grants, g.service = id → g.permits task) :
    TableRuleRows task id rows := by
  constructor
  · obtain ⟨g, hg, rfl⟩ := hex
    obtain ⟨row, hrow, h⟩ := forall₂_exists_right hrows.flip hg
    exact ⟨row, hrow, (grant_eq_ok h).1⟩
  · intro row hrow hid
    obtain ⟨g, hg, h⟩ := forall₂_exists_right hrows hrow
    obtain ⟨hs, hpermits⟩ := grant_eq_ok h
    rw [hid] at hs
    exact (hpermits task).1 (hall g hg (Except.ok.inj hs).symm)

theorem recordRuleRows_of {task : Task} {ids : List String} {rows : List Row}
    {grants : List Grant} (hrows : List.Forall₂ (fun row g => grant row = .ok g) rows grants)
    (h : RecordRule task ids grants) : RecordRuleRows task ids rows := by
  obtain ⟨htask, hne, hall⟩ := h
  refine ⟨htask, hne, fun id hid => ?_⟩
  obtain ⟨g, hg, rfl, hp⟩ := hall id hid
  obtain ⟨row, hrow, h⟩ := forall₂_exists_right hrows.flip hg
  obtain ⟨hs, hpermits⟩ := grant_eq_ok h
  exact ⟨row, hrow, hs, (hpermits task).1 hp⟩

/-- Whether each of some calls was answered by a run within a trace. -/
def AnsweredIn (tables : TableNames) (t : List database.Event) (u : List accessStore.Event) :
    Prop :=
  ∀ c r, ⟨c, r⟩ ∈ u → ∃ t', Run (answer tables c) t' r ∧ ∀ e ∈ t', e ∈ t

theorem tableRow_of {request : AccessRequest} {service? : Option Service}
    (hs : AnsweredIn tables t [⟨.findService request.table, .ok service?⟩]) {id : String}
    (hid : (service?.filter Service.isTable).map Service.id = some id) :
    TableRow tables t request id := by
  obtain ⟨s, hs', rfl⟩ := Option.map_eq_some_iff.1 hid
  obtain ⟨rfl, htable⟩ := Option.filter_eq_some_iff.1 hs'
  obtain ⟨t', ht', hsub⟩ := hs _ _ List.mem_cons_self
  obtain ⟨row, rows, hret, hrow⟩ := found_returned (c := .findService _) rfl ht'
  obtain ⟨hi, hc⟩ := service_eq_ok hrow
  exact ⟨row, rows, s.category, hret.mono hsub, hi, hc, Bool.or_eq_true_iff.1 htable⟩

theorem ownedRows_of {request : AccessRequest} {user : String} {u : List accessStore.Event}
    (h : Access.Owning request.table request.ids user u (.ok true))
    (hs : AnsweredIn tables t u) : OwnedRows tables t request user := by
  generalize hr : Except.ok true = r at h
  cases h with
  | unasked => cases hr
  | failed => cases hr
  | counted hi _ n =>
    have hn := of_decide_eq_true (Except.ok.inj hr).symm
    have hne : Keyed.nameSet request.ids ≠ [] := mt Keyed.nameSet_eq_nil.1 hi
    obtain ⟨t', ht', hsub⟩ := hs _ _ List.mem_cons_self
    obtain ⟨row, rows, hret, hcount⟩ := count_returned ht' hne
    refine ⟨hi, row, rows, hret.mono hsub, ?_⟩
    rw [← Keyed.length_nameSet, ← hn]
    exact counts_of_count hcount (hn ▸ List.length_pos_iff.2 hne)

/-- The rows behind a permit, that of the user being there. -/
theorem decided_rows {request : AccessRequest} {actor : Actor} {service? : Option Service}
    {user : Row} (huser : SqlStore.actor user = .ok actor) {u : List accessStore.Event}
    {r : Except Error AccessDecision}
    (h : Access.Decided request ⟨actor, request.task,
      (service?.filter Service.isTable).map Service.id, request.ids, none, none⟩ u r)
    {d : AccessDecision} (hr : r = .ok d) (hd : d.permitted)
    (hs : AnsweredIn tables t (⟨.findService request.table, .ok service?⟩ :: u)) :
    StoredTrue user "is_active" ∧ (StoredTrue user "is_admin" ∨
      ∃ tableId grants, RoleRows tables t request user tableId grants) := by
  obtain ⟨hid, hgroups, hadmin, hactive⟩ := actor_eq_ok huser
  cases h with
  | inactive | ungranted =>
    cases hr
    cases hd
  | grantsFailed | ownerFailed => cases hr
  | admin ha hm => exact ⟨hactive.1 ha, .inl (hadmin.1 hm)⟩
  | @weighed ha hm grants hg u owner ho =>
    cases hr
    refine ⟨hactive.1 ha, .inr ?_⟩
    obtain ⟨t', ht', hsub⟩ := hs _ _ (.tail _ (.head _))
    obtain ⟨rows, hret, hrows⟩ := grants_returned ht' hg
    refine ⟨_, rows, ⟨fun id => tableRow_of fun c r hc => hs c r ?_, ⟨_, hgroups, hret.mono hsub⟩,
      ?_, ?_⟩⟩
    · exact List.mem_cons.2 (.inl (List.mem_singleton.1 hc))
    · rintro rfl
      cases hrows
      exact hg rfl
    · rcases (Strategy.decision_rules _).1 hd with h | ⟨id, htable, hex, hall⟩ | h
      · cases h
        exact .inl ⟨_, hid, ownedRows_of ho fun c r hc => hs c r (.tail _ (.tail _ hc))⟩
      · exact .inr (.inl ⟨id, htable, tableRuleRows_of hrows hex hall⟩)
      · exact .inr (.inr (recordRuleRows_of hrows h))

/-- **A check fails closed.**  Whatever rows, or errors, a database answers with: a check that
    permits was returned a session that is not over, an active user, and role rows for what
    is asked unless the user is an admin; each by values that are there. -/
theorem permit_opened {now : Int} {request : AccessRequest} {reason : String}
    (h : Run ((Access.check now request).run.via (answer tables)) t (.ok ⟨true, reason⟩)) :
    Opened tables now request t := by
  obtain ⟨u, hu, hserved⟩ := run_via_iff.1 h
  have hs : AnsweredIn tables t u := fun c r hc => hserved.run_of_mem hc
  cases Access.check_course hu with
  | @decided s hexp actor service? u r hr =>
  obtain ⟨t₁, ht₁, hsub₁⟩ := hs _ _ List.mem_cons_self
  obtain ⟨session, rows₁, hret₁, hsession⟩ := found_returned (c := .findSession _ _) rfl ht₁
  obtain ⟨t₂, ht₂, hsub₂⟩ := hs _ _ (.tail _ (.head _))
  obtain ⟨user, rows₂, hret₂, huser⟩ := found_returned (c := .findActor _) rfl ht₂
  obtain ⟨expire, hexpire, hnow⟩ := notBefore_of_millis (session_eq_ok hsession)
    (not_lt.1 (of_decide_eq_false hexp))
  refine ⟨⟨session, rows₁, expire, hret₁.mono hsub₁, hexpire, hnow⟩,
    user, rows₂, hret₂.mono hsub₂, ?_⟩
  exact decided_rows huser (Access.decide_course rfl rfl hr) rfl rfl fun c r hc =>
    hs c r (.tail _ (.tail _ hc))

/-- A database that finds a session over at 9.5 ms, an active user whose flag for an admin is
    NULL, a collection of notes with a role that may not update it, a role that may update one
    note, and no note that the user created. -/
def roleConnection : Script.Connection :=
  let text (name : String) : Column := ⟨name, .base .text⟩
  let bool (name : String) : Column := ⟨name, .base .bool⟩
  let roles := [⟨"service_id", .base .int8⟩, text "group_id", bool "is_active", bool "can_read",
    bool "can_create", bool "can_update", bool "can_delete"]
  .direct ⟨false, [
    .ofCells [(text "user_id", none), (text "token", none), (text "login_name", none),
      (⟨"expire", .base .float8⟩, some [0x40, 0x23, 0, 0, 0, 0, 0, 0])],
    .ofCells [(text "id", some [97]), (text "groups", some [97]), (bool "is_admin", none),
      (bool "is_active", some [1])],
    .ofCells [(⟨"id", .base .int8⟩, some [0, 0, 0, 0, 0, 0, 0, 3]), (text "name", none),
      (text "category", some [67, 111, 108, 108, 101, 99, 116, 105, 111, 110])],
    { Script.Reply.empty with
      columns := some roles
      rows := [
        [some [0, 0, 0, 0, 0, 0, 0, 3], none, none, some [1], none, none, none],
        [some [0, 0, 0, 0, 0, 0, 0, 7], none, none, none, none, some [1], none]] },
    .ofCells [(⟨"count", .base .int8⟩, some [0, 0, 0, 0, 0, 0, 0, 0])]], []⟩

def roleRequest : AccessRequest :=
  ⟨"a", "t", .update, "notes", ["7"]⟩

def roleCheck : Program database (Except Error AccessDecision) :=
  (Access.check 9 roleRequest).run.via (answer .standard)

/-- A permit by the role on a record rests on the rows that were returned for it. -/
theorem permit_opened_record :
    (roleCheck.run Script.Connection.answer roleConnection).1 = .ok ⟨true, "record role"⟩ ∧
      Opened .standard 9 roleRequest (roleCheck.trace Script.Connection.answer roleConnection) := by
  have hrun : Run roleCheck (roleCheck.trace Script.Connection.answer roleConnection)
      (.ok ⟨true, "record role"⟩) := run_trace Script.Connection.answer roleCheck roleConnection
  exact ⟨rfl, permit_opened hrun⟩

end SqlStore

end Rowgate
