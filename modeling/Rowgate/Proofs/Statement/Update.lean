/-
  What UPDATE statements write.

  * `Sets`: the SET list of a record, with an assignment of the record's own value for each of
    its keys but the id; `setClause_eq_ok_iff` says that this is what is written;
  * `Updatable`: the records that have such a list (`sets_exists_iff`);
  * `OwnId`: the literal of a record's id, which is a text that is not empty or an integer;
  * `updates_exact`: the statements of the three builders; `own_id_unread` is a record whose id
    two of them do not look at.
-/
import Rowgate.Proofs.NameSet
import Rowgate.Proofs.Statement.Insert

namespace Rowgate.Statement

variable {table : String} {record : Record} {records : List Record} {fields ids : List String}
  {groups : List QueryGroup} {n : Nat}

/-! ## Assignments -/

/-- The assignment of a field: its name as SQL, and the literal of its value in the record. -/
def Assigns (record : Record) (f part : String) : Prop :=
  ∃ column v text, sqlIdent f = .ok column ∧ record.get? f = some v ∧
    Sql.scalar f "update" v = .ok text ∧ part = column ++ "=" ++ text

/-- A SET list with an assignment for each of the fields, which are the keys of the record
    without the id. -/
structure Sets (record : Record) (fields : List String) (set : String) : Prop where
  nonempty : fields ≠ []
  names : ∀ f, f ∈ fields ↔ f ≠ idField ∧ f ∈ record.keys
  parts : ∃ parts, List.Forall₂ (Assigns record) fields parts ∧ set = ", ".intercalate parts

/-- What a record needs for such a list. -/
structure Updatable (record : Record) (fields : List String) : Prop where
  nonempty : fields ≠ []
  names : ∀ f, f ∈ fields ↔ f ≠ idField ∧ f ∈ record.keys
  columns : ∀ f ∈ fields, ∃ column, sqlIdent f = .ok column
  finite : ∀ f ∈ fields, ∀ v, record.get? f = some v → v.IsFinite

/-- The sets of names are compared as ascending lists. -/
theorem nameSet_eq_iff : Keyed.nameSet fields = record.keys.filter (· ≠ idField) ↔
    ∀ f, f ∈ fields ↔ f ≠ idField ∧ f ∈ record.keys := by
  have hmem (f : String) : f ∈ record.keys.filter (· ≠ idField) ↔
      f ≠ idField ∧ f ∈ record.keys := by simp [and_comm]
  constructor
  · intro h f
    rw [← Keyed.mem_nameSet, h, hmem]
  · intro h
    refine Keyed.eq_of_ascending (Keyed.keys_ascending _) (record.keys_ascending.filter _)
      fun f => ?_
    rw [Keyed.mem_nameSet, h, hmem]

/-- The text of an assignment, with NULL for what the record lacks. -/
def assignment (record : Record) (f : String) : Except Error String := do
  let column ← sqlIdent f
  let text ← Sql.scalar f "update" ((record.get? f).getD .null)
  return column ++ "=" ++ text

/-- For a key of the record there is no NULL in the place of a value. -/
theorem assigns_iff {f part : String} :
    Assigns record f part ↔ f ∈ record.keys ∧ assignment record f = .ok part := by
  simp only [assignment, Except.bind_eq_ok, Keyed.mem_keys_iff, Option.isSome_iff_exists]
  constructor
  · rintro ⟨column, v, text, hcolumn, hv, htext, rfl⟩
    exact ⟨⟨v, hv⟩, column, hcolumn, text, by rwa [hv], rfl⟩
  · rintro ⟨⟨v, hv⟩, column, hcolumn, text, htext, hpart⟩
    rw [hv] at htext
    exact ⟨column, v, text, hcolumn, hv, htext, (Except.ok.inj hpart).symm⟩

theorem setClause_eq_ok_iff {set : String} :
    setClause n record fields = .ok set ↔ Sets record fields set := by
  have hparts (parts : List String) (hnames : ∀ f, f ∈ fields ↔ f ≠ idField ∧ f ∈ record.keys) :
      fields.mapM (assignment record) = .ok parts ↔
        List.Forall₂ (Assigns record) fields parts := by
    have hassigns : Assigns record =
        fun f part => f ∈ record.keys ∧ assignment record f = .ok part := by
      ext f part
      exact assigns_iff
    rw [mapM_eq_ok_iff, hassigns, List.forall₂_and_left]
    exact (and_iff_right fun f hf => ((hnames f).1 hf).2).symm
  constructor
  · intro h
    unfold setClause at h
    dsimp only at h
    split_ifs at h with hne hnames
    have hnames := nameSet_eq_iff.1 (not_not.1 hnames)
    obtain ⟨parts, hp, h⟩ := Except.bind_eq_ok.1 h
    exact ⟨by simpa using hne, hnames, parts, (hparts parts hnames).1 hp, (Except.ok.inj h).symm⟩
  · rintro ⟨hne, hnames, parts, hp, rfl⟩
    unfold setClause
    dsimp only
    rw [if_neg (by simpa using hne), if_neg (not_not.2 (nameSet_eq_iff.2 hnames))]
    exact Except.bind_eq_ok.2 ⟨parts, (hparts parts hnames).2 hp, rfl⟩

theorem sets_exists_iff : (∃ set, Sets record fields set) ↔ Updatable record fields := by
  constructor
  · rintro ⟨set, hne, hnames, parts, hp, -⟩
    refine ⟨hne, hnames, fun f hf => ?_, fun f hf v hv => ?_⟩
    · obtain ⟨part, -, column, v, text, hcolumn, -⟩ := forall₂_exists_right hp hf
      exact ⟨column, hcolumn⟩
    · obtain ⟨part, -, column, w, text, -, hw, htext, -⟩ := forall₂_exists_right hp hf
      obtain rfl : w = v := Option.some.inj (hw.symm.trans hv)
      exact scalar_succeeds_iff.1 ⟨text, htext⟩
  · rintro ⟨hne, hnames, hcolumns, hfinite⟩
    have hassigns : ∀ f ∈ fields, ∃ part, Assigns record f part := by
      intro f hf
      obtain ⟨column, hcolumn⟩ := hcolumns f hf
      obtain ⟨v, hv⟩ := Option.isSome_iff_exists.1 (Keyed.mem_keys_iff.1 ((hnames f).1 hf).2)
      obtain ⟨text, htext⟩ := scalar_succeeds_iff.2 (hfinite f hf v hv)
      exact ⟨_, column, v, text, hcolumn, hv, htext, rfl⟩
    obtain ⟨parts, hp⟩ := forall₂_exists_iff.2 hassigns
    exact ⟨_, hne, hnames, parts, hp, rfl⟩

/-! ## Ids -/

/-- The literal of a record's own id. -/
inductive OwnId (record : Record) : String → Prop
  | string {id : String} (h : record.get? idField = some (.string id)) (hne : id ≠ "") :
      OwnId record (Sql.quote id)
  | integer {i : Int64} (h : record.get? idField = some (.integer i)) :
      OwnId record (integerText i)

theorem idLiteral_eq_ok_iff {text : String} :
    idLiteral n record = .ok text ↔ OwnId record text := by
  constructor
  · intro h
    unfold idLiteral at h
    dsimp only at h
    split at h
    · rename_i id hid
      split_ifs at h with hne
      rw [← Except.ok.inj h]
      exact .string hid (by simpa using hne)
    · rename_i i hi
      rw [← Except.ok.inj h]
      exact .integer hi
    · cases h
  · intro h
    cases h with
    | string hid hne =>
      unfold idLiteral
      rw [hid]
      exact if_neg (by simpa using hne)
    | integer hi =>
      unfold idLiteral
      rw [hi]

theorem requireIds_eq_ok_iff {u : Unit} : requireIds ids = .ok u ↔ ids ≠ [] ∧ "" ∉ ids := by
  unfold requireIds
  split_ifs with h
  · simpa [or_iff_not_imp_left] using h
  · simpa [or_iff_not_imp_left] using h

theorem single_eq_ok_iff : single records = .ok record ↔ records = [record] :=
  ⟨Sql.single_eq_ok, by rintro rfl; rfl⟩

/-! ## Statements -/

def updateText (name set condition : String) : String :=
  "UPDATE " ++ name ++ " SET " ++ set ++ " WHERE " ++ condition

/-- The statement of record number `n`. -/
def ownUpdate (name : String) (fields : List String) (n : Nat) (record : Record) :
    Except Error String := do
  let id ← idLiteral n record
  let set ← setClause n record fields
  return "UPDATE " ++ name ++ " SET " ++ set ++ " WHERE " ++ idField ++ "=" ++ id

/-- The record is written under its own id. -/
def UpdatesOwn (name : String) (fields : List String) (record : Record) (text : String) : Prop :=
  ∃ set id, Sets record fields set ∧ OwnId record id ∧ text = updateText name set ("id=" ++ id)

theorem ownUpdate_eq_ok_iff {name text : String} :
    ownUpdate name fields n record = .ok text ↔ UpdatesOwn name fields record text := by
  have htext (set id : String) : "UPDATE " ++ name ++ " SET " ++ set ++ " WHERE " ++ idField ++
      "=" ++ id = updateText name set ("id=" ++ id) :=
    String.toList_inj.1 (by simp [updateText, idField])
  simp only [ownUpdate, Except.bind_eq_ok, idLiteral_eq_ok_iff, setClause_eq_ok_iff, htext]
  constructor
  · rintro ⟨id, hid, set, hset, h⟩
    exact ⟨set, id, hset, hid, (Except.ok.inj h).symm⟩
  · rintro ⟨set, id, hset, hid, rfl⟩
    exact ⟨id, hid, set, hset, rfl⟩

theorem updateByRecords_eq_ok_iff {texts : List String} :
    updateByRecords table records fields = .ok texts ↔ ∃ name, sqlIdent table = .ok name ∧
      List.Forall₂ (UpdatesOwn name (updateFields records fields)) records texts := by
  refine Except.bind_eq_ok.trans (exists_congr fun name => and_congr_right fun _ => ?_)
  change numbered (ownUpdate name (updateFields records fields)) records = .ok texts ↔ _
  refine numbered_eq_ok_iff ?_
  exact fun _ _ _ => ownUpdate_eq_ok_iff

theorem updateByIds_eq_ok_iff {text : String} :
    updateByIds table records fields ids = .ok text ↔ ∃ name record set,
      sqlIdent table = .ok name ∧ ids ≠ [] ∧ "" ∉ ids ∧ records = [record] ∧
        Sets record (updateFields records fields) set ∧
        text = updateText name set ("id IN (" ++ Sql.idList ids ++ ")") := by
  have htext (name set : String) : "UPDATE " ++ name ++ " SET " ++ set ++ " WHERE " ++ idField ++
      " IN (" ++ Sql.idList ids ++ ")" = updateText name set ("id IN (" ++ Sql.idList ids ++ ")") :=
    String.toList_inj.1 (by simp [updateText, idField])
  simp only [updateByIds, Except.bind_eq_ok, requireIds_eq_ok_iff, single_eq_ok_iff,
    setClause_eq_ok_iff, htext]
  constructor
  · rintro ⟨name, hname, _, ⟨hne, hempty⟩, record, hr, set, hset, h⟩
    exact ⟨name, record, set, hname, hne, hempty, hr, hset, (Except.ok.inj h).symm⟩
  · rintro ⟨name, record, set, hname, hne, hempty, hr, hset, rfl⟩
    exact ⟨name, hname, (), ⟨hne, hempty⟩, record, hr, set, hset, rfl⟩

theorem updateByCondition_eq_ok_iff {text : String} :
    updateByCondition table records fields groups = .ok text ↔ ∃ name record set condition,
      sqlIdent table = .ok name ∧ records = [record] ∧ Condition.predicate groups = .ok condition ∧
        Sets record (updateFields records fields) set ∧ text = updateText name set condition := by
  have htext (name set condition : String) : "UPDATE " ++ name ++ " SET " ++ set ++ " " ++
      ("WHERE " ++ condition) = updateText name set condition :=
    String.toList_inj.1 (by simp [updateText])
  simp only [updateByCondition, Condition.whereClause, Except.bind_eq_ok, Except.map_eq_ok,
    single_eq_ok_iff, setClause_eq_ok_iff]
  constructor
  · rintro ⟨name, hname, record, hr, _, ⟨condition, hc, rfl⟩, set, hset, h⟩
    exact ⟨name, record, set, condition, hname, hr, hc, hset,
      (Except.ok.inj h).symm.trans (htext name set condition)⟩
  · rintro ⟨name, record, set, condition, hname, hr, hc, hset, rfl⟩
    exact ⟨name, hname, record, hr, _, ⟨condition, hc, rfl⟩, set, hset,
      congrArg Except.ok (htext name set condition)⟩

theorem updateByRecords_succeeds_iff : (∃ texts, updateByRecords table records fields = .ok texts) ↔
    (∃ name, sqlIdent table = .ok name) ∧ ∀ record ∈ records,
      Updatable record (updateFields records fields) ∧ ∃ id, OwnId record id := by
  have hown (name : String) (record : Record) :
      (∃ text, UpdatesOwn name (updateFields records fields) record text) ↔
        Updatable record (updateFields records fields) ∧ ∃ id, OwnId record id := by
    rw [← sets_exists_iff]
    constructor
    · rintro ⟨text, set, id, hset, hid, -⟩
      exact ⟨⟨set, hset⟩, id, hid⟩
    · rintro ⟨⟨set, hset⟩, id, hid⟩
      exact ⟨_, set, id, hset, hid, rfl⟩
  simp only [updateByRecords_eq_ok_iff]
  constructor
  · rintro ⟨texts, name, hname, h⟩
    refine ⟨⟨name, hname⟩, fun record hr => ?_⟩
    exact (hown name record).1 (forall₂_exists_iff.1 ⟨texts, h⟩ record hr)
  · rintro ⟨⟨name, hname⟩, h⟩
    obtain ⟨texts, htexts⟩ :=
      forall₂_exists_iff.2 fun record hr => (hown name record).2 (h record hr)
    exact ⟨texts, name, hname, htexts⟩

/-- **An update writes exactly the given records.**  Each record has a statement, in order, that
    sets its fields to the literals of its own values and names its own id; there are statements
    just if the table is a name, and every record has a usable id and a SET list.  A list of ids
    or a condition takes the place of the id for a single record, and nothing is said then of the
    record's id.  A record has a SET list if its keys but the id are the fields of the batch, at
    least one, all are names, and all numbers in their values are finite. -/
theorem updates_exact (table : String) (records : List Record) (fields : List String) :
    (∀ texts, updateByRecords table records fields = .ok texts ↔
      ∃ name, sqlIdent table = .ok name ∧
        List.Forall₂ (UpdatesOwn name (updateFields records fields)) records texts) ∧
      ((∃ texts, updateByRecords table records fields = .ok texts) ↔
        (∃ name, sqlIdent table = .ok name) ∧ ∀ record ∈ records,
          Updatable record (updateFields records fields) ∧ ∃ id, OwnId record id) ∧
      (∀ ids text, updateByIds table records fields ids = .ok text ↔ ∃ name record set,
        sqlIdent table = .ok name ∧ ids ≠ [] ∧ "" ∉ ids ∧ records = [record] ∧
          Sets record (updateFields records fields) set ∧
          text = updateText name set ("id IN (" ++ Sql.idList ids ++ ")")) ∧
      (∀ groups text, updateByCondition table records fields groups = .ok text ↔
        ∃ name record set condition, sqlIdent table = .ok name ∧ records = [record] ∧
          Condition.predicate groups = .ok condition ∧
          Sets record (updateFields records fields) set ∧ text = updateText name set condition) ∧
      ∀ record, (∃ set, Sets record (updateFields records fields) set) ↔
        Updatable record (updateFields records fields) :=
  ⟨fun _ => updateByRecords_eq_ok_iff, updateByRecords_succeeds_iff,
    fun _ _ => updateByIds_eq_ok_iff, fun _ _ => updateByCondition_eq_ok_iff,
    fun _ => sets_exists_iff⟩

/-- A field named twice is set twice, and the id of the record is no field. -/
example : updateByRecords "notes" [.ofList [("id", .integer 7), ("n", .integer 1)]] ["n", "n"] =
    .ok ["UPDATE notes SET n=1, n=1 WHERE id=7"] := rfl

/-- A note whose id is no number. -/
def strayNote : Record :=
  .ofList [("id", .float .nan), ("n", .integer 1)]

/-- An update by ids or by a condition does not look at it. -/
theorem own_id_unread :
    strayNote.get? "id" = some (.float .nan) ∧ ¬ (Value.float .nan).IsFinite ∧
      updateByIds "notes" [strayNote] [] ["7"] =
        .ok "UPDATE notes SET n=1 WHERE id IN ('7')" ∧
      updateByCondition "notes" [strayNote] []
          [⟨"", [⟨.ofList [("n", .ofList [("eq", .integer 2)])], 0, ""⟩], 0, ""⟩] =
        .ok "UPDATE notes SET n=1 WHERE (n=2)" := by
  refine ⟨rfl, fun h => ?_, rfl, by decide +kernel⟩
  have hfinite := h .nan (List.mem_singleton_self _)
  revert hfinite
  decide

end Rowgate.Statement
