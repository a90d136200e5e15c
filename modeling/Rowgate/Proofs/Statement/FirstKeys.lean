/-
  Inserts of records for which no fields are given: the columns are the keys of the first record.

  * `Batch.Whole`: a batch with all that is checked of it; `batch_eq_ok_iff` says that the
    records make this batch, and `Batch.literal_eq_ok_iff` has the statement of each row;
  * `Batch.Whole.restricts`: a row has the values of its record under the columns, and no others;
  * `Batch.Whole.carries_iff`: nothing of the records is left out just if their keys are the same;
  * `inserted_first_keys` for the three ways to insert, and `extra_key_dropped` where they leave
    a value out.
-/
import Rowgate.Proofs.NameSet
import Rowgate.Proofs.Statement.Insert

namespace Rowgate.Statement

variable {table : String} {records : List Record} {fields : List String}

/-! ## Rows of records -/

/-- The row has the values of the record under those of its keys that are fields. -/
def Restricts (fields : List String) (record : Record) (row : List Value) : Prop :=
  ∀ f v, (f, v) ∈ fields.zip row ↔ f ∈ fields ∧ record.get? f = some v

/-- The row has all values of the record. -/
def Carries (fields : List String) (record : Record) (row : List Value) : Prop :=
  ∀ f v, record.get? f = some v → (f, v) ∈ fields.zip row

theorem restricts_of_values {record : Record} {row : List Value}
    (h : List.Forall₂ (fun f v => record.get? f = some v) fields row) :
    Restricts fields record row := by
  intro f v
  induction h with
  | nil => simp
  | @cons g w fields row hw _ ih =>
    rw [List.zip_cons_cons, List.mem_cons, ih, List.mem_cons, Prod.mk.injEq]
    constructor
    · rintro (⟨rfl, rfl⟩ | ⟨hf, hv⟩)
      · exact ⟨.inl rfl, hw⟩
      · exact ⟨.inr hf, hv⟩
    · rintro ⟨rfl | hf, hv⟩
      · exact .inl ⟨rfl, Option.some.inj (hv.symm.trans hw)⟩
      · exact .inr ⟨hf, hv⟩

theorem Restricts.carries_iff {record : Record} {row : List Value}
    (h : Restricts fields record row) :
    Carries fields record row ↔ ∀ f ∈ record.keys, f ∈ fields := by
  unfold Restricts at h
  simp only [Carries, h, Keyed.mem_keys_iff, Option.isSome_iff_exists]
  exact ⟨fun hc f ⟨v, hv⟩ => (hc f v hv).1, fun hk f v hv => ⟨hk f ⟨v, hv⟩, hv⟩⟩

/-- The rows have all values just if the fields are all that the records have. -/
theorem forall₂_carries_iff {rows : List (List Value)}
    (h : List.Forall₂ (Restricts fields) records rows) :
    List.Forall₂ (Carries fields) records rows ↔
      ∀ record ∈ records, ∀ f ∈ record.keys, f ∈ fields := by
  induction h with
  | nil => simp
  | cons hr _ ih => rw [List.forall₂_cons, List.forall_mem_cons, ih, hr.carries_iff]

theorem rowValues_eq_ok_iff {n : Nat} {record : Record} {row : List Value} :
    rowValues n record fields = .ok row ↔
      List.Forall₂ (fun f v => record.get? f = some v) fields row :=
  ⟨Sql.rowValues_eq_ok, fun h => mapM_eq_ok_iff.2 (h.imp fun f v hv => by rw [hv])⟩

theorem numbered_rowValues_eq_ok {rows : List (List Value)} :
    numbered (fun n record => rowValues n record fields) records = .ok rows ↔
      RowsOf records fields rows := by
  unfold RowsOf
  refine numbered_eq_ok_iff ?_
  exact fun _ _ _ => rowValues_eq_ok_iff

/-! ## Batches without a list of fields -/

theorem insertFields_nil_eq_ok : insertFields records [] = .ok fields ↔
    (∃ first, records.head? = some first ∧ fields = first.keys) ∧ fields ≠ [] := by
  cases records with
  | nil => simp [insertFields]
  | cons first rest =>
    have hkeys : insertFields (first :: rest) [] =
        if first.keys.isEmpty then .error (.params "no fields to insert") else .ok first.keys := rfl
    rw [hkeys]
    constructor
    · intro h
      split_ifs at h with hempty
      cases h
      exact ⟨⟨first, rfl, rfl⟩, by simpa using hempty⟩
    · rintro ⟨⟨_, ⟨⟩, rfl⟩, hne⟩
      rw [if_neg (by simpa using hne)]

/-- The columns are the keys of the first record; there is one, the names are names, and every
    record has a value for each. -/
structure Batch.Whole (b : Batch) (table : String) (records : List Record) : Prop
    extends Batch.Holds b table records where
  first : ∃ first, records.head? = some first ∧ b.fields = first.keys
  nonempty : b.fields ≠ []

theorem batch_eq_ok_iff {b : Batch} : batch table records [] = .ok b ↔ b.Whole table records := by
  constructor
  · intro h
    have hholds := batch_holds h
    obtain ⟨_, -, h⟩ := Except.bind_eq_ok.1 h
    obtain ⟨_, hfields, h⟩ := Except.bind_eq_ok.1 h
    obtain ⟨_, -, h⟩ := Except.bind_eq_ok.1 h
    obtain ⟨_, -, h⟩ := Except.bind_eq_ok.1 h
    cases h
    obtain ⟨hfirst, hne⟩ := insertFields_nil_eq_ok.1 hfields
    exact ⟨hholds, hfirst, hne⟩
  · intro h
    have hfields := insertFields_nil_eq_ok.2 ⟨h.first, h.nonempty⟩
    have hrows : numbered (fun n record => rowValues n record b.fields) records = .ok b.rows :=
      numbered_rowValues_eq_ok.2 h.rows
    exact Except.bind_eq_ok.2 ⟨_, h.table, Except.bind_eq_ok.2 ⟨_, hfields,
      Except.bind_eq_ok.2 ⟨_, mapM_eq_ok_iff.2 h.columns, Except.bind_eq_ok.2 ⟨_, hrows, rfl⟩⟩⟩⟩

theorem Batch.literal_eq_ok_iff {b : Batch} {row : List Value} {text : String} :
    b.literal row = .ok text ↔ IsLiteral b.table b.columns b.fields row text := by
  refine ⟨Batch.literal_isLiteral, ?_⟩
  rintro ⟨values, hvalues, rfl⟩
  exact Except.bind_eq_ok.2 ⟨values, mapM_eq_ok_iff.2 hvalues, rfl⟩

namespace Batch.Whole

variable {b : Batch}

theorem restricts (h : b.Whole table records) :
    List.Forall₂ (Restricts b.fields) records b.rows :=
  h.rows.imp fun _ _ => restricts_of_values

theorem fields_mem_keys (h : b.Whole table records) {record : Record} (hr : record ∈ records)
    {f : String} (hf : f ∈ b.fields) : f ∈ record.keys := by
  obtain ⟨row, -, hrow⟩ := forall₂_exists_right h.rows hr
  obtain ⟨v, -, hv⟩ := forall₂_exists_right hrow hf
  exact Keyed.mem_keys_iff.2 (Option.isSome_iff_exists.2 ⟨v, hv⟩)

/-- The rows have all values just if no record has a key that the first one lacks; it lacks none
    of the first one's. -/
theorem carries_iff (h : b.Whole table records) :
    List.Forall₂ (Carries b.fields) records b.rows ↔
      ∀ record ∈ records, record.keys = b.fields := by
  rw [forall₂_carries_iff h.restricts]
  refine forall₂_congr fun record hr => ⟨fun hsub => ?_, fun hkeys f hf => hkeys ▸ hf⟩
  obtain ⟨first, -, hfirst⟩ := h.first
  have hascending : b.fields.Pairwise (· < ·) := hfirst ▸ first.keys_ascending
  exact Keyed.eq_of_ascending record.keys_ascending hascending fun f =>
    ⟨hsub f, h.fields_mem_keys hr⟩

end Batch.Whole

/-- **An insert without a list of fields takes the keys of the first record.**  It succeeds just
    if these are names, at least one, and every record has a value for each; with literals, each
    of the values must have one.  A row then has the values of its record under these keys and
    nothing else, so nothing of the batch is left out if, and only if, all records have the same
    keys; a key that the first record lacks is left out of the others. -/
theorem inserted_first_keys (table : String) (records : List Record) :
    (∀ i, insertParameterized table records [] = .ok i ↔
      ∃ b : Batch, b.Whole table records ∧ b.parameterized = i) ∧
      (∀ c, insertCopy table records [] = .ok c ↔
        ∃ b : Batch, b.Whole table records ∧ b.copy = c) ∧
      (∀ texts, insertLiteral table records [] = .ok texts ↔
        ∃ b : Batch, b.Whole table records ∧
          List.Forall₂ (IsLiteral b.table b.columns b.fields) b.rows texts) ∧
      ∀ b : Batch, b.Whole table records →
        List.Forall₂ (Restricts b.fields) records b.rows ∧
          (List.Forall₂ (Carries b.fields) records b.rows ↔
            ∀ record ∈ records, record.keys = b.fields) := by
  refine ⟨fun i => ?_, fun c => ?_, fun texts => ?_, fun b h => ⟨h.restricts, h.carries_iff⟩⟩
  · rw [insertParameterized_eq]
    refine Except.map_eq_ok.trans ?_
    simp only [batch_eq_ok_iff]
  · rw [insertCopy_eq]
    refine Except.map_eq_ok.trans ?_
    simp only [batch_eq_ok_iff]
  · rw [insertLiteral_eq_ok]
    simp only [batch_eq_ok_iff, mapM_eq_ok_iff, Batch.literal_eq_ok_iff]

/-- Two notes with the same keys. -/
def pairedNotes : List Record :=
  [.ofList [("a", .integer 1), ("b", .string "x")], .ofList [("a", .integer 2), ("b", .null)]]

theorem inserted_first_keys_paired : ∃ b : Batch,
    insertParameterized "notes" pairedNotes [] = .ok b.parameterized ∧
      List.Forall₂ (Carries b.fields) pairedNotes b.rows := by
  obtain ⟨hparameterized, -, -, hwhole⟩ := inserted_first_keys "notes" pairedNotes
  obtain ⟨b, hb, hi⟩ := (hparameterized _).1 rfl
  have hkeys : b.fields = ["a", "b"] := congrArg Insert.fields hi
  refine ⟨b, (hparameterized _).2 ⟨b, hb, rfl⟩, (hwhole b hb).2.2 ?_⟩
  rw [hkeys]
  decide

/-- Two notes; only the second one has a key `b`. -/
def unevenNotes : List Record :=
  [.ofList [("a", .integer 1)], .ofList [("a", .integer 2), ("b", .integer 3)]]

/-- The key of the second record is in none of the statements and rows, where an update of that
    record with the fields of the first one is an error. -/
theorem extra_key_dropped :
    insertParameterized "notes" unevenNotes [] =
        .ok ⟨"INSERT INTO notes(a) VALUES($1) RETURNING id", ["a"], [[.integer 1], [.integer 2]]⟩ ∧
      insertCopy "notes" unevenNotes [] =
        .ok ⟨"COPY notes (a) FROM STDIN BINARY", "SELECT a FROM notes LIMIT 0", ["a"],
          [[.integer 1], [.integer 2]]⟩ ∧
      insertLiteral "notes" unevenNotes [] =
        .ok ["INSERT INTO notes(a) VALUES(1) RETURNING id",
          "INSERT INTO notes(a) VALUES(2) RETURNING id"] ∧
      ∃ record ∈ unevenNotes, record.get? "b" = some (.integer 3) ∧
        setClause 2 record ["a"] =
          .error (.params "Record #2: fields [a, b] do not match update fields [a]") :=
  ⟨rfl, rfl, rfl, _, List.mem_cons_of_mem _ (List.mem_singleton_self _), rfl, rfl⟩

end Rowgate.Statement
