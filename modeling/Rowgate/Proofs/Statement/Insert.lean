/-
  The three ways to insert records agree.

  * `Batch` is what they have in common: the names as SQL, the fields, and the values of each
    record; `batch` makes it of the arguments, and stops at the same faults in the same order;
  * `insertParameterized_eq`, `insertCopy_eq`: with parameters and as a COPY, a batch is only
    written in another form;
  * `insertLiteral_eq_ok`: with literals, each of its rows becomes a statement; that succeeds
    if all numbers are finite (`Batch.literal_succeeds_iff`);
  * `modes_agree`: the three side by side.
-/
import Rowgate.Proofs.Query.Item
import Rowgate.Proofs.Sql.Statement

namespace Rowgate

/-- All numbers in a value are finite. -/
def Value.IsFinite (v : Value) : Prop :=
  ∀ x ∈ v.doubles, x.isFinite

namespace Statement

variable {table : String} {records : List Record} {fields : List String}

/-! ## Batches -/

/-- Rows to insert: the table and the columns as SQL, the fields, and the values of each row. -/
structure Batch where
  table : String
  fields : List String
  columns : List String
  rows : List (List Value)

def batch (table : String) (records : List Record) (fields : List String) :
    Except Error Batch := do
  let table ← sqlIdent table
  let fields ← insertFields records fields
  let columns ← fields.mapM sqlIdent
  let rows ← numbered (fun n record => rowValues n record fields) records
  return { table, fields, columns, rows }

/-- The text of an INSERT of one row. -/
def insertText (table : String) (columns values : List String) : String :=
  "INSERT INTO " ++ table ++ "(" ++ ", ".intercalate columns ++ ") VALUES(" ++
    ", ".intercalate values ++ ") RETURNING id"

namespace Batch

def parameterized (b : Batch) : Insert where
  sql := insertText b.table b.columns
    ((List.range b.fields.length).map fun i => "$" ++ toString (i + 1))
  fields := b.fields
  rows := b.rows

def copy (b : Batch) : Copy where
  sql := "COPY " ++ b.table ++ " (" ++ ", ".intercalate b.columns ++ ") FROM STDIN BINARY"
  typesSql := "SELECT " ++ ", ".intercalate b.columns ++ " FROM " ++ b.table ++ " LIMIT 0"
  fields := b.fields
  rows := b.rows

/-- The INSERT of a row, with literals. -/
def literal (b : Batch) (row : List Value) : Except Error String := do
  let texts ← (row.zip b.fields).mapM fun (v, f) => Sql.scalar f "insert" v
  return insertText b.table b.columns texts

end Batch

theorem columnList_eq (fields : List String) :
    columnList fields = fields.mapM sqlIdent >>= fun columns => pure (", ".intercalate columns) := by
  unfold columnList
  cases fields.mapM sqlIdent <;> rfl

theorem insertText_eq (table columns values : String) :
    "INSERT INTO " ++ table ++ "(" ++ columns ++ ") VALUES(" ++ values ++ ")" ++ returning =
      "INSERT INTO " ++ table ++ "(" ++ columns ++ ") VALUES(" ++ values ++ ") RETURNING id" :=
  String.toList_inj.1 (by simp [returning, idField])

theorem insertParameterized_eq :
    insertParameterized table records fields = Batch.parameterized <$> batch table records fields := by
  simp only [insertParameterized, batch, columnList_eq, map_bind, bind_assoc, pure_bind, map_pure,
    insertText_eq]
  rfl

theorem insertCopy_eq :
    insertCopy table records fields = Batch.copy <$> batch table records fields := by
  simp only [insertCopy, batch, columnList_eq, map_bind, bind_assoc, pure_bind, map_pure]
  rfl

/-- Two steps for every record. -/
theorem numbered_bind_eq_ok {α β : Type} {f : Nat → Record → Except Error α}
    {g : α → Except Error β} {ys : List β} :
    numbered (fun n record => f n record >>= g) records = .ok ys ↔
      ∃ xs, numbered f records = .ok xs ∧ xs.mapM g = .ok ys :=
  mapM_bind_eq_ok

/-- The results for all records, if what is done for one does not depend on its number. -/
theorem numbered_eq_ok_iff {α : Type} {f : Nat → Record → Except Error α} {R : Record → α → Prop}
    (hf : ∀ n record x, f n record = .ok x ↔ R record x) {xs : List α} :
    numbered f records = .ok xs ↔ List.Forall₂ R records xs := by
  rw [numbered, mapM_eq_ok_iff]
  simp only [hf]
  conv_rhs => rw [← List.zipIdx_map_fst 0 records, List.forall₂_map_left_iff]

theorem insertLiteral_eq_ok {texts : List String} :
    insertLiteral table records fields = .ok texts ↔
      ∃ b, batch table records fields = .ok b ∧ b.rows.mapM b.literal = .ok texts := by
  simp only [insertLiteral, batch, columnList_eq, bind_assoc, pure_bind, insertText_eq,
    Except.bind_eq_ok]
  constructor
  · rintro ⟨t, ht, fs, hfs, columns, hc, h⟩
    obtain ⟨rows, hrows, htexts⟩ := numbered_bind_eq_ok.1 h
    exact ⟨⟨t, fs, columns, rows⟩, ⟨t, ht, fs, hfs, columns, hc, rows, hrows, rfl⟩, htexts⟩
  · rintro ⟨_, ⟨t, ht, fs, hfs, columns, hc, rows, hrows, hb⟩, htexts⟩
    cases hb
    exact ⟨t, ht, fs, hfs, columns, hc, numbered_bind_eq_ok.2 ⟨rows, hrows, htexts⟩⟩

/-! ## What a batch holds -/

/-- A row for every record, with the values of the fields in their order. -/
def RowsOf (records : List Record) (fields : List String) (rows : List (List Value)) : Prop :=
  List.Forall₂ (fun record row =>
    List.Forall₂ (fun f v => record.get? f = some v) fields row) records rows

/-- The names of a batch as SQL, and its rows. -/
structure Batch.Holds (b : Batch) (table : String) (records : List Record) : Prop where
  table : sqlIdent table = .ok b.table
  columns : List.Forall₂ (fun f c => sqlIdent f = .ok c) b.fields b.columns
  rows : RowsOf records b.fields b.rows

theorem batch_holds {b : Batch} (h : batch table records fields = .ok b) :
    b.Holds table records := by
  obtain ⟨t, ht, h⟩ := Except.bind_eq_ok.1 h
  obtain ⟨fs, -, h⟩ := Except.bind_eq_ok.1 h
  obtain ⟨columns, hc, h⟩ := Except.bind_eq_ok.1 h
  obtain ⟨rows, hrows, h⟩ := Except.bind_eq_ok.1 h
  cases h
  exact ⟨ht, mapM_forall₂ hc, (Sql.numbered_forall₂ hrows).imp fun _ _ ⟨_, hn⟩ =>
    Sql.rowValues_eq_ok hn⟩

theorem batch_fields {b : Batch} (h : batch table records fields = .ok b) :
    b.fields = resolveFields records fields := by
  obtain ⟨_, -, h⟩ := Except.bind_eq_ok.1 h
  obtain ⟨fs, hfs, h⟩ := Except.bind_eq_ok.1 h
  obtain ⟨_, -, h⟩ := Except.bind_eq_ok.1 h
  obtain ⟨_, -, h⟩ := Except.bind_eq_ok.1 h
  cases h
  unfold insertFields at hfs
  dsimp only at hfs
  split_ifs at hfs
  exact (Except.ok.inj hfs).symm

theorem RowsOf.length_row {rows : List (List Value)} (h : RowsOf records fields rows)
    {row : List Value} (hrow : row ∈ rows) : row.length = fields.length := by
  obtain ⟨_, -, hf⟩ := forall₂_exists_right h.flip hrow
  exact hf.length_eq.symm

theorem scalar_succeeds_iff {field operator : String} {v : Value} :
    (∃ text, Sql.scalar field operator v = .ok text) ↔ v.IsFinite := by
  cases h : Sql.scalar field operator v with
  | ok text =>
    refine iff_of_true ⟨text, rfl⟩ fun x hx => ?_
    by_contra hn
    rw [Sql.scalar_eq_error.2 ⟨⟨x, hx, hn⟩, rfl⟩] at h
    cases h
  | error e =>
    obtain ⟨⟨x, hx, hn⟩, -⟩ := Sql.scalar_eq_error.1 h
    exact iff_of_false nofun fun hv => hn (hv x hx)

/-- A row has literals if its numbers are finite. -/
theorem Batch.literal_succeeds_iff {b : Batch} {row : List Value}
    (hl : row.length = b.fields.length) :
    (∃ text, b.literal row = .ok text) ↔ ∀ v ∈ row, v.IsFinite := by
  have hbind : (∃ text, b.literal row = .ok text) ↔
      ∃ texts, (row.zip b.fields).mapM (fun (v, f) => Sql.scalar f "insert" v) = .ok texts := by
    simp only [literal, Except.bind_eq_ok]
    exact ⟨fun ⟨_, texts, h, _⟩ => ⟨texts, h⟩, fun ⟨texts, h⟩ => ⟨_, texts, h, rfl⟩⟩
  rw [hbind, mapM_succeeds_iff]
  simp only [scalar_succeeds_iff]
  constructor
  · intro h v hv
    rw [← List.map_fst_zip hl.le] at hv
    obtain ⟨e, he, rfl⟩ := List.mem_map.1 hv
    exact h e he
  · exact fun h e he => h e.1 (List.of_mem_zip he).1

/-! ## The three side by side -/

/-- A statement with parameters and a COPY that have the same columns: those of `table` with the
    names `columns`, and a value for each in every row. -/
structure Laid (records : List Record) (table : String) (columns : List String) (i : Insert)
    (c : Copy) : Prop where
  names : List.Forall₂ (fun f c => sqlIdent f = .ok c) i.fields columns
  rows : RowsOf records i.fields i.rows
  sql : i.sql = insertText table columns
    ((List.range columns.length).map fun n => "$" ++ toString (n + 1))
  params : ∀ n < records.length, (i.params n).length = columns.length
  copy : c.sql = "COPY " ++ table ++ " (" ++ ", ".intercalate columns ++ ") FROM STDIN BINARY"
  types : c.typesSql = "SELECT " ++ ", ".intercalate columns ++ " FROM " ++ table ++ " LIMIT 0"

/-- The INSERT of a row is that of the literals of its values. -/
def IsLiteral (table : String) (columns fields : List String) (row : List Value) (text : String) :
    Prop :=
  ∃ values, List.Forall₂ (fun (v, f) t => Sql.scalar f "insert" v = .ok t) (row.zip fields) values ∧
    text = insertText table columns values

theorem Batch.laid {b : Batch} (h : b.Holds table records) :
    Laid records b.table b.columns b.parameterized b.copy := by
  have hlength : b.fields.length = b.columns.length := h.columns.length_eq
  refine ⟨h.columns, h.rows, ?_, fun n hn => ?_, rfl, rfl⟩
  · rw [parameterized, hlength]
  · have hn : n < b.rows.length := by rwa [← h.rows.length_eq]
    change (b.rows[n]?.getD []).length = _
    rw [List.getElem?_eq_getElem hn, Option.getD_some, ← hlength]
    exact h.rows.length_row (List.getElem_mem hn)

theorem Batch.literal_isLiteral {b : Batch} {row : List Value} {text : String}
    (h : b.literal row = .ok text) : IsLiteral b.table b.columns b.fields row text := by
  obtain ⟨texts, ht, h⟩ := Except.bind_eq_ok.1 h
  cases h
  exact ⟨texts, mapM_forall₂ ht, rfl⟩

/-- **The modes of inserting agree.**  With parameters and as a COPY, records come to the same
    fault or to the same fields and rows; with literals they come to statements just if, besides,
    all their numbers are finite, and then there is one for each row, of the literals of its
    values.  Every row has as many values as there are columns, in the order of both. -/
theorem modes_agree (table : String) (records : List Record) (fields : List String) :
    (fun c : Copy => (c.fields, c.rows)) <$> insertCopy table records fields =
        (fun i : Insert => (i.fields, i.rows)) <$> insertParameterized table records fields ∧
      ((∃ texts, insertLiteral table records fields = .ok texts) ↔
        ∃ i, insertParameterized table records fields = .ok i ∧
          ∀ row ∈ i.rows, ∀ v ∈ row, v.IsFinite) ∧
      ∀ i c, insertParameterized table records fields = .ok i →
        insertCopy table records fields = .ok c →
        ∃ name columns, sqlIdent table = .ok name ∧ Laid records name columns i c ∧
          ∀ texts, insertLiteral table records fields = .ok texts →
            List.Forall₂ (IsLiteral name columns i.fields) i.rows texts := by
  simp only [insertLiteral_eq_ok, insertParameterized_eq, insertCopy_eq]
  cases hb : batch table records fields with
  | error e => exact ⟨rfl, iff_of_false nofun nofun, nofun⟩
  | ok b =>
    have hholds := batch_holds hb
    refine ⟨rfl, ?_, ?_⟩
    · constructor
      · rintro ⟨texts, _, ⟨⟩, ht⟩
        have hrows := mapM_succeeds_iff.1 ⟨texts, ht⟩
        exact ⟨_, rfl, fun row hrow =>
          (b.literal_succeeds_iff (hholds.rows.length_row hrow)).1 (hrows row hrow)⟩
      · rintro ⟨_, ⟨⟩, hfinite⟩
        obtain ⟨texts, ht⟩ := mapM_succeeds_iff.2 fun row hrow =>
          (b.literal_succeeds_iff (hholds.rows.length_row hrow)).2 (hfinite row hrow)
        exact ⟨texts, b, rfl, ht⟩
    · rintro _ _ ⟨⟩ ⟨⟩
      refine ⟨b.table, b.columns, hholds.table, b.laid hholds, ?_⟩
      rintro texts ⟨_, ⟨⟩, ht⟩
      exact (mapM_forall₂ ht).imp fun _ _ => Batch.literal_isLiteral

/-- Two notes with a quote, a comma and an absent number in them. -/
def quotedNotes : List Record :=
  [.ofList [("\"a, b\"", .string "it's"), ("n", .integer 7)],
    .ofList [("\"a, b\"", .numericArray []), ("n", .null), ("x", .bool true)]]

/-- A field may be named twice, and a name may hold a comma: there are three columns, three
    parameters and three values in each row. -/
theorem modes_agree_quoted : ∃ name columns, sqlIdent "notes" = .ok name ∧ columns.length = 3 ∧
    List.Forall₂ (IsLiteral name columns ["n", "\"a, b\"", "n"])
      [[.integer 7, .string "it's", .integer 7], [.null, .numericArray [], .null]]
      ["INSERT INTO notes(n, \"a, b\", n) VALUES(7, 'it''s', 7) RETURNING id",
        "INSERT INTO notes(n, \"a, b\", n) VALUES(NULL, '\x7b\x7d', NULL) RETURNING id"] := by
  obtain ⟨-, -, hmodes⟩ := modes_agree "notes" quotedNotes ["n", "\"a, b\"", "n"]
  obtain ⟨name, columns, hname, hlaid, hliteral⟩ := hmodes _ _ rfl rfl
  exact ⟨name, columns, hname, hlaid.names.length_eq.symm, hliteral _ rfl⟩

end Statement

end Rowgate
