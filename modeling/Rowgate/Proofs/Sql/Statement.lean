/-
  The statements on records are pieces with their shapes.

  * `Suffix`: what may be left out behind a piece;
  * `Shaped`: a SELECT before its predicate, with its shape; `Shaped.render` is its text;
  * `piece_insert`, `piece_copy`, `piece_update`, `piece_delete`: the other statements.
-/
import Rowgate.Proofs.Sql.Condition
import Rowgate.Statement.Delete
import Rowgate.Statement.Insert
import Rowgate.Statement.Update

namespace Rowgate.Sql

open Statement

/-- A space and another piece, or nothing. -/
inductive Suffix : String → List Token → Prop where
  | none : Suffix "" []
  | some {s : String} {ts : List Token} (h : Piece s ts) : Suffix (" " ++ s) ts

theorem Piece.suffix {a b : String} {ts us : List Token} (ha : Piece a ts) (hb : Suffix b us) :
    Piece (a ++ b) (ts ++ us) := by
  cases hb with
  | none => simpa using ha
  | some hb =>
    rw [← String.append_assoc]
    exact ha.space hb

/-- A keyword, with a piece behind it. -/
theorem Piece.keyword {w s : String} {ts : List Token} (hs : Piece s ts)
    (hw : isWord w.toList) : Piece (w ++ " " ++ s) (.word w :: ts) :=
  (Piece.word hw).space hs

/-! ## Lists of names and ids -/

theorem pieces_names {fields columns : List String} (h : fields.mapM sqlIdent = .ok columns) :
    List.Forall₂ Piece columns (fields.map nameTokens) := by
  rw [List.forall₂_map_right_iff]
  exact (mapM_forall₂ h).flip.imp fun _ _ => piece_name

theorem piece_columnList {fields : List String} {columns : String}
    (h : columnList fields = .ok columns) (hne : fields ≠ []) :
    Piece columns (commas (fields.map nameTokens)) := by
  obtain ⟨cs, hcs, rfl⟩ := Except.map_eq_ok.1 h
  have hp := pieces_names hcs
  refine .commaList hp ?_
  rintro rfl
  exact hne (List.map_eq_nil_iff.1 (List.forall₂_nil_left_iff.1 hp))

theorem requireIds_eq_ok {ids : List String} {u : Unit} (h : requireIds ids = .ok u) :
    ids ≠ [] ∧ ∀ id ∈ ids, id ≠ "" := by
  unfold requireIds at h
  split_ifs at h with hc
  simp only [Bool.or_eq_true, List.isEmpty_iff, List.any_eq_true, not_or, not_exists,
    not_and, String.isEmpty_iff] at hc
  exact hc

theorem piece_idList {ids : List String} (hne : ids ≠ []) :
    Piece (idList ids) (commas (ids.map fun id => [.string id])) := by
  refine .commaList ?_ (by simpa using hne)
  rw [List.forall₂_map_left_iff, List.forall₂_map_right_iff, List.forall₂_same]
  exact fun id _ => (literal_quote id).toPiece

/-- The key is one of the ids. -/
theorem piece_keyIn {ids : List String} (hne : ids ≠ []) :
    Piece ("WHERE " ++ idField ++ " IN (" ++ idList ids ++ ")")
      (.word "WHERE" :: keyInTokens ids) := by
  have he : "WHERE " ++ idField ++ " IN (" ++ idList ids ++ ")" =
      "WHERE" ++ " " ++ ("id" ++ " " ++ ("IN" ++ " " ++ ("(" ++ idList ids ++ ")"))) :=
    String.toList_inj.1 (by simp [idField])
  rw [he]
  exact (((piece_idList hne).brackets.keyword (by decide)).keyword (by decide)).keyword (by decide)

/-! ## SELECT -/

structure Shaped (s : Select) (shape : SelectShape) : Prop where
  table : Piece s.table shape.table
  columns : List.Forall₂ Piece s.columns shape.columns
  orderBy : List.Forall₂ Piece s.orderBy shape.orderBy
  limit : s.limit = shape.limit
  offset : s.offset = shape.offset

theorem numberSuffix {w : String} (hw : isWord w.toList) (n : Int) :
    Suffix (if 0 < n then " " ++ w ++ " " ++ toString n else "")
      (if 0 < n then .word w :: numberTokens (toString n) else []) := by
  split_ifs
  · rw [String.append_assoc, String.append_assoc,
      ← @String.append_assoc w]
    exact .some ((Literal.number (isSigned_intText n)).toPiece.keyword hw)
  · exact .none

theorem orderSuffix {terms : List String} {tss : List (List Token)}
    (h : List.Forall₂ Piece terms tss) :
    Suffix (if terms.isEmpty then "" else " ORDER BY " ++ ", ".intercalate terms)
      (if tss.isEmpty then [] else .word "ORDER" :: .word "BY" :: commas tss) := by
  cases h with
  | nil => exact .none
  | @cons term ts terms tss ht hts =>
    have hp := ((Piece.commaList (.cons ht hts) (by simp)).keyword (w := "BY") (by decide)).keyword
      (w := "ORDER") (by decide)
    have he : " ORDER BY " ++ ", ".intercalate (term :: terms) =
        " " ++ ("ORDER" ++ " " ++ ("BY" ++ " " ++ ", ".intercalate (term :: terms))) :=
      String.toList_inj.1 (by simp)
    rw [List.isEmpty_cons, List.isEmpty_cons, if_neg Bool.false_ne_true,
      if_neg Bool.false_ne_true, he]
    exact .some hp

theorem whereSuffix {predicate : Option String} {ts : Option (List Token)} :
    Option.Rel (fun s ts => Piece s (.word "WHERE" :: ts)) predicate ts →
      Suffix (match predicate with | some p => " " ++ p | none => "") (whereTokens ts)
  | .none => .none
  | .some h => .some h

namespace Shaped

variable {s s' : Select} {shape : SelectShape}

theorem ofTable {table : String} (h : Select.ofTable table = .ok s) :
    Shaped s (SelectShape.ofTable table) := by
  obtain ⟨t, ht, rfl⟩ := Except.map_eq_ok.1 h
  exact ⟨piece_name ht, .nil, .nil, rfl, rfl⟩

theorem project {fields : Keyed Bool} (hs : Shaped s shape) (h : s.project fields = .ok s') :
    Shaped s' (shape.project fields) := by
  unfold Select.project at h
  obtain ⟨columns, hc, h⟩ := Except.bind_eq_ok.1 h
  cases h
  have hp := mapM_forall₂ hc
  unfold SelectShape.project
  generalize (fields.entries.filter fun e => e.2 && e.1 ≠ idField) = chosen at hp
  cases hp with
  | nil => exact { hs with columns := .nil }
  | @cons e column chosen columns he hes =>
    have hid : Piece "id" [.word "id"] := .word (by decide)
    refine { hs with columns := .cons hid (.cons (piece_name he) ?_) }
    rw [List.forall₂_map_right_iff]
    exact hes.flip.imp fun _ _ => piece_name

theorem sort {order : Keyed String} (hs : Shaped s shape) (h : s.sort order = .ok s') :
    Shaped s' (shape.sort order) := by
  unfold Select.sort at h
  obtain ⟨terms, ht, h⟩ := Except.bind_eq_ok.1 h
  cases h
  refine { hs with orderBy := List.rel_append hs.orderBy ?_ }
  rw [List.forall₂_map_right_iff]
  refine (mapM_forall₂ ht).flip.imp fun e term he => ?_
  obtain ⟨column, hc, rfl⟩ := Except.map_eq_ok.1 he
  refine (piece_name hc).space ?_
  unfold Select.direction
  split_ifs
  · exact .word (by decide)
  · exact .word (by decide)

theorem withLimit (hs : Shaped s shape) (n : Int) :
    Shaped (s.withLimit n) { shape with limit := n } :=
  { hs with limit := rfl }

theorem withOffset (hs : Shaped s shape) (n : Int) :
    Shaped (s.withOffset n) { shape with offset := n } :=
  { hs with offset := rfl }

/-- The columns and the table of a SELECT. -/
theorem columnsPiece (hs : Shaped s shape) :
    Piece ("SELECT " ++ (if s.columns.isEmpty then "*" else ", ".intercalate s.columns) ++
        " FROM " ++ s.table)
      (.word "SELECT" ::
        (if shape.columns.isEmpty then [.operator "*"] else commas shape.columns) ++
          .word "FROM" :: shape.table) := by
  have hf := hs.table.keyword (w := "FROM") (by decide)
  have he : "SELECT " ++ (if s.columns.isEmpty then "*" else ", ".intercalate s.columns) ++
      " FROM " ++ s.table = "SELECT" ++ " " ++ ((if s.columns.isEmpty then "*" else
        ", ".intercalate s.columns) ++ " " ++ ("FROM" ++ " " ++ s.table)) :=
    String.toList_inj.1 (by simp)
  rw [he, List.cons_append]
  refine Piece.keyword ?_ (by decide)
  have hc := hs.columns
  generalize s.columns = columns at hc ⊢
  generalize shape.columns = tss at hc ⊢
  cases hc with
  | nil => exact hf.star
  | cons hc hcs => exact (Piece.commaList (.cons hc hcs) (by simp)).space hf

theorem render (hs : Shaped s shape) {predicate : Option String} {ts : Option (List Token)}
    (h : Option.Rel (fun s ts => Piece s (.word "WHERE" :: ts)) predicate ts) :
    Piece (s.render predicate) (shape.tokens ts) := by
  have hp := (((hs.columnsPiece.suffix (whereSuffix h)).suffix (orderSuffix hs.orderBy)).suffix
    (numberSuffix (w := "LIMIT") (by decide) shape.limit)).suffix
    (numberSuffix (w := "OFFSET") (by decide) shape.offset)
  unfold Select.render
  unfold SelectShape.tokens SelectShape.tail
  rw [hs.limit, hs.offset, show " LIMIT " = " " ++ "LIMIT" ++ " " from rfl,
    show " OFFSET " = " " ++ "OFFSET" ++ " " from rfl]
  simp only [List.append_assoc] at hp ⊢
  exact hp

end Shaped

/-! ## INSERT and COPY -/

theorem insertFields_eq_ok {records : List Record} {fields fs : List String}
    (h : insertFields records fields = .ok fs) :
    fs = resolveFields records fields ∧ fs ≠ [] := by
  unfold insertFields at h
  dsimp only at h
  split_ifs at h with _ hne
  cases h
  exact ⟨rfl, by simpa using hne⟩

theorem rowValues_eq_ok {n : Nat} {record : Record} {fields : List String} {values : List Value}
    (h : rowValues n record fields = .ok values) :
    List.Forall₂ (fun f v => record.get? f = some v) fields values :=
  (mapM_forall₂ h).imp fun f v hv => by
    split at hv
    · rename_i he
      cases hv
      exact he
    · cases hv

/-- What is done for every record and its number. -/
theorem numbered_forall₂ {α : Type} {f : Record × Nat → Except Error α} {records : List Record}
    {k : Nat} {xs : List α} (h : (records.zipIdx k).mapM f = .ok xs) :
    List.Forall₂ (fun r x => ∃ n, f (r, n) = .ok x) records xs := by
  induction records generalizing k xs with
  | nil => cases h; exact .nil
  | cons r records ih =>
    rw [List.zipIdx_cons, List.mapM_cons] at h
    obtain ⟨x, hx, h⟩ := Except.bind_eq_ok.1 h
    obtain ⟨xs, hxs, h⟩ := Except.bind_eq_ok.1 h
    cases h
    exact .cons ⟨k, hx⟩ (ih hxs)

/-- The literals of a row's values. -/
theorem pieces_row {record : Record} {fields : List String} {values : List Value}
    {texts : List String} {op : String}
    (hv : List.Forall₂ (fun f v => record.get? f = some v) fields values)
    (ht : (values.zip fields).mapM (fun (v, f) => scalar f op v) = .ok texts) :
    List.Forall₂ Piece texts (fields.map fun f => literalTokens ((record.get? f).getD .null)) := by
  induction hv generalizing texts with
  | nil => cases ht; exact .nil
  | cons hv _ ih =>
    rw [List.zip_cons_cons, List.mapM_cons] at ht
    obtain ⟨text, htext, ht⟩ := Except.bind_eq_ok.1 ht
    obtain ⟨texts, htexts, ht⟩ := Except.bind_eq_ok.1 ht
    cases ht
    rw [List.map_cons, hv]
    exact .cons (literal_scalar htext).toPiece (ih htexts)

theorem piece_insert {table t columns values : String} {fields : List String}
    {vss : List (List Token)} (ht : sqlIdent table = .ok t)
    (hc : columnList fields = .ok columns) (hne : fields ≠ []) (hv : Piece values (commas vss)) :
    Piece ("INSERT INTO " ++ t ++ "(" ++ columns ++ ") VALUES(" ++ values ++ ")" ++ returning)
      (insertTokens table fields vss) := by
  have htable := (((piece_name ht).keyword (w := "INTO") (by decide)).keyword (w := "INSERT")
    (by decide)).call (piece_columnList hc hne)
  have hvalues := (Piece.word (w := "VALUES") (by decide)).call hv
  have hid := (Piece.word (w := "id") (by decide)).keyword (w := "RETURNING") (by decide)
  have he : "INSERT INTO " ++ t ++ "(" ++ columns ++ ") VALUES(" ++ values ++ ")" ++ returning =
      "INSERT" ++ " " ++ ("INTO" ++ " " ++ t) ++ "(" ++ columns ++ ")" ++ " " ++
        ("VALUES" ++ "(" ++ values ++ ")") ++ " " ++ ("RETURNING" ++ " " ++ "id") :=
    String.toList_inj.1 (by simp [returning, idField])
  rw [he]
  have := (htable.space hvalues).space hid
  simpa [insertTokens, columnTokens, bracketed] using this

theorem insertLiteral_pieces {table : String} {records : List Record} {fields texts : List String}
    (h : insertLiteral table records fields = .ok texts) :
    List.Forall₂ Piece texts (records.map fun record =>
      insertTokens table (resolveFields records fields) ((resolveFields records fields).map
        fun f => literalTokens ((record.get? f).getD .null))) := by
  unfold insertLiteral at h
  obtain ⟨t, ht, h⟩ := Except.bind_eq_ok.1 h
  obtain ⟨fs, hfs, h⟩ := Except.bind_eq_ok.1 h
  obtain ⟨columns, hc, h⟩ := Except.bind_eq_ok.1 h
  obtain ⟨rfl, hne⟩ := insertFields_eq_ok hfs
  rw [List.forall₂_map_right_iff]
  refine (numbered_forall₂ h).flip.imp fun record text ⟨n, hn⟩ => ?_
  obtain ⟨values, hv, hn⟩ := Except.bind_eq_ok.1 hn
  obtain ⟨texts, htexts, hn⟩ := Except.bind_eq_ok.1 hn
  have hp := pieces_row (rowValues_eq_ok hv) htexts
  rw [← Except.ok.inj hn]
  refine piece_insert ht hc hne (.commaList hp ?_)
  rintro rfl
  exact hne (List.map_eq_nil_iff.1 (List.forall₂_nil_left_iff.1 hp))

theorem piece_placeholders {n : Nat} (hn : n ≠ 0) :
    Piece (placeholders n)
      (commas ((List.range n).map fun i => [.parameter (toString (i + 1))])) := by
  refine .commaList ?_ (by simpa using hn)
  rw [List.forall₂_map_left_iff, List.forall₂_map_right_iff, List.forall₂_same]
  intro i _
  exact Piece.parameter (natText_ne_nil _) (natText_isDigit _)

theorem insertParameterized_piece {table : String} {records : List Record} {fields : List String}
    {i : Insert} (h : insertParameterized table records fields = .ok i) :
    Piece i.sql (insertTokens table (resolveFields records fields)
      ((List.range (resolveFields records fields).length).map
        fun i => [.parameter (toString (i + 1))])) := by
  unfold insertParameterized at h
  obtain ⟨t, ht, h⟩ := Except.bind_eq_ok.1 h
  obtain ⟨fs, hfs, h⟩ := Except.bind_eq_ok.1 h
  obtain ⟨columns, hc, h⟩ := Except.bind_eq_ok.1 h
  obtain ⟨rows, -, h⟩ := Except.bind_eq_ok.1 h
  obtain ⟨rfl, hne⟩ := insertFields_eq_ok hfs
  rw [← Except.ok.inj h]
  exact piece_insert ht hc hne (piece_placeholders (by simpa using hne))

theorem insertCopy_pieces {table : String} {records : List Record} {fields : List String}
    {c : Copy} (h : insertCopy table records fields = .ok c) :
    Piece c.sql (copyTokens table (resolveFields records fields)) ∧
      Piece c.typesSql (typesTokens table (resolveFields records fields)) := by
  unfold insertCopy at h
  obtain ⟨t, ht, h⟩ := Except.bind_eq_ok.1 h
  obtain ⟨fs, hfs, h⟩ := Except.bind_eq_ok.1 h
  obtain ⟨columns, hc, h⟩ := Except.bind_eq_ok.1 h
  obtain ⟨rows, -, h⟩ := Except.bind_eq_ok.1 h
  obtain ⟨rfl, hne⟩ := insertFields_eq_ok hfs
  rw [← Except.ok.inj h]
  have htable := piece_name ht
  have hcolumns := piece_columnList hc hne
  constructor
  · have hb := (((Piece.word (w := "BINARY") (by decide)).keyword (w := "STDIN")
      (by decide)).keyword (w := "FROM") (by decide))
    have he : "COPY " ++ t ++ " (" ++ columns ++ ") FROM STDIN BINARY" =
        "COPY" ++ " " ++ t ++ " " ++ ("(" ++ columns ++ ")") ++ " " ++
          ("FROM" ++ " " ++ ("STDIN" ++ " " ++ "BINARY")) := String.toList_inj.1 (by simp)
    rw [he]
    have := ((htable.keyword (w := "COPY") (by decide)).space hcolumns.brackets).space hb
    simpa [copyTokens, columnTokens, bracketed] using this
  · have hl : Piece "0" [.number "0"] := (Literal.number (.inl (isNumeral_natText 0))).toPiece
    have he : "SELECT " ++ columns ++ " FROM " ++ t ++ " LIMIT 0" =
        "SELECT" ++ " " ++ columns ++ " " ++ ("FROM" ++ " " ++ t) ++ " " ++
          ("LIMIT" ++ " " ++ "0") := String.toList_inj.1 (by simp)
    rw [he]
    have := ((hcolumns.keyword (w := "SELECT") (by decide)).space
      (htable.keyword (w := "FROM") (by decide))).space (hl.keyword (w := "LIMIT") (by decide))
    simpa [typesTokens] using this

/-! ## UPDATE -/

theorem piece_set {n : Nat} {record : Record} {fields : List String} {set : String}
    (h : setClause n record fields = .ok set) : Piece set (setTokens record fields) := by
  unfold setClause at h
  dsimp only at h
  split_ifs at h with hne
  obtain ⟨parts, hparts, h⟩ := Except.bind_eq_ok.1 h
  have hp := mapM_forall₂ hparts
  rw [← Except.ok.inj h]
  refine .commaList ?_ ?_
  · rw [List.forall₂_map_right_iff]
    refine hp.flip.imp fun f part hpart => ?_
    obtain ⟨column, hc, hpart⟩ := Except.bind_eq_ok.1 hpart
    obtain ⟨text, ht, hpart⟩ := Except.bind_eq_ok.1 hpart
    rw [← Except.ok.inj hpart]
    exact (piece_name hc).compare (by decide) (literal_scalar ht)
  · rintro rfl
    rw [List.forall₂_nil_right_iff.1 hp] at hne
    exact hne rfl

theorem piece_update {table t set predicate : String} {record : Record} {fields : List String}
    {ts : List Token} (ht : sqlIdent table = .ok t) {n : Nat}
    (hs : setClause n record fields = .ok set) (hp : Piece predicate (.word "WHERE" :: ts)) :
    Piece ("UPDATE " ++ t ++ " SET " ++ set ++ " " ++ predicate)
      (updateTokens table record fields ts) := by
  have he : "UPDATE " ++ t ++ " SET " ++ set ++ " " ++ predicate =
      "UPDATE" ++ " " ++ t ++ " " ++ ("SET" ++ " " ++ set) ++ " " ++ predicate :=
    String.toList_inj.1 (by simp)
  rw [he]
  have := (((piece_name ht).keyword (w := "UPDATE") (by decide)).space
    ((piece_set hs).keyword (w := "SET") (by decide))).space hp
  simpa [updateTokens] using this

/-- The key is that of a record. -/
theorem piece_keyIs {n : Nat} {record : Record} {id : String} (h : idLiteral n record = .ok id) :
    Piece ("WHERE " ++ idField ++ "=" ++ id) (.word "WHERE" :: keyIsTokens record) := by
  have hl : Literal id (keyTokens (record.get? idField)) := by
    unfold idLiteral at h
    dsimp only at h
    generalize record.get? idField = key at h ⊢
    split at h
    · split_ifs at h
      rw [← Except.ok.inj h]
      exact literal_quote _
    · rw [← Except.ok.inj h]
      exact literal_integer _
    · cases h
  have he : "WHERE " ++ idField ++ "=" ++ id = "WHERE" ++ " " ++ ("id" ++ "=" ++ id) :=
    String.toList_inj.1 (by simp [idField])
  rw [he]
  have hsign : "=".toList ∈ comparisonSigns := by decide
  exact ((Piece.word (w := "id") (by decide)).compare hsign hl).keyword (by decide)

theorem updateByRecords_pieces {table : String} {records : List Record} {fields texts : List String}
    (h : updateByRecords table records fields = .ok texts) :
    List.Forall₂ Piece texts (records.map fun record =>
      updateTokens table record (updateFields records fields) (keyIsTokens record)) := by
  unfold updateByRecords at h
  obtain ⟨t, ht, h⟩ := Except.bind_eq_ok.1 h
  rw [List.forall₂_map_right_iff]
  refine (numbered_forall₂ h).flip.imp fun record text ⟨n, hn⟩ => ?_
  obtain ⟨id, hid, hn⟩ := Except.bind_eq_ok.1 hn
  obtain ⟨set, hset, hn⟩ := Except.bind_eq_ok.1 hn
  have he : "UPDATE " ++ t ++ " SET " ++ set ++ " WHERE " ++ idField ++ "=" ++ id =
      "UPDATE " ++ t ++ " SET " ++ set ++ " " ++ ("WHERE " ++ idField ++ "=" ++ id) :=
    String.toList_inj.1 (by simp)
  rw [← Except.ok.inj hn, he]
  exact piece_update ht hset (piece_keyIs hid)

theorem single_eq_ok {records : List Record} {record : Record}
    (h : single records = .ok record) : records = [record] := by
  unfold single at h
  split at h
  · cases h; rfl
  · cases h

theorem updateByIds_piece {table text : String} {records : List Record} {fields ids : List String}
    (h : updateByIds table records fields ids = .ok text) : ∃ record, records = [record] ∧
      Piece text (updateTokens table record (updateFields records fields) (keyInTokens ids)) := by
  unfold updateByIds at h
  obtain ⟨t, ht, h⟩ := Except.bind_eq_ok.1 h
  obtain ⟨_, hids, h⟩ := Except.bind_eq_ok.1 h
  obtain ⟨record, hr, h⟩ := Except.bind_eq_ok.1 h
  obtain ⟨set, hset, h⟩ := Except.bind_eq_ok.1 h
  have he : "UPDATE " ++ t ++ " SET " ++ set ++ " WHERE " ++ idField ++ " IN (" ++ idList ids ++
      ")" = "UPDATE " ++ t ++ " SET " ++ set ++ " " ++
        ("WHERE " ++ idField ++ " IN (" ++ idList ids ++ ")") := String.toList_inj.1 (by simp)
  rw [← Except.ok.inj h, he]
  exact ⟨record, single_eq_ok hr, piece_update ht hset (piece_keyIn (requireIds_eq_ok hids).1)⟩

theorem updateByCondition_piece {table text : String} {records : List Record}
    {fields : List String} {groups : List QueryGroup}
    (h : updateByCondition table records fields groups = .ok text) : ∃ record, records = [record] ∧
      Piece text (updateTokens table record (updateFields records fields)
        (conditionTokens groups)) := by
  unfold updateByCondition at h
  obtain ⟨t, ht, h⟩ := Except.bind_eq_ok.1 h
  obtain ⟨record, hr, h⟩ := Except.bind_eq_ok.1 h
  obtain ⟨condition, hc, h⟩ := Except.bind_eq_ok.1 h
  obtain ⟨set, hset, h⟩ := Except.bind_eq_ok.1 h
  rw [← Except.ok.inj h]
  exact ⟨record, single_eq_ok hr, piece_update ht hset (piece_where hc)⟩

/-! ## DELETE -/

theorem piece_delete {table t : String} (ht : sqlIdent table = .ok t) :
    Piece ("DELETE FROM " ++ t) (deleteTokens table none) := by
  have he : "DELETE FROM " ++ t = "DELETE" ++ " " ++ ("FROM" ++ " " ++ t) :=
    String.toList_inj.1 (by simp)
  rw [he]
  have := ((piece_name ht).keyword (w := "FROM") (by decide)).keyword (w := "DELETE") (by decide)
  simpa [deleteTokens, whereTokens] using this

theorem piece_deleteWhere {table t predicate : String} {ts : List Token}
    (ht : sqlIdent table = .ok t) (hp : Piece predicate (.word "WHERE" :: ts)) :
    Piece ("DELETE FROM " ++ t ++ " " ++ predicate) (deleteTokens table (some ts)) := by
  have := (piece_delete ht).space hp
  simpa [deleteTokens, whereTokens] using this

theorem deleteByIds_piece {table text : String} {ids : List String}
    (h : deleteByIds table ids = .ok text) :
    Piece text (deleteTokens table (some (keyInTokens ids))) := by
  unfold deleteByIds at h
  obtain ⟨t, ht, h⟩ := Except.bind_eq_ok.1 h
  obtain ⟨_, hids, h⟩ := Except.bind_eq_ok.1 h
  have he : "DELETE FROM " ++ t ++ " WHERE " ++ idField ++ " IN (" ++ idList ids ++ ")" =
      "DELETE FROM " ++ t ++ " " ++ ("WHERE " ++ idField ++ " IN (" ++ idList ids ++ ")") :=
    String.toList_inj.1 (by simp)
  rw [← Except.ok.inj h, he]
  exact piece_deleteWhere ht (piece_keyIn (requireIds_eq_ok hids).1)

theorem deleteByCondition_piece {table text : String} {groups : List QueryGroup}
    (h : deleteByCondition table groups = .ok text) :
    Piece text (deleteTokens table (some (conditionTokens groups))) := by
  unfold deleteByCondition at h
  obtain ⟨t, ht, h⟩ := Except.bind_eq_ok.1 h
  obtain ⟨condition, hc, h⟩ := Except.bind_eq_ok.1 h
  rw [← Except.ok.inj h]
  exact piece_deleteWhere ht (piece_where hc)

theorem deleteAll_piece {table text : String} (h : deleteAll table = .ok text) :
    Piece text (deleteTokens table none) := by
  unfold deleteAll at h
  obtain ⟨t, ht, h⟩ := Except.bind_eq_ok.1 h
  rw [← Except.ok.inj h]
  exact piece_delete ht

end Rowgate.Sql
