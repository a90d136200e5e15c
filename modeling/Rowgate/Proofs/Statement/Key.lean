/-
  The columns that UPDATE statements assign, read off their tokens.

  * `Sql.target?`: a name at the head of some tokens, as the server takes it;
  * `Sql.assigned?`: the columns that the SET list of a text assigns;
  * `Targets`: what a statement for a record assigns: the columns of its keys but the one that
    is spelled as the key is;
  * `update_targets`: this is so for the three builders; `update_assigns_key` is an update that
    writes the key.
-/
import Rowgate.Proofs.Resolution
import Rowgate.Proofs.Statement.Update

namespace Rowgate

/-! ## Reading assignments -/

namespace Sql

/-- The name that a token stands for. -/
def Token.part? : Token → Option String
  | .word text => some (IdentPart.unquoted text).resolved
  | .name text => some text
  | _ => none

/-- A name at the head of some tokens, its parts joined by points, and what follows it. -/
def target? : List Token → Option (List String × List Token)
  | t :: .mark '.' :: r => do
    let part ← t.part?
    let (parts, rest) ← target? r
    return (part :: parts, rest)
  | t :: r => t.part?.map fun part => ([part], r)
  | [] => none

/-- The tokens that a value may have: none that ends an assignment. -/
def isValue (t : Token) : Bool :=
  t ≠ .mark ',' && t ≠ .word "WHERE"

/-- The columns of a list of assignments, each a name, an equals sign and a value. -/
def assignments? : Nat → List Token → Option (List (List String))
  | 0, _ => none
  | fuel + 1, ts =>
    match target? ts with
    | some (column, .operator "=" :: value) =>
      match value.dropWhile isValue with
      | .mark ',' :: rest => (assignments? fuel rest).map (column :: ·)
      | _ => some [column]
    | _ => none

/-- The columns that an UPDATE assigns. -/
def assigned? (text : String) : Option (List (List String)) :=
  match tokens? text with
  | some (.word "UPDATE" :: ts) =>
    match target? ts with
    | some (_, .word "SET" :: set) => assignments? set.length set
    | _ => none
  | _ => none

variable {ps : List IdentPart} {rest : List Token} {name : String} {parts : List String}

theorem part?_token (p : IdentPart) : p.token.part? = some p.resolved := by
  cases p <;> rfl

theorem target?_parts (hne : ps ≠ []) (hrest : rest.head? ≠ some (.mark '.')) :
    target? ([Token.mark '.'].intercalate (ps.map fun p => [p.token]) ++ rest) =
      some (ps.map IdentPart.resolved, rest) := by
  induction ps with
  | nil => exact absurd rfl hne
  | cons p ps ih =>
    cases ps with
    | nil =>
      show target? (p.token :: rest) = _
      unfold target?
      split
      · rename_i heq
        cases heq
        exact absurd rfl hrest
      · rename_i heq
        cases heq
        rw [part?_token]
        rfl
      · rename_i heq
        cases heq
    | cons q ps =>
      have htail := ih (by simp)
      have hsplit : [Token.mark '.'].intercalate ((p :: q :: ps).map fun p => [p.token]) ++ rest =
          p.token :: .mark '.' ::
            ([Token.mark '.'].intercalate ((q :: ps).map fun p => [p.token]) ++ rest) := by
        simp [List.intercalate]
      rw [hsplit, target?, part?_token, htail]
      rfl

/-- A name is read as what the server takes it for. -/
theorem target?_name (h : resolve? name = some parts) (hrest : rest.head? ≠ some (.mark '.')) :
    target? (nameTokens name ++ rest) = some (parts, rest) := by
  obtain ⟨i, hi, rfl⟩ := resolve?_eq_some.1 h
  have hne := (Ident.parse_valid hi).1
  have htokens : nameTokens name = i.tokens := by rw [nameTokens, hi]
  rw [htokens]
  exact target?_parts hne hrest

theorem isValue_number (text : String) : ∀ t ∈ numberTokens text, isValue t := by
  unfold numberTokens
  split <;> simp [isValue]

theorem isValue_literal (v : Value) : ∀ t ∈ literalTokens v, isValue t := by
  cases v with
  | null => simp [literalTokens, isValue]
  | bool b => cases b <;> simp [literalTokens, isValue]
  | integer n => exact isValue_number _
  | float x => exact isValue_number _
  | timestamp t => simp [literalTokens, isValue]
  | string s => simp [literalTokens, isValue]
  | stringArray items => simp [literalTokens, isValue]
  | numericArray items => simp [literalTokens, isValue]

/-- A value ends before what is none. -/
theorem dropWhile_literal (v : Value) {t : Token} (ht : isValue t = false) (r : List Token) :
    (literalTokens v ++ t :: r).dropWhile isValue = t :: r := by
  rw [List.dropWhile_append_of_pos (isValue_literal v), List.dropWhile_cons_of_neg (by simp [ht])]

variable {record : Record} {fields : List String} {columns : List (List String)} {fuel : Nat}

theorem setTokens_singleton (record : Record) (f : String) : setTokens record [f] =
    nameTokens f ++ .operator "=" :: literalTokens ((record.get? f).getD .null) := by
  simp [setTokens]

theorem setTokens_cons (record : Record) (f g : String) (fields : List String) :
    setTokens record (f :: g :: fields) =
      nameTokens f ++ .operator "=" :: literalTokens ((record.get? f).getD .null) ++
        .mark ',' :: setTokens record (g :: fields) :=
  commas_cons_cons _ _ _

/-- A SET list assigns the columns that its fields are taken for. -/
theorem assignments?_setTokens (hne : fields ≠ []) (hfuel : fields.length ≤ fuel)
    (h : List.Forall₂ (fun f column => resolve? f = some column) fields columns) :
    assignments? fuel (setTokens record fields ++ .word "WHERE" :: rest) = some columns := by
  induction h generalizing fuel with
  | nil => exact absurd rfl hne
  | @cons f column fields columns hf hfields ih =>
    obtain ⟨fuel, rfl⟩ : ∃ k, fuel = k + 1 := ⟨fuel - 1, by
      rw [List.length_cons] at hfuel
      omega⟩
    cases hfields with
    | nil =>
      rw [setTokens_singleton, List.append_assoc, assignments?, target?_name hf (by simp)]
      simp only [List.cons_append]
      rw [dropWhile_literal _ rfl]
    | @cons g column' fields columns hg hfields =>
      have hrest := ih (by simp) (Nat.le_of_succ_le_succ hfuel)
      rw [setTokens_cons, List.append_assoc, List.append_assoc, assignments?,
        target?_name hf (by simp)]
      simp only [List.cons_append]
      rw [dropWhile_literal _ rfl]
      simp only [hrest, Option.map_some]

theorem length_le_setTokens (record : Record) (fields : List String) :
    fields.length ≤ (setTokens record fields).length := by
  induction fields with
  | nil => exact Nat.zero_le _
  | cons f fields ih =>
    cases fields with
    | nil =>
      rw [setTokens_singleton, List.length_append, List.length_singleton, List.length_cons]
      omega
    | cons g fields =>
      rw [setTokens_cons]
      simp only [List.length_append, List.length_cons] at ih ⊢
      omega

/-- An UPDATE assigns the columns that its fields are taken for. -/
theorem assigned?_eq {table text : String} (htable : resolve? table = some parts)
    (hne : fields ≠ []) (h : List.Forall₂ (fun f column => resolve? f = some column) fields columns)
    (htext : Piece text (updateTokens table record fields rest)) :
    assigned? text = some columns := by
  have hset := length_le_setTokens record fields
  have htokens : tokens? text = some (.word "UPDATE" :: (nameTokens table ++
      .word "SET" :: (setTokens record fields ++ .word "WHERE" :: rest))) := by
    rw [htext.tokens?_eq, updateTokens, List.cons_append, List.cons_append, List.append_assoc,
      List.cons_append]
  rw [assigned?, htokens]
  simp only [target?_name htable (show (Token.word "SET" :: _).head? ≠ some (.mark '.') by simp)]
  refine assignments?_setTokens hne ?_ h
  rw [List.length_append]
  omega

end Sql

/-! ## The builders -/

namespace Statement

variable {table text : String} {record : Record} {records : List Record} {fields ids : List String}
  {groups : List QueryGroup} {predicate : List Sql.Token}

/-- What the statement of a record assigns: the columns of the fields, which are the keys of the
    record but the one that is spelled as the key is.  So it assigns the key just if the record
    has a key in another spelling of it. -/
def Targets (fields : List String) (record : Record) (text : String) : Prop :=
  ∃ columns, Sql.assigned? text = some columns ∧
    List.Forall₂ (fun f column => resolve? f = some column) fields columns ∧
    (∀ f, f ∈ fields ↔ f ≠ idField ∧ f ∈ record.keys) ∧
    ([idField] ∈ columns ↔ ∃ f ∈ record.keys, f ≠ idField ∧ f ∈ keySpellings)

theorem resolve?_of_sqlIdent {name sql : String} (h : sqlIdent name = .ok sql) :
    ∃ parts, resolve? name = some parts := by
  obtain ⟨i, hi, -⟩ := Except.map_eq_ok.1 h
  exact ⟨i.resolved, resolve?_eq_some.2 ⟨i, hi, rfl⟩⟩

theorem targets_of_sets {sql set : String} (htable : sqlIdent table = .ok sql)
    (hset : Sets record fields set) (htext : Sql.Piece text
      (Sql.updateTokens table record fields predicate)) : Targets fields record text := by
  obtain ⟨hne, hnames, parts, hparts, -⟩ := hset
  obtain ⟨columns, hcolumns⟩ : ∃ columns,
      List.Forall₂ (fun f column => resolve? f = some column) fields columns := by
    refine forall₂_exists_iff.2 fun f hf => ?_
    obtain ⟨part, -, column, v, text, hcolumn, -⟩ := forall₂_exists_right hparts hf
    exact resolve?_of_sqlIdent hcolumn
  obtain ⟨tableParts, htable⟩ := resolve?_of_sqlIdent htable
  refine ⟨columns, Sql.assigned?_eq htable hne hcolumns htext, hcolumns, hnames, ?_⟩
  constructor
  · intro hkey
    obtain ⟨f, hf, hresolved⟩ := forall₂_exists_right hcolumns.flip hkey
    obtain ⟨hother, hmem⟩ := (hnames f).1 hf
    exact ⟨f, hmem, hother, resolve?_key_iff.1 hresolved⟩
  · rintro ⟨f, hmem, hother, hspelled⟩
    obtain ⟨column, hcolumn, hresolved⟩ :=
      forall₂_exists_right hcolumns ((hnames f).2 ⟨hother, hmem⟩)
    rw [resolve?_key_iff.2 hspelled] at hresolved
    rwa [Option.some.inj hresolved]

/-- **An update assigns the columns of a record's keys but `id`.**  It assigns the key itself
    just if the record has a key that is another spelling of it. -/
theorem update_targets (table : String) (records : List Record) (fields : List String) :
    (∀ texts, updateByRecords table records fields = .ok texts →
      List.Forall₂ (Targets (updateFields records fields)) records texts) ∧
    (∀ ids text, updateByIds table records fields ids = .ok text →
      ∃ record, records = [record] ∧ Targets (updateFields records fields) record text) ∧
    ∀ groups text, updateByCondition table records fields groups = .ok text →
      ∃ record, records = [record] ∧ Targets (updateFields records fields) record text := by
  refine ⟨fun texts h => ?_, fun ids text h => ?_, fun groups text h => ?_⟩
  · obtain ⟨name, hname, hown⟩ := updateByRecords_eq_ok_iff.1 h
    have hpieces := Sql.updateByRecords_pieces h
    rw [List.forall₂_map_right_iff] at hpieces
    refine (forall₂_both hown hpieces.flip).imp fun record text ⟨hown, hpiece⟩ => ?_
    obtain ⟨set, id, hset, -, -⟩ := hown
    exact targets_of_sets hname hset hpiece
  · obtain ⟨name, record, set, hname, -, -, rfl, hset, -⟩ := updateByIds_eq_ok_iff.1 h
    obtain ⟨record', heq, hpiece⟩ := Sql.updateByIds_piece h
    cases heq
    exact ⟨record, rfl, targets_of_sets hname hset hpiece⟩
  · obtain ⟨name, record, set, condition, hname, rfl, -, hset, -⟩ := updateByCondition_eq_ok_iff.1 h
    obtain ⟨record', heq, hpiece⟩ := Sql.updateByCondition_piece h
    cases heq
    exact ⟨record, rfl, targets_of_sets hname hset hpiece⟩

/-- A note with its key in capitals. -/
def loudNote : Record :=
  .ofList [("ID", .integer 8), ("n", .integer 1)]

theorem update_targets_note :
    updateByIds "notes" [loudNote] [] ["7"] =
        .ok "UPDATE notes SET ID=8, n=1 WHERE id IN ('7')" ∧
      Targets ["ID", "n"] loudNote "UPDATE notes SET ID=8, n=1 WHERE id IN ('7')" := by
  have htext : updateByIds "notes" [loudNote] [] ["7"] =
      .ok "UPDATE notes SET ID=8, n=1 WHERE id IN ('7')" := rfl
  obtain ⟨record, hrecord, htargets⟩ := (update_targets _ _ _).2.1 _ _ htext
  cases hrecord
  exact ⟨htext, htargets⟩

/-- Its update writes the key, and so does that of a batch with the key among the fields in
    another spelling. -/
theorem update_assigns_key :
    (updateByIds "notes" [loudNote] [] ["7"] =
        .ok "UPDATE notes SET ID=8, n=1 WHERE id IN ('7')" ∧
      Sql.assigned? "UPDATE notes SET ID=8, n=1 WHERE id IN ('7')" = some [["id"], ["n"]]) ∧
    updateByRecords "notes" [.ofList [("\"id\"", .integer 8), ("id", .integer 7)]] ["\"id\""] =
        .ok ["UPDATE notes SET \"id\"=8 WHERE id=7"] ∧
      Sql.assigned? "UPDATE notes SET \"id\"=8 WHERE id=7" = some [["id"]] :=
  ⟨⟨rfl, by decide +kernel⟩, rfl, by decide +kernel⟩

end Statement

end Rowgate
