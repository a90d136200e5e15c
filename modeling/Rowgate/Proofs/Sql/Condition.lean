/-
  Values and conditions are pieces with their shapes.

  * `literal_scalar`: the literal of a value;
  * `piece_comparison`, `piece_item`, `piece_group`: the parts of a condition;
  * `piece_predicate`: a condition that compiles is read as `conditionTokens` of its groups.
-/
import Rowgate.Proofs.Sql.Name
import Rowgate.Proofs.Sql.Numeral

namespace Rowgate.Sql

/-! ## Values -/

theorem literal_quote (s : String) : Literal (quote s) [.string s] := by
  have hq : (quote s).toList = Text.quoted '\'' s.toList := String.toList_ofList
  refine ⟨⟨⟨'\'', Text.doubled '\'' s.toList ++ ['\''], hq, by decide⟩, fun rest hr => ?_⟩,
    fun rest => ?_⟩
  · rw [hq]
    simpa using reads_string (s := s.toList) hr
  · rw [hq]
    exact operand_of_not_operatorChar (by decide) _

theorem literal_string (s : String) : Literal (Sql.string s) [.string (storedText s)] := by
  unfold Sql.string storedText
  split_ifs
  · exact literal_quote _
  · exact literal_quote _

theorem number_eq_ok {field op s : String} {x : Double} (h : number field op x = .ok s) :
    x.isFinite ∧ s = x.text := by
  unfold number at h
  split_ifs at h with hx
  cases h
  exact ⟨hx, rfl⟩

theorem literal_number {field op s : String} {x : Double} (h : number field op x = .ok s) :
    Literal s (numberTokens x.text) := by
  obtain ⟨hx, rfl⟩ := number_eq_ok h
  exact .number (isSigned_doubleText hx)

theorem literal_integer (n : Int64) : Literal (integerText n) (numberTokens (integerText n)) :=
  .number (isSigned_intText n.toInt)

/-- The texts of numbers that all have a literal. -/
theorem mapM_number_eq_ok {field op : String} {items : List Double} {ss : List String}
    (h : items.mapM (number field op) = .ok ss) : ss = items.map Double.text := by
  have := mapM_forall₂ h
  induction this with
  | nil => rfl
  | cons hx _ ih =>
    obtain ⟨-, rfl⟩ := number_eq_ok hx
    rw [List.map_cons, ← ih]
    rw [List.mapM_cons] at h
    obtain ⟨_, -, h⟩ := Except.bind_eq_ok.1 h
    obtain ⟨_, hl, h⟩ := Except.bind_eq_ok.1 h
    cases h
    exact hl

theorem literal_scalar {field op s : String} {v : Value} (h : scalar field op v = .ok s) :
    Literal s (literalTokens v) := by
  cases v with
  | null =>
    rw [← Except.ok.inj h]
    exact Literal.word (w := "NULL") (by decide)
  | bool b =>
    rw [← Except.ok.inj h]
    cases b with
    | false => exact Literal.word (w := "false") (by decide)
    | true => exact Literal.word (w := "true") (by decide)
  | integer n =>
    rw [← Except.ok.inj h]
    exact literal_integer n
  | float x => exact literal_number h
  | timestamp t =>
    rw [← Except.ok.inj h]
    exact literal_quote t.sqlText
  | string s =>
    rw [← Except.ok.inj h]
    exact literal_string s
  | stringArray items =>
    rw [← Except.ok.inj h]
    exact literal_quote (arrayText (items.map arrayElement))
  | numericArray items =>
    obtain ⟨ss, hss, rfl⟩ := Except.map_eq_ok.1 h
    rw [mapM_number_eq_ok hss]
    exact literal_quote (arrayText (items.map Double.text))

/-! ## Comparisons -/

theorem symbol_mem_comparisonSigns {op : Operator} {symbol : String}
    (h : op.symbol? = some symbol) : symbol.toList ∈ comparisonSigns := by
  cases op <;> simp only [Operator.symbol?, Option.some.injEq, reduceCtorEq] at h <;> subst h <;>
    decide

/-- A list of pieces in brackets behind IN or NOT IN. -/
theorem piece_in {column : String} {ts : List Token} (hc : Piece column ts) (op : Operator)
    {ss : List String} {tss : List (List Token)} (h : List.Forall₂ Piece ss tss) (hne : ss ≠ []) :
    Piece (column ++ " " ++ (if op = .notIn then "NOT IN" else "IN") ++ " (" ++
      ", ".intercalate ss ++ ")") (ts ++ inTokens op ++ bracketed (commas tss)) := by
  have hl := (Piece.commaList h hne).brackets
  have he : column ++ " " ++ (if op = .notIn then "NOT IN" else "IN") ++ " (" ++
      ", ".intercalate ss ++ ")" = column ++ " " ++ ((if op = .notIn then "NOT IN" else "IN") ++
        " " ++ ("(" ++ ", ".intercalate ss ++ ")")) := String.toList_inj.1 (by simp)
  rw [he, List.append_assoc]
  refine hc.space (Piece.space ?_ hl)
  unfold inTokens
  split_ifs
  · exact (Piece.word (w := "NOT") (by decide)).space (Piece.word (w := "IN") (by decide))
  · exact Piece.word (by decide)

/-- The keyword of a pattern operator and the literal of its pattern. -/
theorem piece_pattern {s keyword pattern : String} {op : Operator}
    (h : Condition.pattern? s op = some (keyword, pattern)) :
    Piece (keyword ++ " " ++ quote pattern) (patternTokens s op) := by
  have hlike (t : String) : Piece ("LIKE" ++ " " ++ quote t) [.word "LIKE", .string t] :=
    (Piece.word (w := "LIKE") (by decide)).space (literal_quote t).toPiece
  have hnot (t : String) :
      Piece ("NOT LIKE" ++ " " ++ quote t) [.word "NOT", .word "LIKE", .string t] := by
    have he : "NOT LIKE" ++ " " ++ quote t = "NOT" ++ " " ++ ("LIKE" ++ " " ++ quote t) :=
      String.toList_inj.1 (by simp)
    rw [he]
    exact (Piece.word (w := "NOT") (by decide)).space (hlike t)
  cases op with
  | startsWith => cases h; exact hlike _
  | endsWith => cases h; exact hlike _
  | contains => cases h; exact hlike _
  | notStartsWith => cases h; exact hnot _
  | notEndsWith => cases h; exact hnot _
  | notContains => cases h; exact hnot _
  | _ => cases h

/-- The elements of an array value, each a piece. -/
theorem list_pieces {field op list : String} {v : Value}
    (h : Sql.list field op v = .ok (some list)) :
    ∃ ss tss, list = ", ".intercalate ss ∧ List.Forall₂ Piece ss tss ∧
      ((∃ items, v = .stringArray items ∧ tss = items.map fun s => [.string s]) ∨
        ∃ items, v = .numericArray items ∧ tss = items.map fun x => numberTokens x.text) := by
  cases v with
  | stringArray items =>
    refine ⟨items.map quote, _, ?_, ?_, .inl ⟨items, rfl, rfl⟩⟩
    · exact (Option.some.inj (Except.ok.inj h)).symm
    · rw [List.forall₂_map_left_iff, List.forall₂_map_right_iff, List.forall₂_same]
      exact fun s _ => (literal_quote s).toPiece
  | numericArray items =>
    obtain ⟨ss, hss, hl⟩ := Except.map_eq_ok.1 h
    refine ⟨ss, _, (Option.some.inj hl).symm, ?_, .inr ⟨items, rfl, rfl⟩⟩
    rw [List.forall₂_map_right_iff]
    exact (mapM_forall₂ hss).flip.imp fun x s hs => by
      obtain ⟨-, rfl⟩ := number_eq_ok hs
      exact (literal_number hs).toPiece
  | _ => cases h

/-- The text of a comparison of a column with a value. -/
theorem piece_comparison {column field text : String} {ts : List Token} {op : Operator} {v : Value}
    (hc : Piece column ts) (h : Condition.comparison column field op v = .ok text) :
    Piece text (comparisonTokens ts op v) := by
  unfold Condition.comparison at h
  unfold comparisonTokens
  cases ha : op.accepts v with
  | false => simp [ha] at h
  | true =>
  rw [ha, Bool.not_true, if_neg Bool.false_ne_true] at h
  split at h
  · rename_i symbol hs
    obtain ⟨t, ht, rfl⟩ := Except.map_eq_ok.1 h
    rw [hs]
    exact hc.compare (symbol_mem_comparisonSigns hs) (literal_scalar ht)
  · rename_i hs
    rw [hs]
    split at h
    · split at h
      · rename_i keyword pattern hp
        have he : column ++ " " ++ keyword ++ " " ++ quote pattern =
            column ++ " " ++ (keyword ++ " " ++ quote pattern) := String.toList_inj.1 (by simp)
        rw [← Except.ok.inj h, he]
        exact hc.space (piece_pattern hp)
      · cases h
    · obtain ⟨o, ho, h⟩ := Except.bind_eq_ok.1 h
      dsimp only at h
      split at h
      · rename_i list
        cases he : list.isEmpty with
        | true => simp [he, throw, throwThe, MonadExceptOf.throw] at h
        | false =>
        rw [he, if_neg Bool.false_ne_true] at h
        obtain ⟨ss, tss, rfl, hss, hv⟩ := list_pieces ho
        have hne : ss ≠ [] := by
          rintro rfl
          cases he
        rw [← Except.ok.inj h]
        have := piece_in hc op hss hne
        rcases hv with ⟨items, rfl, rfl⟩ | ⟨items, rfl, rfl⟩
        · exact this
        · exact this
      · cases h

/-! ## Items and groups -/

theorem piece_item {i : QueryItem} {o : Option String} (h : Condition.item i = .ok o) :
    Option.Rel Piece o (itemTokens? i) := by
  unfold Condition.item at h
  unfold itemTokens? clause?
  split at h
  · rename_i he
    cases h
    rw [he]
    exact .none
  · rename_i field operators he
    rw [he]
    dsimp only
    split at h
    · rename_i he
      cases h
      rw [he]
      exact .none
    · rename_i name v he
      rw [he]
      dsimp only
      split_ifs at h ⊢
      · cases h; exact .none
      · obtain ⟨op, hop, h⟩ := Except.bind_eq_ok.1 h
        obtain ⟨column, hcolumn, h⟩ := Except.bind_eq_ok.1 h
        obtain ⟨text, htext, h⟩ := Except.bind_eq_ok.1 h
        cases h
        rw [Option.map_some, hop]
        exact .some (piece_comparison (piece_name hcolumn) htext)
    · cases h
  · cases h

/-- A text and the tokens of a part, with the same link to the next one. -/
def LinkedPiece (part : String × Link) (shape : List Token × Link) : Prop :=
  Piece part.1 shape.1 ∧ part.2 = shape.2

theorem survivors_pieces {α : Type} {text : α → Except Error (Option String)}
    {tokens : α → Option (List Token)} {link : α → String}
    (hp : ∀ x o, text x = .ok o → Option.Rel Piece o (tokens x)) {xs : List α}
    {parts : List (String × Link)} (h : Condition.survivors text link xs = .ok parts) :
    List.Forall₂ LinkedPiece parts (linkedParts tokens link xs) := by
  induction xs generalizing parts with
  | nil => cases h; exact .nil
  | cons x xs ih =>
    unfold Condition.survivors at h
    obtain ⟨o, ho, h⟩ := Except.bind_eq_ok.1 h
    have hx := hp x o ho
    unfold linkedParts
    rw [List.filterMap_cons]
    generalize tokens x = shape at hx
    cases hx with
    | none => exact ih h
    | some hs =>
      obtain ⟨parts, hparts, h⟩ := Except.bind_eq_ok.1 h
      cases h
      exact .cons ⟨hs, rfl⟩ (ih hparts)

theorem piece_joinLinked {parts : List (String × Link)} {shapes : List (List Token × Link)}
    (h : List.Forall₂ LinkedPiece parts shapes) (hne : parts ≠ []) :
    Piece (Condition.joinLinked parts) (linked shapes) := by
  induction h with
  | nil => exact absurd rfl hne
  | @cons p s ps ss hp hps ih =>
    obtain ⟨text, link⟩ := p
    obtain ⟨ts, link'⟩ := s
    obtain ⟨hp, rfl⟩ := hp
    cases hps with
    | nil => exact hp
    | cons hp' hps' =>
      have hw : Piece link.sql [.word link.sql] := by
        cases link with
        | and => exact .word (by decide)
        | or => exact .word (by decide)
      have := (hp.space hw).space (ih (by simp))
      rw [List.append_assoc] at this
      exact this

theorem piece_group {g : QueryGroup} {o : Option String} (h : Condition.group g = .ok o) :
    Option.Rel Piece o (groupTokens? g) := by
  unfold Condition.group at h
  obtain ⟨parts, hparts, h⟩ := Except.bind_eq_ok.1 h
  have hp := survivors_pieces (fun _ _ => piece_item) hparts
  unfold groupTokens?
  generalize linkedParts itemTokens? QueryItem.link (Condition.orderedItems g) = shapes at hp
  cases hp with
  | nil => cases h; exact .none
  | cons hp hps =>
    cases h
    exact .some (piece_joinLinked (.cons hp hps) (by simp)).brackets

/-- A condition that compiles is read as its groups. -/
theorem piece_predicate {groups : List QueryGroup} {text : String}
    (h : Condition.predicate groups = .ok text) : Piece text (conditionTokens groups) := by
  unfold Condition.predicate at h
  split_ifs at h
  obtain ⟨parts, hparts, h⟩ := Except.bind_eq_ok.1 h
  have hp := survivors_pieces (fun _ _ => piece_group) hparts
  unfold conditionTokens
  cases parts with
  | nil => cases h
  | cons part parts =>
    rw [← Except.ok.inj h]
    exact piece_joinLinked hp (by simp)

theorem piece_where {groups : List QueryGroup} {text : String}
    (h : Condition.whereClause groups = .ok text) :
    Piece text (.word "WHERE" :: conditionTokens groups) := by
  obtain ⟨t, ht, rfl⟩ := Except.map_eq_ok.1 h
  have he : "WHERE " ++ t = "WHERE" ++ " " ++ t := String.toList_inj.1 (by simp)
  rw [he]
  exact (Piece.word (w := "WHERE") (by decide)).space (piece_predicate ht)

end Rowgate.Sql
