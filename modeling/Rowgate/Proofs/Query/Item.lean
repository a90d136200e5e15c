/-
  Items of conditions: skipped, accepted or faulty.

  * `QueryItem.Shape`: how many fields and operators an item has;
  * `item_eq_none`: the skipped items are those that `Skippable` describes;
  * `QueryItem.WellFormed`, `item_succeeds`: the items that have a text;
  * `QueryItem.Fault`, `item_eq_error`: the others, with what is wrong in the order of the checks;
  * `accepts_of_symbol_none`: a value that an operator without a sign accepts is never refused
    behind that check.
-/
import Mathlib.Data.List.TakeWhile
import Rowgate.Proofs.Sql.Skipped

namespace Rowgate

/-! ## Skipped items -/

namespace QueryItem

variable {i : QueryItem}

/-- The shapes of an item: no field, one field with no operator, one or many, and many fields. -/
inductive Shape (i : QueryItem) : Prop
  | noField (h : i.condition.entries = [])
  | noOperator {field : String} {operators : Keyed Value}
      (h : i.condition.entries = [(field, operators)]) (ho : operators.entries = [])
  | single {field name : String} {operators : Keyed Value} {v : Value}
      (h : i.condition.entries = [(field, operators)]) (ho : operators.entries = [(name, v)])
  | manyOperators {field : String} {operators : Keyed Value} {e e' : String × Value}
      {r : List (String × Value)} (h : i.condition.entries = [(field, operators)])
      (ho : operators.entries = e :: e' :: r)
  | manyFields {e e' : String × Keyed Value} {r : List (String × Keyed Value)}
      (h : i.condition.entries = e :: e' :: r)

theorem shape (i : QueryItem) : Shape i := by
  match h : i.condition.entries with
  | [] => exact .noField h
  | [(field, operators)] =>
    match ho : operators.entries with
    | [] => exact .noOperator h ho
    | [(name, v)] => exact .single h ho
    | _ :: _ :: _ => exact .manyOperators h ho
  | _ :: _ :: _ => exact .manyFields h

/-- Blank names and null count as nothing. -/
def Blank (field name : String) (v : Value) : Prop :=
  Text.allBlank field ∨ Text.allBlank name ∨ v = .null

instance (field name : String) (v : Value) : Decidable (Blank field name v) :=
  inferInstanceAs (Decidable (_ ∨ _ ∨ _))

theorem skippable_single {field name : String} {operators : Keyed Value} {v : Value}
    (h : i.condition.entries = [(field, operators)]) (ho : operators.entries = [(name, v)]) :
    i.Skippable ↔ Blank field name v := by
  simp [Skippable, h, ho, Blank]

instance : DecidablePred Skippable := fun i =>
  match h : i.condition.entries with
  | [] => .isTrue (by simp [Skippable, h])
  | [(_, operators)] =>
    match ho : operators.entries with
    | [] => .isTrue (by simp [Skippable, h, ho])
    | [(_, _)] => decidable_of_iff _ (skippable_single h ho).symm
    | _ :: _ :: _ => .isFalse (by simp [Skippable, h, ho])
  | _ :: _ :: _ => .isFalse (by simp [Skippable, h])

end QueryItem

namespace Condition

variable {i : QueryItem} {e : Error}

/-- The clause of an item that is not skipped: its operator, its field and its comparison. -/
def clause (field name : String) (v : Value) : Except Error String := do
  let op ← Operator.parse name
  let column ← sqlIdent field
  comparison column field op v

theorem item_single {field name : String} {operators : Keyed Value} {v : Value}
    (h : i.condition.entries = [(field, operators)]) (ho : operators.entries = [(name, v)]) :
    item i = if QueryItem.Blank field name v then .ok none
      else (clause field name v).map some := by
  have hblank : (Text.allBlank field || Text.allBlank name || v.isNull) =
      decide (QueryItem.Blank field name v) := by
    cases v <;> simp [QueryItem.Blank, Value.isNull]
  simp only [item, h, ho, hblank, decide_eq_true_eq, clause]
  split_ifs
  · rfl
  · cases Operator.parse name with
    | error _ => rfl
    | ok _ =>
      cases sqlIdent field with
      | error _ => rfl
      | ok _ => rfl

theorem item_eq_none : item i = .ok none ↔ i.Skippable := by
  cases i.shape with
  | noField h => simp [item, QueryItem.Skippable, h]
  | noOperator h ho => simp [item, QueryItem.Skippable, h, ho]
  | single h ho =>
    rw [item_single h ho, QueryItem.skippable_single h ho]
    split_ifs with hblank
    · simp [hblank]
    · simp [hblank, Except.map_eq_ok]
  | manyOperators h ho => simp [item, QueryItem.Skippable, h, ho]
  | manyFields h => simp [item, QueryItem.Skippable, h]

end Condition

/-! ## Comparisons -/

namespace Value

/-- The floats of a value. -/
def doubles : Value → List Double
  | float x => [x]
  | numericArray items => items
  | _ => []

/-- A list without elements. -/
def IsEmptyList (v : Value) : Prop :=
  v = .stringArray [] ∨ v = .numericArray []

end Value

/-- A value that the operator compares with, of finite numbers, and not an empty list. -/
structure Operator.Takes (op : Operator) (v : Value) : Prop where
  accepts : op.accepts v
  finite : ∀ x ∈ v.doubles, x.isFinite
  nonempty : ¬ v.IsEmptyList

/-- What is wrong with a comparison; a check is come to when those before it are passed. -/
inductive ComparisonFault (field : String) (op : Operator) (v : Value) : Error → Prop
  | type (ha : ¬ op.accepts v) :
      ComparisonFault field op v (.unsupportedValue field op.name v.typeName)
  | number (ha : op.accepts v) (hx : ∃ x ∈ v.doubles, ¬ x.isFinite) :
      ComparisonFault field op v (.unsupportedValue field op.name "non-finite float")
  | empty (ha : op.accepts v) (hv : v.IsEmptyList) :
      ComparisonFault field op v (.invalidItem ("empty value list for field '" ++ field ++ "'"))

namespace Sql

variable {field op : String} {e : Error}

theorem number_eq_error {x : Double} : number field op x = .error e ↔
    ¬ x.isFinite ∧ e = .unsupportedValue field op "non-finite float" := by
  unfold number
  split_ifs with hx
  · simp [hx]
  · simp [hx, eq_comm]

theorem mapM_number_eq_error {items : List Double} : items.mapM (number field op) = .error e ↔
    (∃ x ∈ items, ¬ x.isFinite) ∧ e = .unsupportedValue field op "non-finite float" := by
  induction items with
  | nil => simp [pure, Except.pure]
  | cons x items ih =>
    rw [List.mapM_cons]
    cases hx : number field op x with
    | error e' =>
      obtain ⟨hfinite, rfl⟩ := number_eq_error.1 hx
      have hexists : ∃ y ∈ x :: items, ¬ y.isFinite := ⟨x, List.mem_cons_self, hfinite⟩
      exact ⟨fun h => ⟨hexists, (Except.error.inj h).symm⟩, fun h => congrArg _ h.2.symm⟩
    | ok s =>
      have hfinite := (number_eq_ok hx).1
      have : (∃ y ∈ x :: items, ¬ y.isFinite) ↔ ∃ y ∈ items, ¬ y.isFinite := by simp [hfinite]
      rw [this, ← ih]
      cases items.mapM (number field op) <;> simp [bind, Except.bind, pure, Except.pure]

theorem scalar_eq_error {v : Value} : scalar field op v = .error e ↔
    (∃ x ∈ v.doubles, ¬ x.isFinite) ∧ e = .unsupportedValue field op "non-finite float" := by
  cases v with
  | float x => simpa [scalar, Value.doubles] using number_eq_error
  | numericArray items =>
    simpa [scalar, Value.doubles, Except.map_eq_error] using mapM_number_eq_error
  | _ => simp [scalar, Value.doubles]

theorem list_eq_error {v : Value} (hv : ∀ x, v ≠ .float x) : list field op v = .error e ↔
    (∃ x ∈ v.doubles, ¬ x.isFinite) ∧ e = .unsupportedValue field op "non-finite float" := by
  cases v with
  | float x => exact absurd rfl (hv x)
  | numericArray items =>
    simpa [list, Value.doubles, Except.map_eq_error] using mapM_number_eq_error
  | _ => simp [list, Value.doubles]

/-- An array always has a list of elements. -/
theorem list_eq_some {v : Value} {o : Option String}
    (hv : (∃ items, v = .stringArray items) ∨ ∃ items, v = .numericArray items)
    (h : list field op v = .ok o) : ∃ text, o = some text := by
  rcases hv with ⟨items, rfl⟩ | ⟨items, rfl⟩
  · exact ⟨_, (Except.ok.inj h).symm⟩
  · obtain ⟨texts, -, h⟩ := Except.map_eq_ok.1 h
    exact ⟨_, h.symm⟩

/-- The text of a list is empty for an empty list alone. -/
theorem list_isEmpty {v : Value} {text : String} (h : list field op v = .ok (some text)) :
    text.isEmpty ↔ v.IsEmptyList := by
  obtain ⟨ss, tss, rfl, hss, hv⟩ := list_pieces h
  have hnil : (", ".intercalate ss).isEmpty ↔ ss = [] := by
    cases hss with
    | nil => simp
    | cons hs hss =>
      have := (Piece.commaList (.cons hs hss) (List.cons_ne_nil _ _)).solid
      obtain ⟨c, r, hc, -⟩ := this
      rw [String.isEmpty_iff, ← String.toList_inj, hc]
      simp
  have hlen := hss.length_eq
  rw [hnil, ← List.length_eq_zero_iff, hlen]
  rcases hv with ⟨items, rfl, rfl⟩ | ⟨items, rfl, rfl⟩ <;> simp [Value.IsEmptyList]

end Sql

namespace Operator

variable {op : Operator} {v : Value}

theorem not_isEmptyList_of_symbol {symbol : String} (hs : op.symbol? = some symbol)
    (ha : op.accepts v) : ¬ v.IsEmptyList := by
  rintro (rfl | rfl) <;> cases op <;> simp_all [symbol?, accepts]

/-- Without a sign the accepted values are texts, for operators with a pattern, and arrays. -/
theorem accepts_of_symbol_none (hs : op.symbol? = none) (ha : op.accepts v) :
    (∃ s keyword pattern, v = .string s ∧
      Condition.pattern? s op = some (keyword, pattern)) ∨
      (∃ items, v = .stringArray items) ∨ ∃ items, v = .numericArray items := by
  cases op <;> cases v <;> simp_all [symbol?, accepts, Condition.pattern?]

end Operator

namespace Condition

variable {column field : String} {op : Operator} {v : Value} {e : Error}

theorem comparison_symbol {symbol : String} (ha : op.accepts v) (hs : op.symbol? = some symbol) :
    comparison column field op v =
      (Sql.scalar field op.name v).map fun text => column ++ symbol ++ text := by
  simp [comparison, ha, hs]

theorem comparison_pattern {s keyword pattern : String} (ha : op.accepts (.string s))
    (hs : op.symbol? = none) (hp : pattern? s op = some (keyword, pattern)) :
    comparison column field op (.string s) =
      .ok (column ++ " " ++ keyword ++ " " ++ Sql.quote pattern) := by
  simp [comparison, ha, hs, hp]

/-- The elements of an array in brackets, unless there are none. -/
theorem comparison_list (ha : op.accepts v) (hs : op.symbol? = none)
    (hv : (∃ items, v = .stringArray items) ∨ ∃ items, v = .numericArray items) :
    comparison column field op v = Sql.list field op.name v >>= fun
      | some list =>
        if list.isEmpty then .error (.invalidItem ("empty value list for field '" ++ field ++ "'"))
        else .ok (column ++ " " ++ (if op = .notIn then "NOT IN" else "IN") ++ " (" ++ list ++ ")")
      | none => .error (.unsupportedValue field op.name v.typeName) := by
  rcases hv with ⟨items, rfl⟩ | ⟨items, rfl⟩
  · simp only [comparison, ha, hs]
    rfl
  · simp only [comparison, ha, hs]
    rfl

theorem comparison_list_eq_error (ha : op.accepts v) (hs : op.symbol? = none)
    (hv : (∃ items, v = .stringArray items) ∨ ∃ items, v = .numericArray items) :
    comparison column field op v = .error e ↔ ComparisonFault field op v e := by
  rw [comparison_list ha hs hv]
  have hfloat : ∀ x, v ≠ .float x := by rcases hv with ⟨_, rfl⟩ | ⟨_, rfl⟩ <;> simp
  cases hl : Sql.list field op.name v with
  | error e' =>
    obtain ⟨hx, rfl⟩ := (Sql.list_eq_error hfloat).1 hl
    constructor
    · rintro ⟨⟩
      exact .number ha hx
    · intro h
      cases h with
      | type hna => exact absurd ha hna
      | number => rfl
      | empty _ hempty => rcases hempty with rfl | rfl <;> simp [Value.doubles] at hx
  | ok o =>
    have hfinite : ¬ ∃ x ∈ v.doubles, ¬ x.isFinite := fun hx => by
      have herror : Sql.list field op.name v = .error _ := (Sql.list_eq_error hfloat).2 ⟨hx, rfl⟩
      rw [hl] at herror
      cases herror
    obtain ⟨text, rfl⟩ := Sql.list_eq_some hv hl
    have hempty := Sql.list_isEmpty hl
    dsimp only [bind, Except.bind]
    constructor
    · intro h
      split_ifs at h with ht
      cases h
      exact .empty ha (hempty.1 ht)
    · intro h
      cases h with
      | type hna => exact absurd ha hna
      | number _ hx => exact absurd hx hfinite
      | empty _ hv => rw [if_pos (hempty.2 hv)]

theorem comparison_eq_error :
    comparison column field op v = .error e ↔ ComparisonFault field op v e := by
  by_cases ha : op.accepts v
  · cases hs : op.symbol? with
    | some symbol =>
      have hempty := Operator.not_isEmptyList_of_symbol hs ha
      rw [comparison_symbol ha hs, Except.map_eq_error, Sql.scalar_eq_error]
      constructor
      · rintro ⟨hx, rfl⟩
        exact .number ha hx
      · intro h
        cases h with
        | type hna => exact absurd ha hna
        | number _ hx => exact ⟨hx, rfl⟩
        | empty _ hv => exact absurd hv hempty
    | none =>
      rcases Operator.accepts_of_symbol_none hs ha with ⟨s, keyword, pattern, rfl, hp⟩ | hv
      · rw [comparison_pattern ha hs hp]
        refine ⟨nofun, fun h => ?_⟩
        cases h with
        | type hna => exact absurd ha hna
        | number _ hx => simp [Value.doubles] at hx
        | empty _ hv => simp [Value.IsEmptyList] at hv
      · exact comparison_list_eq_error ha hs hv
  · have hc : comparison column field op v =
        .error (.unsupportedValue field op.name v.typeName) := by simp [comparison, ha]
    rw [hc]
    constructor
    · rintro ⟨⟩
      exact .type ha
    · intro h
      cases h with
      | type => rfl
      | number ha' => exact absurd ha' ha
      | empty ha' => exact absurd ha' ha

/-- A comparison has a text when the operator takes the value. -/
theorem comparison_succeeds : (∃ text, comparison column field op v = .ok text) ↔ op.Takes v := by
  have herror : (∃ text, comparison column field op v = .ok text) ↔
      ∀ e, ¬ ComparisonFault field op v e := by
    simp only [← @comparison_eq_error column]
    cases comparison column field op v <;> simp
  rw [herror]
  constructor
  · intro h
    have ha : op.accepts v := by_contra fun ha => h _ (.type ha)
    refine ⟨ha, fun x hx => by_contra fun hn => h _ (.number ha ⟨x, hx, hn⟩), fun hv => ?_⟩
    exact h _ (.empty ha hv)
  · intro h e he
    cases he with
    | type ha => exact ha h.accepts
    | number _ hx =>
      obtain ⟨x, hx, hn⟩ := hx
      exact hn (h.finite x hx)
    | empty _ hv => exact h.nonempty hv

end Condition

/-! ## Clauses -/

/-- The operator has a name, the field is an identifier and the operator takes the value. -/
def ValidClause (field name : String) (v : Value) : Prop :=
  ∃ op, Operator.parse name = .ok op ∧ (∃ ident, Ident.parse field = .ok ident) ∧ op.Takes v

/-- What is wrong with a clause: its operator, else its field, else its value. -/
inductive ClauseFault (field name : String) (v : Value) : Error → Prop
  | operator (hop : ∀ op, Operator.parse name ≠ .ok op) :
      ClauseFault field name v (.unknownOperator name)
  | field {op : Operator} {fault : IdentFault} (hop : Operator.parse name = .ok op)
      (hfield : Ident.read field.toList = .error fault) :
      ClauseFault field name v (.invalidIdentifier (Text.shown field ++ ": " ++ fault.message))
  | value {op : Operator} {ident : Ident} {e : Error} (hop : Operator.parse name = .ok op)
      (hfield : Ident.parse field = .ok ident) (hv : ComparisonFault field op v e) :
      ClauseFault field name v e

namespace Condition

variable {field name : String} {v : Value} {e : Error}

theorem parse_eq_error {name : String} {e : Error} : Operator.parse name = .error e ↔
    (∀ op, Operator.parse name ≠ .ok op) ∧ e = .unknownOperator name := by
  unfold Operator.parse
  cases Operator.spellings.find? (·.1 = Operator.normalized name) with
  | none => simp [eq_comm]
  | some s => simp

theorem ident_eq_error {name : String} {e : Error} : Ident.parse name = .error e ↔
    ∃ fault, Ident.read name.toList = .error fault ∧
      e = .invalidIdentifier (Text.shown name ++ ": " ++ fault.message) := by
  unfold Ident.parse
  cases Ident.read name.toList with
  | error fault => simp [eq_comm]
  | ok ident => simp

theorem clause_eq_error : clause field name v = .error e ↔ ClauseFault field name v e := by
  unfold clause sqlIdent
  cases hop : Operator.parse name with
  | error e' =>
    obtain ⟨hall, rfl⟩ := parse_eq_error.1 hop
    constructor
    · rintro ⟨⟩
      exact .operator hall
    · intro h
      cases h with
      | operator => rfl
      | field hop' => exact absurd hop' (hall _)
      | value hop' => exact absurd hop' (hall _)
  | ok op =>
    cases hfield : Ident.parse field with
    | error e' =>
      obtain ⟨fault, hfault, rfl⟩ := ident_eq_error.1 hfield
      constructor
      · rintro ⟨⟩
        exact .field hop hfault
      · intro h
        cases h with
        | operator hall => exact absurd hop (hall _)
        | field _ hfault' =>
          cases hfault.symm.trans hfault'
          rfl
        | value _ hident => cases hfield.symm.trans hident
    | ok ident =>
      have hclause : (do
          let op ← Except.ok op
          let column ← (Except.ok ident : Except Error Ident).map Ident.sql
          comparison column field op v) = comparison ident.sql field op v := rfl
      rw [hclause, comparison_eq_error]
      constructor
      · exact .value hop hfield
      · intro h
        cases h with
        | operator hall => exact absurd hop (hall _)
        | field _ hfault =>
          have := ident_eq_error.2 ⟨_, hfault, rfl⟩
          cases hfield.symm.trans this
        | value hop' _ hv =>
          cases hop.symm.trans hop'
          exact hv

theorem clause_succeeds : (∃ text, clause field name v = .ok text) ↔ ValidClause field name v := by
  unfold ValidClause
  constructor
  · rintro ⟨text, h⟩
    obtain ⟨op, hop, h⟩ := Except.bind_eq_ok.1 h
    obtain ⟨column, hcolumn, h⟩ := Except.bind_eq_ok.1 h
    obtain ⟨ident, hident, -⟩ := Except.map_eq_ok.1 hcolumn
    exact ⟨op, hop, ⟨ident, hident⟩, comparison_succeeds.1 ⟨text, h⟩⟩
  · rintro ⟨op, hop, ⟨ident, hident⟩, hv⟩
    obtain ⟨text, htext⟩ := comparison_succeeds.2 hv
    have hcolumn : sqlIdent field = .ok ident.sql := Except.map_eq_ok.2 ⟨ident, hident, rfl⟩
    exact ⟨text, Except.bind_eq_ok.2 ⟨op, hop, Except.bind_eq_ok.2 ⟨_, hcolumn, htext⟩⟩⟩

end Condition

/-! ## Well-formed items and faults -/

namespace QueryItem

/-- One field with one operator, neither they nor the value blank, and a valid clause. -/
def WellFormed (i : QueryItem) : Prop :=
  ∃ field operators name v, i.condition.entries = [(field, operators)] ∧
    operators.entries = [(name, v)] ∧ ¬ Blank field name v ∧ ValidClause field name v

/-- What is wrong with an item: more than one field, else more than one operator, else its
    clause. -/
inductive Fault (i : QueryItem) : Error → Prop
  | fields (h : 2 ≤ i.condition.entries.length) :
      Fault i (.invalidItem ("expected exactly one field per group item, found " ++
        toString i.condition.entries.length))
  | operators {field : String} {operators : Keyed Value}
      (h : i.condition.entries = [(field, operators)]) (ho : 2 ≤ operators.entries.length) :
      Fault i (.invalidItem ("expected exactly one operator for field '" ++ field ++
        "', found " ++ toString operators.entries.length))
  | clause {field name : String} {operators : Keyed Value} {v : Value} {e : Error}
      (h : i.condition.entries = [(field, operators)]) (ho : operators.entries = [(name, v)])
      (hblank : ¬ Blank field name v) (hclause : ClauseFault field name v e) : Fault i e

end QueryItem

namespace Condition

variable {i : QueryItem} {e : Error}

theorem item_fields (h : 2 ≤ i.condition.entries.length) :
    item i = .error (.invalidItem ("expected exactly one field per group item, found " ++
      toString i.condition.entries.length)) := by
  unfold item
  split
  · simp_all
  · simp_all
  · rfl

theorem item_operators {field : String} {operators : Keyed Value}
    (h : i.condition.entries = [(field, operators)]) (ho : 2 ≤ operators.entries.length) :
    item i = .error (.invalidItem ("expected exactly one operator for field '" ++ field ++
      "', found " ++ toString operators.entries.length)) := by
  unfold item
  rw [h]
  dsimp only
  split
  · simp_all
  · simp_all
  · rfl

theorem item_of_fault (h : i.Fault e) : item i = .error e := by
  cases h with
  | fields h => exact item_fields h
  | operators h ho => exact item_operators h ho
  | clause h ho hblank hclause =>
    rw [item_single h ho, if_neg hblank, Except.map_eq_error]
    exact clause_eq_error.2 hclause

theorem item_eq_error : item i = .error e ↔ i.Fault e := by
  refine ⟨fun hi => ?_, item_of_fault⟩
  cases i.shape with
  | noField h =>
    rw [item_eq_none.2 (by simp [QueryItem.Skippable, h])] at hi
    cases hi
  | noOperator h ho =>
    rw [item_eq_none.2 (by simp [QueryItem.Skippable, h, ho])] at hi
    cases hi
  | single h ho =>
    rw [item_single h ho] at hi
    split_ifs at hi with hblank
    exact .clause h ho hblank (clause_eq_error.1 (Except.map_eq_error.1 hi))
  | manyOperators h ho =>
    have h2 := item_operators h (by simp [ho])
    cases h2.symm.trans hi
    exact .operators h (by simp [ho])
  | manyFields h =>
    have h2 : 2 ≤ i.condition.entries.length := by simp [h]
    cases (item_fields h2).symm.trans hi
    exact .fields h2

/-- An item has a text when it is well-formed. -/
theorem item_succeeds : (∃ text, item i = .ok (some text)) ↔ i.WellFormed := by
  constructor
  · rintro ⟨text, hi⟩
    cases i.shape with
    | noField h => simp [item, h] at hi
    | noOperator h ho => simp [item, h, ho] at hi
    | single h ho =>
      rw [item_single h ho] at hi
      split_ifs at hi with hblank
      · cases hi
      · obtain ⟨text, htext, -⟩ := Except.map_eq_ok.1 hi
        exact ⟨_, _, _, _, h, ho, hblank, clause_succeeds.1 ⟨text, htext⟩⟩
    | manyOperators h ho => simp [item, h, ho] at hi
    | manyFields h => simp [item, h] at hi
  · rintro ⟨field, operators, name, v, h, ho, hblank, hclause⟩
    obtain ⟨text, htext⟩ := clause_succeeds.2 hclause
    exact ⟨text, by rw [item_single h ho, if_neg hblank, htext]; rfl⟩

/-- An item that is not faulty is skipped or well-formed. -/
theorem not_fault_iff : (¬ ∃ e, i.Fault e) ↔ i.Skippable ∨ i.WellFormed := by
  simp only [← item_eq_none, ← item_succeeds, ← item_eq_error]
  cases item i with
  | error e => simp
  | ok o => cases o <;> simp

end Condition

end Rowgate
