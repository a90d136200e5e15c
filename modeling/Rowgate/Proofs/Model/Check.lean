/-
  What validation finds, exactly.

  * `FieldRule.Faulty`, `Model.Finds`: the problems of a value and of a record, one constructor
    for each kind;
  * `Problem.Before`: the order of problems: keys that are not declared come first, then the
    declared fields; both by name, and the problems of one field by their kind;
  * `mem_check_iff`, `check_pairwise`: a check lists the problems of its record, each once, in
    that order; there is no other such list (`check_eq_iff`);
  * `check_partial`: a check of part of a record leaves out the fields that are required and not
    there, and nothing else;
  * `problemsOfAll_eq`: a batch is checked record by record; `check_exact` puts all together.
-/
import Mathlib.Data.List.Sort
import Rowgate.Model.Basic
import Rowgate.Proofs.NameSet

namespace Rowgate

/-! ## One value -/

namespace FieldRule

variable {rule : FieldRule} {name : String} {v : Value} {q : Problem}

/-- A value of a type that the declared one takes. -/
def Takes (rule : FieldRule) (v : Value) : Prop :=
  ∃ actual, DataType.infer v = some actual ∧ rule.type.accepts actual v

/-- A number of characters outside of the bounds. -/
def LengthOut (rule : FieldRule) (n : Nat) : Prop :=
  (∃ least, rule.minLength = some least ∧ n < least) ∨
    ∃ most, rule.maxLength = some most ∧ most < n

/-- A number outside of the range. -/
def RangeOut (rule : FieldRule) (x : Double) : Prop :=
  (∃ least, rule.minValue = some least ∧ x.lt least) ∨
    ∃ most, rule.maxValue = some most ∧ most.lt x

/-- What is wrong with a value; one of a type that is not taken has no other problem. -/
inductive Faulty (rule : FieldRule) (name : String) (v : Value) : Problem → Prop
  | type {actual : DataType} (hv : DataType.infer v = some actual)
      (hn : rule.type.accepts actual v = false) :
      Faulty rule name v ⟨name, .type, "Invalid type for field " ++ name ++ ": expected " ++
        rule.type.label ++ ", got " ++ actual.label, none⟩
  | length {s : String} (hv : v = .string s) (ht : rule.Takes v) (hn : rule.LengthOut s.length) :
      Faulty rule name v ⟨name, .length, "Length of field " ++ name ++ " must be within [" ++
        boundText rule.minLength ++ ", " ++ boundText rule.maxLength ++ "], got " ++
        toString s.length, none⟩
  | range {x : Double} (hv : v.double? = some x) (ht : rule.Takes v) (hn : rule.RangeOut x) :
      Faulty rule name v ⟨name, .range, "Value of field " ++ name ++ " is out of range: " ++
        x.text, none⟩
  | custom {check : Value → Except String Unit} {message : String} (ht : rule.Takes v)
      (hc : rule.check = some check) (hn : check v = .error message) :
      Faulty rule name v ⟨name, .custom "custom", message, none⟩

theorem mem_lengthProblems_iff : q ∈ rule.lengthProblems name v ↔
    ∃ s, v = .string s ∧ rule.LengthOut s.length ∧
      q = ⟨name, .length, "Length of field " ++ name ++ " must be within [" ++
        boundText rule.minLength ++ ", " ++ boundText rule.maxLength ++ "], got " ++
        toString s.length, none⟩ := by
  cases v with
  | string s =>
    have hout : (rule.minLength.any (s.length < ·) || rule.maxLength.any (· < s.length)) = true ↔
        rule.LengthOut s.length := by
      simp [LengthOut, Option.any_eq_true]
    unfold lengthProblems
    dsimp only
    split_ifs with h
    · simp [hout.1 h]
    · simp [mt hout.2 h]
  | _ => simp [lengthProblems]

theorem mem_rangeProblems_iff : q ∈ rule.rangeProblems name v ↔
    ∃ x, v.double? = some x ∧ rule.RangeOut x ∧
      q = ⟨name, .range, "Value of field " ++ name ++ " is out of range: " ++ x.text, none⟩ := by
  unfold rangeProblems
  cases v.double? with
  | none => simp
  | some x =>
    have hout : (rule.minValue.any x.lt || rule.maxValue.any (·.lt x)) = true ↔
        rule.RangeOut x := by
      simp [RangeOut, Option.any_eq_true]
    dsimp only
    split_ifs with h
    · simp [hout.1 h]
    · simp [mt hout.2 h]

theorem mem_customProblems_iff : q ∈ rule.customProblems name v ↔
    ∃ check message, rule.check = some check ∧ check v = .error message ∧
      q = ⟨name, .custom "custom", message, none⟩ := by
  unfold customProblems
  cases rule.check with
  | none => simp
  | some check => cases hv : check v <;> simp [hv]

/-- Null alone has no type. -/
theorem infer_eq_none_iff : DataType.infer v = none ↔ v = .null := by
  cases v <;> simp [DataType.infer]

theorem mem_problems_iff (hv : v ≠ .null) :
    q ∈ rule.problems name v ↔ rule.Faulty name v q := by
  unfold problems
  cases hi : DataType.infer v with
  | none => exact absurd (infer_eq_none_iff.1 hi) hv
  | some actual =>
    dsimp only
    split_ifs with ha
    · have ht : rule.Takes v := ⟨actual, hi, ha⟩
      simp only [List.mem_append, mem_lengthProblems_iff, mem_rangeProblems_iff,
        mem_customProblems_iff]
      constructor
      · rintro ((⟨s, hs, hn, rfl⟩ | ⟨x, hx, hn, rfl⟩) | ⟨check, message, hc, hn, rfl⟩)
        · exact .length hs ht hn
        · exact .range hx ht hn
        · exact .custom ht hc hn
      · intro h
        cases h with
        | type hv hn =>
          rw [hi] at hv
          cases hv
          rw [ha] at hn
          cases hn
        | length hs _ hn => exact .inl (.inl ⟨_, hs, hn, rfl⟩)
        | range hx _ hn => exact .inl (.inr ⟨_, hx, hn, rfl⟩)
        | custom _ hc hn => exact .inr ⟨_, _, hc, hn, rfl⟩
    · rw [List.mem_singleton]
      have hnot : ¬ rule.Takes v := by
        rintro ⟨actual', hi', ha'⟩
        rw [hi] at hi'
        cases hi'
        exact ha ha'
      constructor
      · rintro rfl
        exact .type hi (Bool.eq_false_iff.2 ha)
      · intro h
        cases h with
        | type hv hn =>
          rw [hi] at hv
          cases hv
          rfl
        | length _ ht | range _ ht | custom ht => exact absurd ht hnot

end FieldRule

/-! ## The order of problems -/

/-- The place of a kind among the problems of one field. -/
def ProblemCode.rank : ProblemCode → Nat
  | unknownField | required | type => 0
  | length => 1
  | range => 2
  | custom _ => 3

/-- Undeclared keys first, then declared fields; by name, and then by kind. -/
inductive Problem.Before (q q' : Problem) : Prop
  | unknown (h : q.code = .unknownField) (h' : q'.code = .unknownField) (hf : q.field < q'.field)
  | declared (h : q.code = .unknownField) (h' : q'.code ≠ .unknownField)
  | field (h : q.code ≠ .unknownField) (h' : q'.code ≠ .unknownField) (hf : q.field < q'.field)
  | kind (h : q.code ≠ .unknownField) (h' : q'.code ≠ .unknownField) (hf : q.field = q'.field)
      (hk : q.code.rank < q'.code.rank)

namespace Problem.Before

variable {q q' : Problem}

theorem asymm (h : q.Before q') : ¬ q'.Before q := by
  intro h'
  cases h with
  | unknown hq hq' hf =>
    cases h' with
    | unknown _ _ hf' => exact String.lt_asymm hf hf'
    | declared _ hn | field hn | kind hn => contradiction
  | declared hq hq' => cases h' <;> contradiction
  | field hq hq' hf =>
    cases h' with
    | unknown | declared => contradiction
    | field _ _ hf' => exact String.lt_asymm hf hf'
    | kind _ _ he => exact String.lt_irrefl _ (he ▸ hf)
  | kind hq hq' he hk =>
    cases h' with
    | unknown | declared => contradiction
    | field _ _ hf' => exact String.lt_irrefl _ (he ▸ hf')
    | kind _ _ _ hk' => exact Nat.lt_asymm hk hk'

instance : Std.Irrefl Problem.Before :=
  ⟨fun _ h => h.asymm h⟩

instance : Std.Antisymm Problem.Before :=
  ⟨fun _ _ h h' => absurd h' h.asymm⟩

end Problem.Before

/-! ## One record -/

namespace Model

variable {m : Model} {isPartial : Bool} {record : Record} {name : String} {rule : FieldRule}
  {q : Problem}

/-- What is wrong with a record. -/
inductive Finds (m : Model) (isPartial : Bool) (record : Record) : Problem → Prop
  | unknown {key : String} (hk : (record.get? key).isSome) (hid : key ≠ "id")
      (hm : m.fields.get? key = none) :
      Finds m isPartial record ⟨key, .unknownField,
        "Invalid key: " ++ key ++ " is not defined in the model", none⟩
  | required {name : String} {rule : FieldRule} (hm : m.fields.get? name = some rule)
      (hreq : rule.required)
      (hv : record.get? name = some .null ∨ record.get? name = none ∧ isPartial = false) :
      Finds m isPartial record ⟨name, .required,
        "Value is required for field " ++ name ++ ". Can't be Null", none⟩
  | value {name : String} {rule : FieldRule} {v : Value} {q : Problem}
      (hm : m.fields.get? name = some rule) (hv : record.get? name = some v) (hn : v ≠ .null)
      (hq : rule.Faulty name v q) : Finds m isPartial record q

theorem mem_unknownKeys_iff : q ∈ m.unknownKeys record ↔
    ∃ key, (record.get? key).isSome ∧ key ≠ "id" ∧ m.fields.get? key = none ∧
      q = ⟨key, .unknownField, "Invalid key: " ++ key ++ " is not defined in the model", none⟩ := by
  simp only [unknownKeys, List.mem_map, List.mem_filter, Keyed.mem_keys_iff, Keyed.contains,
    Bool.and_eq_true, decide_eq_true_eq, Bool.not_eq_true', Option.isSome_eq_false_iff,
    Option.isNone_iff_eq_none, and_assoc, @eq_comm _ q]

theorem mem_missing_iff : q ∈ rule.missing name ↔ rule.required ∧
    q = ⟨name, .required, "Value is required for field " ++ name ++ ". Can't be Null", none⟩ := by
  unfold FieldRule.missing
  split_ifs with h <;> simp [h]

/-- The problems of one declared field. -/
theorem mem_fieldProblems_iff : q ∈ fieldProblems isPartial record name rule ↔
    (q ∈ rule.missing name ∧
      (record.get? name = some .null ∨ record.get? name = none ∧ isPartial = false)) ∨
      ∃ v, record.get? name = some v ∧ v ≠ .null ∧ rule.Faulty name v q := by
  unfold fieldProblems
  cases hv : record.get? name with
  | none => cases isPartial <;> simp
  | some v =>
    by_cases hn : v = .null
    · subst hn
      simp
    · simp [hn, FieldRule.mem_problems_iff hn]

theorem mem_check_iff : q ∈ m.check isPartial record ↔ m.Finds isPartial record q := by
  simp only [check, List.mem_append, List.mem_flatMap, mem_unknownKeys_iff, mem_fieldProblems_iff,
    mem_missing_iff, Prod.exists, Keyed.mem_entries_iff]
  constructor
  · rintro (⟨key, hk, hid, hm, rfl⟩ | ⟨name, rule, hm, ⟨⟨hreq, rfl⟩, hv⟩ | ⟨v, hv, hn, hq⟩⟩)
    · exact .unknown hk hid hm
    · exact .required hm hreq hv
    · exact .value hm hv hn hq
  · intro h
    cases h with
    | unknown hk hid hm => exact .inl ⟨_, hk, hid, hm, rfl⟩
    | required hm hreq hv => exact .inr ⟨_, _, hm, .inl ⟨⟨hreq, rfl⟩, hv⟩⟩
    | value hm hv hn hq => exact .inr ⟨_, _, hm, .inr ⟨_, hv, hn, hq⟩⟩

/-! ## The order of a check -/

theorem pairwise_of_length_le_one {α : Type} {R : α → α → Prop} :
    ∀ {l : List α}, l.length ≤ 1 → l.Pairwise R
  | [], _ => .nil
  | [a], _ => List.pairwise_singleton R a

theorem length_lengthProblems_le (v : Value) : (rule.lengthProblems name v).length ≤ 1 := by
  unfold FieldRule.lengthProblems
  split
  · dsimp only
    split_ifs <;> simp
  · simp

theorem length_rangeProblems_le (v : Value) : (rule.rangeProblems name v).length ≤ 1 := by
  unfold FieldRule.rangeProblems
  split
  · split_ifs <;> simp
  · simp

theorem length_customProblems_le (v : Value) : (rule.customProblems name v).length ≤ 1 := by
  unfold FieldRule.customProblems
  split
  · simp
  · split <;> simp

/-- A value has one problem of each kind at most, in the order of their kinds. -/
theorem problems_pairwise (v : Value) : (rule.problems name v).Pairwise Problem.Before := by
  have hothers : (rule.lengthProblems name v ++ rule.rangeProblems name v ++
      rule.customProblems name v).Pairwise Problem.Before := by
    simp only [List.pairwise_append, List.mem_append, FieldRule.mem_lengthProblems_iff,
      FieldRule.mem_rangeProblems_iff, FieldRule.mem_customProblems_iff]
    refine ⟨⟨pairwise_of_length_le_one (length_lengthProblems_le v),
      pairwise_of_length_le_one (length_rangeProblems_le v), ?_⟩,
      pairwise_of_length_le_one (length_customProblems_le v), ?_⟩
    · rintro _ ⟨_, _, _, rfl⟩ _ ⟨_, _, _, rfl⟩
      exact .kind nofun nofun rfl (by simp [ProblemCode.rank])
    · rintro _ (⟨_, _, _, rfl⟩ | ⟨_, _, _, rfl⟩) _ ⟨_, _, _, _, rfl⟩
      · exact .kind nofun nofun rfl (by simp [ProblemCode.rank])
      · exact .kind nofun nofun rfl (by simp [ProblemCode.rank])
  unfold FieldRule.problems
  split
  · split_ifs
    · exact hothers
    · exact List.pairwise_singleton _ _
  · exact hothers

theorem fieldProblems_pairwise :
    (fieldProblems isPartial record name rule).Pairwise Problem.Before := by
  have hmissing : (rule.missing name).Pairwise Problem.Before := by
    refine pairwise_of_length_le_one ?_
    unfold FieldRule.missing
    split_ifs <;> simp
  unfold fieldProblems
  split
  · split_ifs
    · exact .nil
    · exact hmissing
  · exact hmissing
  · exact problems_pairwise _

/-- The problems of a declared field name it, and are not of undeclared keys. -/
theorem fieldProblems_field (hq : q ∈ fieldProblems isPartial record name rule) :
    q.field = name ∧ q.code ≠ .unknownField := by
  rcases mem_fieldProblems_iff.1 hq with ⟨hmissing, -⟩ | ⟨v, -, -, hfaulty⟩
  · obtain ⟨-, rfl⟩ := mem_missing_iff.1 hmissing
    exact ⟨rfl, nofun⟩
  · cases hfaulty <;> exact ⟨rfl, nofun⟩

theorem unknownKeys_pairwise : (m.unknownKeys record).Pairwise Problem.Before := by
  have hkeys : record.keys.Pairwise (· < ·) := List.pairwise_map.2 record.sorted
  exact List.pairwise_map.2 ((hkeys.filter _).imp fun hlt => .unknown rfl rfl hlt)

theorem check_pairwise : (m.check isPartial record).Pairwise Problem.Before := by
  refine List.pairwise_append.2 ⟨unknownKeys_pairwise, List.pairwise_flatMap.2
    ⟨fun e _ => fieldProblems_pairwise, m.fields.sorted.imp fun {d e} hlt q hq q' hq' => ?_⟩,
    fun q hq q' hq' => ?_⟩
  · obtain ⟨hf, hc⟩ := fieldProblems_field hq
    obtain ⟨hf', hc'⟩ := fieldProblems_field hq'
    exact .field hc hc' (by rwa [hf, hf'])
  · obtain ⟨key, -, -, -, rfl⟩ := mem_unknownKeys_iff.1 hq
    obtain ⟨e, -, hq'⟩ := List.mem_flatMap.1 hq'
    exact .declared rfl (fieldProblems_field hq').2

/-- There is one list with the problems of a record in their order. -/
theorem check_eq_iff {qs : List Problem} : m.check isPartial record = qs ↔
    qs.Pairwise Problem.Before ∧ ∀ q, q ∈ qs ↔ m.Finds isPartial record q := by
  constructor
  · rintro rfl
    exact ⟨check_pairwise, fun q => mem_check_iff⟩
  · rintro ⟨hqs, hmem⟩
    exact check_pairwise.eq_of_mem_iff hqs fun q => mem_check_iff.trans (hmem q).symm

/-! ## Parts of records, and batches -/

/-- A required field is not there. -/
def IsAbsent (record : Record) (q : Problem) : Bool :=
  q.code = .required && (record.get? q.field).isNone

theorem fieldProblems_partial : fieldProblems true record name rule =
    (fieldProblems false record name rule).filter (!IsAbsent record ·) := by
  cases hv : record.get? name with
  | none =>
    have hall : ∀ q ∈ fieldProblems false record name rule, IsAbsent record q := by
      intro q hq
      rcases mem_fieldProblems_iff.1 hq with ⟨hmissing, -⟩ | ⟨v, hv', -⟩
      · obtain ⟨-, rfl⟩ := mem_missing_iff.1 hmissing
        simp [IsAbsent, hv]
      · rw [hv] at hv'
        cases hv'
    rw [List.filter_eq_nil_iff.2 fun q hq => by simp [hall q hq], fieldProblems, hv]
    rfl
  | some v =>
    have hnone : ∀ q ∈ fieldProblems false record name rule, !IsAbsent record q := by
      intro q hq
      simp [IsAbsent, (fieldProblems_field hq).1, hv]
    rw [List.filter_eq_self.2 hnone]
    unfold fieldProblems
    rw [hv]
    cases v <;> rfl

theorem check_partial (m : Model) (record : Record) :
    m.check true record = (m.check false record).filter (!IsAbsent record ·) := by
  have hunknown : ∀ q ∈ m.unknownKeys record, !IsAbsent record q := by
    intro q hq
    obtain ⟨key, -, -, -, rfl⟩ := mem_unknownKeys_iff.1 hq
    rfl
  rw [check, check, List.filter_append, List.filter_eq_self.2 hunknown, List.filter_flatMap]
  simp only [fieldProblems_partial]

/-- The problems of a batch: those of its records in order, each with the number of its record. -/
theorem problemsOfAll_eq (m : Model) (isPartial : Bool) (records : List Record) :
    m.problemsOfAll isPartial records = (records.mapIdx fun i r => (m.check isPartial r).map fun q =>
      ⟨q.field, q.code, "Record #" ++ toString (i + 1) ++ ": " ++ q.message, some (i + 1)⟩).flatten := by
  rw [problemsOfAll, List.mapIdx_eq_zipIdx_map, List.flatMap_def]
  rfl

/-- A problem of a batch is one of a record in it, with the place of the record. -/
theorem mem_problemsOfAll_iff {records : List Record} : q ∈ m.problemsOfAll isPartial records ↔
    ∃ i r, records[i]? = some r ∧ ∃ q' ∈ m.check isPartial r, q = q'.inRecord (i + 1) := by
  simp only [problemsOfAll, List.mem_flatMap, List.mem_map, Prod.exists,
    List.mem_zipIdx_iff_getElem?, @eq_comm _ q]
  exact exists_comm

theorem problemsOfAll_eq_nil_iff {records : List Record} :
    m.problemsOfAll isPartial records = [] ↔ ∀ r ∈ records, m.check isPartial r = [] := by
  simp only [List.eq_nil_iff_forall_not_mem, mem_problemsOfAll_iff]
  constructor
  · intro h r hr q hq
    obtain ⟨i, hi⟩ := List.mem_iff_getElem?.1 hr
    exact h _ ⟨i, r, hi, q, hq, rfl⟩
  · rintro h _ ⟨i, r, hi, q, hq, rfl⟩
    exact h r (List.mem_of_getElem? hi) q hq

theorem checkAll_eq_ok_iff {records : List Record} :
    m.checkAll isPartial records = .ok () ↔ ∀ r ∈ records, m.check isPartial r = [] := by
  rw [← problemsOfAll_eq_nil_iff, checkAll]
  split <;> simp_all

theorem checkAll_eq_error_iff {records : List Record} {e : Error} :
    m.checkAll isPartial records = .error e ↔
      (∃ r ∈ records, m.check isPartial r ≠ []) ∧
        e = .validation (m.problemsOfAll isPartial records) := by
  have hsome : m.problemsOfAll isPartial records ≠ [] ↔ ∃ r ∈ records, m.check isPartial r ≠ [] := by
    rw [Ne, problemsOfAll_eq_nil_iff]
    push Not
    rfl
  rw [← hsome, checkAll]
  cases m.problemsOfAll isPartial records with
  | nil => simp
  | cons q qs => simp [eq_comm]

/-- **What a check reports is what is wrong.**  The problems of a record stand in their order,
    each once, and no other; a check of part of a record leaves out the required fields that are
    not there, and nothing else.  A batch passes if each of its records does; otherwise the
    problems of all its records are reported, record by record, each with the record's number. -/
theorem check_exact (m : Model) (isPartial : Bool) (record : Record) (records : List Record) :
    (∀ qs, m.check isPartial record = qs ↔
      qs.Pairwise Problem.Before ∧ ∀ q, q ∈ qs ↔ m.Finds isPartial record q) ∧
    (m.check true record = (m.check false record).filter (!IsAbsent record ·)) ∧
    (m.checkAll isPartial records = .ok () ↔ ∀ r ∈ records, m.check isPartial r = []) ∧
    ∀ e, m.checkAll isPartial records = .error e ↔
      (∃ r ∈ records, m.check isPartial r ≠ []) ∧
        e = .validation (records.mapIdx fun i r => (m.check isPartial r).map fun q =>
          ⟨q.field, q.code, "Record #" ++ toString (i + 1) ++ ": " ++ q.message,
            some (i + 1)⟩).flatten :=
  ⟨fun _ => check_eq_iff, check_partial m record, checkAll_eq_ok_iff, fun e => by
    rw [checkAll_eq_error_iff, problemsOfAll_eq]⟩

end Model

end Rowgate
