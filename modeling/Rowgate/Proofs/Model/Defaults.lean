/-
  What the defaults of a model change.

  * `FieldRule.filled`: what a field holds once its default is put in;
    `get?_applyDefaults`: so do all fields of a record, and its other entries stay;
  * `Model.Fills`, `Model.Completes`: what is put in, and that it is all that is changed;
    `applyDefaults_eq_iff`: there is no other such record;
  * `applyDefaults_idem`: putting in the defaults once more changes nothing;
  * `Model.Demands`: a required field that has nothing, and no default but Null; `required_iff`:
    only these are reported to be required.
-/
import Rowgate.Proofs.Model.Check

namespace Rowgate

/-- A record has nothing in a field: no entry, or Null. -/
def Record.Lacks (record : Record) (name : String) : Prop :=
  record.get? name = none ∨ record.get? name = some .null

theorem Record.lacks_iff {record : Record} {name : String} :
    record.Lacks name ↔ (record.get? name).all Value.isNull = true := by
  unfold Lacks
  cases record.get? name with
  | none => simp
  | some v => cases v <;> simp [Value.isNull]

/-! ## One field -/

namespace FieldRule

variable {rule : FieldRule} {old : Option Value} {v : Value}

/-- What a field holds once its default is put in. -/
def filled (rule : FieldRule) (old : Option Value) : Option Value :=
  match rule.default with
  | some v => if old.all Value.isNull then some v else old
  | none => old

theorem filled_of_default (hd : rule.default = some v) :
    rule.filled old = if old.all Value.isNull then some v else old := by
  rw [filled, hd]

theorem filled_of_none (hd : rule.default = none) : rule.filled old = old := by
  rw [filled, hd]

theorem filled_filled : rule.filled (rule.filled old) = rule.filled old := by
  cases hd : rule.default with
  | none => rw [filled_of_none hd]
  | some v =>
    rw [filled_of_default hd, filled_of_default hd]
    by_cases hold : old.all Value.isNull
    · rw [if_pos hold, ite_self]
    · rw [if_neg hold, if_neg hold]

end FieldRule

namespace Model

variable {m : Model} {record r : Record} {name key : String} {rule : FieldRule} {v : Value}

theorem get?_applyDefault : (applyDefault record key rule).get? name =
    if name = key then rule.filled (record.get? name) else record.get? name := by
  unfold applyDefault
  cases hd : rule.default with
  | none => rw [FieldRule.filled_of_none hd, ite_self]
  | some v =>
    dsimp only
    rw [FieldRule.filled_of_default hd]
    by_cases hname : name = key
    · subst hname
      rw [if_pos rfl]
      split_ifs
      · exact Keyed.get?_insert_self record name v
      · rfl
    · rw [if_neg hname]
      split_ifs
      · exact Keyed.get?_insert_of_ne record v hname
      · rfl

/-! ## All fields -/

/-- Fields with other names stay. -/
theorem get?_foldl_of_not_mem {l : List (String × FieldRule)} (hn : name ∉ l.map Prod.fst) :
    (l.foldl (fun r e => applyDefault r e.1 e.2) record).get? name = record.get? name := by
  induction l generalizing record with
  | nil => rfl
  | cons e l ih =>
    rw [List.map_cons, List.mem_cons, not_or] at hn
    rw [List.foldl_cons, ih hn.2, get?_applyDefault, if_neg hn.1]

theorem get?_foldl_of_mem {l : List (String × FieldRule)} (hl : (l.map Prod.fst).Nodup)
    (hm : (name, rule) ∈ l) :
    (l.foldl (fun r e => applyDefault r e.1 e.2) record).get? name =
      rule.filled (record.get? name) := by
  induction l generalizing record with
  | nil => cases hm
  | cons e l ih =>
    obtain ⟨hne, hl⟩ := List.nodup_cons.1 hl
    rw [List.foldl_cons]
    rcases List.mem_cons.1 hm with rfl | hm
    · rw [get?_foldl_of_not_mem hne, get?_applyDefault, if_pos rfl]
    · have hname : name ≠ e.1 := fun he => hne (he ▸ List.mem_map_of_mem hm)
      rw [ih hl hm, get?_applyDefault, if_neg hname]

theorem get?_of_declared (hm : m.fields.get? name = some rule) :
    (m.applyDefaults record).get? name = rule.filled (record.get? name) :=
  get?_foldl_of_mem m.fields.nodup_keys (Keyed.mem_entries_iff.2 hm)

theorem get?_of_undeclared (hm : m.fields.get? name = none) :
    (m.applyDefaults record).get? name = record.get? name := by
  refine get?_foldl_of_not_mem fun hn => ?_
  have hsome := Keyed.mem_keys_iff.1 hn
  rw [hm] at hsome
  cases hsome

/-- The model has a default for a field that the record has nothing in. -/
def Fills (m : Model) (record : Record) (name : String) (v : Value) : Prop :=
  ∃ rule, m.fields.get? name = some rule ∧ rule.default = some v ∧ record.Lacks name

/-- The record with what it lacks put in, and nothing else changed. -/
structure Completes (m : Model) (record r : Record) : Prop where
  filled {name : String} {v : Value} (h : m.Fills record name v) : r.get? name = some v
  kept {name : String} (h : ∀ v, ¬ m.Fills record name v) : r.get? name = record.get? name

theorem applyDefaults_completes (m : Model) (record : Record) :
    m.Completes record (m.applyDefaults record) := by
  refine ⟨?_, fun {name} h => ?_⟩
  · rintro name v ⟨rule, hm, hd, hlacks⟩
    rw [get?_of_declared hm, FieldRule.filled_of_default hd, if_pos (Record.lacks_iff.1 hlacks)]
  · cases hm : m.fields.get? name with
    | none => exact get?_of_undeclared hm
    | some rule =>
      rw [get?_of_declared hm]
      cases hd : rule.default with
      | none => exact FieldRule.filled_of_none hd
      | some v =>
        have hlacks : ¬ record.Lacks name := fun hlacks => h v ⟨rule, hm, hd, hlacks⟩
        rw [FieldRule.filled_of_default hd, if_neg (mt Record.lacks_iff.2 hlacks)]

/-- Nothing but the defaults can be put in, and only in one way. -/
theorem applyDefaults_eq_iff : m.applyDefaults record = r ↔ m.Completes record r := by
  constructor
  · rintro rfl
    exact applyDefaults_completes m record
  · intro h
    have h' := applyDefaults_completes m record
    refine Keyed.ext_get? fun name => ?_
    by_cases hfills : ∃ v, m.Fills record name v
    · obtain ⟨v, hv⟩ := hfills
      rw [h.filled hv, h'.filled hv]
    · rw [not_exists] at hfills
      rw [h.kept hfills, h'.kept hfills]

theorem applyDefaults_idem (m : Model) (record : Record) :
    m.applyDefaults (m.applyDefaults record) = m.applyDefaults record := by
  refine Keyed.ext_get? fun name => ?_
  cases hm : m.fields.get? name with
  | none => rw [get?_of_undeclared hm]
  | some rule => rw [get?_of_declared hm, get?_of_declared hm, FieldRule.filled_filled]

/-- A field with a default is there afterwards. -/
theorem mem_keys_applyDefaults (hm : m.fields.get? name = some rule)
    (hd : rule.default = some v) (record : Record) : name ∈ (m.applyDefaults record).keys := by
  rw [Keyed.mem_keys_iff, get?_of_declared hm, FieldRule.filled_of_default hd]
  split_ifs with hlacks
  · rfl
  · cases hold : record.get? name with
    | none => simp [hold] at hlacks
    | some _ => rfl

/-! ## Required fields -/

/-- The model requires a field that the record has nothing in, and has no default for it but
    Null. -/
def Demands (m : Model) (record : Record) (name : String) : Prop :=
  ∃ rule, m.fields.get? name = some rule ∧ rule.required ∧ record.Lacks name ∧
    ∀ v, rule.default = some v → v = .null

/-- With its defaults a record has nothing in a field just if it had nothing and there is no
    default but Null. -/
theorem lacks_applyDefaults_iff (hm : m.fields.get? name = some rule) :
    (m.applyDefaults record).Lacks name ↔
      record.Lacks name ∧ ∀ v, rule.default = some v → v = .null := by
  rw [Record.lacks_iff, Record.lacks_iff, get?_of_declared hm]
  cases hd : rule.default with
  | none => simp [FieldRule.filled_of_none hd]
  | some v =>
    rw [FieldRule.filled_of_default hd]
    by_cases hold : (record.get? name).all Value.isNull
    · cases v <;> simp [hold, Value.isNull]
    · simp [hold]

theorem required_check_iff :
    (∃ q ∈ m.check false record, q.code = .required ∧ q.field = name) ↔
      ∃ rule, m.fields.get? name = some rule ∧ rule.required ∧ record.Lacks name := by
  simp only [mem_check_iff]
  constructor
  · rintro ⟨q, hq, hcode, rfl⟩
    cases hq with
    | unknown => cases hcode
    | required hm hreq hv => exact ⟨_, hm, hreq, hv.symm.imp_left And.left⟩
    | value _ _ _ hq => cases hq <;> cases hcode
  · rintro ⟨rule, hm, hreq, hlacks⟩
    exact ⟨_, .required hm hreq (hlacks.symm.imp_right fun hnone => ⟨hnone, rfl⟩), rfl, rfl⟩

/-- What is reported of a batch to be required, once the defaults are put in. -/
theorem required_iff {records : List Record} :
    (∃ q ∈ m.problemsOfAll false (records.map m.applyDefaults),
      q.code = .required ∧ q.field = name) ↔ ∃ record ∈ records, m.Demands record name := by
  have hone (record : Record) :
      (∃ q ∈ m.check false (m.applyDefaults record), q.code = .required ∧ q.field = name) ↔
        m.Demands record name := by
    refine required_check_iff.trans (exists_congr fun rule => and_congr_right fun hm => ?_)
    rw [lacks_applyDefaults_iff hm]
  simp only [← hone]
  constructor
  · rintro ⟨_, hq, hcode, hname⟩
    obtain ⟨i, r, hr, q, hq, rfl⟩ := mem_problemsOfAll_iff.1 hq
    rw [List.getElem?_map, Option.map_eq_some_iff] at hr
    obtain ⟨record, hrecord, rfl⟩ := hr
    exact ⟨record, List.mem_of_getElem? hrecord, q, hq, hcode, hname⟩
  · rintro ⟨record, hrecord, q, hq, hcode, hname⟩
    obtain ⟨i, hi⟩ := List.mem_iff_getElem?.1 hrecord
    refine ⟨_, mem_problemsOfAll_iff.2 ⟨i, _, ?_, q, hq, rfl⟩, hcode, hname⟩
    rw [List.getElem?_map, hi]
    rfl

end Model

end Rowgate
