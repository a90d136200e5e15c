/-
  What the range of a field lets through.

  * `Value.number?`: the number that a value stands for, exactly;
  * `Value.AtLeast`, `Value.AtMost`: a value and a bound in order, both taken exactly;
  * `Value.Blurred`: a value and a bound whose order a check does not see: one of them is no
    number, or the value is an integer that is rounded to the bound;
  * `rangeOut_iff`: a range refuses a number just if a bound is passed and not blurred;
  * `range_kept`: so an accepted record holds no other number in a field with a range;
  * `range_missed`: what is blurred is accepted, in whatever range.
-/
import Rowgate.Proofs.Decimal.Order
import Rowgate.Proofs.Model.Check

namespace Rowgate

namespace Value

/-- The number that a value stands for. -/
def number? : Value → Option Line
  | integer n => some (.of n.toInt)
  | float x => x.point?
  | _ => none

/-- A number that is not below a bound. -/
def AtLeast (v : Value) (b : Double) : Prop :=
  ∃ p q, v.number? = some p ∧ b.point? = some q ∧ q ≤ p

/-- A number that is not above a bound. -/
def AtMost (v : Value) (b : Double) : Prop :=
  ∃ p q, v.number? = some p ∧ b.point? = some q ∧ p ≤ q

/-- A value and a bound whose order is not seen by comparing doubles. -/
inductive Blurred (v : Value) (b : Double) : Prop
  | value (h : v.number? = none)
  | bound (h : b.point? = none)
  | rounded {n : Int64} (hv : v = integer n) (hn : 2 ^ 53 < n.toInt.natAbs)
      (hb : (Double.ofInt n.toInt).point? = b.point?)

variable {v : Value} {x b : Double} {p q a : Line}

/-- A number and its double compare alike with all doubles that the double is not equal to. -/
theorem compared (hx : v.double? = some x) : v.number? = none ∧ x.point? = none ∨
    ∃ p a, v.number? = some p ∧ x.point? = some a ∧ ∀ b q, Double.point? b = some q →
      (a < q ↔ p < q ∧ a ≠ q) ∧ (q < a ↔ q < p ∧ a ≠ q) := by
  cases v with
  | integer n =>
    obtain rfl := Option.some.inj hx
    have hrounds := Double.ofInt_rounds n.toInt
    obtain ⟨a, ha⟩ := hrounds.exists_point
    exact .inr ⟨_, a, rfl, ha, fun b q hq => ⟨hrounds.lt_iff ha hq, hrounds.gt_iff ha hq⟩⟩
  | float y =>
    obtain rfl := Option.some.inj hx
    cases hy : y.point? with
    | none => exact .inl ⟨hy, rfl⟩
    | some a =>
      refine .inr ⟨a, a, hy, rfl, fun b q _ => ⟨?_, ?_⟩⟩
      · exact ⟨fun h => ⟨h, h.ne⟩, And.left⟩
      · exact ⟨fun h => ⟨h, h.ne'⟩, And.left⟩
  | _ => cases hx

/-- A bound that a number is not equal to is blurred if its double is. -/
theorem blurred_iff (hx : v.double? = some x) (hp : v.number? = some p) (ha : x.point? = some a)
    (hq : b.point? = some q) (hne : p ≠ q) : v.Blurred b ↔ a = q := by
  constructor
  · intro h
    cases h with
    | value h =>
      rw [h] at hp
      cases hp
    | bound h =>
      rw [h] at hq
      cases hq
    | rounded hv _ hb =>
      subst hv
      obtain rfl := Option.some.inj hx
      exact Option.some.inj (ha.symm.trans (hb.trans hq))
  · rintro rfl
    cases v with
    | integer n =>
      obtain rfl := Option.some.inj hx
      refine .rounded rfl (not_le.1 fun hn => hne ?_) (ha.trans hq.symm)
      -- an integer of 53 bits is its double
      rw [Double.point?_of_value? (Double.ofInt_exact hn)] at ha
      exact (Option.some.inj hp).symm.trans (Option.some.inj ha)
    | float y =>
      obtain rfl := Option.some.inj hx
      exact absurd (Option.some.inj (hp.symm.trans ha)) hne
    | _ => cases hx

/-- A check finds a number below a bound just if it is, and the bound is not blurred. -/
theorem lt_bound_iff (hx : v.double? = some x) :
    x.lt b ↔ ¬ (v.AtLeast b ∨ v.Blurred b) := by
  cases hq : b.point? with
  | none => simp [Double.lt_iff, hq, Blurred.bound hq]
  | some q =>
    rcases compared hx with ⟨hp, ha⟩ | ⟨p, a, hp, ha, hiff⟩
    · simp [Double.lt_iff, ha, Blurred.value hp]
    · have hlt : x.lt b ↔ a < q := by simp [Double.lt_iff, ha, hq]
      have hleast : v.AtLeast b ↔ q ≤ p := by simp [AtLeast, hp, hq]
      rw [hlt, (hiff b q hq).1, hleast, not_or, not_le]
      exact and_congr_right fun hbelow => (not_congr (blurred_iff hx hp ha hq hbelow.ne)).symm

/-- A check finds a number above a bound just if it is, and the bound is not blurred. -/
theorem bound_lt_iff (hx : v.double? = some x) :
    b.lt x ↔ ¬ (v.AtMost b ∨ v.Blurred b) := by
  cases hq : b.point? with
  | none => simp [Double.lt_iff, hq, Blurred.bound hq]
  | some q =>
    rcases compared hx with ⟨hp, ha⟩ | ⟨p, a, hp, ha, hiff⟩
    · simp [Double.lt_iff, ha, Blurred.value hp]
    · have hgt : b.lt x ↔ q < a := by simp [Double.lt_iff, ha, hq]
      have hmost : v.AtMost b ↔ p ≤ q := by simp [AtMost, hp, hq]
      rw [hgt, (hiff b q hq).2, hmost, not_or, not_le]
      exact and_congr_right fun habove => (not_congr (blurred_iff hx hp ha hq habove.ne')).symm

end Value

/-! ## Ranges -/

/-- A value that keeps to the bounds of a field, as far as a check sees. -/
structure FieldRule.Keeps (rule : FieldRule) (v : Value) : Prop where
  least : ∀ b, rule.minValue = some b → v.AtLeast b ∨ v.Blurred b
  most : ∀ b, rule.maxValue = some b → v.AtMost b ∨ v.Blurred b

namespace FieldRule

variable {rule : FieldRule} {v : Value} {x : Double}

theorem rangeOut_iff (hx : v.double? = some x) : rule.RangeOut x ↔ ¬ rule.Keeps v := by
  unfold RangeOut
  simp only [Value.lt_bound_iff hx, Value.bound_lt_iff hx]
  constructor
  · rintro (⟨b, hb, hout⟩ | ⟨b, hb, hout⟩) h
    · exact hout (h.least b hb)
    · exact hout (h.most b hb)
  · intro h
    by_contra hnone
    push Not at hnone
    exact h ⟨hnone.1, hnone.2⟩

end FieldRule

namespace Model

variable {m : Model} {isPartial : Bool} {record : Record} {name : String} {rule : FieldRule}
  {v : Value} {x : Double}

/-- A problem of the range of a field. -/
theorem range_problem_iff (hm : m.fields.get? name = some rule) (hv : record.get? name = some v)
    (hx : v.double? = some x) (ht : rule.Takes v) :
    (∃ q ∈ m.check isPartial record, q.field = name ∧ q.code = .range) ↔ rule.RangeOut x := by
  have hnull : v ≠ .null := by
    rintro rfl
    cases hx
  constructor
  · rintro ⟨q, hq, hfield, hcode⟩
    cases mem_check_iff.1 hq with
    | unknown | required => cases hcode
    | value hm' hv' _ hfaulty =>
      cases hfaulty with
      | type | length | custom => cases hcode
      | range hx' _ hout =>
        obtain rfl : _ = name := hfield
        rw [hm] at hm'
        cases hm'
        rw [hv] at hv'
        cases hv'
        rw [hx] at hx'
        cases hx'
        exact hout
  · intro hout
    exact ⟨_, mem_check_iff.2 (.value hm hv hnull (.range hx ht hout)), rfl, rfl⟩

/-- A value of a record without problems is of a type that is taken. -/
theorem takes_of_check (hcheck : m.check isPartial record = [])
    (hm : m.fields.get? name = some rule) (hv : record.get? name = some v) (hnull : v ≠ .null) :
    rule.Takes v := by
  obtain ⟨actual, hactual⟩ := Option.ne_none_iff_exists'.1
    (mt FieldRule.infer_eq_none_iff.1 hnull)
  refine ⟨actual, hactual, ?_⟩
  by_contra hn
  have hmem : _ ∈ m.check isPartial record := mem_check_iff.2 (.value hm hv hnull
    (.type hactual (Bool.eq_false_iff.2 hn)))
  rw [hcheck] at hmem
  cases hmem

/-- **What a range lets through.**  A number that stands in a field of a record that is accepted is
    at least the least and at most the greatest value of the field, all taken exactly, but for
    what comparing doubles does not see: a value or a bound that is no number, and an integer
    beyond 53 bits that is rounded to the bound.  What is reported to be out of range is all the
    rest. -/
theorem range_kept (hm : m.fields.get? name = some rule) (hv : record.get? name = some v)
    (hx : v.double? = some x) :
    (m.check isPartial record = [] → rule.Keeps v) ∧ (rule.Takes v →
      ((∃ q ∈ m.check isPartial record, q.field = name ∧ q.code = .range) ↔ ¬ rule.Keeps v)) := by
  have hnull : v ≠ .null := by
    rintro rfl
    cases hx
  have hproblem (ht : rule.Takes v) :
      (∃ q ∈ m.check isPartial record, q.field = name ∧ q.code = .range) ↔ ¬ rule.Keeps v :=
    (range_problem_iff hm hv hx ht).trans (FieldRule.rangeOut_iff hx)
  refine ⟨fun hcheck => ?_, hproblem⟩
  by_contra hout
  obtain ⟨q, hq, -⟩ := (hproblem (takes_of_check hcheck hm hv hnull)).2 hout
  rw [hcheck] at hq
  cases hq

/-- At most `2^53` pieces. -/
def piecesRule : FieldRule :=
  ⟨.integer, true, none, none, none, some (.ofInt 9007199254740992), none, none⟩

/-- A part of a whole. -/
def shareRule : FieldRule :=
  ⟨.float, true, none, none, some .zero, some (.ofInt 1), none, none⟩

def lotModel : Model where
  table := "lots"
  fields := .ofList [("pieces", piecesRule), ("share", shareRule)]

def lot (pieces : Int64) (share : Double) : Record :=
  .ofList [("pieces", .integer pieces), ("share", .float share)]

/-- The greatest number of pieces is accepted, and two more are not. -/
theorem range_kept_edge :
    lotModel.check false (lot 9007199254740992 .zero) = [] ∧
      piecesRule.Keeps (.integer 9007199254740992) ∧
      (∃ q ∈ lotModel.check false (lot 9007199254740994 .zero),
        q.field = "pieces" ∧ q.code = .range) ∧
      ¬ piecesRule.Keeps (.integer 9007199254740994) := by
  have hfield : lotModel.fields.get? "pieces" = some piecesRule := rfl
  have haccepted : lotModel.check false (lot 9007199254740992 .zero) = [] := by decide +kernel
  have hreported : ∃ q ∈ lotModel.check false (lot 9007199254740994 .zero),
      q.field = "pieces" ∧ q.code = .range := by decide +kernel
  have hpieces (n : Int64) : (lot n .zero).get? "pieces" = some (.integer n) :=
    Keyed.get?_ofList_last (l := []) (by simp)
  obtain ⟨hkept, -⟩ := range_kept hfield (hpieces 9007199254740992) rfl
  obtain ⟨-, hproblem⟩ := range_kept hfield (hpieces 9007199254740994) rfl
  exact ⟨haccepted, hkept haccepted, hreported, (hproblem ⟨.integer, rfl, rfl⟩).1 hreported⟩

/-- One piece too many, which is rounded to the greatest number, and a share that is no number. -/
theorem range_missed :
    lotModel.check false (lot 9007199254740993 .nan) = [] ∧
      lotModel.check true (lot 9007199254740993 .nan) = [] ∧
      piecesRule.maxValue = some (.ofInt 9007199254740992) ∧
      ¬ (Value.integer 9007199254740993).AtMost (.ofInt 9007199254740992) ∧
      shareRule.minValue = some .zero ∧ shareRule.maxValue = some (.ofInt 1) ∧
      ¬ (Value.float .nan).AtLeast .zero ∧ ¬ (Value.float .nan).AtMost (.ofInt 1) := by
  refine ⟨by decide +kernel, by decide +kernel, rfl, ?_, rfl, rfl, ?_, ?_⟩
  · rintro ⟨p, q, hp, hq, hle⟩
    rw [Double.point?_of_value? (Double.ofInt_exact (by decide))] at hq
    obtain rfl := Option.some.inj hp
    obtain rfl := Option.some.inj hq
    exact absurd (Line.of_le_of.1 hle) (by decide)
  · rintro ⟨p, q, hp, -⟩
    cases hp
  · rintro ⟨p, q, hp, -⟩
    cases hp

end Model

end Rowgate
