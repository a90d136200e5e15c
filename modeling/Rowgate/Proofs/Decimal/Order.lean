/-
  Doubles as points of the line of numbers with an infinity at each end.

  * `Double.point?`: the point of a double; what is no number has none;
  * `lt_iff`: one double is below another if its point is;
  * `Rounds.le_of_le`, `Rounds.ge_of_ge`: rounding does not go past a double;
  * `Rounds.lt_iff`, `Rounds.gt_iff`: a number that is rounded compares with a double as it is,
    unless it is rounded to that double.
-/
import Mathlib.Order.WithBot
import Rowgate.Proofs.Decimal.Rounding

namespace Rowgate

open BinaryFormat

/-- The numbers, with an infinity at each end. -/
abbrev Line : Type :=
  WithBot (WithTop ℚ)

/-- The point of a number. -/
def Line.of (q : ℚ) : Line :=
  ((q : WithTop ℚ) : WithBot (WithTop ℚ))

namespace Line

variable {q r : ℚ}

@[simp]
theorem of_le_of : of q ≤ of r ↔ q ≤ r := by
  simp [of]

@[simp]
theorem of_lt_of : of q < of r ↔ q < r := by
  simp [of]

@[simp]
theorem of_lt_top (q : ℚ) : of q < ⊤ :=
  WithBot.coe_lt_coe.2 (WithTop.coe_lt_top q)

@[simp]
theorem bot_lt_of (q : ℚ) : ⊥ < of q :=
  WithBot.bot_lt_coe _

end Line

namespace Double

/-- The point that a double stands for. -/
def point? (x : Double) : Option Line :=
  match x.datum with
  | .finite negative m e => some (.of (scaled negative m e))
  | .infinite negative => some (if negative then ⊥ else ⊤)
  | .nan .. => none

variable {x y : Double} {negative : Bool} {m payload : Nat} {e : Int} {q : ℚ} {a b : Line}

theorem point?_of_finite (h : x.datum = .finite negative m e) :
    x.point? = some (.of (scaled negative m e)) := by
  rw [point?, h]

theorem point?_of_infinite (h : x.datum = .infinite negative) :
    x.point? = some (if negative then ⊥ else ⊤) := by
  rw [point?, h]

theorem point?_of_nan (h : x.datum = .nan negative payload) : x.point? = none := by
  rw [point?, h]

theorem point?_of_value? (h : x.value? = some q) : x.point? = some (.of q) := by
  cases hx : x.datum with
  | finite negative m e =>
    rw [value?_of_datum hx] at h
    rw [point?_of_finite hx, Option.some.inj h]
  | infinite | nan =>
    rw [value?, hx] at h
    cases h

/-- What a double stands for: a number of the format, or an infinity. -/
theorem point?_cases (h : x.point? = some a) :
    (∃ r, a = .of r ∧ binary64.Has r) ∨ a = ⊤ ∨ a = ⊥ := by
  cases hx : x.datum with
  | finite negative m e =>
    rw [point?_of_finite hx] at h
    cases h
    exact .inl ⟨_, rfl, negative, m, e, holds_binary64.2 (DecimalLayout.normal_of_datum hx), rfl⟩
  | infinite negative =>
    rw [point?_of_infinite hx] at h
    cases h
    cases negative
    · exact .inr (.inl rfl)
    · exact .inr (.inr rfl)
  | nan =>
    rw [point?_of_nan hx] at h
    cases h

/-! ## The order of doubles -/

theorem unitsOf_eq (he : -1074 ≤ e) :
    (unitsOf negative m e : ℚ) = scaled negative m e * 2 ^ (1074 : Int) := by
  obtain ⟨k, rfl⟩ : ∃ k : Nat, e = k - 1074 := ⟨(e + 1074).toNat, by omega⟩
  have hpow : (2 : ℚ) ^ ((k : Int) - 1074) * 2 ^ (1074 : Int) = 2 ^ k := by
    rw [← zpow_add₀ (by norm_num), sub_add_cancel, zpow_natCast]
  unfold unitsOf
  rw [Decimal.minExponent_binary64, show ((k : Int) - 1074 - -1074).toNat = k by omega]
  cases negative with
  | false =>
    rw [scaled_false, mul_assoc, hpow]
    push_cast
    rfl
  | true =>
    rw [scaled_true, neg_mul, mul_assoc, hpow]
    push_cast
    rfl

theorem unitsOf_lt_iff {s t : Bool} {m n : Nat} {e d : Int} (he : -1074 ≤ e) (hd : -1074 ≤ d) :
    unitsOf s m e < unitsOf t n d ↔ scaled s m e < scaled t n d := by
  rw [← Int.cast_lt (R := ℚ), unitsOf_eq he, unitsOf_eq hd,
    mul_lt_mul_iff_left₀ (Decimal.two_zpow_pos 1074)]

theorem lt_iff : x.lt y ↔ ∃ a b, x.point? = some a ∧ y.point? = some b ∧ a < b := by
  cases hx : x.datum with
  | nan => simp [lt, hx, point?_of_nan hx]
  | infinite s =>
    rw [point?_of_infinite hx]
    cases hy : y.datum with
    | nan => simp [lt, hx, hy, point?_of_nan hy]
    | infinite t => cases s <;> cases t <;> simp [lt, hx, hy, point?_of_infinite hy]
    | finite t n d => cases s <;> simp [lt, hx, hy, point?_of_finite hy]
  | finite s m e =>
    rw [point?_of_finite hx]
    cases hy : y.datum with
    | nan => simp [lt, hx, hy, point?_of_nan hy]
    | infinite t => cases t <;> simp [lt, hx, hy, point?_of_infinite hy]
    | finite t n d =>
      have hunits := unitsOf_lt_iff (s := s) (t := t) (m := m) (n := n)
        (DecimalLayout.normal_of_datum hx).least (DecimalLayout.normal_of_datum hy).least
      simp [lt, hx, hy, point?_of_finite hy, hunits]

/-! ## Rounding and order -/

namespace Rounds

/-- What is rounded to an infinity is beyond all doubles. -/
theorem cases_on (h : x.Rounds binary64 q) (hx : x.point? = some a) :
    (∃ v, a = .of v ∧ binary64.Nearest q v) ∨ a = ⊤ ∧ binary64.limit ≤ q ∨
      a = ⊥ ∧ q ≤ -binary64.limit := by
  cases h with
  | finite hv hnearest =>
    rw [point?_of_value? hv] at hx
    exact .inl ⟨_, (Option.some.inj hx).symm, hnearest⟩
  | @infinite negative hd hlimit =>
    rw [point?_of_infinite hd] at hx
    obtain rfl := Option.some.inj hx
    cases negative with
    | false => exact .inr (.inl ⟨rfl, hlimit⟩)
    | true => exact .inr (.inr ⟨rfl, le_neg_of_le_neg hlimit⟩)

theorem exists_point {f : BinaryFormat} (h : x.Rounds f q) : ∃ a, x.point? = some a := by
  cases h with
  | finite hv => exact ⟨_, point?_of_value? hv⟩
  | infinite hd => exact ⟨_, point?_of_infinite hd⟩

/-- Rounding does not go up past a double. -/
theorem le_of_le (h : x.Rounds binary64 q) (hx : x.point? = some a) (hy : y.point? = some b)
    (hle : .of q ≤ b) : a ≤ b := by
  rcases point?_cases hy with ⟨w, rfl, hw⟩ | rfl | rfl
  · have hqw := Line.of_le_of.1 hle
    have hlimit := (abs_lt.1 hw.abs_lt_limit).2
    rcases h.cases_on hx with ⟨v, rfl, hnearest⟩ | ⟨-, hq⟩ | ⟨rfl, -⟩
    · -- a number above the double is farther away than the double
      by_contra hlt
      have hlt : w < v := by simpa using hlt
      have habs := hnearest.le w hw
      rw [abs_of_nonpos (by linarith), abs_of_nonpos (by linarith)] at habs
      linarith
    · linarith
    · exact bot_le
  · exact le_top
  · exact absurd hle (not_le.2 (Line.bot_lt_of q))

/-- Rounding does not go down past a double. -/
theorem ge_of_ge (h : x.Rounds binary64 q) (hx : x.point? = some a) (hy : y.point? = some b)
    (hge : b ≤ .of q) : b ≤ a := by
  rcases point?_cases hy with ⟨w, rfl, hw⟩ | rfl | rfl
  · have hwq := Line.of_le_of.1 hge
    have hlimit := (abs_lt.1 hw.abs_lt_limit).1
    rcases h.cases_on hx with ⟨v, rfl, hnearest⟩ | ⟨rfl, -⟩ | ⟨-, hq⟩
    · by_contra hlt
      have hlt : v < w := by simpa using hlt
      have habs := hnearest.le w hw
      rw [abs_of_nonneg (by linarith), abs_of_nonneg (by linarith)] at habs
      linarith
    · exact le_top
    · linarith
  · exact absurd hge (not_le.2 (Line.of_lt_top q))
  · exact bot_le

theorem lt_iff (h : x.Rounds binary64 q) (hx : x.point? = some a) (hy : y.point? = some b) :
    a < b ↔ .of q < b ∧ a ≠ b := by
  constructor
  · intro hlt
    exact ⟨not_le.1 fun hge => absurd (h.ge_of_ge hx hy hge) (not_le.2 hlt), hlt.ne⟩
  · rintro ⟨hlt, hne⟩
    exact lt_of_le_of_ne (h.le_of_le hx hy hlt.le) hne

theorem gt_iff (h : x.Rounds binary64 q) (hx : x.point? = some a) (hy : y.point? = some b) :
    b < a ↔ b < .of q ∧ a ≠ b := by
  constructor
  · intro hlt
    exact ⟨not_le.1 fun hle => absurd (h.le_of_le hx hy hle) (not_le.2 hlt), hlt.ne'⟩
  · rintro ⟨hlt, hne⟩
    exact lt_of_le_of_ne (h.ge_of_ge hx hy hlt.le) hne.symm

end Rounds

end Double

end Rowgate
