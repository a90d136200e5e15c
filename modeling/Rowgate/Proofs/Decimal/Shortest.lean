/-
  The shortest decimal of a double rounds to that double.

  * `contains_of_onGrid`: what is found on a grid lies in the interval;
  * `onGrid_isSome`: on a grid as fine as a quarter of the last place something is found;
  * `search_grid`: the search ends on the first grid with one, and such a grid is come to
    before it ends;
  * `shortest_bounds`: its digits fit in 64 bits;
  * `shortest_contains`, `shortest_value_inj`: no two doubles have one shortest decimal.
-/
import Mathlib.Tactic.Ring
import Rowgate.Proofs.Decimal.Interval

namespace Rowgate.Decimal

/-! ## Whole numbers for multiples of powers -/

theorem zpow_mul_pow_toNat {b : ℚ} (hb : b ≠ 0) (n : Int) :
    b ^ n * b ^ (-n).toNat = b ^ n.toNat := by
  rw [← zpow_natCast, ← zpow_natCast, ← zpow_add₀ hb]
  congr 1
  omega

/-- What the whole numbers of both sides are multiplied by. -/
def scaleOf (quarter k : Int) : ℚ :=
  10 ^ (-k).toNat * 2 ^ (-quarter).toNat

theorem scaleOf_pos (quarter k : Int) : 0 < scaleOf quarter k := by
  unfold scaleOf
  positivity

variable {tie : DecimalTie} {i : Interval} {k : Int} {c : Nat}

/-- So many quarters of the last place. -/
def quartersOf (i : Interval) (k : Int) (a : Nat) : Nat :=
  a * 2 ^ i.quarter.toNat * 10 ^ (-k).toNat

/-- So many steps of the grid of multiples of `10^k`. -/
def stepsOf (i : Interval) (k : Int) (c : Nat) : Nat :=
  c * 10 ^ k.toNat * 2 ^ (-i.quarter).toNat

theorem cast_quartersOf (i : Interval) (k : Int) (a : Nat) :
    (quartersOf i k a : ℚ) = a * 2 ^ i.quarter * scaleOf i.quarter k := by
  have h := zpow_mul_pow_toNat (b := 2) (by norm_num) i.quarter
  unfold quartersOf scaleOf
  push_cast
  rw [← h]
  ring

theorem cast_stepsOf (i : Interval) (k : Int) (c : Nat) :
    (stepsOf i k c : ℚ) = c * 10 ^ k * scaleOf i.quarter k := by
  have h := zpow_mul_pow_toNat (b := 10) (by norm_num) k
  unfold stepsOf scaleOf
  push_cast
  rw [← h]
  ring

theorem quartersOf_le {a : Nat} :
    quartersOf i k a ≤ stepsOf i k c ↔ (a : ℚ) * 2 ^ i.quarter ≤ c * 10 ^ k := by
  rw [← Nat.cast_le (α := ℚ), cast_quartersOf, cast_stepsOf,
    mul_le_mul_iff_of_pos_right (scaleOf_pos _ _)]

theorem stepsOf_le {a : Nat} :
    stepsOf i k c ≤ quartersOf i k a ↔ (c : ℚ) * 10 ^ k ≤ a * 2 ^ i.quarter := by
  rw [← Nat.cast_le (α := ℚ), cast_quartersOf, cast_stepsOf,
    mul_le_mul_iff_of_pos_right (scaleOf_pos _ _)]

theorem quartersOf_lt {a : Nat} :
    quartersOf i k a < stepsOf i k c ↔ (a : ℚ) * 2 ^ i.quarter < c * 10 ^ k := by
  rw [← not_le, stepsOf_le, not_le]

theorem stepsOf_lt {a : Nat} :
    stepsOf i k c < quartersOf i k a ↔ (c : ℚ) * 10 ^ k < a * 2 ^ i.quarter := by
  rw [← not_le, quartersOf_le, not_le]

/-! ## A grid -/

/-- Whether a multiple of `10^k` lies in the interval. -/
def isInside (i : Interval) (k : Int) (c : Nat) : Bool :=
  if i.closed then quartersOf i k i.lo ≤ stepsOf i k c && stepsOf i k c ≤ quartersOf i k i.hi
  else quartersOf i k i.lo < stepsOf i k c && stepsOf i k c < quartersOf i k i.hi

theorem isInside_contains (h : isInside i k c) : i.Contains (c * 10 ^ k) := by
  unfold isInside at h
  cases hclosed : i.closed with
  | true =>
    simp only [hclosed, if_true, Bool.and_eq_true, decide_eq_true_eq] at h
    exact ⟨quartersOf_le.1 h.1, stepsOf_le.1 h.2, fun hopen => by simp [hclosed] at hopen⟩
  | false =>
    simp only [hclosed, Bool.false_eq_true, if_false, Bool.and_eq_true, decide_eq_true_eq] at h
    have hends := And.intro (quartersOf_lt.1 h.1) (stepsOf_lt.1 h.2)
    exact ⟨hends.1.le, hends.2.le, fun _ => hends⟩

/-- The neighbours of the middle on the grid are looked at, and nothing else. -/
theorem onGrid_eq (tie : DecimalTie) (i : Interval) (k : Int) :
    onGrid tie i k =
      let c := quartersOf i k i.mid / stepsOf i k 1
      let below := quartersOf i k i.mid - stepsOf i k c
      let above := stepsOf i k (c + 1) - quartersOf i k i.mid
      match isInside i k c, isInside i k (c + 1) with
      | false, false => none
      | true, false => some c
      | false, true => some (c + 1)
      | true, true =>
        if below < above then some c
        else if above < below then some (c + 1)
        else match tie with
          | .up => some (c + 1)
          | .toEven => some (if c % 2 = 0 then c else c + 1) :=
  rfl

theorem contains_of_onGrid (h : onGrid tie i k = some c) : i.Contains (c * 10 ^ k) := by
  refine isInside_contains ?_
  rw [onGrid_eq] at h
  dsimp only at h
  generalize quartersOf i k i.mid / stepsOf i k 1 = c₀ at h
  split at h
  · cases h
  · cases h; assumption
  · cases h; assumption
  · cases tie
    · dsimp only at h
      split_ifs at h <;> cases h <;> assumption
    · dsimp only at h
      split_ifs at h <;> cases h <;> assumption

theorem stepsOf_eq_mul (i : Interval) (k : Int) (c : Nat) : stepsOf i k c = c * stepsOf i k 1 := by
  unfold stepsOf
  ring

theorem quartersOf_eq_mul (i : Interval) (k : Int) (a : Nat) :
    quartersOf i k a = a * quartersOf i k 1 := by
  unfold quartersOf
  ring

/-- The neighbour below is less than a quarter of the last place away on a grid as fine. -/
theorem isInside_below (hlo : i.lo < i.mid) (hhi : i.mid < i.hi)
    (hfine : stepsOf i k 1 ≤ quartersOf i k 1) :
    isInside i k (quartersOf i k i.mid / stepsOf i k 1) := by
  have hpos : 0 < stepsOf i k 1 := by
    unfold stepsOf
    positivity
  have hbelow : quartersOf i k i.mid / stepsOf i k 1 * stepsOf i k 1 ≤ quartersOf i k i.mid :=
    Nat.div_mul_le_self _ _
  have habove := Nat.lt_div_mul_add (a := quartersOf i k i.mid) hpos
  generalize quartersOf i k i.mid / stepsOf i k 1 = c at hbelow habove
  have hlo' : quartersOf i k i.lo + quartersOf i k 1 ≤ quartersOf i k i.mid := by
    rw [quartersOf_eq_mul i k i.lo, quartersOf_eq_mul i k i.mid, ← Nat.succ_mul]
    exact Nat.mul_le_mul_right _ hlo
  have hhi' : quartersOf i k i.mid < quartersOf i k i.hi := by
    rw [quartersOf_eq_mul i k i.mid, quartersOf_eq_mul i k i.hi]
    exact Nat.mul_lt_mul_of_pos_right hhi (hpos.trans_le hfine)
  have hleft : quartersOf i k i.lo < stepsOf i k c := by
    rw [stepsOf_eq_mul]
    omega
  have hright : stepsOf i k c < quartersOf i k i.hi := by
    rw [stepsOf_eq_mul]
    omega
  unfold isInside
  split_ifs
  · simp [hleft.le, hright.le]
  · simp [hleft, hright]

theorem onGrid_isSome (hlo : i.lo < i.mid) (hhi : i.mid < i.hi)
    (hfine : (10 : ℚ) ^ k ≤ 2 ^ i.quarter) : ∃ c, onGrid tie i k = some c := by
  have hinside := isInside_below (k := k) hlo hhi (stepsOf_le.2 (by simpa using hfine))
  rw [onGrid_eq]
  dsimp only
  rw [hinside]
  cases isInside i k (quartersOf i k i.mid / stepsOf i k 1 + 1) with
  | false => exact ⟨_, rfl⟩
  | true =>
    cases tie
    · dsimp only
      split_ifs <;> exact ⟨_, rfl⟩
    · dsimp only
      split_ifs <;> exact ⟨_, rfl⟩

/-! ## The search -/

theorem trimZeros_value (d : Nat) (k : Int) (fuel : Nat) :
    (trimZeros d k fuel).value = d * 10 ^ k := by
  induction fuel generalizing d k with
  | zero => rfl
  | succ fuel ih =>
    unfold trimZeros
    split_ifs with hd
    · have hten : ((d / 10 : ℕ) : ℚ) * 10 = d := by exact_mod_cast Nat.div_mul_cancel (by omega)
      rw [ih, zpow_add_one₀ (by norm_num), ← hten]
      ring
    · rfl

theorem trimZeros_bounds (d : Nat) (k : Int) (fuel : Nat) :
    (trimZeros d k fuel).digits ≤ d ∧ k ≤ (trimZeros d k fuel).exponent ∧
      (trimZeros d k fuel).exponent ≤ k + fuel := by
  induction fuel generalizing d k with
  | zero => exact ⟨le_rfl, le_rfl, by simp [trimZeros]⟩
  | succ fuel ih =>
    unfold trimZeros
    split_ifs with hd
    · obtain ⟨hdigits, hlo, hhi⟩ := ih (d / 10) (k + 1)
      exact ⟨by omega, by omega, by push_cast; omega⟩
    · exact ⟨le_rfl, le_rfl, by simp only; omega⟩

/-- The search ends on the first grid with a decimal inside, if there is one among those it
    tries. -/
theorem search_grid {fuel j : Nat} (hj : j < fuel) (h : ∃ c, onGrid tie i (k - j) = some c) :
    ∃ n c, n ≤ j ∧ onGrid tie i (k - n) = some c ∧ search tie i k fuel = trimZeros c (k - n) 20 ∧
      (n ≠ 0 → onGrid tie i (k - n + 1) = none) := by
  induction fuel generalizing k j with
  | zero => omega
  | succ fuel ih =>
    unfold search
    cases hk : onGrid tie i k with
    | some c => exact ⟨0, c, by omega, by simpa using hk, by simp, by simp⟩
    | none =>
      cases j with
      | zero =>
        obtain ⟨c, hc⟩ := h
        rw [Nat.cast_zero, sub_zero, hk] at hc
        cases hc
      | succ j =>
        have hstep (n : Nat) : k - 1 - (n : Int) = k - ((n + 1 : ℕ) : Int) := by push_cast; ring
        obtain ⟨n, c, hn, hgrid, hsearch, hfirst⟩ := ih (k := k - 1) (j := j) (by omega)
          (by rwa [hstep])
        rw [hstep] at hgrid hsearch hfirst
        refine ⟨n + 1, c, by omega, hgrid, hsearch, fun _ => ?_⟩
        by_cases hzero : n = 0
        · subst hzero
          rwa [show k - ((0 + 1 : ℕ) : Int) + 1 = k by push_cast; ring]
        · exact hfirst hzero

/-- Powers of ten and of two, by `10^3 ≤ 2^10` and `2^23 ≤ 10^7`. -/
theorem ten_zpow_le {t q : Int} (hpos : 0 ≤ t → 10 * t ≤ 3 * q) (hneg : t < 0 → 23 * t ≤ 7 * q) :
    (10 : ℚ) ^ t ≤ 2 ^ q := by
  have hten : (0 : ℚ) ≤ 10 ^ t := (zpow_pos (by norm_num) t).le
  have htwo : (0 : ℚ) ≤ 2 ^ q := (two_zpow_pos q).le
  rcases le_or_gt 0 t with ht | ht
  · obtain ⟨n, rfl⟩ := Int.eq_ofNat_of_zero_le ht
    refine (pow_le_pow_iff_left₀ hten htwo (by decide : 3 ≠ 0)).1 ?_
    calc ((10 : ℚ) ^ (n : Int)) ^ 3 = (10 ^ 3) ^ n := by rw [zpow_natCast, pow_right_comm]
      _ ≤ (2 ^ 10) ^ n := pow_le_pow_left₀ (by norm_num) (by norm_num) n
      _ = 2 ^ (10 * n : Int) := by rw [← pow_mul, ← zpow_natCast]; push_cast; rfl
      _ ≤ 2 ^ (3 * q) := zpow_le_zpow_right₀ (by norm_num) (hpos ht)
      _ = (2 ^ q) ^ 3 := by rw [mul_comm, zpow_mul]; rfl
  · obtain ⟨n, rfl⟩ : ∃ n : Nat, t = -n := ⟨t.natAbs, by omega⟩
    refine (pow_le_pow_iff_left₀ hten htwo (by decide : 7 ≠ 0)).1 ?_
    calc ((10 : ℚ) ^ (-n : Int)) ^ 7 = ((10 ^ 7) ^ n)⁻¹ := by
          rw [zpow_neg, zpow_natCast, inv_pow, pow_right_comm]
      _ ≤ ((2 ^ 23) ^ n)⁻¹ :=
        inv_anti₀ (by positivity) (pow_le_pow_left₀ (by norm_num) (by norm_num) n)
      _ = 2 ^ (23 * -n : Int) := by rw [← pow_mul, ← zpow_natCast, ← zpow_neg]; push_cast; ring_nf
      _ ≤ 2 ^ (7 * q) := zpow_le_zpow_right₀ (by norm_num) (hneg ht)
      _ = (2 ^ q) ^ 7 := by rw [mul_comm, zpow_mul]; rfl

variable {m m' : Nat} {e e' : Int} {v : ℚ}

/-- The grid that is tried first. -/
def firstGrid (m : Nat) (e : Int) : Int :=
  ((m.log2 : Int) + 1 + e) * 30103 / 100000 + 1

theorem log2_le (h : Normal m e) : m.log2 ≤ 52 := by
  have := h.width
  by_contra hlog
  have := Nat.log2_self_le (n := m) (by rintro rfl; simp at hlog)
  have := Nat.pow_le_pow_right (n := 2) (by decide) (show 53 ≤ m.log2 by omega)
  omega

/-- The last grid that is tried is as fine as a quarter of the last place. -/
theorem last_grid_fine (h : Normal m e) :
    (10 : ℚ) ^ (firstGrid m e - (23 : Nat)) ≤ 2 ^ (e - 2) := by
  have hlog := log2_le h
  have hleast := h.least
  have hgreatest := h.greatest
  unfold firstGrid
  refine ten_zpow_le (fun _ => ?_) fun _ => ?_ <;> omega

theorem mid_lt (m : Nat) (e : Int) : (interval m e).mid < (interval m e).hi := by
  simp [interval]

theorem lt_mid (m : Nat) (hm : m ≠ 0) (e : Int) : (interval m e).lo < (interval m e).mid := by
  rw [lo_interval]
  simp only [interval]
  split_ifs <;> omega

/-- The shortest decimal is found on the first grid that has one. -/
theorem shortest_grid (tie : DecimalTie) (hm : m ≠ 0) (h : Normal m e) :
    ∃ n c, n ≤ 23 ∧ onGrid tie (interval m e) (firstGrid m e - (n : Nat)) = some c ∧
      shortest tie m e = trimZeros c (firstGrid m e - n) 20 ∧
      (n ≠ 0 → onGrid tie (interval m e) (firstGrid m e - n + 1) = none) := by
  have hgrid := @onGrid_isSome tie _ _ (lt_mid m hm e) (mid_lt m e) (last_grid_fine h)
  unfold shortest
  rw [if_neg hm]
  exact search_grid (by decide) hgrid

/-- The shortest decimal rounds to the number that it is written for. -/
theorem shortest_contains (tie : DecimalTie) (hm : m ≠ 0) (h : Normal m e) :
    (interval m e).Contains (shortest tie m e).value := by
  obtain ⟨n, c, -, hgrid, hshortest, -⟩ := shortest_grid tie hm h
  rw [hshortest, trimZeros_value]
  exact contains_of_onGrid hgrid

/-- A power of two below one of ten. -/
theorem two_zpow_le {t k : Int} (hpos : 0 < k → 7 * t ≤ 23 * k) (hneg : k ≤ 0 → 3 * t ≤ 10 * k) :
    (2 : ℚ) ^ t ≤ 10 ^ k := by
  have h := ten_zpow_le (t := -k) (q := -t) (fun h => by omega) fun h => by omega
  rw [zpow_neg, zpow_neg] at h
  exact (inv_le_inv₀ (zpow_pos (by norm_num) _) (two_zpow_pos _)).1 h

/-- A number is below the power of two above its significand. -/
theorem Interval.Contains.lt (h : (interval m e).Contains v) :
    v < 2 ^ ((m.log2 : Int) + 1 + e) := by
  have hlog : m + 1 ≤ 2 ^ (m.log2 + 1) := Nat.lt_log2_self
  have hhi : ((interval m e).hi : ℚ) < 2 ^ (m.log2 + 1) * 2 ^ (2 : ℕ) := by
    have : (interval m e).hi < 2 ^ (m.log2 + 1) * 2 ^ 2 := by
      simp only [interval]
      omega
    exact_mod_cast this
  refine h.le_hi.trans_lt ((mul_lt_mul_of_pos_right hhi (two_zpow_pos _)).trans_eq ?_)
  rw [show (interval m e).quarter = e - 2 from rfl, ← pow_add, ← zpow_natCast,
    ← zpow_add₀ (by norm_num)]
  congr 1
  push_cast
  ring

theorem Interval.Contains.one_le_digits {d : Decimal} (h : (interval m e).Contains d.value)
    (hm : m ≠ 0) : 1 ≤ d.digits := by
  refine Nat.one_le_iff_ne_zero.2 fun hzero => ?_
  have hv := h.pos hm
  rw [value, hzero, Nat.cast_zero, zero_mul] at hv
  exact lt_irrefl 0 hv

/-- The digits of a shortest decimal fit in 64 bits. -/
theorem shortest_bounds (tie : DecimalTie) (h : Normal m e) :
    (shortest tie m e).digits < 2 ^ 64 ∧ -400 ≤ (shortest tie m e).exponent ∧
      (shortest tie m e).exponent ≤ 400 := by
  by_cases hm : m = 0
  · simp [shortest, hm]
  obtain ⟨n, c, hn, hgrid, hshortest, hfirst⟩ := shortest_grid tie hm h
  have hcontains := contains_of_onGrid hgrid
  have hlog := log2_le h
  have hleast := h.least
  have hgreatest := h.greatest
  have hwidth := h.width
  have hk : firstGrid m e = ((m.log2 : Int) + 1 + e) * 30103 / 100000 + 1 := rfl
  obtain ⟨hdigits, hlo, hhi⟩ := trimZeros_bounds c (firstGrid m e - n) 20
  rw [hshortest]
  refine ⟨hdigits.trans_lt ?_, by omega, by omega⟩
  have hten : (0 : ℚ) < 10 ^ (firstGrid m e - n) := zpow_pos (by norm_num) _
  suffices hc : (c : ℚ) * 10 ^ (firstGrid m e - n) < (2 ^ 64 : ℕ) * 10 ^ (firstGrid m e - n) by
    exact_mod_cast lt_of_mul_lt_mul_right hc hten.le
  by_cases hzero : n = 0
  · -- the first grid is about as coarse as the number
    subst hzero
    have hpow : (2 : ℚ) ^ ((m.log2 : Int) + 1 + e - 64) ≤ 10 ^ (firstGrid m e - (0 : ℕ)) :=
      two_zpow_le (fun _ => by omega) fun _ => by omega
    refine hcontains.lt.trans_le ?_
    calc (2 : ℚ) ^ ((m.log2 : Int) + 1 + e) = (2 ^ 64 : ℕ) * 2 ^ ((m.log2 : Int) + 1 + e - 64) := by
          rw [Nat.cast_pow, Nat.cast_ofNat, ← zpow_natCast, ← zpow_add₀ (by norm_num)]
          congr 1
          push_cast
          ring
      _ ≤ _ := mul_le_mul_of_nonneg_left hpow (by positivity)
  · -- the grid before is coarser than a quarter of the last place
    have hcoarse : ¬ (10 : ℚ) ^ (firstGrid m e - n + 1) ≤ 2 ^ (interval m e).quarter := by
      intro hfine
      obtain ⟨c', hc'⟩ := @onGrid_isSome tie _ _ (lt_mid m hm e) (mid_lt m e) hfine
      rw [hfirst hzero] at hc'
      cases hc'
    have hplace := not_le.1 hcoarse
    rw [zpow_add_one₀ (by norm_num)] at hplace
    have hhi : ((interval m e).hi : ℚ) * 10 ≤ (2 ^ 64 : ℕ) := by
      have : (interval m e).hi * 10 ≤ 2 ^ 64 := by
        simp only [interval]
        omega
      exact_mod_cast this
    have hpos : (0 : ℚ) < (interval m e).hi := by
      simp only [interval]
      positivity
    calc (c : ℚ) * 10 ^ (firstGrid m e - n) ≤ (interval m e).hi * 2 ^ (interval m e).quarter :=
          hcontains.le_hi
      _ < (interval m e).hi * (10 ^ (firstGrid m e - n) * 10) :=
          mul_lt_mul_of_pos_left hplace hpos
      _ = (interval m e).hi * 10 * 10 ^ (firstGrid m e - n) := by ring
      _ ≤ _ := mul_le_mul_of_nonneg_right hhi hten.le

theorem shortest_zero (tie : DecimalTie) (e : Int) : (shortest tie 0 e).value = 0 := by
  simp [shortest, value]

/-- No two doubles have one shortest decimal. -/
theorem shortest_value_inj {tie tie' : DecimalTie} (h : Normal m e) (h' : Normal m' e')
    (heq : (shortest tie m e).value = (shortest tie' m' e').value) : m = m' ∧ e = e' := by
  by_cases hm : m = 0
  · subst hm
    by_cases hm' : m' = 0
    · subst hm'
      have := h.full
      have := h'.full
      exact ⟨rfl, by omega⟩
    · have hpos := (shortest_contains tie' hm' h').pos hm'
      rw [← heq, shortest_zero] at hpos
      exact absurd hpos (lt_irrefl 0)
  · by_cases hm' : m' = 0
    · subst hm'
      have hpos := (shortest_contains tie hm h).pos hm
      rw [heq, shortest_zero] at hpos
      exact absurd hpos (lt_irrefl 0)
    · have hc := shortest_contains tie hm h
      rw [heq] at hc
      exact contains_unique h h' hc (shortest_contains tie' hm' h')

end Rowgate.Decimal
