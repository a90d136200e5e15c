/-
  Instants as counts of microseconds.

  * `Instant.nanos`: the nanoseconds from 2000, a leap second counted into the second after it;
  * `Instant.SameMicro`: the same instant, cut off to a microsecond, and in no leap second;
  * `ofMicros_sameMicro`: the instant that is read for the count of another is the same one;
  * `ofMicros_atEnd`: there is none for the leap second at the end of the calendar;
  * `ofMicros_self`: an instant of whole microseconds and in no leap second is read back.
-/
import Rowgate.Calendar.Instant

namespace Rowgate.Instant

variable {t t' : Instant} {n : Int}

/-- The nanoseconds from 2000, a leap second counted into the second after it. -/
def nanos (t : Instant) : Int :=
  ((t.day - epoch2000) * 86400 + t.second) * 1000000000 + t.nano

/-- The leap second at the end of the calendar's last day. -/
def AtEnd (t : Instant) : Prop :=
  t.day = Date.lastDay ∧ t.second = 86399 ∧ 1000000000 ≤ t.nano

instance (t : Instant) : Decidable t.AtEnd :=
  inferInstanceAs (Decidable (_ ∧ _ ∧ _))

/-- Whole microseconds and no leap second. -/
def WholeMicros (t : Instant) : Prop :=
  t.nano % 1000 = 0 ∧ t.nano < 1000000000

instance (t : Instant) : Decidable t.WholeMicros :=
  inferInstanceAs (Decidable (_ ∧ _))

/-- The same instant, cut off to a microsecond, and in no leap second. -/
structure SameMicro (t t' : Instant) : Prop where
  whole : t'.WholeMicros
  lower : t.nanos - 1000 < t'.nanos
  upper : t'.nanos < t.nanos + 1000

theorem firstDay_eq : Date.firstDay = -96465292 := by
  decide

theorem lastDay_eq : Date.lastDay = 95026236 := by
  decide

theorem tdiv_bounds (n : Int) :
    0 ≤ n ∧ n.tdiv 1000 * 1000 ≤ n ∧ n < n.tdiv 1000 * 1000 + 1000 ∨
      n < 0 ∧ n ≤ n.tdiv 1000 * 1000 ∧ n.tdiv 1000 * 1000 < n + 1000 := by
  by_cases hn : 0 ≤ n
  · have hdiv := Int.tdiv_eq_ediv_of_nonneg hn (b := 1000)
    omega
  · have hdiv := Int.tdiv_eq_ediv_of_nonneg (a := -n) (by omega) (b := 1000)
    rw [Int.neg_tdiv] at hdiv
    omega

/-- The count is the instant's, cut off to a microsecond towards 2000. -/
theorem micros_cases (t : Instant) :
    0 ≤ t.nanos ∧ t.microsFromEpoch2000 * 1000 ≤ t.nanos ∧
        t.nanos < t.microsFromEpoch2000 * 1000 + 1000 ∨
      t.nanos < 0 ∧ t.nanos ≤ t.microsFromEpoch2000 * 1000 ∧
        t.microsFromEpoch2000 * 1000 < t.nanos + 1000 :=
  tdiv_bounds t.nanos

/-- The counts of the calendar's instants are those of eight bytes. -/
theorem micros_bounds (t : Instant) :
    -(2 ^ 63) ≤ t.microsFromEpoch2000 ∧ t.microsFromEpoch2000 < 2 ^ 63 := by
  obtain ⟨hfirst, hlast, hsecond, hnano⟩ := t.valid
  rw [firstDay_eq] at hfirst
  rw [lastDay_eq] at hlast
  have hmicros := micros_cases t
  simp only [nanos, epoch2000] at hmicros
  omega

/-- The instant of a count, when the calendar has its day. -/
theorem ofMicros_of_le (hfirst : Date.firstDay ≤ n / 86400000000 + epoch2000)
    (hlast : n / 86400000000 + epoch2000 ≤ Date.lastDay) :
    ∃ t, ofMicrosFromEpoch2000? n = some t ∧ t.WholeMicros ∧ t.nanos = n * 1000 := by
  have hvalid : Valid (n / 86400000000 + epoch2000) (n % 86400000000 / 1000000).toNat
      (n % 1000000 * 1000).toNat := ⟨hfirst, hlast, by omega, .inl (by omega)⟩
  refine ⟨⟨_, _, _, hvalid⟩, dif_pos hvalid, ⟨?_, ?_⟩, ?_⟩
  · show (n % 1000000 * 1000).toNat % 1000 = 0
    omega
  · show (n % 1000000 * 1000).toNat < 1000000000
    omega
  · show ((n / 86400000000 + epoch2000 - epoch2000) * 86400 +
      ((n % 86400000000 / 1000000).toNat : Int)) * 1000000000 +
        ((n % 1000000 * 1000).toNat : Int) = n * 1000
    omega

/-- The instant that is read for a count has that count. -/
theorem micros_of_ofMicros (h : ofMicrosFromEpoch2000? n = some t) : t.microsFromEpoch2000 = n := by
  by_cases hvalid : Valid (n / 86400000000 + epoch2000) (n % 86400000000 / 1000000).toNat
      (n % 1000000 * 1000).toNat
  · obtain ⟨t', hread, -, hnanos⟩ := ofMicros_of_le (n := n) hvalid.1 hvalid.2.1
    cases h.symm.trans hread
    have hmicros := micros_cases t
    omega
  · rw [ofMicrosFromEpoch2000?, ofParts?, dif_neg hvalid] at h
    cases h

/-- The instant that is read for a count is the one that was counted, to the microsecond. -/
theorem ofMicros_sameMicro (h : ¬ t.AtEnd) :
    ∃ t', ofMicrosFromEpoch2000? t.microsFromEpoch2000 = some t' ∧ t.SameMicro t' := by
  obtain ⟨hfirst, hlast, hsecond, hnano⟩ := t.valid
  have hend : t.day = 95026236 → t.second = 86399 → t.nano < 1000000000 := by
    intro hday hsecond
    exact Nat.lt_of_not_le fun hle => h ⟨hday.trans lastDay_eq.symm, hsecond, hle⟩
  have hmicros := micros_cases t
  have hnanos : t.nanos = ((t.day - 10957) * 86400 + t.second) * 1000000000 + t.nano := rfl
  rw [firstDay_eq] at hfirst
  rw [lastDay_eq] at hlast
  obtain ⟨t', hread, hwhole, hnanos'⟩ := ofMicros_of_le (n := t.microsFromEpoch2000)
    (by rw [firstDay_eq, epoch2000]; omega) (by rw [lastDay_eq, epoch2000]; omega)
  exact ⟨t', hread, hwhole, by omega, by omega⟩

/-- There is no instant for the leap second at the end of the calendar. -/
theorem ofMicros_atEnd (h : t.AtEnd) : ofMicrosFromEpoch2000? t.microsFromEpoch2000 = none := by
  obtain ⟨hday, hsecond, hnano⟩ := h
  have hmicros := micros_cases t
  have hnanos : t.nanos = ((t.day - 10957) * 86400 + t.second) * 1000000000 + t.nano := rfl
  rw [lastDay_eq] at hday
  refine dif_neg fun hvalid => ?_
  have hlast := hvalid.2.1
  rw [lastDay_eq, epoch2000] at hlast
  omega

/-- Instants of whole microseconds and in no leap second are told apart by their counts. -/
theorem SameMicro.eq (h : t.SameMicro t') (ht : t.WholeMicros) : t' = t := by
  obtain ⟨⟨hwhole, hleap⟩, hlower, hupper⟩ := h
  obtain ⟨hwhole', hleap'⟩ := ht
  have hsecond := t.valid.2.2.1
  have hsecond' := t'.valid.2.2.1
  simp only [nanos, epoch2000] at hlower hupper
  have hday : t'.day = t.day := by omega
  have hseconds : t'.second = t.second := by omega
  have hnano : t'.nano = t.nano := by omega
  cases t
  cases t'
  cases hday
  cases hseconds
  cases hnano
  rfl

/-- An instant of whole microseconds and in no leap second is read back. -/
theorem ofMicros_self (h : t.WholeMicros) :
    ofMicrosFromEpoch2000? t.microsFromEpoch2000 = some t := by
  have hend : ¬ t.AtEnd := fun hend => Nat.not_lt.2 hend.2.2 h.2
  obtain ⟨t', hread, hsame⟩ := ofMicros_sameMicro hend
  rw [hread, hsame.eq h]

end Rowgate.Instant
