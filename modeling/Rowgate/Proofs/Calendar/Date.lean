/-
  Dates and day numbers, one to one.

  * `March`: a day by its era, its year of the era, and its month and day counted from March;
  * `exists_march`: the date of a day number is taken apart in this way;
  * `dayNumber_ofDayNumber`: the date of a day number has that number;
  * `isValid_ofDayNumber`: its month and its day exist.
-/
import Mathlib.Tactic.SplitIfs
import Rowgate.Calendar.Date

namespace Rowgate.Date

variable {n era year month day : Int}

/-! ## The year of an era -/

/-- The division by 365, with the leap days before it taken away, finds the year that the day
    is in. -/
theorem yearOfEra_bounds {d y : Int} (h0 : 0 ≤ d) (h1 : d < 146097)
    (hy : y = (d - d / 1460 + d / 36524 - d / 146096) / 365) :
    0 ≤ y ∧ y < 400 ∧ 365 * y + y / 4 - y / 100 ≤ d ∧
      d < 365 * (y + 1) + (y + 1) / 4 - (y + 1) / 100 + (y + 1) / 400 := by
  -- the last day of the era is the only one of its kind
  by_cases hlast : d = 146096
  · subst hlast
    subst hy
    decide
  have hera : d / 146096 = 0 := by omega
  rw [hera] at hy
  obtain ⟨century, hcentury⟩ : ∃ c, d / 36524 = c := ⟨_, rfl⟩
  rw [hcentury] at hy
  have hcases : century = 0 ∨ century = 1 ∨ century = 2 ∨ century = 3 := by omega
  have hlo : 100 * century ≤ y := by
    rcases hcases with rfl | rfl | rfl | rfl <;> omega
  have hhi : y < 100 * century + 100 := by
    rcases hcases with rfl | rfl | rfl | rfl <;> omega
  obtain ⟨cycle, hcycle⟩ : ∃ c, d / 1460 = c := ⟨_, rfl⟩
  rw [hcycle] at hy
  have hbefore : y / 4 ≤ cycle := by omega
  have hafter : cycle ≤ (y + 1) / 4 := by omega
  refine ⟨by omega, by omega, by omega, ?_⟩
  by_cases hturn : y = 100 * century + 99
  · omega
  · have hsame : (y + 1) / 100 = century := by omega
    omega

/-- The same for the months of a year from March. -/
theorem month_bounds {d m : Int} (h0 : 0 ≤ d) (h1 : d ≤ 365) (hm : m = (5 * d + 2) / 153) :
    0 ≤ m ∧ m ≤ 11 ∧ (153 * m + 2) / 5 ≤ d ∧ d < (153 * (m + 1) + 2) / 5 := by
  omega

/-! ## Days by eras -/

/-- The date of a day of a month, the months counted from March. -/
def ofMarch (era year month day : Int) : Date :=
  let m := if month < 10 then month + 3 else month - 9
  ⟨era * 400 + year + (if m ≤ 2 then 1 else 0), m.toNat, day.toNat⟩

/-- The day with number `n` is in this month and year of this era. -/
structure March (n era year month day : Int) : Prop where
  year_nonneg : 0 ≤ year
  year_lt : year < 400
  month_nonneg : 0 ≤ month
  month_le : month ≤ 11
  day_pos : 1 ≤ day
  in_month : (153 * month + 2) / 5 + day ≤ (153 * (month + 1) + 2) / 5
  in_year : 365 * year + year / 4 - year / 100 + (153 * month + 2) / 5 + day ≤
    365 * (year + 1) + (year + 1) / 4 - (year + 1) / 100 + (year + 1) / 400
  count : n + 719468 = era * 146097 +
    (365 * year + year / 4 - year / 100 + ((153 * month + 2) / 5 + day - 1))

theorem exists_march (n : Int) : ∃ era year month day, March n era year month day ∧
    ofDayNumber n = ofMarch era year month day := by
  refine ⟨_, _, _, _, ?_, rfl⟩
  generalize hz : n + 719468 = z
  have hd0 : 0 ≤ z % 146097 := by omega
  have hd1 : z % 146097 < 146097 := by omega
  have hsplit : z = z / 146097 * 146097 + z % 146097 := by omega
  generalize z / 146097 = era at *
  generalize z % 146097 = d at *
  obtain ⟨hy0, hy1, hle, hlt⟩ := yearOfEra_bounds hd0 hd1 rfl
  generalize (d - d / 1460 + d / 36524 - d / 146096) / 365 = y at *
  have hday : d = 365 * y + y / 4 - y / 100 + (d - (365 * y + y / 4 - y / 100)) := by omega
  have hnonneg : 0 ≤ d - (365 * y + y / 4 - y / 100) := by omega
  generalize d - (365 * y + y / 4 - y / 100) = dayOfYear at *
  obtain ⟨hm0, hm1, hmle, hmlt⟩ := month_bounds hnonneg (by omega) rfl
  generalize (5 * dayOfYear + 2) / 153 = m at *
  constructor <;> omega

theorem dayNumber_ofMarch (h : March n era year month day) :
    (ofMarch era year month day).dayNumber = n := by
  obtain ⟨hy0, hy1, hm0, hm1, hd1, -, -, hcount⟩ := h
  have hera (k : Int) (hk : k = year) :
      (era * 400 + k) / 400 = era ∧ (era * 400 + k) % 400 = year := by omega
  unfold dayNumber ofMarch
  dsimp only
  by_cases hm : month < 10
  · have hlate : ¬ month + 3 ≤ 2 := by omega
    have hlate' : ¬ (month + 3).toNat ≤ 2 := by omega
    have hcast : ((month + 3).toNat : Int) = month + 3 := by omega
    obtain ⟨h1, h2⟩ := hera (year + 0) (by omega)
    rw [← Int.add_assoc] at h1 h2
    rw [if_pos hm, if_neg hlate', if_neg hlate, if_neg hlate', hcast, h1, h2]
    omega
  · have hearly : month - 9 ≤ 2 := by omega
    have hearly' : (month - 9).toNat ≤ 2 := by omega
    have hcast : ((month - 9).toNat : Int) = month - 9 := by omega
    obtain ⟨h1, h2⟩ := hera year rfl
    rw [if_neg hm, if_pos hearly', if_pos hearly, if_pos hearly', hcast, Int.add_sub_cancel, h1, h2]
    omega

theorem isLeap_iff {y : Int} :
    isLeap y ↔ y % 4 = 0 ∧ (y % 100 ≠ 0 ∨ y % 400 = 0) := by
  simp only [isLeap, Bool.and_eq_true, Bool.or_eq_true, decide_eq_true_eq]

/-- The length of a month is that of the count from March, but for February, which the year
    ends with. -/
theorem day_le_daysInMonth (h : March n era year month day) :
    (ofMarch era year month day).day ≤
      daysInMonth (ofMarch era year month day).year (ofMarch era year month day).month := by
  obtain ⟨hy0, hy1, hm0, hm1, hd1, hmonth, hyear, -⟩ := h
  by_cases hlast : month = 11
  · subst hlast
    show day.toNat ≤ if isLeap (era * 400 + year + 1) then 29 else 28
    split_ifs with hleap
    · omega
    · rw [isLeap_iff] at hleap
      omega
  · have hcases : month = 0 ∨ month = 1 ∨ month = 2 ∨ month = 3 ∨ month = 4 ∨ month = 5 ∨
        month = 6 ∨ month = 7 ∨ month = 8 ∨ month = 9 ∨ month = 10 := by omega
    rcases hcases with rfl | rfl | rfl | rfl | rfl | rfl | rfl | rfl | rfl | rfl | rfl <;>
      simp [ofMarch, daysInMonth] <;> omega

theorem isValid_ofMarch (h : March n era year month day) :
    (ofMarch era year month day).isValid := by
  have hday := day_le_daysInMonth h
  have hpos : 1 ≤ (ofMarch era year month day).day := by
    have := h.day_pos
    show 1 ≤ day.toNat
    omega
  have hmonth : 1 ≤ (ofMarch era year month day).month ∧
      (ofMarch era year month day).month ≤ 12 := by
    have h0 := h.month_nonneg
    have h1 := h.month_le
    dsimp only [ofMarch]
    split_ifs <;> omega
  simp only [isValid, Bool.and_eq_true, decide_eq_true_eq]
  exact ⟨⟨hmonth, hpos⟩, hday⟩

/-! ## Day numbers -/

/-- **The date of a day number has that number.** -/
theorem dayNumber_ofDayNumber (n : Int) : (ofDayNumber n).dayNumber = n := by
  obtain ⟨era, year, month, day, hmarch, heq⟩ := exists_march n
  rw [heq, dayNumber_ofMarch hmarch]

theorem isValid_ofDayNumber (n : Int) : (ofDayNumber n).isValid := by
  obtain ⟨era, year, month, day, hmarch, heq⟩ := exists_march n
  rw [heq]
  exact isValid_ofMarch hmarch

/-- Months and days have two digits. -/
theorem lt_hundred {d : Date} (h : d.isValid) : d.month < 100 ∧ d.day < 100 := by
  simp only [isValid, Bool.and_eq_true, decide_eq_true_eq] at h
  obtain ⟨⟨⟨-, hmonth⟩, -⟩, hday⟩ := h
  have hlength : daysInMonth d.year d.month ≤ 31 := by
    unfold daysInMonth
    split_ifs <;> decide
  omega

end Rowgate.Date
