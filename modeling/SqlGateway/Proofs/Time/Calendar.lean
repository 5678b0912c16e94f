import SqlGateway.Time.Calendar
import Mathlib.Tactic.NormNum
import Mathlib.Tactic.IntervalCases

/-! Days and their civil days. The day of an era splits into centuries, spans of four years, years
    and days, each part but the last bounded by the calendar:

        day of era = 36524 · century + 1461 · span + 365 · year + day,   day ≤ 365

    The year starts in March, and only a leap year has a day 365. So the civil day of every count of
    days exists, and it has that count of days. -/

namespace SqlGateway.Time

/-- A day of an era, part by part. -/
structure DayOfEra where
  century : ℕ
  span : ℕ
  year : ℕ
  day : ℕ

namespace DayOfEra

/-- Each part is in its range, and the last day of a leap year is one of a leap year. -/
structure IsValid (e : DayOfEra) : Prop where
  century_le : e.century ≤ 3
  span_le : e.span ≤ 24
  year_le : e.year ≤ 3
  day_le : e.day ≤ 365
  leap : e.day = 365 → e.year = 3 ∧ (e.span = 24 → e.century = 3)

/-- Days of the era before the day. -/
def toNat (e : DayOfEra) : ℕ := 36524 * e.century + 1461 * e.span + 365 * e.year + e.day

/-- Years of the era before the day. -/
def yearOfEra (e : DayOfEra) : ℕ := 100 * e.century + 4 * e.span + e.year

theorem exists_toNat_eq {n : ℕ} (h : n < 146097) : ∃ e : DayOfEra, e.IsValid ∧ e.toNat = n := by
  let century := min (n / 36524) 3
  let span := (n - 36524 * century) / 1461
  let year := min ((n - 36524 * century - 1461 * span) / 365) 3
  refine ⟨⟨century, span, year, n - 36524 * century - 1461 * span - 365 * year⟩,
    ⟨?_, ?_, ?_, ?_, ?_⟩, ?_⟩
  all_goals simp only [toNat, century, span, year]; omega

variable {e : DayOfEra} (h : e.IsValid)

include h

/-- Centuries are counted up to the last day of the era, which ends a century of its own. -/
theorem century_eq : e.toNat / 36524 - e.toNat / 146096 = e.century := by
  obtain ⟨century, span, year, day⟩ := e
  obtain ⟨hc, hs, hy, hd, hl⟩ := h
  simp only [toNat] at *
  by_cases hlast : 1461 * span + 365 * year + day < 36524
  · omega
  · have hcentury : century = 3 := by omega
    subst hcentury
    omega

/-- Days that leave the formula a year of 365 days: the leap days before the year go, and so does
    the last day of a span. -/
theorem leapDays_eq : e.toNat / 1460 = 25 * e.century + e.span +
    if 24 * e.century + e.span + 365 * e.year + e.day < 1460 then 0 else 1 := by
  have := h.day_le
  have := h.century_le
  have := h.span_le
  have := h.year_le
  have hn : e.toNat = 1460 * (25 * e.century + e.span) +
      (24 * e.century + e.span + 365 * e.year + e.day) := by
    rw [toNat]
    omega
  rw [hn, Nat.mul_add_div (by norm_num)]
  congr 1
  split
  next hr => exact Nat.div_eq_of_lt hr
  next hr => exact Nat.div_eq_of_lt_le (by omega) (by omega)

/-- The formula for the year of the era. -/
theorem yearOfEra_eq :
    (e.toNat - e.toNat / 1460 + e.toNat / 36524 - e.toNat / 146096) / 365 = e.yearOfEra := by
  have hle : e.toNat / 146096 ≤ e.toNat / 36524 := Nat.div_le_div_left (by norm_num) (by norm_num)
  rw [Nat.add_sub_assoc hle, century_eq h, leapDays_eq h, toNat, yearOfEra]
  have := h.day_le
  have := h.century_le
  have := h.span_le
  have := h.year_le
  have hyear : e.day = 365 → e.year = 3 := fun hd => (h.leap hd).1
  split
  · refine Nat.div_eq_of_lt_le ?_ ?_ <;> omega
  · refine Nat.div_eq_of_lt_le ?_ ?_ <;> omega

theorem yearOfEra_lt : e.yearOfEra < 400 := by
  have := h.century_le
  have := h.span_le
  have := h.year_le
  rw [yearOfEra]
  omega

/-- The days of the years before the year. -/
theorem toNat_eq : e.toNat = 365 * e.yearOfEra + e.yearOfEra / 4 - e.yearOfEra / 100 + e.day := by
  obtain ⟨century, span, year, day⟩ := e
  obtain ⟨hc, hs, hy, hd, hl⟩ := h
  simp only [toNat, yearOfEra] at *
  omega

/-- The year that holds the last day of February, of a year that has 366 days. -/
theorem isLeapYear (hd : e.day = 365) (era : ℤ) :
    Time.isLeapYear (era * 400 + e.yearOfEra + 1) = true := by
  obtain ⟨hy, hs⟩ := h.leap hd
  have hspan := h.span_le
  have hcentury := h.century_le
  simp only [Time.isLeapYear, yearOfEra, Bool.and_eq_true, Bool.or_eq_true, beq_iff_eq, bne_iff_ne]
  omega

end DayOfEra

/-! ### Civil days -/

theorem monthLength_le (year : ℤ) (month : ℕ) : monthLength year month ≤ 31 := by
  unfold monthLength
  split
  · split <;> norm_num
  all_goals norm_num

namespace Civil

/-- The civil day in a year and a month that are counted from March. -/
def ofMarch (year : ℤ) (march day : ℕ) : Civil :=
  let month := if march < 10 then march + 3 else march - 9
  ⟨year + (if month ≤ 2 then 1 else 0), month, day - (153 * march + 2) / 5 + 1⟩

theorem exists_ofMarch (days : ℤ) : ∃ (era : ℤ) (e : DayOfEra), e.IsValid ∧
    days + 719468 = era * 146097 + e.toNat ∧
    ofDays days = ofMarch (era * 400 + e.yearOfEra) ((5 * e.day + 2) / 153) e.day := by
  have hlt : ((days + 719468) % 146097).toNat < 146097 := by omega
  obtain ⟨e, he, hn⟩ := DayOfEra.exists_toNat_eq hlt
  refine ⟨(days + 719468) / 146097, e, he, by omega, ?_⟩
  have hday : e.toNat - (365 * e.yearOfEra + e.yearOfEra / 4 - e.yearOfEra / 100) = e.day := by
    rw [DayOfEra.toNat_eq he]
    omega
  simp only [ofDays, ← hn, DayOfEra.yearOfEra_eq he, hday, ofMarch]

/-- Months from March on start before their days and end after them. -/
theorem march_spec {day : ℕ} (h : day ≤ 365) : (5 * day + 2) / 153 ≤ 11 ∧
    (153 * ((5 * day + 2) / 153) + 2) / 5 ≤ day ∧
    day < (153 * ((5 * day + 2) / 153 + 1) + 2) / 5 := by
  omega

section March

variable {year : ℤ} {march day : ℕ} (hm : march ≤ 11)

include hm

theorem month_ofMarch : 1 ≤ (ofMarch year march day).month ∧
    (ofMarch year march day).month ≤ 12 := by
  simp only [ofMarch]
  split <;> omega

/-- The days of the months come to a year, of which February takes what is left. -/
theorem day_ofMarch (hl : (153 * march + 2) / 5 ≤ day) (hh : day < (153 * (march + 1) + 2) / 5)
    (hd : day ≤ 365) (hleap : day = 365 → isLeapYear (year + 1) = true) :
    (ofMarch year march day).day ≤
      monthLength (ofMarch year march day).year (ofMarch year march day).month := by
  interval_cases march
  case «11» =>
    by_cases h : day = 365
    · simp [ofMarch, monthLength, hleap h, h]
    · simp only [ofMarch, monthLength]
      norm_num
      split <;> omega
  all_goals
    simp only [ofMarch, monthLength]
    norm_num at *
    omega

theorem toDays_ofMarch (hl : (153 * march + 2) / 5 ≤ day) : (ofMarch year march day).toDays =
    year / 400 * 146097 +
      (year % 400 * 365 + year % 400 / 4 - year % 400 / 100 + day) - 719468 := by
  have hyear (k : ℤ) : year + k - k = year := by omega
  rcases Nat.lt_or_ge march 10 with h | h
  · have hmonth : ¬ march + 3 ≤ 2 := by omega
    have hback : (march + 3 + 9) % 12 = march := by omega
    simp only [toDays, ofMarch, if_pos h, if_neg hmonth, hback, add_zero]
    omega
  · have hmonth : march - 9 ≤ 2 := by omega
    have hback : (march - 9 + 9) % 12 = march := by omega
    simp only [toDays, ofMarch, if_neg (not_lt.mpr h), if_pos hmonth, hback, hyear]
    omega

end March

/-- The civil day of a count of days is a day of the calendar and has that count of days. -/
theorem ofDays_spec (days : ℤ) : 1 ≤ (ofDays days).month ∧ (ofDays days).month ≤ 12 ∧
    1 ≤ (ofDays days).day ∧ (ofDays days).day ≤ monthLength (ofDays days).year (ofDays days).month ∧
    (ofDays days).toDays = days := by
  obtain ⟨era, e, he, hdays, heq⟩ := exists_ofMarch days
  obtain ⟨hmarch, hlow, hhigh⟩ := march_spec he.day_le
  have hyear := DayOfEra.yearOfEra_lt he
  have htotal := DayOfEra.toNat_eq he
  rw [heq, toDays_ofMarch hmarch hlow]
  refine ⟨(month_ofMarch hmarch).1, (month_ofMarch hmarch).2, Nat.le_add_left .., day_ofMarch hmarch
    hlow hhigh he.day_le fun hd => DayOfEra.isLeapYear he hd era, ?_⟩
  have hera : (era * 400 + e.yearOfEra) / 400 = era := by omega
  have hrest : (era * 400 + e.yearOfEra) % 400 = (e.yearOfEra : ℤ) := by omega
  rw [hera, hrest]
  omega

end Civil

/-- A date in range is the date of its civil day. -/
theorem Date.ofCivil?_civil {d : Date} (h : d.inRange = true) : ofCivil? d.civil = some d := by
  obtain ⟨hm, hm', hd, hd', hdays⟩ := Civil.ofDays_spec d.days
  have hvalid : d.civil.isValid = true := by
    simp only [inRange, Bool.and_eq_true, decide_eq_true_eq] at h
    simp only [Civil.isValid, Bool.and_eq_true, decide_eq_true_eq]
    exact ⟨⟨⟨⟨⟨h.1, h.2⟩, hm⟩, hm'⟩, hd⟩, hd'⟩
  rw [ofCivil?, if_pos hvalid, civil, hdays]

/-- The days of a date in range. -/
theorem Date.natAbs_days_le {d : Date} (h : d.inRange = true) : d.days.natAbs ≤ 97000000 := by
  obtain ⟨hm, hm', hd, hd', hdays⟩ := Civil.ofDays_spec d.days
  have hlength := hd'.trans (monthLength_le ..)
  simp only [inRange, Bool.and_eq_true, decide_eq_true_eq] at h
  have hcivil : d.civil = Civil.ofDays d.days := rfl
  have hfirst : firstYear = -262143 := rfl
  have hlast : lastYear = 262142 := rfl
  rw [hcivil] at h
  simp only [Civil.toDays] at hdays
  split at hdays <;> omega

end SqlGateway.Time
