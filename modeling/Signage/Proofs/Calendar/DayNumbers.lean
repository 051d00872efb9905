import Mathlib.Tactic.IntervalCases
import Signage.Calendar.Date

/-!
Days and dates stand for each other: every day has a date that exists, and the number of that date
is the day again.
-/
namespace Signage.Calendar.Date

/-- The day on which a year of an era of 400 years begins; years begin in March. -/
private def newYear (year : Int) : Int := 365 * year + year / 4 - year / 100

/-- A day lies in the year that is computed for it; the last day of the era is left out. -/
private theorem newYear_le {day year : Int} (h0 : 0 ≤ day) (h1 : day ≤ 146095)
    (hy : year = (day - day / 1460 + day / 36524) / 365) :
    0 ≤ year ∧ year ≤ 399 ∧ newYear year ≤ day ∧ day < newYear (year + 1) := by
  obtain ⟨century, hc⟩ : ∃ c, c = day / 36524 := ⟨_, rfl⟩
  obtain ⟨hundreds, hh⟩ : ∃ e, e = year / 100 := ⟨_, rfl⟩
  obtain ⟨next, hn⟩ : ∃ n, n = (year + 1) / 100 := ⟨_, rfl⟩
  rw [← hc] at hy
  simp only [newYear]
  rw [← hh, ← hn]
  have hc0 : 0 ≤ century := by omega
  have hc1 : century ≤ 3 := by omega
  -- With the centuries fixed, only the leap years within one are left to arithmetic.
  have hnext : next = hundreds ∨ next = hundreds + 1 := by omega
  have hhundreds : hundreds = century ∨ hundreds = century + 1 := by omega
  rcases hnext with hnext | hnext <;> rcases hhundreds with hhundreds | hhundreds <;>
    interval_cases century <;> omega

/-- Only a leap year has a day 365, counted from its first of March. -/
private theorem dayOfYear_bounds {day year : Int} (h0 : 0 ≤ day) (h1 : day ≤ 146096)
    (hy : year = (day - day / 1460 + day / 36524 - day / 146096) / 365) :
    0 ≤ year ∧ year ≤ 399 ∧ 0 ≤ day - newYear year ∧ day - newYear year ≤ 365 ∧
      (day - newYear year = 365 →
        (year + 1) % 4 = 0 ∧ ((year + 1) % 100 ≠ 0 ∨ (year + 1) % 400 = 0)) := by
  by_cases hlast : day = 146096
  · have : year = 399 := by omega
    subst hlast this
    decide
  · have hy' : year = (day - day / 1460 + day / 36524) / 365 := by omega
    obtain ⟨hy0, hy1, hle, hlt⟩ := newYear_le h0 (by omega) hy'
    simp only [newYear] at hle hlt ⊢
    clear hy hy'
    have h4 : (year + 1) / 4 = year / 4 ∨
        (year + 1) / 4 = year / 4 + 1 ∧ (year + 1) % 4 = 0 := by omega
    have h100 : (year + 1) / 100 = year / 100 ∧ (year + 1) % 100 ≠ 0 ∨
        (year + 1) / 100 = year / 100 + 1 := by omega
    refine ⟨hy0, hy1, ?_, ?_, ?_⟩ <;> omega

/-- The date of a day, from its era, the year in the era and the day in the year. -/
private def assembled (era year dayOfYear : Int) : Date :=
  let month := (5 * dayOfYear + 2) / 153
  let day := dayOfYear - (153 * month + 2) / 5 + 1
  if month < 10 then ⟨year + era * 400, (month + 3).toNat, day.toNat⟩
  else ⟨year + era * 400 + 1, (month - 9).toNat, day.toNat⟩

private theorem exists_assembled (days : Int) : ∃ era year dayOfYear : Int,
    ofDayNumber days = assembled era year dayOfYear ∧
      days = era * 146097 + newYear year + dayOfYear - 719468 ∧
      0 ≤ year ∧ year ≤ 399 ∧ 0 ≤ dayOfYear ∧ dayOfYear ≤ 365 ∧
      (dayOfYear = 365 → (year + 1) % 4 = 0 ∧ ((year + 1) % 100 ≠ 0 ∨ (year + 1) % 400 = 0)) := by
  have h0 : 0 ≤ (days + 719468) % 146097 := by omega
  have h1 : (days + 719468) % 146097 ≤ 146096 := by omega
  obtain ⟨hy0, hy1, hd0, hd1, hleap⟩ := dayOfYear_bounds h0 h1 rfl
  simp only [newYear] at hd0 hd1 hleap ⊢
  refine ⟨(days + 719468) / 146097, _, _, rfl, ?_, hy0, hy1, hd0, hd1, hleap⟩
  omega

private theorem assembled_exists (era : Int) {year dayOfYear : Int} (hd0 : 0 ≤ dayOfYear)
    (hd1 : dayOfYear ≤ 365)
    (hleap : dayOfYear = 365 → (year + 1) % 4 = 0 ∧ ((year + 1) % 100 ≠ 0 ∨ (year + 1) % 400 = 0)) :
    let date := assembled era year dayOfYear
    1 ≤ date.month ∧ date.month ≤ 12 ∧ 1 ≤ date.day ∧
      date.day ≤ daysInMonth date.year date.month := by
  obtain ⟨month, hm⟩ : ∃ m, m = (5 * dayOfYear + 2) / 153 := ⟨_, rfl⟩
  have hm0 : 0 ≤ month := by omega
  have hm1 : month ≤ 11 := by omega
  simp only [assembled, ← hm]
  interval_cases month
  case «11» =>
    have hl : dayOfYear = 365 → isLeapYear (year + era * 400 + 1) = true := by
      intro h
      obtain ⟨h4, h100⟩ := hleap h
      simp only [isLeapYear, Bool.and_eq_true, Bool.or_eq_true, beq_iff_eq, bne_iff_ne]
      omega
    by_cases h : isLeapYear (year + era * 400 + 1) = true
    · simp [daysInMonth, h]
      omega
    · have := mt hl h
      simp [daysInMonth, h]
      omega
  all_goals
    simp [daysInMonth]
    omega

private theorem dayNumber_assembled {era year dayOfYear : Int} (hy0 : 0 ≤ year) (hy1 : year ≤ 399)
    (hd0 : 0 ≤ dayOfYear) (hd1 : dayOfYear ≤ 365) :
    (assembled era year dayOfYear).dayNumber =
      era * 146097 + newYear year + dayOfYear - 719468 := by
  obtain ⟨month, hm⟩ : ∃ m, m = (5 * dayOfYear + 2) / 153 := ⟨_, rfl⟩
  have hm0 : 0 ≤ month := by omega
  have hm1 : month ≤ 11 := by omega
  simp only [assembled, ← hm, newYear]
  interval_cases month <;> simp [dayNumber] <;> omega

/-- The number of the date of a day is the day. -/
theorem dayNumber_ofDayNumber (days : Int) : (ofDayNumber days).dayNumber = days := by
  obtain ⟨era, year, dayOfYear, he, hdays, hy0, hy1, hd0, hd1, -⟩ := exists_assembled days
  rw [he, dayNumber_assembled hy0 hy1 hd0 hd1, ← hdays]

/-- The date of a day is in the calendar; it is supported if its year is. -/
theorem isValid_ofDayNumber {days : Int} (h0 : earliestYear ≤ (ofDayNumber days).year)
    (h1 : (ofDayNumber days).year ≤ latestYear) : (ofDayNumber days).isValid = true := by
  obtain ⟨era, year, dayOfYear, he, -, hy0, -, hd0, hd1, hleap⟩ := exists_assembled days
  obtain ⟨hm0, hm1, hday0, hday1⟩ := assembled_exists era hd0 hd1 hleap
  rw [he] at h0 h1 ⊢
  simp [isValid, h0, h1, hm0, hm1, hday0, hday1]

/-- The month of a date of a day is one of the twelve. -/
theorem month_ofDayNumber (days : Int) :
    1 ≤ (ofDayNumber days).month ∧ (ofDayNumber days).month ≤ 12 := by
  obtain ⟨era, year, dayOfYear, he, -, hy0, -, hd0, hd1, hleap⟩ := exists_assembled days
  obtain ⟨hm0, hm1, -, -⟩ := assembled_exists era hd0 hd1 hleap
  rw [he]
  exact ⟨hm0, hm1⟩

/-- No month has more than 31 days. -/
theorem day_ofDayNumber (days : Int) : (ofDayNumber days).day ≤ 31 := by
  obtain ⟨era, year, dayOfYear, he, -, hy0, -, hd0, hd1, hleap⟩ := exists_assembled days
  obtain ⟨-, -, -, hday⟩ := assembled_exists era hd0 hd1 hleap
  rw [he]
  refine hday.trans ?_
  unfold daysInMonth
  split_ifs <;> omega

/-- There are seven weekdays. -/
theorem weekday_lt (date : Date) : date.weekday < 7 := by
  unfold weekday
  omega

end Signage.Calendar.Date
