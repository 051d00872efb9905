import Signage.Text.Numeral

/-!
Dates of the Gregorian calendar, extended to all years before and after. Days are counted from
1970-01-01; years are taken to begin in March, so that a leap day is the last day of its year.
-/
namespace Signage.Calendar

/-- A date; years before the year 1 count on downwards as 0, -1 and so on. -/
structure Date where
  year : Int
  month : Nat
  day : Nat
  deriving DecidableEq

namespace Date

/-- Whether the year has a 29th of February. -/
def isLeapYear (year : Int) : Bool := year % 4 == 0 && (year % 100 != 0 || year % 400 == 0)

def daysInMonth (year : Int) (month : Nat) : Nat :=
  if month = 2 then (if isLeapYear year then 29 else 28)
  else if month = 4 ∨ month = 6 ∨ month = 9 ∨ month = 11 then 30
  else 31

def earliestYear : Int := -262143

def latestYear : Int := 262142

/-- Whether the date exists and its year is supported. -/
def isValid (date : Date) : Bool :=
  earliestYear ≤ date.year && date.year ≤ latestYear && 1 ≤ date.month && date.month ≤ 12 &&
    1 ≤ date.day && date.day ≤ daysInMonth date.year date.month

/-- The number of days from 1970-01-01 to the date. -/
def dayNumber (date : Date) : Int :=
  let year := if date.month ≤ 2 then date.year - 1 else date.year
  let month : Int := if date.month ≤ 2 then date.month + 9 else date.month - 3
  let dayOfYear := (153 * month + 2) / 5 + date.day - 1
  let yearOfEra := year % 400
  let dayOfEra := yearOfEra * 365 + yearOfEra / 4 - yearOfEra / 100 + dayOfYear
  year / 400 * 146097 + dayOfEra - 719468

/-- The date that is the given number of days after 1970-01-01. -/
def ofDayNumber (days : Int) : Date :=
  let days := days + 719468
  let dayOfEra := days % 146097
  let yearOfEra :=
    (dayOfEra - dayOfEra / 1460 + dayOfEra / 36524 - dayOfEra / 146096) / 365
  let dayOfYear := dayOfEra - (365 * yearOfEra + yearOfEra / 4 - yearOfEra / 100)
  let month := (5 * dayOfYear + 2) / 153
  let day := dayOfYear - (153 * month + 2) / 5 + 1
  let year := yearOfEra + days / 146097 * 400
  if month < 10 then ⟨year, (month + 3).toNat, day.toNat⟩
  else ⟨year + 1, (month - 9).toNat, day.toNat⟩

/-- The day of the week, from Sunday as 0 to Saturday as 6. -/
def weekday (date : Date) : Nat := ((date.dayNumber + 4) % 7).toNat

/-- The same day one month before, or the last day of that month if it is shorter; none before
the first supported year. -/
def monthBefore? (date : Date) : Option Date :=
  let year := if date.month = 1 then date.year - 1 else date.year
  let month := if date.month = 1 then 12 else date.month - 1
  if year < earliestYear then none
  else some ⟨year, month, min date.day (daysInMonth year month)⟩

/-- The year in at least four digits, with a sign if it is negative or has more than four. -/
def yearText (year : Int) : List Char :=
  if 0 ≤ year ∧ year ≤ 9999 then Text.paddedNumeral 4 year.natAbs
  else (if year < 0 then '-' else '+') :: Text.paddedNumeral 4 year.natAbs

/-- The date as year, month and day with hyphens between. -/
def text (date : Date) : List Char :=
  yearText date.year ++ '-' :: Text.paddedNumeral 2 date.month ++
    '-' :: Text.paddedNumeral 2 date.day

end Date
end Signage.Calendar
