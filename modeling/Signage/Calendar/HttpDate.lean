import Signage.Calendar.Date
import Signage.Calendar.Names

/-! Moments, and the form in which headers of responses carry them. -/
namespace Signage.Calendar

/-- A moment in time, counted from the first second of 1970. -/
structure Moment where
  seconds : Int
  /-- The part of a second that has passed since, in nanoseconds. -/
  nanoseconds : Nat
  deriving DecidableEq

namespace Moment

/-- The moment a number of whole seconds after the first second of 1970. -/
def ofSeconds (seconds : Int) : Moment := ⟨seconds, 0⟩

def addDays (moment : Moment) (days : Nat) : Moment :=
  { moment with seconds := moment.seconds + 86400 * days }

end Moment

/-- What a clock shows. -/
structure Clock where
  moment : Moment
  /-- The date that it is then where the clock stands, which depends on the time zone. -/
  date : Date
  deriving DecidableEq

/-- A clock that shows Greenwich time, a number of whole seconds after the first second of 1970. -/
def Clock.ofSeconds (seconds : Int) : Clock := ⟨.ofSeconds seconds, .ofDayNumber (seconds / 86400)⟩

/-- The time of the day in hours, minutes and seconds. -/
def clockText (secondOfDay : Nat) : List Char :=
  Text.paddedNumeral 2 (secondOfDay / 3600) ++ ':' ::
    Text.paddedNumeral 2 (secondOfDay / 60 % 60) ++ ':' :: Text.paddedNumeral 2 (secondOfDay % 60)

/-- A whole second as a header carries it, such as `Thu, 01 Jan 1970 00:00:01 GMT`. -/
def httpDate (seconds : Int) : List Char :=
  let date := Date.ofDayNumber (seconds / 86400)
  nameAt weekdayNames date.weekday ++ [',', ' '] ++ Text.paddedNumeral 2 date.day ++ [' '] ++
    nameAt monthNames (date.month - 1) ++ [' '] ++ Date.yearText date.year ++ [' '] ++
    clockText (seconds % 86400).toNat ++ [' ', 'G', 'M', 'T']

end Signage.Calendar
