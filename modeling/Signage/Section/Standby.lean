import Signage.Calendar.Date
import Signage.Player.Basic
import Signage.Section.Row
import Signage.Text.Blank

/-!
The weekly standby schedule. A player is configured with the spans in which its screen is on and
is told the spans in which it is off, each recurring every week.
-/
namespace Signage.Section

def minutesPerDay : Nat := 24 * 60

/-- A span of minutes within a day, without its end. -/
structure Span where
  start : Nat
  stop : Nat
  deriving DecidableEq

/-- Whether one span is listed before another or is the same. -/
def Span.precedes (a b : Span) : Bool :=
  a.start < b.start || (a.start == b.start && a.stop ≤ b.stop)

/-- The text before the first colon and the text after it. -/
def splitAtColon? (s : List Char) : Option (List Char × List Char) :=
  match s.dropWhile (· != ':') with
  | _ :: rest => some (s.takeWhile (· != ':'), rest)
  | [] => none

/-- The greatest number a clock may be written with. -/
def greatestClockNumber : Nat := UInt32.size - 1

/-- The minute of the day that a clock time stands for; 24:00 is the end of the day. -/
def readClock? (s : List Char) : Option Nat := do
  let (hours, minutes) ← splitAtColon? (Text.trim s)
  let hours ← Text.readSignedNumeral? greatestClockNumber hours
  let minutes ← Text.readSignedNumeral? greatestClockNumber minutes
  let total := hours * 60 + minutes
  if hours ≤ 24 ∧ minutes < 60 ∧ total ≤ minutesPerDay then some total else none

/-- The span of a period, unless it is empty or one of its clock times is none. -/
def readPeriod? (period : ScreenPeriod) : Option Span := do
  let start ← readClock? period.begins.toList
  let stop ← readClock? period.ends.toList
  if start < stop then some ⟨start, stop⟩ else none

/-- The spans in which the screen is on at a weekday, in order. -/
def onSpans (schedule : List ScreenDay) (day : UInt8) : List Span :=
  (((schedule.filter fun entry => entry.day == day).flatMap ScreenDay.periods).filterMap
    readPeriod?).mergeSort Span.precedes

/-- The spans from `cursor` to the end of the day that no span in the list covers. -/
def gapsFrom (cursor : Nat) : List Span → List Span
  | [] => if cursor < minutesPerDay then [⟨cursor, minutesPerDay⟩] else []
  | span :: spans =>
    if cursor < span.start then ⟨cursor, span.start⟩ :: gapsFrom (max cursor span.stop) spans
    else gapsFrom (max cursor span.stop) spans

/-- The spans in which the screen is off at a weekday. -/
def offSpans (schedule : List ScreenDay) (day : UInt8) : List Span :=
  gapsFrom 0 (onSpans schedule day)

/-- The clock time of a minute; the end of the day is its last second. -/
def clock (minute : Nat) : List Char :=
  if minutesPerDay ≤ minute then ['2', '3', ':', '5', '9', ':', '5', '9']
  else
    Text.paddedNumeral 2 (minute / 60) ++ ':' :: Text.paddedNumeral 2 (minute % 60) ++
      [':', '0', '0']

/-- The number of a weekday in the schedule that is told; Sunday comes first, as 0. -/
def weekdayToken (day : UInt8) : Nat := day.toNat % 7

/-- A moment that recurs every week from the anchor date on. -/
def wallclock (anchor : List Char) (day : UInt8) (minute : Nat) : List Char :=
  "wallclock(R/".toList ++ anchor ++ ['+', 'w'] ++ Text.numeral (weekdayToken day) ++ ['T'] ++
    clock minute ++ "/P1W)".toList

/-- The date from which the schedule recurs: one month ago, or today if there is no such date. -/
def anchorDate (today : Calendar.Date) : Calendar.Date := today.monthBefore?.getD today

def standbyRow (anchor : List Char) (day : UInt8) (span : Span) : Row :=
  [("begin", wallclock anchor day span.start), ("end", wallclock anchor day span.stop)]

def weekDays : List UInt8 := [1, 2, 3, 4, 5, 6, 7]

/-- The rows of the section; there are none for a device that honours no standby, and none where
nothing is scheduled. -/
def standbyRows (player : Player) (today : Calendar.Date) : List Row :=
  if !player.model.supportsStandby || player.screenTimes.isEmpty then []
  else
    let anchor := (anchorDate today).text
    weekDays.flatMap fun day =>
      (offSpans player.screenTimes day).map (standbyRow anchor day)

end Signage.Section
