import Signage.Calendar.HttpDate
import Signage.Text.Blank

/-!
Reading the dates of mail headers, which the dates of response headers are a special case of.
Blanks may stand between the parts, the weekday and the seconds may be missing, zones may have
names, and comments in parentheses may follow.
-/
namespace Signage.Calendar

/-- A reader of a part at the front of a text, giving the text after it. -/
abbrev PartReader (α : Type) := List Char → Option (α × List Char)

/-- The text after the blanks it begins with, of which there has to be one. -/
def skipBlanks? (s : List Char) : Option (List Char) :=
  let rest := Text.trimLeft s
  if rest.length < s.length then some rest else none

/-- The number written by at least `least` and at most `most` digits at the front. -/
def readNumber? (least most : Nat) : PartReader (Nat × Nat) := fun s =>
  let digits := (s.take most).takeWhile Char.isDigit
  if digits.length < least then none
  else some ((Nat.ofDigitChars 10 digits 0, digits.length), s.drop digits.length)

/-- The weekday at the front, if one is named; a comma has to follow it. -/
def readWeekday? : PartReader (Option Nat) := fun s =>
  match readName? weekdayNames s with
  | some (weekday, ',' :: rest) => some (some weekday, rest)
  | some _ => none
  | none => some (none, s)

/-- A year of two or three digits is taken for one of the years 1950 to 2049 or 1900 on. -/
def fullYear (year digits : Nat) : Nat :=
  if digits = 2 then (if year < 50 then year + 2000 else year + 1900)
  else if digits = 3 then year + 1900
  else year

/-- The text after a colon that blanks may precede. -/
def skipColon? (s : List Char) : Option (List Char) :=
  match Text.trimLeft s with
  | ':' :: rest => some rest
  | _ => none

/-- The seconds, if they are written. -/
def readSeconds? : PartReader Nat := fun s =>
  match skipColon? s with
  | none => some (0, s)
  | some rest => (readNumber? 2 2 rest).map fun ((seconds, _), rest) => (seconds, rest)

/-- The zones that have a name, and their distance from universal time in hours. -/
def zoneNames : List (List Char × Int) :=
  [(['g', 'm', 't'], 0), (['u', 't'], 0), (['z'], 0), (['e', 'd', 't'], -4),
    (['e', 's', 't'], -5), (['c', 'd', 't'], -5), (['c', 's', 't'], -6), (['m', 'd', 't'], -6),
    (['m', 's', 't'], -7), (['p', 'd', 't'], -7), (['p', 's', 't'], -8)]

/-- The distance of a named zone in hours; single letters, of which `j` is none, count as none. -/
def namedZone? (name : List Char) : Option Int :=
  match zoneNames.lookup (name.map Char.toLower) with
  | some hours => some hours
  | none =>
    match name with
    | [letter] => if letter.toLower == 'j' then none else some 0
    | _ => none

/-- The distance written by two digits of hours and two of minutes, in seconds. -/
def readDistance? : PartReader Int := fun s => do
  let ((hours, _), rest) ← readNumber? 2 2 s
  let ((minutes, _), rest) ← readNumber? 2 2 rest
  if minutes < 60 ∧ hours < 24 then some ((hours * 3600 + minutes * 60 : Nat), rest) else none

/-- The distance of the zone from universal time, in seconds. -/
def readZone? : PartReader Int := fun s =>
  match s with
  | '+' :: rest => readDistance? rest
  | '-' :: rest => (readDistance? rest).map fun (distance, rest) => (-distance, rest)
  | _ =>
    let name := s.takeWhile Char.isAlpha
    if name.isEmpty then none
    else (namedZone? name).map fun hours => (hours * 3600, s.drop name.length)

/-- The text after a comment of which `depth` parentheses are open; a backslash hides the
character after it. -/
def skipComment? : (depth : Nat) → (hidden : Bool) → List Char → Option (List Char)
  | _, _, [] => none
  | depth, true, _ :: rest => skipComment? depth false rest
  | depth, false, c :: rest =>
    if c == '\\' then skipComment? depth true rest
    else if c == '(' then skipComment? (depth + 1) false rest
    else if c == ')' then
      if depth = 1 then some rest else skipComment? (depth - 1) false rest
    else skipComment? depth false rest

/-- Whether only comments are left, each of which blanks may precede. -/
def onlyComments : Nat → List Char → Bool
  | _, [] => true
  | 0, _ :: _ => false
  | fuel + 1, s =>
    match Text.trimLeft s with
    | '(' :: rest =>
      match skipComment? 1 false rest with
      | some rest => onlyComments fuel rest
      | none => false
    | _ => false

/-- The second that a date, a time of the day and a zone stand for. A leap second counts as the
second before it. -/
def secondOf (date : Date) (hour minute second : Nat) (distance : Int) : Int :=
  date.dayNumber * 86400 + (hour * 3600 + minute * 60 + min second 59 : Nat) - distance

/-- The date at the front, with the weekday if one is named. -/
def readDate? : PartReader (Option Nat × Date) := fun s => do
  let (weekday, rest) ← readWeekday? (Text.trimLeft s)
  let ((day, _), rest) ← readNumber? 1 2 (Text.trimLeft rest)
  let (month, rest) ← readName? monthNames (← skipBlanks? rest)
  let rest ← skipBlanks? rest
  let ((year, digits), rest) ← readNumber? 2 rest.length rest
  return ((weekday, ⟨fullYear year digits, month + 1, day⟩), rest)

/-- The time of the day at the front, in hours, minutes and seconds. -/
def readClock? : PartReader (Nat × Nat × Nat) := fun s => do
  let ((hour, _), rest) ← readNumber? 2 2 s
  let ((minute, _), rest) ← readNumber? 2 2 (Text.trimLeft (← skipColon? rest))
  let (second, rest) ← readSeconds? rest
  return ((hour, minute, second), rest)

/-- The second that the whole text stands for, counted from the first of 1970. -/
def readMailDate? (s : List Char) : Option Int := do
  let ((weekday, date), rest) ← readDate? s
  let ((hour, minute, second), rest) ← readClock? (← skipBlanks? rest)
  let (distance, rest) ← readZone? (← skipBlanks? rest)
  let moment := secondOf date hour minute second distance
  if onlyComments rest.length rest && date.isValid && hour < 24 && minute < 60 && second ≤ 60 &&
      weekday.all (· == date.weekday) && (Date.ofDayNumber (moment / 86400)).isValid then
    some moment
  else none

end Signage.Calendar
