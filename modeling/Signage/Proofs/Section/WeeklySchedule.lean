import Mathlib.Data.List.Basic
import Signage.Proofs.Section.Gaps
import Signage.Proofs.Text.Numerals
import Signage.Text.Scan

/-!
What devices are told of a weekly schedule. Read back, the rows are the spans of the week in which
no valid period is listed, in order from Monday to Sunday; they depend on the minutes that are
listed for each day, and on nothing else about the schedule.
-/
namespace Signage.Section
variable {schedule other : List ScreenDay} {day : UInt8} {minute : Nat} {s t : List Char}

/-- The text before the first mark and the text after it. -/
def readUpTo? (mark : Char) (s : List Char) : Option (List Char × List Char) :=
  match s.dropWhile (· != mark) with
  | _ :: rest => some (s.takeWhile (· != mark), rest)
  | [] => none

/-- The minute that a clock time with seconds stands for; the last second is read as the end of
the day. -/
def readMinute? (s : List Char) : Option Nat :=
  if s = ['2', '3', ':', '5', '9', ':', '5', '9'] then some minutesPerDay
  else do
    let (hours, rest) ← readUpTo? ':' s
    let (minutes, seconds) ← readUpTo? ':' rest
    let hours ← (Text.readNumeral 23 hours).toOption
    let minutes ← (Text.readNumeral 59 minutes).toOption
    if seconds = ['0', '0'] then some (hours * 60 + minutes) else none

/-- A minute that recurs every week, from the date of the anchor on. -/
structure Recurrence where
  anchor : List Char
  weekday : Nat
  minute : Nat
  deriving DecidableEq

/-- The minute of the week that a device understands. -/
def readWallclock? (s : List Char) : Option Recurrence := do
  let rest ← Text.dropLiteral? "wallclock(R/".toList s
  let (date, rest) ← readUpTo? 'w' rest
  let (weekday, rest) ← readUpTo? 'T' rest
  let (time, rest) ← readUpTo? '/' rest
  let weekday ← (Text.readNumeral 6 weekday).toOption
  let minute ← readMinute? time
  if date.getLast? = some '+' ∧ rest = ['P', '1', 'W', ')'] then
    some ⟨date.dropLast, weekday, minute⟩
  else none

/-- A span in which a device turns its screen off every week. -/
structure Rest where
  anchor : List Char
  weekday : Nat
  span : Span
  deriving DecidableEq

/-- The span that a device understands of a row; it begins and ends on one day. -/
def readRow? (row : Row) : Option Rest := do
  let start ← readWallclock? (← row.lookup "begin")
  let stop ← readWallclock? (← row.lookup "end")
  if start.anchor = stop.anchor ∧ start.weekday = stop.weekday then
    some ⟨start.anchor, start.weekday, start.minute, stop.minute⟩
  else none

private theorem readUpTo?_append {mark : Char} (h : mark ∉ s) (t : List Char) :
    readUpTo? mark (s ++ mark :: t) = some (s, t) := by
  have hs : ∀ c ∈ s, (c != mark) = true := by
    intro c hc
    rw [bne_iff_ne]
    rintro rfl
    exact h hc
  simp [readUpTo?, List.dropWhile_append_of_pos hs, List.takeWhile_append_of_pos hs]

private theorem not_mem_padded {c : Char} (h : c.isDigit = false) (width n : Nat) :
    c ∉ Text.paddedNumeral width n := fun hc => by
  rw [Text.isDigit_of_mem_paddedNumeral hc] at h
  cases h

private theorem readUpTo?_padded {c : Char} (h : c.isDigit = false) (width n : Nat)
    (t : List Char) :
    readUpTo? c (Text.paddedNumeral width n ++ c :: t) = some (Text.paddedNumeral width n, t) :=
  readUpTo?_append (not_mem_padded h width n) t

/-- A clock time is read as the minute that it is told for. -/
theorem readMinute?_clock (h : minute ≤ minutesPerDay) : readMinute? (clock minute) = some minute := by
  unfold clock
  split
  · next hend =>
    obtain rfl := Nat.le_antisymm h hend
    rfl
  · next hbefore =>
    have hhours : minute / 60 ≤ 23 := by
      unfold minutesPerDay at hbefore
      omega
    have hseconds : Text.paddedNumeral 2 (minute / 60) ++ ':' :: Text.paddedNumeral 2 (minute % 60) ++
        [':', '0', '0'] ≠ ['2', '3', ':', '5', '9'] ++ [':', '5', '9'] := fun he => by
      cases (List.append_inj' he rfl).2
    rw [readMinute?, if_neg (by exact hseconds), List.append_assoc, List.cons_append]
    simp only [readUpTo?_padded (c := ':') (by decide), Option.bind_eq_bind, Option.bind_some,
      Text.readNumeral_padded hhours, Text.readNumeral_padded (show minute % 60 ≤ 59 by omega),
      Except.toOption, if_true]
    rw [Nat.div_add_mod' minute 60]

private theorem not_mem_clock {c : Char} (hdigit : c.isDigit = false) (hcolon : c ≠ ':') :
    c ∉ clock minute := by
  have hdigits {c' : Char} (h : c'.isDigit = true) : c ≠ c' := by
    rintro rfl
    rw [hdigit] at h
    cases h
  unfold clock
  split
  · simp [hcolon, hdigits]
  · simp [hcolon, hdigits, not_mem_padded hdigit]

private theorem append_parts (start anchor token time stop : List Char) :
    start ++ anchor ++ ['+', 'w'] ++ token ++ ['T'] ++ time ++ '/' :: stop =
      start ++ ((anchor ++ ['+']) ++ 'w' :: (token ++ 'T' :: (time ++ '/' :: stop))) := by
  simp

/-- What a device is told is read as the minute of the week that is meant. -/
theorem readWallclock?_wallclock {anchor : List Char} (ha : 'w' ∉ anchor) (day : UInt8)
    (h : minute ≤ minutesPerDay) :
    readWallclock? (wallclock anchor day minute) = some ⟨anchor, weekdayToken day, minute⟩ := by
  have hdate : 'w' ∉ anchor ++ ['+'] := by simp [ha]
  have hweekday : weekdayToken day ≤ 6 := Nat.le_of_lt_succ (Nat.mod_lt _ (by decide))
  have htoken : 'T' ∉ Text.numeral (weekdayToken day) := fun hc => by
    have := Text.isDigit_of_mem_numeral hc
    revert this
    decide
  have htime : '/' ∉ clock minute := not_mem_clock (by decide) (by decide)
  have htext := append_parts "wallclock(R/".toList anchor (Text.numeral (weekdayToken day))
    (clock minute) ['P', '1', 'W', ')']
  change wallclock anchor day minute = _ at htext
  rw [readWallclock?, Text.dropLiteral?_eq_some_iff.mpr htext]
  simp only [Option.bind_eq_bind, Option.bind_some, readUpTo?_append hdate, readUpTo?_append htoken,
    readUpTo?_append htime, Text.readNumeral_numeral hweekday, readMinute?_clock h, Except.toOption]
  simp

private theorem not_mem_date {c : Char} (hdigit : c.isDigit = false) (hminus : c ≠ '-')
    (hplus : c ≠ '+') (date : Calendar.Date) : c ∉ date.text := by
  have hyear : c ∉ Calendar.Date.yearText date.year := by
    unfold Calendar.Date.yearText
    split
    · exact not_mem_padded hdigit _ _
    · split <;> simp [hminus, hplus, not_mem_padded hdigit]
  simp [Calendar.Date.text, hyear, hminus, not_mem_padded hdigit]

/-- The numbers of a clock time in words of 32 bits. -/
def clockNumbers? (s : List Char) : Option (UInt32 × UInt32) := do
  let (hours, minutes) ← splitAtColon? (Text.trim s)
  let hours ← Text.readSignedNumeral? greatestClockNumber hours
  let minutes ← Text.readSignedNumeral? greatestClockNumber minutes
  return (.ofNat hours, .ofNat minutes)

/-- The minute of a clock time as words compute it; there is none at all if a word cannot hold a
product or a sum on the way. -/
def clockInWords? (s : List Char) : Option (Option UInt32) :=
  match clockNumbers? s with
  | none => some none
  | some (hours, minutes) =>
    if 24 < hours ∨ 60 ≤ minutes then some none
    else do
      let inMinutes ← Number.uint32? (hours.toNat * 60 : Nat)
      let total ← Number.uint32? (inMinutes.toNat + minutes.toNat : Nat)
      some (if total.toNat ≤ minutesPerDay then some total else none)

private theorem uint32?_ofNat {n : Nat} (h : n < UInt32.size) :
    Number.uint32? (n : Nat) = some (.ofNat n) := by
  simp only [UInt32.size] at h
  simp [Number.uint32?]
  omega

private theorem toNat_ofNat_le {n : Nat} (h : n ≤ greatestClockNumber) :
    (UInt32.ofNat n).toNat = n := by
  simp only [greatestClockNumber, UInt32.size] at h
  rw [UInt32.toNat_ofNat']
  omega

/-- Words hold all that is computed of a clock time, whatever its digits are. -/
theorem clockInWords?_eq (s : List Char) : clockInWords? s = some ((readClock? s).map .ofNat) := by
  unfold clockInWords? clockNumbers? readClock?
  cases splitAtColon? (Text.trim s) with
  | none => rfl
  | some parts =>
    obtain ⟨left, right⟩ := parts
    simp only [Option.bind_eq_bind, Option.bind_some]
    cases hl : Text.readSignedNumeral? greatestClockNumber left with
    | none => rfl
    | some hours =>
      simp only [Option.bind_some]
      cases hr : Text.readSignedNumeral? greatestClockNumber right with
      | none => rfl
      | some minutes =>
        have hhours := toNat_ofNat_le (Text.readSignedNumeral?_le hl)
        have hminutes := toNat_ofNat_le (Text.readSignedNumeral?_le hr)
        simp only [Option.bind_some, pure, UInt32.lt_iff_toNat_lt, UInt32.le_iff_toNat_le, hhours,
          hminutes]
        change (if 24 < hours ∨ 60 ≤ minutes then _ else _) = _
        split
        · next hout => rw [if_neg (by omega)]; rfl
        · next hin =>
          have hproduct : hours * 60 < UInt32.size := by
            simp only [UInt32.size]
            omega
          have hsum : hours * 60 + minutes < UInt32.size := by
            simp only [UInt32.size]
            omega
          have hinMinutes : (UInt32.ofNat (hours * 60)).toNat = hours * 60 :=
            toNat_ofNat_le (Nat.le_sub_one_of_lt hproduct)
          have htotal : (UInt32.ofNat (hours * 60 + minutes)).toNat = hours * 60 + minutes :=
            toNat_ofNat_le (Nat.le_sub_one_of_lt hsum)
          rw [uint32?_ofNat hproduct, Option.bind_some, hinMinutes, uint32?_ofNat hsum,
            Option.bind_some, htotal]
          by_cases hday : hours * 60 + minutes ≤ minutesPerDay
          · rw [if_pos hday, if_pos ⟨by omega, by omega, hday⟩]
            rfl
          · rw [if_neg hday, if_neg fun h => hday h.2.2]
            rfl

/-- The schedule lists the period for the day. -/
def Lists (schedule : List ScreenDay) (day : UInt8) (period : ScreenPeriod) : Prop :=
  ∃ entry ∈ schedule, entry.day = day ∧ period ∈ entry.periods

/-- The screen is on: the minute lies in a period listed for the day, between two clock times of
which the first is earlier. -/
def IsOn (schedule : List ScreenDay) (day : UInt8) (minute : Nat) : Prop :=
  ∃ period, Lists schedule day period ∧
    ∃ start stop, readClock? period.begins.toList = some start ∧
      readClock? period.ends.toList = some stop ∧ start < stop ∧ start ≤ minute ∧ minute < stop

private theorem readClock?_le (h : readClock? s = some minute) : minute ≤ minutesPerDay := by
  simp only [readClock?, Option.bind_eq_bind, Option.bind_eq_some_iff] at h
  obtain ⟨_, -, hours, -, minutes, -, h⟩ := h
  split at h
  · next hle =>
    cases h
    exact hle.2.2
  · cases h

private theorem readPeriod?_eq_some_iff {period : ScreenPeriod} {span : Span} :
    readPeriod? period = some span ↔ readClock? period.begins.toList = some span.start ∧
      readClock? period.ends.toList = some span.stop ∧ span.start < span.stop := by
  simp only [readPeriod?, Option.bind_eq_bind, Option.bind_eq_some_iff]
  constructor
  · rintro ⟨start, hstart, stop, hstop, h⟩
    split at h
    · next hlt =>
      cases h
      exact ⟨hstart, hstop, hlt⟩
    · cases h
  · rintro ⟨hstart, hstop, hlt⟩
    exact ⟨span.start, hstart, span.stop, hstop, if_pos hlt⟩

private theorem mem_onSpans_iff {span : Span} :
    span ∈ onSpans schedule day ↔ ∃ period, Lists schedule day period ∧ readPeriod? period = some span := by
  simp [onSpans, Lists, and_assoc]

private theorem covered_onSpans_iff :
    Covered (onSpans schedule day) minute ↔ IsOn schedule day minute := by
  constructor
  · rintro ⟨span, hspan, hcovers⟩
    obtain ⟨period, hlists, hread⟩ := mem_onSpans_iff.mp hspan
    obtain ⟨hstart, hstop, hlt⟩ := readPeriod?_eq_some_iff.mp hread
    exact ⟨period, hlists, span.start, span.stop, hstart, hstop, hlt, hcovers⟩
  · rintro ⟨period, hlists, start, stop, hstart, hstop, hlt, hcovers⟩
    have hread : readPeriod? period = some ⟨start, stop⟩ :=
      readPeriod?_eq_some_iff.mpr ⟨hstart, hstop, hlt⟩
    exact ⟨⟨start, stop⟩, mem_onSpans_iff.mpr ⟨period, hlists, hread⟩, hcovers⟩

private theorem withinDay_onSpans (schedule : List ScreenDay) (day : UInt8) :
    WithinDay (onSpans schedule day) := by
  intro span hspan
  obtain ⟨period, -, hread⟩ := mem_onSpans_iff.mp hspan
  obtain ⟨-, hstop, hlt⟩ := readPeriod?_eq_some_iff.mp hread
  exact ⟨hlt, readClock?_le hstop⟩

private theorem sorted_onSpans (schedule : List ScreenDay) (day : UInt8) :
    (onSpans schedule day).Pairwise fun a b => a.start ≤ b.start := by
  have hsorted : (onSpans schedule day).Pairwise fun a b => a.precedes b = true := by
    apply List.pairwise_mergeSort
    · intro a b c hab hbc
      simp only [Span.precedes, Bool.or_eq_true, Bool.and_eq_true, decide_eq_true_eq,
        beq_iff_eq] at hab hbc ⊢
      omega
    · intro a b
      simp only [Span.precedes, Bool.or_eq_true, Bool.and_eq_true, decide_eq_true_eq, beq_iff_eq]
      omega
  refine hsorted.imp fun {a b} h => ?_
  simp only [Span.precedes, Bool.or_eq_true, Bool.and_eq_true, decide_eq_true_eq, beq_iff_eq] at h
  omega

/-- At a weekday the screen is off whenever it is not on. -/
theorem covered_offSpans_iff :
    Covered (offSpans schedule day) minute ↔ minute < minutesPerDay ∧ ¬IsOn schedule day minute := by
  rw [offSpans, covered_gapsFrom_iff (withinDay_onSpans schedule day) (sorted_onSpans schedule day),
    covered_onSpans_iff]
  simp

private theorem withinDay_offSpans (schedule : List ScreenDay) (day : UInt8) :
    WithinDay (offSpans schedule day) :=
  withinDay_gapsFrom (withinDay_onSpans schedule day)

private theorem apart_offSpans (schedule : List ScreenDay) (day : UInt8) :
    Apart (offSpans schedule day) :=
  apart_gapsFrom (withinDay_onSpans schedule day)

/-- Whether the span comes before another in a week that begins on Monday; on one day there is at
least a minute between them. -/
def Rest.Precedes (a b : Rest) : Prop :=
  (a.weekday + 6) % 7 < (b.weekday + 6) % 7 ∨ a.weekday = b.weekday ∧ a.span.stop < b.span.start

/-- A week of spans is the complement of a schedule. -/
structure Complements (week : List Rest) (schedule : List ScreenDay) : Prop where
  /-- On every day from Monday to Sunday the screen is off in those minutes in which it is not on. -/
  off_iff : ∀ day : UInt8, 1 ≤ day → day ≤ 7 → ∀ minute < minutesPerDay,
    ((∃ rest ∈ week, rest.weekday = day.toNat % 7 ∧ rest.span.Covers minute) ↔
      ¬IsOn schedule day minute)
  /-- There are minutes in each span, and it ends with its day at the latest. -/
  withinDay : ∀ rest ∈ week, rest.weekday < 7 ∧ rest.span.start < rest.span.stop ∧
    rest.span.stop ≤ minutesPerDay
  ordered : week.Pairwise Rest.Precedes

/-- The spans that a device is told. -/
def restsOf (schedule : List ScreenDay) (anchor : List Char) : List Rest :=
  weekDays.flatMap fun day =>
    (offSpans schedule day).map fun span => ⟨anchor, weekdayToken day, span⟩

private theorem readRow?_standbyRow {anchor : List Char} (ha : 'w' ∉ anchor) (day : UInt8)
    {span : Span} (h : span.start < span.stop ∧ span.stop ≤ minutesPerDay) :
    readRow? (standbyRow anchor day span) = some ⟨anchor, weekdayToken day, span⟩ := by
  have hstart := readWallclock?_wallclock ha day (Nat.le_trans (Nat.le_of_lt h.1) h.2)
  have hstop := readWallclock?_wallclock ha day h.2
  have hbegin : (standbyRow anchor day span).lookup "begin" = some (wallclock anchor day span.start) :=
    rfl
  have hend : (standbyRow anchor day span).lookup "end" = some (wallclock anchor day span.stop) := rfl
  simp [readRow?, hbegin, hend, hstart, hstop]

private theorem mem_weekDays_iff : day ∈ weekDays ↔ 1 ≤ day ∧ day ≤ 7 := by
  constructor
  · intro h
    have hall : (weekDays.all fun day => decide (1 ≤ day ∧ day ≤ 7)) = true := by decide
    exact of_decide_eq_true (List.all_eq_true.mp hall day h)
  · rintro ⟨hmonday, hsunday⟩
    change 1 ≤ day.toNat at hmonday
    change day.toNat ≤ 7 at hsunday
    rw [← UInt8.ofNat_toNat (x := day)]
    interval_cases day.toNat <;> decide

private theorem weekdayToken_inj {a b : UInt8} (ha : a ∈ weekDays) (hb : b ∈ weekDays)
    (h : weekdayToken a = weekdayToken b) : a = b := by
  have hall : (weekDays.all fun a =>
      weekDays.all fun b => decide (weekdayToken a = weekdayToken b → a = b)) = true := by decide
  have hdays := List.all_eq_true.mp (List.all_eq_true.mp hall a ha) b hb
  exact of_decide_eq_true hdays h

private theorem restsOf_complements (schedule : List ScreenDay) (anchor : List Char) :
    Complements (restsOf schedule anchor) schedule := by
  have hmem {rest : Rest} : rest ∈ restsOf schedule anchor ↔ ∃ day ∈ weekDays,
      ∃ span ∈ offSpans schedule day, ⟨anchor, weekdayToken day, span⟩ = rest := by
    simp only [restsOf, List.mem_flatMap, List.mem_map]
  constructor
  · intro day hmonday hsunday minute hminute
    have hday := mem_weekDays_iff.mpr ⟨hmonday, hsunday⟩
    have hoff : Covered (offSpans schedule day) minute ↔ ¬IsOn schedule day minute := by
      rw [covered_offSpans_iff, and_iff_right hminute]
    rw [← hoff]
    constructor
    · rintro ⟨rest, hrest, htoken, hcovers⟩
      obtain ⟨day', hday', span, hspan, rfl⟩ := hmem.mp hrest
      obtain rfl := weekdayToken_inj hday' hday htoken
      exact ⟨span, hspan, hcovers⟩
    · rintro ⟨span, hspan, hcovers⟩
      exact ⟨_, hmem.mpr ⟨day, hday, span, hspan, rfl⟩, rfl, hcovers⟩
  · intro rest hrest
    obtain ⟨day, -, span, hspan, rfl⟩ := hmem.mp hrest
    exact ⟨Nat.mod_lt _ (by decide), withinDay_offSpans schedule day span hspan⟩
  · have hdays : weekDays.Pairwise fun a b =>
        (weekdayToken a + 6) % 7 < (weekdayToken b + 6) % 7 := by decide
    refine List.pairwise_flatMap.mpr ⟨fun day _ => ?_, hdays.imp fun {a b} hlt => ?_⟩
    · exact List.pairwise_map.mpr ((apart_offSpans schedule day).imp fun h => .inr ⟨rfl, h⟩)
    · intro rest hrest rest' hrest'
      obtain ⟨span, -, rfl⟩ := List.mem_map.mp hrest
      obtain ⟨span', -, rfl⟩ := List.mem_map.mp hrest'
      exact .inl hlt

private theorem standbyRows_eq (player : Player) (hmodel : player.model.supportsStandby = true)
    (hschedule : player.screenTimes ≠ []) (today : Calendar.Date) :
    standbyRows player today = weekDays.flatMap fun day =>
      (offSpans player.screenTimes day).map (standbyRow (anchorDate today).text day) := by
  simp [standbyRows, hmodel, hschedule]

/-- Two schedules list the same periods from Monday to Sunday, in whatever order and however
often. -/
def SameWeek (schedule other : List ScreenDay) : Prop :=
  ∀ day : UInt8, 1 ≤ day → day ≤ 7 → ∀ period, Lists schedule day period ↔ Lists other day period

private theorem SameWeek.offSpans_eq (h : SameWeek schedule other) (hday : day ∈ weekDays) :
    offSpans schedule day = offSpans other day := by
  obtain ⟨hmonday, hsunday⟩ := mem_weekDays_iff.mp hday
  have hon (minute : Nat) : IsOn schedule day minute ↔ IsOn other day minute := by
    simp only [IsOn, h day hmonday hsunday]
  apply eq_of_covered_iff (withinDay_offSpans _ _) (apart_offSpans _ _) (withinDay_offSpans _ _)
    (apart_offSpans _ _)
  intro minute
  rw [covered_offSpans_iff, covered_offSpans_iff, hon]

/-- A device is told the complement of any schedule that lists anything, and no more of it than the
minutes of each day. All its clock times are computed without overflow. -/
theorem standby_complements_schedule {player : Player}
    (hmodel : player.model.supportsStandby = true) (hschedule : player.screenTimes ≠ [])
    (today : Calendar.Date) :
    (∃ week, (standbyRows player today).map readRow? = week.map some ∧
        (∀ rest ∈ week, rest.anchor = (anchorDate today).text) ∧
        Complements week player.screenTimes) ∧
      (∀ other, other ≠ [] → SameWeek other player.screenTimes →
        standbyRows { player with screenTimes := other } today = standbyRows player today) ∧
      ∀ text, clockInWords? text = some ((readClock? text).map .ofNat) := by
  have hanchor : 'w' ∉ (anchorDate today).text :=
    not_mem_date (by decide) (by decide) (by decide) _
  refine ⟨⟨restsOf player.screenTimes (anchorDate today).text, ?_, ?_, restsOf_complements _ _⟩,
    fun other hother hsame => ?_, clockInWords?_eq⟩
  · rw [standbyRows_eq player hmodel hschedule, restsOf, List.map_flatMap, List.map_flatMap]
    refine List.flatMap_congr fun day _ => ?_
    rw [List.map_map, List.map_map]
    apply List.map_congr_left
    intro span hspan
    exact readRow?_standbyRow hanchor day (withinDay_offSpans _ day span hspan)
  · intro rest hrest
    obtain ⟨day, -, hday⟩ := List.mem_flatMap.mp hrest
    obtain ⟨span, -, rfl⟩ := List.mem_map.mp hday
    rfl
  · rw [standbyRows_eq player hmodel hschedule, standbyRows_eq { player with screenTimes := other } hmodel hother]
    refine List.flatMap_congr fun day hday => ?_
    rw [hsame.offSpans_eq hday]

/-- A player whose screen is on from eight to half past six on Mondays, and on Sundays all day. -/
def scheduledPlayer : Player :=
  { Player.unregistered "7" "" "" .garlic with
    screenTimes :=
      [⟨1, [⟨"10:00", "18:30"⟩, ⟨" 8:00", "12:00"⟩, ⟨"99999999:00", "23:00"⟩]⟩,
        ⟨9, [⟨"00:00", "24:00"⟩]⟩, ⟨7, [⟨"00:00", "24:00"⟩]⟩] }

/-- On Monday the screen of the player is on at half past ten, and off from half past six on. -/
theorem standby_complements_schedule_of_overlap :
    (scheduledPlayer.model.supportsStandby = true ∧ scheduledPlayer.screenTimes ≠ []) ∧
      (∃ week : List Rest, (standbyRows scheduledPlayer ⟨2024, 3, 31⟩).map readRow? = week.map some ∧
        (¬∃ rest ∈ week, rest.weekday = 1 ∧ rest.span.Covers 630) ∧
        ∃ rest ∈ week, rest.weekday = 1 ∧ rest.span.Covers 1110) ∧
      standbyRows
          { scheduledPlayer with
            screenTimes := scheduledPlayer.screenTimes ++ scheduledPlayer.screenTimes }
          ⟨2024, 3, 31⟩ = standbyRows scheduledPlayer ⟨2024, 3, 31⟩ := by
  have hmodel : scheduledPlayer.model.supportsStandby = true := by decide
  have hschedule : scheduledPlayer.screenTimes ≠ [] := by decide
  obtain ⟨⟨week, hread, -, hweek⟩, hsame, -⟩ :=
    standby_complements_schedule hmodel hschedule ⟨2024, 3, 31⟩
  have hon : IsOn scheduledPlayer.screenTimes 1 630 :=
    ⟨⟨"10:00", "18:30"⟩, ⟨_, List.mem_cons_self, rfl, List.mem_cons_self⟩, 600, 1110, by decide⟩
  have hoff : ¬IsOn scheduledPlayer.screenTimes 1 1110 := by
    rintro ⟨period, ⟨entry, hentry, hday, hperiod⟩, start, stop, hstart, hstop, -, -, hlt⟩
    have hends : ∀ entry ∈ scheduledPlayer.screenTimes, entry.day = 1 → ∀ period ∈ entry.periods,
        readClock? period.begins.toList = none ∨
          (readClock? period.ends.toList).all fun stop => stop ≤ 1110 := by decide
    rcases hends entry hentry hday period hperiod with hnone | hall
    · rw [hnone] at hstart
      cases hstart
    · rw [hstop, Option.all_some, decide_eq_true_eq] at hall
      omega
  refine ⟨⟨hmodel, hschedule⟩, ⟨week, hread, fun h => ?_, ?_⟩, hsame _ (by decide) ?_⟩
  · exact (hweek.off_iff 1 (by decide) (by decide) 630 (by decide)).mp h hon
  · exact (hweek.off_iff 1 (by decide) (by decide) 1110 (by decide)).mpr hoff
  · intro day _ _ period
    simp [Lists]

end Signage.Section
