import Signage.Calendar.MailDate
import Signage.Proofs.Calendar.DayNumbers
import Signage.Proofs.Text.Numerals
import Signage.Proofs.Text.Runs

/-!
A date that a response carries in a header is read back as the second it was written for, as long
as its year has four digits.
-/
namespace Signage.Calendar
open Text

/-- As many digits are read as there are, but no more than the most that are taken. -/
theorem readNumber?_append {least most : Nat} {digits rest : List Char}
    (hd : ∀ d ∈ digits, d.isDigit = true) (hend : digits.length = most ∨ Stops Char.isDigit rest)
    (hl : least ≤ digits.length) (hm : digits.length ≤ most) :
    readNumber? least most (digits ++ rest) =
      some ((Nat.ofDigitChars 10 digits 0, digits.length), rest) := by
  have ht : ((digits ++ rest).take most).takeWhile Char.isDigit = digits := by
    rcases hend with rfl | hstop
    · rw [List.take_left, List.takeWhile_eq_self_iff.mpr hd]
    · rw [List.take_append, List.take_of_length_le hm, takeWhile_append_of_stops hd]
      intro c hc
      refine hstop c (Option.mem_def.mpr ?_)
      cases rest with
      | nil => simp at hc
      | cons d rest => cases hmost : most - digits.length <;> simp_all
  simp only [readNumber?, ht, List.drop_left]
  rw [if_neg (by omega)]

private theorem readNumber?_padded {least most width n : Nat} {rest : List Char} {c : Char}
    (hc : c.isDigit = false) (hw : 0 < width) (hl : least ≤ width) (hm : width ≤ most)
    (hn : n < 10 ^ width) :
    readNumber? least most (paddedNumeral width n ++ c :: rest) = some ((n, width), c :: rest) := by
  have hlen := length_paddedNumeral hw hn
  rw [readNumber?_append (fun d hd => isDigit_of_mem_paddedNumeral hd) (.inr (stops_cons.mpr hc))
      (by omega) (by omega),
    ofDigitChars_paddedNumeral, hlen]

private theorem trimLeft_cons {c : Char} {s : List Char} (h : isBlank c = false) :
    trimLeft (c :: s) = c :: s := by
  simp [trimLeft, h]

private theorem trimLeft_blank {c : Char} {s : List Char} (h : isBlank c = true) :
    trimLeft (c :: s) = trimLeft s := by
  simp [trimLeft, h]

private theorem trimLeft_padded (width n : Nat) (s : List Char) :
    trimLeft (paddedNumeral width n ++ s) = paddedNumeral width n ++ s := by
  have hne : paddedNumeral width n ≠ [] := by simp [paddedNumeral, numeral, Nat.toDigits_ne_nil]
  obtain ⟨d, digits, he⟩ := List.exists_cons_of_ne_nil hne
  have hd : d.isDigit = true := isDigit_of_mem_paddedNumeral (he ▸ List.mem_cons_self)
  rw [he, List.cons_append, trimLeft_cons (isBlank_eq_false_of_isDigit hd)]

/-- Blanks are skipped if there are any. -/
theorem skipBlanks?_of_trimLeft {s t : List Char} (h : trimLeft s = t)
    (hl : t.length < s.length) : skipBlanks? s = some t := by
  simp [skipBlanks?, h, hl]

private theorem skipBlanks?_padded (width n : Nat) (s : List Char) :
    skipBlanks? (' ' :: (paddedNumeral width n ++ s)) = some (paddedNumeral width n ++ s) := by
  apply skipBlanks?_of_trimLeft
  · rw [trimLeft_blank (by decide), trimLeft_padded]
  · simp

private theorem readWeekday?_name {weekday : Nat} (h : weekday < 7) (s : List Char) :
    readWeekday? (trimLeft (nameAt weekdayNames weekday ++ ',' :: s)) = some (some weekday, s) := by
  interval_cases weekday <;> rfl

private theorem skipBlanks?_month {month : Nat} (h : month < 12) (s : List Char) :
    skipBlanks? (' ' :: (nameAt monthNames month ++ s)) = some (nameAt monthNames month ++ s) := by
  apply skipBlanks?_of_trimLeft
  · interval_cases month <;> rfl
  · simp

private theorem readName?_month {month : Nat} (h : month < 12) (s : List Char) :
    readName? monthNames (nameAt monthNames month ++ s) = some (month, s) := by
  interval_cases month <;> rfl

private theorem readSeconds?_padded {n : Nat} (hn : n < 100) (s : List Char) :
    readSeconds? (':' :: (paddedNumeral 2 n ++ ' ' :: s)) = some (n, ' ' :: s) := by
  have hc : skipColon? (':' :: (paddedNumeral 2 n ++ ' ' :: s)) =
      some (paddedNumeral 2 n ++ ' ' :: s) := rfl
  simp only [readSeconds?, hc]
  rw [readNumber?_padded (by decide) (by decide) (by decide) (by decide) hn]
  rfl

/-- The part of a header date up to the time of the day. -/
private def dateText (weekday : Nat) (date : Date) : List Char :=
  nameAt weekdayNames weekday ++ ',' :: ' ' :: (paddedNumeral 2 date.day ++ ' ' ::
    (nameAt monthNames (date.month - 1) ++ ' ' :: Date.yearText date.year))

private theorem readDate?_dateText {weekday : Nat} {date : Date} (hw : weekday < 7)
    (hm0 : 1 ≤ date.month) (hm1 : date.month ≤ 12) (hd : date.day < 100) (hy0 : 0 ≤ date.year)
    (hy1 : date.year ≤ 9999) (s : List Char) :
    readDate? (dateText weekday date ++ ' ' :: s) = some ((some weekday, date), ' ' :: s) := by
  have hyear : Date.yearText date.year = paddedNumeral 4 date.year.natAbs := by
    rw [Date.yearText, if_pos ⟨hy0, hy1⟩]
  have hlen : (paddedNumeral 4 date.year.natAbs).length = 4 :=
    length_paddedNumeral (by decide) (by omega)
  simp only [readDate?, dateText, List.append_assoc, List.cons_append, readWeekday?_name hw,
    Option.bind_eq_bind, Option.bind_some]
  rw [trimLeft_blank (by decide), trimLeft_padded,
    readNumber?_padded (by decide) (by decide) (by decide) (by decide) hd]
  simp only [Option.bind_some, skipBlanks?_month (show date.month - 1 < 12 by omega),
    readName?_month (show date.month - 1 < 12 by omega), hyear, skipBlanks?_padded]
  rw [readNumber?_padded (by decide) (by decide) (by decide) (by simp [hlen]) (by omega)]
  have hfull : ((fullYear date.year.natAbs 4 : Nat) : Int) = date.year := by
    simp [fullYear]
    omega
  simp [hfull, Nat.sub_add_cancel hm0]

private theorem readClock?_clockText {second : Nat} (h : second < 86400) (s : List Char) :
    readClock? (clockText second ++ ' ' :: s) =
      some ((second / 3600, second / 60 % 60, second % 60), ' ' :: s) := by
  have hc (t : List Char) : skipColon? (':' :: t) = some t := rfl
  simp only [readClock?, clockText, List.append_assoc, List.cons_append]
  rw [readNumber?_padded (by decide) (by decide) (by decide) (by decide) (by omega)]
  simp only [Option.bind_eq_bind, Option.bind_some, hc, trimLeft_padded]
  rw [readNumber?_padded (by decide) (by decide) (by decide) (by decide) (by omega)]
  simp only [Option.bind_some, readSeconds?_padded (show second % 60 < 100 by omega)]
  rfl

private theorem httpDate_eq (seconds : Int) :
    httpDate seconds =
      dateText (Date.ofDayNumber (seconds / 86400)).weekday (Date.ofDayNumber (seconds / 86400)) ++
        ' ' :: (clockText (seconds % 86400).toNat ++ [' ', 'G', 'M', 'T']) := by
  simp [httpDate, dateText]

/-- Whether the year of a second is written in a header date without a sign. -/
def hasPlainYear (seconds : Int) : Prop :=
  0 ≤ (Date.ofDayNumber (seconds / 86400)).year ∧ (Date.ofDayNumber (seconds / 86400)).year ≤ 9999

instance (seconds : Int) : Decidable (hasPlainYear seconds) :=
  inferInstanceAs (Decidable (_ ∧ _))

private theorem secondOf_ofDayNumber (seconds : Int) :
    let second := (seconds % 86400).toNat
    secondOf (Date.ofDayNumber (seconds / 86400)) (second / 3600) (second / 60 % 60) (second % 60)
      0 = seconds := by
  simp only [secondOf, Date.dayNumber_ofDayNumber]
  omega

/-- A header date with a plain year is read as the second it was written for. -/
theorem readMailDate?_httpDate {seconds : Int} (h : hasPlainYear seconds) :
    readMailDate? (httpDate seconds) = some seconds := by
  obtain ⟨hy0, hy1⟩ := h
  obtain ⟨hm0, hm1⟩ := Date.month_ofDayNumber (seconds / 86400)
  have hd := Date.day_ofDayNumber (seconds / 86400)
  have hv : (Date.ofDayNumber (seconds / 86400)).isValid = true := by
    apply Date.isValid_ofDayNumber
    · exact le_trans (by decide) hy0
    · exact hy1.trans (by decide)
  have hw := (Date.ofDayNumber (seconds / 86400)).weekday_lt
  have hb : skipBlanks? [' ', 'G', 'M', 'T'] = some ['G', 'M', 'T'] := by decide
  have hz : readZone? ['G', 'M', 'T'] = some (0, []) := by decide
  rw [httpDate_eq, readMailDate?, readDate?_dateText hw hm0 hm1 (by omega) hy0 hy1]
  have hc : skipBlanks? (' ' :: (clockText (seconds % 86400).toNat ++ [' ', 'G', 'M', 'T'])) =
      some (clockText (seconds % 86400).toNat ++ [' ', 'G', 'M', 'T']) := by
    simp only [clockText, List.append_assoc]
    exact skipBlanks?_padded _ _ _
  simp only [Option.bind_eq_bind, Option.bind_some, hc,
    readClock?_clockText (show (seconds % 86400).toNat < 86400 by omega), hb, hz,
    secondOf_ofDayNumber, hv]
  rw [if_pos]
  simp [onlyComments]
  omega

/-- A year with a sign is not read as a number, and a header date that has one is no date. -/
theorem readMailDate?_httpDate_eq_none {seconds : Int} (h : ¬ hasPlainYear seconds) :
    readMailDate? (httpDate seconds) = none := by
  obtain ⟨sign, digits, hyear, hb, hs⟩ : ∃ sign digits,
      Date.yearText (Date.ofDayNumber (seconds / 86400)).year = sign :: digits ∧
        isBlank sign = false ∧ sign.isDigit = false := by
    unfold hasPlainYear at h
    rw [Date.yearText, if_neg h]
    split
    · exact ⟨_, _, rfl, by decide, by decide⟩
    · exact ⟨_, _, rfl, by decide, by decide⟩
  obtain ⟨hm0, hm1⟩ := Date.month_ofDayNumber (seconds / 86400)
  have hd := Date.day_ofDayNumber (seconds / 86400)
  have hw := (Date.ofDayNumber (seconds / 86400)).weekday_lt
  have hskip (s : List Char) : skipBlanks? (' ' :: sign :: s) = some (sign :: s) := by
    apply skipBlanks?_of_trimLeft
    · rw [trimLeft_blank (by decide), trimLeft_cons hb]
    · simp
  have hnumber (most : Nat) (s : List Char) : readNumber? 2 most (sign :: s) = none := by
    cases most <;> simp [readNumber?, hs]
  rw [httpDate_eq, readMailDate?]
  simp only [readDate?, dateText, List.append_assoc, List.cons_append, readWeekday?_name hw,
    Option.bind_eq_bind, Option.bind_some]
  rw [trimLeft_blank (by decide), trimLeft_padded,
    readNumber?_padded (by decide) (by decide) (by decide) (by decide) (by omega)]
  simp [skipBlanks?_month, readName?_month, hyear, hskip, hnumber,
    show (Date.ofDayNumber (seconds / 86400)).month - 1 < 12 by omega]

/-- A header date has no blanks around it. -/
theorem trim_httpDate (seconds : Int) : trim (httpDate seconds) = httpDate seconds := by
  have hw := (Date.ofDayNumber (seconds / 86400)).weekday_lt
  have hleft : trimLeft (httpDate seconds) = httpDate seconds := by
    rw [httpDate_eq, dateText]
    generalize (Date.ofDayNumber (seconds / 86400)).weekday = weekday at hw
    interval_cases weekday <;> rfl
  rw [trim, hleft, httpDate, trimRight, List.reverse_append]
  simp [isBlank]

end Signage.Calendar
