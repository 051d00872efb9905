import Mathlib.Data.List.Nodup
import Signage.Proofs.Calendar.HeaderDates

/-!
The grammar of dates in the headers of mails, and that the reader of such dates accepts exactly the
texts of the grammar, each as the second that it stands for. Blanks of any kind count as white space.
-/
namespace Signage.Calendar
open Text

/-- Blanks, of which there is one at least. -/
def IsGap (s : List Char) : Prop := s ≠ [] ∧ AreBlanks s

/-- A number in decimal digits, at least and at most so many. -/
structure IsNumber (least most : Nat) (s : List Char) (n : Nat) : Prop where
  digits : ∀ c ∈ s, c.isDigit = true
  least_le : least ≤ s.length
  le_most : s.length ≤ most
  value : Nat.ofDigitChars 10 s 0 = n

/-- One of the names, in any letter case. -/
def IsName (names : List (List Char)) (s : List Char) (index : Nat) : Prop :=
  ∃ name, names[index]? = some name ∧ sameName name s = true

/-- The weekday with a comma, which may be missing. -/
inductive WeekdayPart : List Char → Option Nat → Prop
  | missing : WeekdayPart [] none
  | named {s : List Char} {weekday : Nat} (h : IsName weekdayNames s weekday) :
      WeekdayPart (s ++ [',']) (some weekday)

/-- The date with the weekday before it; years before the year 1000 have special forms. -/
inductive DatePart : List Char → Option Nat → Date → Prop
  | intro {before name between day gap month gap' year : List Char} {weekday : Option Nat}
      {d m y : Nat} (hbefore : AreBlanks before) (hname : WeekdayPart name weekday)
      (hbetween : AreBlanks between) (hday : IsNumber 1 2 day d) (hgap : IsGap gap)
      (hmonth : IsName monthNames month m) (hgap' : IsGap gap')
      (hyear : IsNumber 2 year.length year y) :
      DatePart (before ++ (name ++ (between ++ (day ++ (gap ++ (month ++ (gap' ++ year)))))))
        weekday ⟨fullYear y year.length, m + 1, d⟩

/-- The seconds with a colon, which may be missing. -/
inductive SecondsPart : List Char → Nat → Prop
  | missing : SecondsPart [] 0
  | written {before s : List Char} {second : Nat} (hbefore : AreBlanks before)
      (h : IsNumber 2 2 s second) : SecondsPart (before ++ ':' :: s) second

/-- The time of the day. -/
inductive ClockPart : List Char → Nat → Nat → Nat → Prop
  | intro {hour before between minute seconds : List Char} {h m s : Nat}
      (hhour : IsNumber 2 2 hour h) (hbefore : AreBlanks before) (hbetween : AreBlanks between)
      (hminute : IsNumber 2 2 minute m) (hseconds : SecondsPart seconds s) :
      ClockPart (hour ++ (before ++ ':' :: (between ++ (minute ++ seconds)))) h m s

/-- The zone and its distance from universal time in seconds: hours and minutes east or west, one of
the names that are known, or a single letter other than `j`. -/
inductive ZonePart : List Char → Int → Prop
  | east {hours minutes : List Char} {h m : Nat} (hhours : IsNumber 2 2 hours h) (hh : h < 24)
      (hminutes : IsNumber 2 2 minutes m) (hm : m < 60) :
      ZonePart ('+' :: (hours ++ minutes)) (h * 3600 + m * 60)
  | west {hours minutes : List Char} {h m : Nat} (hhours : IsNumber 2 2 hours h) (hh : h < 24)
      (hminutes : IsNumber 2 2 minutes m) (hm : m < 60) :
      ZonePart ('-' :: (hours ++ minutes)) (-(h * 3600 + m * 60))
  | named {s : List Char} {hours : Int} (hletters : ∀ c ∈ s, c.isAlpha = true)
      (h : (s.map Char.toLower, hours) ∈ zoneNames) : ZonePart s (hours * 3600)
  | letter {c : Char} (hletter : c.isAlpha = true) (h : c.toLower ≠ 'j') : ZonePart [c] 0

/-- What may stand between the parentheses of a comment. -/
inductive CommentContent : List Char → Prop
  | nil : CommentContent []
  | plain {c : Char} {s : List Char} (hc : c ≠ '\\' ∧ c ≠ '(' ∧ c ≠ ')') (hs : CommentContent s) :
      CommentContent (c :: s)
  | hidden {c : Char} {s : List Char} (hs : CommentContent s) : CommentContent ('\\' :: c :: s)
  | comment {inner s : List Char} (hinner : CommentContent inner) (hs : CommentContent s) :
      CommentContent ('(' :: (inner ++ ')' :: s))

/-- Any number of comments, with blanks before each. -/
inductive Comments : List Char → Prop
  | nil : Comments []
  | cons {before content s : List Char} (hbefore : AreBlanks before)
      (hcontent : CommentContent content) (hs : Comments s) :
      Comments (before ++ '(' :: (content ++ ')' :: s))

/-- A date of a mail header and the second it stands for. The date has to exist and to fit the
weekday, and both it and the second in universal time have to lie in the years that are supported. -/
inductive IsMailDate : List Char → Int → Prop
  | intro {date gap clock gap' zone comments : List Char} {weekday : Option Nat} {day : Date}
      {h m s : Nat} {distance : Int} (hdate : DatePart date weekday day) (hgap : IsGap gap)
      (hclock : ClockPart clock h m s) (hgap' : IsGap gap') (hzone : ZonePart zone distance)
      (hcomments : Comments comments) (hday : day.isValid = true)
      (hweekday : ∀ w ∈ weekday, w = day.weekday) (hh : h < 24) (hm : m < 60) (hs : s ≤ 60)
      (hsupported : (Date.ofDayNumber (secondOf day h m s distance / 86400)).isValid = true) :
      IsMailDate (date ++ (gap ++ (clock ++ (gap' ++ (zone ++ comments)))))
        (secondOf day h m s distance)

variable {s rest : List Char}

private theorem isAlpha_iff {c : Char} : c.isAlpha = true ↔
    65 ≤ c.toNat ∧ c.toNat ≤ 90 ∨ 97 ≤ c.toNat ∧ c.toNat ≤ 122 := by
  have hcodes : c.isAlpha = (decide (c.val ≥ 'A'.val ∧ c.val ≤ 'Z'.val) ||
      (decide (c.val ≥ 'a'.val) && decide (c.val ≤ 'z'.val))) := rfl
  rw [hcodes, Bool.or_eq_true, Bool.and_eq_true, decide_eq_true_eq, decide_eq_true_eq,
    decide_eq_true_eq]
  rfl

private theorem isBlank_eq_false_of_isAlpha {c : Char} (h : c.isAlpha = true) :
    isBlank c = false := by
  rw [← Char.ofNat_toNat c]
  rcases isAlpha_iff.mp h with ⟨h0, h1⟩ | ⟨h0, h1⟩
  · interval_cases c.toNat <;> decide
  · interval_cases c.toNat <;> decide

private theorem skipBlanks?_eq_some_iff :
    skipBlanks? s = some rest ↔ Stops isBlank rest ∧ ∃ gap, IsGap gap ∧ s = gap ++ rest := by
  constructor
  · intro h
    simp only [skipBlanks?] at h
    split at h
    · next hlength =>
      cases h
      obtain ⟨gap, hgap, hs⟩ := exists_trimLeft s
      refine ⟨stops_dropWhile isBlank s, gap, ⟨?_, hgap⟩, hs⟩
      rintro rfl
      rw [List.nil_append] at hs
      exact absurd hlength (hs ▸ lt_irrefl _)
    · cases h
  · rintro ⟨hstop, gap, ⟨hne, hgap⟩, rfl⟩
    apply skipBlanks?_of_trimLeft (trimLeft_append hgap hstop)
    have := List.length_pos_iff.mpr hne
    rw [List.length_append]
    omega

private theorem readNumber?_eq_some {least most n k : Nat}
    (h : readNumber? least most s = some ((n, k), rest)) :
    ∃ digits, IsNumber least most digits n ∧ digits.length = k ∧ s = digits ++ rest := by
  obtain ⟨digits, hdigits⟩ : ∃ digits, digits = (s.take most).takeWhile Char.isDigit := ⟨_, rfl⟩
  simp only [readNumber?, ← hdigits] at h
  split at h
  · cases h
  · next hleast =>
    cases h
    have hfront : digits <+: s.take most := hdigits ▸ List.takeWhile_prefix _
    obtain ⟨tail, htail⟩ := hfront.trans (List.take_prefix most s)
    have hmost := hfront.length_le
    rw [List.length_take] at hmost
    refine ⟨digits, ⟨fun c hc => ?_, by omega, by omega, rfl⟩, rfl, ?_⟩
    · rw [hdigits] at hc
      exact List.mem_takeWhile_imp hc
    · rw [← htail, List.drop_left]

private theorem IsNumber.read {least most n : Nat} {digits : List Char}
    (h : IsNumber least most digits n)
    (hend : digits.length = most ∨ Stops Char.isDigit rest) :
    readNumber? least most (digits ++ rest) = some ((n, digits.length), rest) := by
  rw [readNumber?_append h.digits hend h.least_le h.le_most, h.value]

private theorem IsNumber.length_eq {width n : Nat} {digits : List Char}
    (h : IsNumber width width digits n) :
    digits.length = width :=
  Nat.le_antisymm h.le_most h.least_le

private theorem IsNumber.of_most {least most other n : Nat} {digits : List Char}
    (h : IsNumber least most digits n) (hother : digits.length ≤ other) :
    IsNumber least other digits n :=
  ⟨h.digits, h.least_le, hother, h.value⟩

private theorem IsNumber.stops {least most n : Nat} {digits : List Char}
    (h : IsNumber least most digits n)
    (hl : 0 < least) (rest : List Char) : Stops isBlank (digits ++ rest) := by
  obtain ⟨d, tail, rfl⟩ := List.exists_cons_of_length_pos (lt_of_lt_of_le hl h.least_le)
  exact stops_cons.mpr (isBlank_eq_false_of_isDigit (h.digits d List.mem_cons_self))

/-- The names are of three letters each, and differ in more than letter case. -/
structure AreNames (names : List (List Char)) : Prop where
  length_eq : ∀ name ∈ names, name.length = 3
  letters : ∀ name ∈ names, (name.map Char.toLower).all Char.isAlpha = true
  nodup : (names.map fun name => name.map Char.toLower).Nodup

private theorem areNames_weekdayNames : AreNames weekdayNames := ⟨by decide, by decide, by decide⟩

private theorem areNames_monthNames : AreNames monthNames := ⟨by decide, by decide, by decide⟩

private theorem sameName_iff {a b : List Char} :
    sameName a b = true ↔ a.map Char.toLower = b.map Char.toLower := by
  simp [sameName]

private theorem length_eq_of_sameName {a b : List Char} (h : sameName a b = true) :
    a.length = b.length := by
  simpa using congrArg List.length (sameName_iff.mp h)

/-- A name is read wherever one of the names stands, whatever comes behind it. -/
theorem readName?_eq_some_iff {names : List (List Char)} (hnames : AreNames names) {index : Nat} :
    readName? names s = some (index, rest) ↔ ∃ word, IsName names word index ∧ s = word ++ rest := by
  simp only [readName?, Option.map_eq_some_iff, List.findIdx?_eq_some_iff_getElem]
  constructor
  · rintro ⟨i, ⟨hi, hsame, -⟩, he⟩
    cases he
    exact ⟨s.take 3, ⟨names[index], List.getElem?_eq_getElem hi, hsame⟩,
      (List.take_append_drop 3 s).symm⟩
  · rintro ⟨word, ⟨name, hname, hsame⟩, rfl⟩
    obtain ⟨hi, rfl⟩ := List.getElem?_eq_some_iff.mp hname
    have hlength : word.length = 3 := by
      rw [← length_eq_of_sameName hsame, hnames.length_eq _ (List.getElem_mem hi)]
    have htake : (word ++ rest).take 3 = word := hlength ▸ List.take_left
    have hdrop : (word ++ rest).drop 3 = rest := hlength ▸ List.drop_left
    refine ⟨index, ⟨hi, htake.symm ▸ hsame, fun j hj hother => ?_⟩, by rw [hdrop]⟩
    -- Another name before it would be the same up to letter case.
    have heq := (sameName_iff.mp (htake ▸ hother)).trans (sameName_iff.mp hsame).symm
    have hj' : j < (names.map fun name => name.map Char.toLower).length := by
      rw [List.length_map]
      omega
    have hi' : index < (names.map fun name => name.map Char.toLower).length := by rwa [List.length_map]
    have hmapped : (names.map fun name => name.map Char.toLower)[j] =
        (names.map fun name => name.map Char.toLower)[index] := by simpa using heq
    exact absurd (hnames.nodup.getElem_inj_iff.mp hmapped) (by omega)

private theorem isAlpha_of_toLower {c : Char} (h : c.toLower.isAlpha = true) :
    c.isAlpha = true := by
  unfold Char.toLower at h
  split at h
  · next hupper => exact isAlpha_iff.mpr (.inl hupper)
  · exact h

variable {names : List (List Char)} {word : List Char} {index : Nat}

private theorem IsName.isAlpha (hnames : AreNames names) (h : IsName names word index) :
    ∀ c ∈ word, c.isAlpha = true := by
  obtain ⟨name, hname, hsame⟩ := h
  intro c hc
  apply isAlpha_of_toLower
  have hletters := List.all_eq_true.mp (hnames.letters name (List.mem_of_getElem? hname))
  apply hletters
  rw [sameName_iff.mp hsame]
  exact List.mem_map_of_mem hc

/-- A name has a first letter. -/
theorem IsName.exists_cons (hnames : AreNames names) (h : IsName names word index) :
    ∃ c tail, word = c :: tail ∧ c.isAlpha = true := by
  obtain ⟨name, hname, hsame⟩ := id h
  have hlength := length_eq_of_sameName hsame
  rw [hnames.length_eq name (List.mem_of_getElem? hname)] at hlength
  obtain ⟨c, tail, rfl⟩ := List.exists_cons_of_length_eq_add_one hlength.symm
  exact ⟨c, tail, rfl, h.isAlpha hnames c List.mem_cons_self⟩

private theorem IsName.stops (hnames : AreNames names) (h : IsName names word index)
    (rest : List Char) :
    Stops isBlank (word ++ rest) := by
  obtain ⟨c, tail, rfl, hc⟩ := h.exists_cons hnames
  exact stops_cons.mpr (isBlank_eq_false_of_isAlpha hc)

/-- No weekday begins with a digit. -/
theorem readName?_weekday_of_isDigit {d : Char} (h : d.isDigit = true) (s : List Char) :
    readName? weekdayNames (d :: s) = none := by
  rw [Option.eq_none_iff_forall_not_mem]
  rintro ⟨index, rest⟩ hread
  obtain ⟨word, hword, hs⟩ := (readName?_eq_some_iff areNames_weekdayNames).mp hread
  obtain ⟨c, tail, rfl, hc⟩ := hword.exists_cons areNames_weekdayNames
  obtain ⟨rfl, -⟩ := List.cons.inj hs
  have hletter := isAlpha_iff.mp hc
  have hdigit : d.toNat ≤ 57 := (Char.isDigit_iff_toNat.mp h).2
  omega

private theorem readWeekday?_eq_some {weekday : Option Nat}
    (h : readWeekday? s = some (weekday, rest)) :
    ∃ part, WeekdayPart part weekday ∧ s = part ++ rest := by
  unfold readWeekday? at h
  split at h
  · next day tail hname =>
    cases h
    obtain ⟨word, hword, hs⟩ := (readName?_eq_some_iff areNames_weekdayNames).mp hname
    exact ⟨word ++ [','], .named hword, by simp [hs]⟩
  · cases h
  · cases h
    exact ⟨[], .missing, rfl⟩

private theorem WeekdayPart.read {part : List Char} {weekday : Option Nat}
    (h : WeekdayPart part weekday)
    {d : Char} (hd : d.isDigit = true) (hrest : weekday = none → rest.head? = some d) :
    readWeekday? (part ++ rest) = some (weekday, rest) := by
  cases h with
  | missing =>
    obtain ⟨tail, rfl⟩ := List.head?_eq_some_iff.mp (hrest rfl)
    simp [readWeekday?, readName?_weekday_of_isDigit hd]
  | named hword =>
    rename_i word day
    have hread : readName? weekdayNames (word ++ ',' :: rest) = some (day, ',' :: rest) :=
      (readName?_eq_some_iff areNames_weekdayNames).mpr ⟨word, hword, rfl⟩
    simp [readWeekday?, hread]

private theorem readDate?_eq_some {weekday : Option Nat} {date : Date}
    (h : readDate? s = some ((weekday, date), rest)) :
    ∃ part, DatePart part weekday date ∧ s = part ++ rest := by
  simp only [readDate?, Option.bind_eq_bind, Option.bind_eq_some_iff] at h
  obtain ⟨⟨found, r1⟩, h1, ⟨⟨d, _⟩, r2⟩, h2, r3, h3, ⟨m, r4⟩, h4, r5, h5, ⟨⟨y, k⟩, r6⟩, h6, he⟩ := h
  cases he
  obtain ⟨before, hbefore, hs⟩ := exists_trimLeft s
  obtain ⟨name, hname, hs1⟩ := readWeekday?_eq_some h1
  obtain ⟨between, hbetween, hr1⟩ := exists_trimLeft r1
  obtain ⟨day, hday, -, hr2⟩ := readNumber?_eq_some h2
  obtain ⟨-, gap, hgap, rfl⟩ := skipBlanks?_eq_some_iff.mp h3
  obtain ⟨month, hmonth, rfl⟩ := (readName?_eq_some_iff areNames_monthNames).mp h4
  obtain ⟨-, gap', hgap', rfl⟩ := skipBlanks?_eq_some_iff.mp h5
  obtain ⟨year, hyear, rfl, rfl⟩ := readNumber?_eq_some h6
  have hyear' : IsNumber 2 year.length year y := hyear.of_most (le_refl _)
  refine ⟨_, .intro hbefore hname hbetween hday hgap hmonth hgap' hyear', ?_⟩
  change trimLeft r1 = _ at hr2
  rw [hs, hs1, hr1, hr2]
  simp

private theorem IsGap.stops {gap : List Char} (h : IsGap gap) {belongs : Char → Bool}
    (hbelongs : ∀ c, belongs c = true → isBlank c = false) (rest : List Char) :
    Stops belongs (gap ++ rest) := by
  obtain ⟨c, tail, rfl⟩ := List.exists_cons_of_ne_nil h.1
  have hblank := h.2 c List.mem_cons_self
  refine stops_cons.mpr (Bool.eq_false_iff.mpr fun hc => ?_)
  rw [hbelongs c hc] at hblank
  cases hblank

private theorem IsGap.skip {gap : List Char} (h : IsGap gap) (hrest : Stops isBlank rest) :
    skipBlanks? (gap ++ rest) = some rest :=
  skipBlanks?_eq_some_iff.mpr ⟨hrest, gap, h, rfl⟩

private theorem read_weekday {before name between : List Char} {weekday : Option Nat}
    (hbefore : AreBlanks before) (hname : WeekdayPart name weekday) (hbetween : AreBlanks between)
    {d : Char} (hd : d.isDigit = true) (rest : List Char) :
    ∃ tail, readWeekday? (trimLeft (before ++ (name ++ (between ++ d :: rest)))) =
      some (weekday, tail) ∧ trimLeft tail = d :: rest := by
  have hstop : Stops isBlank (d :: rest) := stops_cons.mpr (isBlank_eq_false_of_isDigit hd)
  cases hname with
  | missing =>
    have hblanks : AreBlanks (before ++ between) := fun c hc =>
      (List.mem_append.mp hc).elim (hbefore c) (hbetween c)
    rw [List.nil_append, ← List.append_assoc, trimLeft_append hblanks hstop]
    exact ⟨d :: rest, WeekdayPart.missing.read hd fun _ => rfl, trimLeft_append areBlanks_nil hstop⟩
  | named hword =>
    rename_i word day
    have hfront := hword.stops areNames_weekdayNames ([','] ++ (between ++ d :: rest))
    rw [← List.append_assoc] at hfront
    rw [trimLeft_append hbefore hfront]
    exact ⟨_, (WeekdayPart.named hword).read hd nofun, trimLeft_append hbetween hstop⟩

private theorem DatePart.read {part : List Char} {weekday : Option Nat} {date : Date}
    (h : DatePart part weekday date) (hrest : Stops Char.isDigit rest) :
    readDate? (part ++ rest) = some ((weekday, date), rest) := by
  obtain ⟨hbefore, hname, hbetween, hday, hgap, hmonth, hgap', hyear⟩ := h
  rename_i before name between day gap month gap' year d m y
  obtain ⟨c, digits, hcons⟩ := List.exists_cons_of_length_pos (lt_of_lt_of_le one_pos hday.least_le)
  have hc : c.isDigit = true := hday.digits c (hcons ▸ List.mem_cons_self)
  obtain ⟨tail, hweekday, htail⟩ := read_weekday hbefore hname hbetween hc
    (digits ++ (gap ++ (month ++ (gap' ++ (year ++ rest)))))
  rw [← List.cons_append, ← hcons] at hweekday htail
  have hdigit (c : Char) (h : c.isDigit = true) : isBlank c = false := isBlank_eq_false_of_isDigit h
  simp only [readDate?, List.append_assoc, hweekday, htail, Option.bind_eq_bind, Option.bind_some,
    hday.read (.inr (hgap.stops hdigit _)), hgap.skip (hmonth.stops areNames_monthNames _),
    (readName?_eq_some_iff areNames_monthNames).mpr ⟨month, hmonth, rfl⟩,
    hgap'.skip (hyear.stops (by decide) _)]
  have hyear' : IsNumber 2 (year ++ rest).length year y := hyear.of_most (by simp)
  rw [hyear'.read (.inr hrest)]
  rfl

private theorem skipColon?_eq_some {tail : List Char} (h : skipColon? s = some tail) :
    ∃ before, AreBlanks before ∧ s = before ++ ':' :: tail := by
  obtain ⟨before, hbefore, hs⟩ := exists_trimLeft s
  unfold skipColon? at h
  split at h
  · next htrim =>
    cases h
    exact ⟨before, hbefore, htrim ▸ hs⟩
  · cases h

private theorem skipColon?_append {before : List Char} (h : AreBlanks before) (rest : List Char) :
    skipColon? (before ++ ':' :: rest) = some rest := by
  rw [skipColon?, trimLeft_append h (stops_cons.mpr (by decide))]
  rfl

private theorem readSeconds?_eq_some {second : Nat} (h : readSeconds? s = some (second, rest)) :
    ∃ part, SecondsPart part second ∧ s = part ++ rest := by
  unfold readSeconds? at h
  split at h
  · cases h
    exact ⟨[], .missing, rfl⟩
  · next tail hcolon =>
    obtain ⟨⟨⟨n, k⟩, r⟩, hread, he⟩ := Option.map_eq_some_iff.mp h
    cases he
    obtain ⟨before, hbefore, rfl⟩ := skipColon?_eq_some hcolon
    obtain ⟨digits, hdigits, -, rfl⟩ := readNumber?_eq_some hread
    exact ⟨_, .written hbefore hdigits, by simp⟩

private theorem readClock?_eq_some {h m sec : Nat}
    (hread : readClock? s = some ((h, m, sec), rest)) :
    ∃ part, ClockPart part h m sec ∧ s = part ++ rest := by
  simp only [readClock?, Option.bind_eq_bind, Option.bind_eq_some_iff] at hread
  obtain ⟨⟨⟨h', _⟩, r1⟩, h1, r2, h2, ⟨⟨m', _⟩, r3⟩, h3, ⟨sec', r4⟩, h4, he⟩ := hread
  cases he
  obtain ⟨hour, hhour, -, rfl⟩ := readNumber?_eq_some h1
  obtain ⟨before, hbefore, rfl⟩ := skipColon?_eq_some h2
  obtain ⟨between, hbetween, hr2⟩ := exists_trimLeft r2
  obtain ⟨minute, hminute, -, hr3⟩ := readNumber?_eq_some h3
  obtain ⟨seconds, hseconds, rfl⟩ := readSeconds?_eq_some h4
  refine ⟨_, .intro hhour hbefore hbetween hminute hseconds, ?_⟩
  rw [hr2, hr3]
  simp

/-- No colon follows. -/
theorem SecondsPart.read {part : List Char} {second : Nat} (h : SecondsPart part second)
    (hrest : skipColon? rest = none) : readSeconds? (part ++ rest) = some (second, rest) := by
  cases h with
  | missing => simp [readSeconds?, hrest]
  | written hbefore hnumber =>
    rw [List.append_assoc, List.cons_append, readSeconds?, skipColon?_append hbefore]
    dsimp only
    rw [hnumber.read (.inl hnumber.length_eq)]
    rfl

private theorem ClockPart.read {part : List Char} {h m sec : Nat} (hpart : ClockPart part h m sec)
    (hrest : skipColon? rest = none) : readClock? (part ++ rest) = some ((h, m, sec), rest) := by
  obtain ⟨hhour, hbefore, hbetween, hminute, hseconds⟩ := hpart
  simp only [readClock?, List.append_assoc, List.cons_append, Option.bind_eq_bind,
    hhour.read (.inl hhour.length_eq), Option.bind_some, skipColon?_append hbefore,
    trimLeft_append hbetween (hminute.stops (by decide) _), hminute.read (.inl hminute.length_eq),
    hseconds.read hrest]
  rfl

private theorem readDistance?_eq_some {distance : Int}
    (h : readDistance? s = some (distance, rest)) :
    ∃ hours minutes h m, IsNumber 2 2 hours h ∧ h < 24 ∧ IsNumber 2 2 minutes m ∧ m < 60 ∧
      distance = h * 3600 + m * 60 ∧ s = hours ++ minutes ++ rest := by
  simp only [readDistance?, Option.bind_eq_bind, Option.bind_eq_some_iff] at h
  obtain ⟨⟨⟨h', _⟩, r1⟩, h1, ⟨⟨m', _⟩, r2⟩, h2, he⟩ := h
  split at he
  · next hbounds =>
    cases he
    obtain ⟨hours, hhours, -, rfl⟩ := readNumber?_eq_some h1
    obtain ⟨minutes, hminutes, -, rfl⟩ := readNumber?_eq_some h2
    exact ⟨hours, minutes, h', m', hhours, hbounds.2, hminutes, hbounds.1, by push_cast; rfl, by simp⟩
  · cases he

private theorem readDistance?_append {hours minutes : List Char} {h m : Nat}
    (hhours : IsNumber 2 2 hours h)
    (hh : h < 24) (hminutes : IsNumber 2 2 minutes m) (hm : m < 60) (rest : List Char) :
    readDistance? (hours ++ minutes ++ rest) = some ((h * 3600 + m * 60 : Int), rest) := by
  simp only [readDistance?, List.append_assoc, hhours.read (.inl hhours.length_eq),
    hminutes.read (.inl hminutes.length_eq), Option.bind_eq_bind, Option.bind_some]
  rw [if_pos ⟨hm, hh⟩]
  push_cast
  rfl

/-- No zone is listed twice. -/
theorem lookup_zoneNames_eq_some_iff {name : List Char} {hours : Int} :
    zoneNames.lookup name = some hours ↔ (name, hours) ∈ zoneNames := by
  have hunique : ∀ a ∈ zoneNames, ∀ b ∈ zoneNames, a.1 = b.1 → a.2 = b.2 := by decide
  have hmem {found : Int} (h : zoneNames.lookup name = some found) : (name, found) ∈ zoneNames := by
    obtain ⟨before, after, hsplit, -⟩ := List.lookup_eq_some_iff.mp h
    rw [hsplit]
    simp
  refine ⟨hmem, fun h => ?_⟩
  cases hlookup : zoneNames.lookup name with
  | none => simpa using List.lookup_eq_none_iff.mp hlookup _ h
  | some found => exact congrArg some (hunique _ (hmem hlookup) _ h rfl)

/-- Zones are known by their names in any letter case; those of one letter are at no distance. -/
theorem namedZone?_eq_some_iff {hours : Int} :
    namedZone? s = some hours ↔ (s.map Char.toLower, hours) ∈ zoneNames ∨
      ∃ c, s = [c] ∧ c.toLower ≠ 'j' ∧ hours = 0 := by
  have hletter : ∀ a ∈ zoneNames, a.1.length = 1 → a.2 = 0 := by decide
  rw [← lookup_zoneNames_eq_some_iff]
  unfold namedZone?
  split
  · next found hlookup =>
    rw [hlookup, Option.some_inj, iff_self_or]
    rintro ⟨c, rfl, -, rfl⟩
    exact hletter _ (lookup_zoneNames_eq_some_iff.mp hlookup) rfl
  · next hlookup =>
    rw [hlookup, or_iff_right (by simp)]
    split
    · next c =>
      by_cases hj : c.toLower = 'j'
      · simp [hj]
      · rw [if_neg (by simpa using hj), Option.some_inj]
        exact ⟨fun h => ⟨c, rfl, hj, h.symm⟩, fun ⟨_, _, _, h⟩ => h.symm⟩
    · next hne =>
      simp only [reduceCtorEq, false_iff]
      rintro ⟨c, rfl, -, -⟩
      exact hne c rfl

private theorem readZone?_eq_some {distance : Int} (h : readZone? s = some (distance, rest)) :
    ∃ part, ZonePart part distance ∧ s = part ++ rest := by
  unfold readZone? at h
  split at h
  · obtain ⟨hours, minutes, h, m, hhours, hh, hminutes, hm, rfl, rfl⟩ := readDistance?_eq_some h
    exact ⟨_, .east hhours hh hminutes hm, rfl⟩
  · obtain ⟨⟨d, r⟩, hread, he⟩ := Option.map_eq_some_iff.mp h
    cases he
    obtain ⟨hours, minutes, h, m, hhours, hh, hminutes, hm, rfl, rfl⟩ := readDistance?_eq_some hread
    exact ⟨_, .west hhours hh hminutes hm, rfl⟩
  · obtain ⟨name, hname⟩ : ∃ name, name = s.takeWhile Char.isAlpha := ⟨_, rfl⟩
    simp only [← hname] at h
    split at h
    · cases h
    · obtain ⟨hours, hzone, he⟩ := Option.map_eq_some_iff.mp h
      cases he
      have hletters : ∀ c ∈ name, c.isAlpha = true := fun c hc =>
        List.mem_takeWhile_imp (hname ▸ hc)
      refine ⟨name, ?_, ?_⟩
      · rcases namedZone?_eq_some_iff.mp hzone with hmem | ⟨c, rfl, hj, rfl⟩
        · exact .named hletters hmem
        · exact .letter (hletters c List.mem_cons_self) hj
      · obtain ⟨tail, htail⟩ : name <+: s := hname ▸ List.takeWhile_prefix _
        rw [← htail, List.drop_left]

/-- The letters of a zone go on as far as they can. -/
theorem readZone?_named {name : List Char} {hours : Int} (hne : name ≠ [])
    (hletters : ∀ c ∈ name, c.isAlpha = true) (hzone : namedZone? name = some hours)
    (hrest : Stops Char.isAlpha rest) : readZone? (name ++ rest) = some (hours * 3600, rest) := by
  obtain ⟨c, tail, rfl⟩ := List.exists_cons_of_ne_nil hne
  have htake := takeWhile_append_of_stops hletters hrest
  have hc := hletters c List.mem_cons_self
  unfold readZone?
  split
  · next he =>
    obtain ⟨rfl, -⟩ := List.cons.inj he
    cases hc
  · next he =>
    obtain ⟨rfl, -⟩ := List.cons.inj he
    cases hc
  · simp only [htake]
    simp [hzone]

private theorem ZonePart.read {part : List Char} {distance : Int} (h : ZonePart part distance)
    (hrest : Stops Char.isAlpha rest) : readZone? (part ++ rest) = some (distance, rest) := by
  cases h with
  | east hhours hh hminutes hm =>
    exact readDistance?_append hhours hh hminutes hm rest
  | west hhours hh hminutes hm =>
    exact congrArg (Option.map _) (readDistance?_append hhours hh hminutes hm rest)
  | named hletters hmem =>
    have hnames : ∀ a ∈ zoneNames, a.1 ≠ [] := by decide
    refine readZone?_named ?_ hletters (namedZone?_eq_some_iff.mpr (.inl hmem)) hrest
    rintro rfl
    exact hnames _ hmem rfl
  | letter hletter hj =>
    rename_i c
    have hzone := readZone?_named (List.cons_ne_nil c []) (by simpa using hletter)
      (namedZone?_eq_some_iff.mpr (.inr ⟨c, rfl, hj, rfl⟩)) hrest
    simpa using hzone

/-- What closes so many comments that are open. -/
inductive Closes : Nat → List Char → Prop
  | zero : Closes 0 []
  | succ {depth : Nat} {content s : List Char} (hcontent : CommentContent content)
      (hs : Closes depth s) : Closes (depth + 1) (content ++ ')' :: s)

variable {depth : Nat}

private theorem Closes.exists_content (h : Closes (depth + 1) s) :
    ∃ content tail, CommentContent content ∧ Closes depth tail ∧ s = content ++ ')' :: tail := by
  cases h with
  | succ hcontent hs => exact ⟨_, _, hcontent, hs, rfl⟩

/-- A comment is read to its end; a character behind a backslash is hidden. -/
theorem skipComment?_eq_some (hidden : Bool) (h : skipComment? (depth + 1) hidden s = some rest) :
    ∃ part, (if hidden then ∃ c tail, part = c :: tail ∧ Closes (depth + 1) tail
      else Closes (depth + 1) part) ∧ s = part ++ rest := by
  -- A character behind a backslash belongs to what is read before it, hence the two cases of `part`.
  induction s generalizing depth hidden with
  | nil => cases hidden <;> cases h
  | cons c s ih =>
    cases hidden with
    | true =>
      obtain ⟨part, hpart, rfl⟩ := ih false h
      exact ⟨c :: part, ⟨c, part, rfl, hpart⟩, rfl⟩
    | false =>
      simp only [Bool.false_eq_true, if_false]
      rw [skipComment?] at h
      split_ifs at h with hbackslash hopen hclose hlast
      · obtain rfl := eq_of_beq hbackslash
        obtain ⟨part, ⟨d, tail, rfl, htail⟩, rfl⟩ := ih true h
        obtain ⟨content, t, hcontent, ht, rfl⟩ := htail.exists_content
        exact ⟨_, .succ (.hidden (c := d) hcontent) ht, rfl⟩
      · obtain rfl := eq_of_beq hopen
        obtain ⟨part, hpart, rfl⟩ := ih false h
        obtain ⟨inner, t, hinner, ht, rfl⟩ := Closes.exists_content hpart
        obtain ⟨content, t', hcontent, ht', rfl⟩ := ht.exists_content
        exact ⟨_, .succ (.comment hinner hcontent) ht', by simp⟩
      · obtain rfl := eq_of_beq hclose
        cases h
        obtain rfl : depth = 0 := by omega
        exact ⟨[')'], .succ .nil .zero, rfl⟩
      · obtain rfl := eq_of_beq hclose
        obtain ⟨d, rfl⟩ : ∃ d, depth = d + 1 := ⟨depth - 1, by omega⟩
        obtain ⟨part, hpart, rfl⟩ := ih false h
        exact ⟨')' :: part, .succ .nil hpart, rfl⟩
      · obtain ⟨part, hpart, rfl⟩ := ih false h
        obtain ⟨content, t, hcontent, ht, rfl⟩ := Closes.exists_content hpart
        refine ⟨_, .succ (.plain (c := c) ?_ hcontent) ht, rfl⟩
        simpa using And.intro hbackslash (And.intro hopen hclose)

private theorem CommentContent.skip {content : List Char} (h : CommentContent content) (depth : Nat)
    (rest : List Char) :
    skipComment? (depth + 1) false (content ++ rest) = skipComment? (depth + 1) false rest := by
  induction h generalizing depth rest with
  | nil => rfl
  | plain hc _ ih =>
    obtain ⟨hbackslash, hopen, hclose⟩ := hc
    simp [skipComment?, hbackslash, hopen, hclose, ih]
  | hidden _ ih => simp [skipComment?, ih]
  | comment _ _ ihinner ih => simp [skipComment?, ihinner, ih]

private theorem comments_of_onlyComments {fuel : Nat} (h : onlyComments fuel s = true) :
    Comments s := by
  induction fuel generalizing s with
  | zero =>
    cases s with
    | nil => exact .nil
    | cons c s => cases h
  | succ fuel ih =>
    cases s with
    | nil => exact .nil
    | cons c s =>
      obtain ⟨before, hbefore, hs⟩ := exists_trimLeft (c :: s)
      rw [onlyComments] at h
      split at h
      · next tail htrim =>
        split at h
        · next rest hskip =>
          obtain ⟨part, hpart, rfl⟩ := skipComment?_eq_some false hskip
          obtain ⟨content, t, hcontent, ht, rfl⟩ := Closes.exists_content hpart
          cases ht
          rw [hs, htrim]
          simpa using Comments.cons hbefore hcontent (ih h)
        · cases h
      · cases h
      · intro hnil
        cases hnil

private theorem onlyComments_of_comments {fuel : Nat} (h : Comments s) (hfuel : s.length ≤ fuel) :
    onlyComments fuel s = true := by
  induction h generalizing fuel with
  | nil => cases fuel <;> rfl
  | cons hbefore hcontent _ ih =>
    rename_i before content s _
    simp only [List.length_append, List.length_cons] at hfuel
    obtain ⟨fuel, rfl⟩ : ∃ n, fuel = n + 1 := ⟨fuel - 1, by omega⟩
    have hskip : skipComment? 1 false (content ++ ')' :: s) = some s := by
      rw [hcontent.skip]
      rfl
    have hstops : Stops isBlank ('(' :: (content ++ ')' :: s)) := stops_cons.mpr (by decide)
    have htrim := trimLeft_append hbefore hstops
    rw [onlyComments.eq_3 _ _ (by simp), htrim]
    simp only [hskip]
    exact ih (by omega)

private theorem Comments.stops (h : Comments s) : Stops Char.isAlpha s := by
  cases h with
  | nil => exact stops_nil _
  | cons hbefore hcontent hs =>
    rename_i before content s
    by_cases hne : before = []
    · rw [hne]
      exact stops_cons.mpr (by decide)
    · exact IsGap.stops ⟨hne, hbefore⟩ (fun _ => isBlank_eq_false_of_isAlpha) _

private theorem ZonePart.exists_cons {part : List Char} {distance : Int}
    (h : ZonePart part distance) :
    ∃ c tail, part = c :: tail ∧ isBlank c = false ∧ c ≠ ':' := by
  cases h with
  | east => exact ⟨_, _, rfl, by decide, by decide⟩
  | west => exact ⟨_, _, rfl, by decide, by decide⟩
  | named hletters hmem =>
    have hne : ∀ a ∈ zoneNames, a.1 ≠ [] := by decide
    obtain ⟨c, tail, rfl⟩ := List.exists_cons_of_ne_nil (l := part) (by rintro rfl; exact hne _ hmem rfl)
    have hc := hletters c List.mem_cons_self
    exact ⟨c, tail, rfl, isBlank_eq_false_of_isAlpha hc, by rintro rfl; cases hc⟩
  | letter hletter =>
    exact ⟨_, [], rfl, isBlank_eq_false_of_isAlpha hletter, by rintro rfl; cases hletter⟩

private theorem mailDate_of_read {second : Int} (h : readMailDate? s = some second) :
    IsMailDate s second := by
  simp only [readMailDate?, Option.bind_eq_bind, Option.bind_eq_some_iff] at h
  obtain ⟨⟨⟨weekday, day⟩, r1⟩, h1, r2, h2, ⟨⟨hour, minute, sec⟩, r3⟩, h3, r4, h4,
    ⟨distance, r5⟩, h5, h⟩ := h
  obtain ⟨date, hdate, rfl⟩ := readDate?_eq_some h1
  obtain ⟨-, gap, hgap, rfl⟩ := skipBlanks?_eq_some_iff.mp h2
  obtain ⟨clock, hclock, rfl⟩ := readClock?_eq_some h3
  obtain ⟨-, gap', hgap', rfl⟩ := skipBlanks?_eq_some_iff.mp h4
  obtain ⟨zone, hzone, rfl⟩ := readZone?_eq_some h5
  split at h
  · next hvalid =>
    cases h
    simp only [Bool.and_eq_true, decide_eq_true_eq] at hvalid
    obtain ⟨⟨⟨⟨⟨⟨hcomments, hday⟩, hh⟩, hm⟩, hs⟩, hweekday⟩, hsupported⟩ := hvalid
    refine .intro hdate hgap hclock hgap' hzone (comments_of_onlyComments hcomments) hday ?_ hh hm hs
      hsupported
    intro w hw
    obtain rfl := Option.mem_def.mp hw
    simpa using hweekday
  · cases h

private theorem IsMailDate.read {second : Int} (h : IsMailDate s second) :
    readMailDate? s = some second := by
  obtain ⟨hdate, hgap, hclock, hgap', hzone, hcomments, hday, hweekday, hh, hm, hs, hsupported⟩ := h
  rename_i date gap clock gap' zone comments weekday day hour minute sec distance
  obtain ⟨c, tail, hcons, hblank, hcolon⟩ := hzone.exists_cons
  have hzoneStops (rest : List Char) : Stops isBlank (zone ++ rest) :=
    hcons ▸ stops_cons.mpr hblank
  have hnoColon (rest : List Char) : skipColon? (gap' ++ (zone ++ rest)) = none := by
    rw [skipColon?, trimLeft_append hgap'.2 (hzoneStops rest), hcons]
    simp [hcolon]
  have hclockStops (rest : List Char) : Stops isBlank (clock ++ rest) := by
    cases hclock with
    | intro hhour =>
      rw [List.append_assoc]
      exact hhour.stops (by decide) _
  have hweekday' : weekday.all (· == day.weekday) = true := by
    cases weekday with
    | none => rfl
    | some w => simpa using hweekday w rfl
  simp only [readMailDate?, hdate.read (hgap.stops (fun _ => isBlank_eq_false_of_isDigit) _),
    hgap.skip (hclockStops _), hclock.read (hnoColon _), hgap'.skip (hzoneStops _),
    hzone.read hcomments.stops, Option.bind_eq_bind, Option.bind_some,
    onlyComments_of_comments hcomments (le_refl _), hday, hweekday', hsupported, hh, hm, hs]
  rfl

/-- Exactly the dates of the grammar are read, each as the second it stands for. -/
theorem readMailDate?_eq_some_iff {second : Int} :
    readMailDate? s = some second ↔ IsMailDate s second :=
  ⟨mailDate_of_read, IsMailDate.read⟩

end Signage.Calendar
