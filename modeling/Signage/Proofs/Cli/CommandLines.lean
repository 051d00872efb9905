import Mathlib.Data.List.Basic
import Mathlib.Data.List.Nodup
import Signage.Cli.Arguments
import Signage.Proofs.Outcomes
import Signage.Proofs.Text.Runs

/-!
How options are written on a command line. The reader accepts exactly what is written so, each option
at most once, and notes what is given.
-/
namespace Signage.Cli
variable {rule : CommandRule} {findings found found' : Findings} {option : OptionRule}
  {word value : String} {pending : Option OptionRule}

/-- Options by their long names, each with its value, as they are given. -/
abbrev Given := List (String × String)

variable {given more : Given}

def OptionRule.IsValued (option : OptionRule) : Prop := ∃ accepts, option.kind = .valued accepts

/-- The option takes the value. -/
def OptionRule.Takes (option : OptionRule) (value : String) : Prop :=
  ∃ accepts, option.kind = .valued accepts ∧ accepts value = true

private theorem OptionRule.Takes.isValued (h : option.Takes value) : option.IsValued :=
  h.imp fun _ => And.left

/-- The option is the one of a long name. -/
def CommandRule.Long (rule : CommandRule) (name : List Char) (option : OptionRule) : Prop :=
  rule.options.find? (fun option => option.long == .ofList name) = some option

/-- The option is the one of a letter. -/
def CommandRule.Short (rule : CommandRule) (letter : Char) (option : OptionRule) : Prop :=
  rule.options.find? (fun option => option.short == some letter) = some option

/-- What is written after two hyphens, what it gives, and the option whose value is still to come. -/
inductive AfterTwo (rule : CommandRule) : List Char → Given → Option OptionRule → Prop
  | switch {name : List Char} {option : OptionRule} (hname : '=' ∉ name)
      (hoption : rule.Long name option) (hkind : option.kind = .switch) :
      AfterTwo rule name [(option.long, "")] none
  | assigned {name value : List Char} {option : OptionRule} (hname : '=' ∉ name)
      (hoption : rule.Long name option) (hvalue : option.Takes (.ofList value)) :
      AfterTwo rule (name ++ '=' :: value) [(option.long, .ofList value)] none
  | apart {name : List Char} {option : OptionRule} (hname : '=' ∉ name)
      (hoption : rule.Long name option) (hkind : option.IsValued) :
      AfterTwo rule name [] (some option)

/-- What is written after one hyphen, what it gives, and the option whose value is still to come. -/
inductive AfterOne (rule : CommandRule) : List Char → Given → Option OptionRule → Prop
  | done : AfterOne rule [] [] none
  | switch {letter : Char} {option : OptionRule} {letters : List Char} {given : Given}
      {pending : Option OptionRule} (hoption : rule.Short letter option)
      (hkind : option.kind = .switch) (rest : AfterOne rule letters given pending) :
      AfterOne rule (letter :: letters) ((option.long, "") :: given) pending
  | assigned {letter : Char} {option : OptionRule} {value : List Char}
      (hoption : rule.Short letter option) (hvalue : option.Takes (.ofList value)) :
      AfterOne rule (letter :: '=' :: value) [(option.long, .ofList value)] none
  | attached {letter : Char} {option : OptionRule} {value : List Char}
      (hoption : rule.Short letter option) (hvalue : option.Takes (.ofList value))
      (hne : value ≠ []) (hfront : value.head? ≠ some '=') :
      AfterOne rule (letter :: value) [(option.long, .ofList value)] none
  | apart {letter : Char} {option : OptionRule} (hoption : rule.Short letter option)
      (hkind : option.IsValued) : AfterOne rule [letter] [] (some option)

/-- A word that gives options. -/
inductive Gives (rule : CommandRule) : String → Given → Option OptionRule → Prop
  | long {text : List Char} {given : Given} {pending : Option OptionRule} (hne : text ≠ [])
      (h : AfterTwo rule text given pending) :
      Gives rule (.ofList ('-' :: '-' :: text)) given pending
  | short {letters : List Char} {given : Given} {pending : Option OptionRule} (hne : letters ≠ [])
      (hfront : letters.head? ≠ some '-') (h : AfterOne rule letters given pending) :
      Gives rule (.ofList ('-' :: letters)) given pending

/-- A word that is not an option: a lone hyphen, or a text without one in front. -/
def IsPlain (word : String) : Prop := word.toList = ['-'] ∨ word.toList.head? ≠ some '-'

/-- Words that are all options and their values. -/
inductive Options (rule : CommandRule) : List String → Given → Prop
  | done : Options rule [] []
  | alone {word : String} {words : List String} {given more : Given} (h : Gives rule word given none)
      (rest : Options rule words more) : Options rule (word :: words) (given ++ more)
  | apart {word value : String} {words : List String} {given more : Given} {option : OptionRule}
      (h : Gives rule word given (some option)) (hplain : IsPlain value) (hvalue : option.Takes value)
      (rest : Options rule words more) :
      Options rule (word :: value :: words) (given ++ (option.long, value) :: more)

/-! What is given by options belongs to them. -/

/-- The option of a name takes the value, or it is a switch. -/
def Belongs (rule : CommandRule) (pair : String × String) : Prop :=
  ∃ option ∈ rule.options, option.long = pair.1 ∧ (option.kind = .switch ∨ option.Takes pair.2)

private theorem belongs_of_takes (hmem : option ∈ rule.options) (h : option.Takes value) :
    Belongs rule (option.long, value) :=
  ⟨option, hmem, rfl, .inr h⟩

private theorem AfterTwo.belongs {text : List Char} (h : AfterTwo rule text given pending) :
    (∀ pair ∈ given, Belongs rule pair) ∧ ∀ option ∈ pending, option ∈ rule.options := by
  cases h with
  | switch hname hoption hkind =>
    simpa using ⟨_, List.mem_of_find?_eq_some hoption, rfl, .inl hkind⟩
  | assigned hname hoption hvalue =>
    simpa using belongs_of_takes (List.mem_of_find?_eq_some hoption) hvalue
  | apart hname hoption hkind => simpa using List.mem_of_find?_eq_some hoption

private theorem AfterOne.belongs {letters : List Char} (h : AfterOne rule letters given pending) :
    (∀ pair ∈ given, Belongs rule pair) ∧ ∀ option ∈ pending, option ∈ rule.options := by
  induction h with
  | done => simp
  | switch hoption hkind rest ih =>
    refine ⟨List.forall_mem_cons.mpr ⟨?_, ih.1⟩, ih.2⟩
    exact ⟨_, List.mem_of_find?_eq_some hoption, rfl, .inl hkind⟩
  | assigned hoption hvalue | attached hoption hvalue _ _ =>
    simpa using belongs_of_takes (List.mem_of_find?_eq_some hoption) hvalue
  | apart hoption hkind => simpa using List.mem_of_find?_eq_some hoption

private theorem Gives.belongs (h : Gives rule word given pending) :
    (∀ pair ∈ given, Belongs rule pair) ∧ ∀ option ∈ pending, option ∈ rule.options := by
  cases h with
  | long _ h => exact h.belongs
  | short _ _ h => exact h.belongs

/-- All that options give has an option that it belongs to. -/
theorem Options.belongs {words : List String} (h : Options rule words given) :
    ∀ pair ∈ given, Belongs rule pair := by
  induction h with
  | done => simp
  | alone h _ ih => exact List.forall_mem_append.mpr ⟨h.belongs.1, ih⟩
  | apart h _ hvalue _ ih =>
    have hfirst := belongs_of_takes (h.belongs.2 _ rfl) hvalue
    exact List.forall_mem_append.mpr ⟨h.belongs.1, List.forall_mem_cons.mpr ⟨hfirst, ih⟩⟩

/-! What is noted of the options. -/

/-- What is found after more options are noted, each for the first time. -/
inductive Noted : Findings → Given → Findings → Prop
  | done {findings : Findings} : Noted findings [] findings
  | step {findings found : Findings} {name value : String} {given : Given}
      (hnew : findings.has name = false)
      (rest : Noted { findings with values := (name, value) :: findings.values } given found) :
      Noted findings ((name, value) :: given) found

private theorem noted_nil_iff : Noted findings [] found ↔ found = findings :=
  ⟨fun h => by cases h; rfl, fun h => h ▸ .done⟩

private theorem noted_cons_iff {name : String} :
    Noted findings ((name, value) :: given) found ↔ findings.has name = false ∧
      Noted { findings with values := (name, value) :: findings.values } given found :=
  ⟨fun h => by cases h with | step hnew rest => exact ⟨hnew, rest⟩, fun h => .step h.1 h.2⟩

private theorem noted_append_iff :
    Noted findings (given ++ more) found' ↔
      ∃ found, Noted findings given found ∧ Noted found more found' := by
  induction given generalizing findings with
  | nil => simp [noted_nil_iff]
  | cons pair given ih =>
    obtain ⟨name, value⟩ := pair
    simp only [List.cons_append, noted_cons_iff, ih, exists_and_left, and_assoc]

private theorem noted_first_iff {pair : String × String} :
    Noted findings (pair :: given) found' ↔
      ∃ found, Noted findings [pair] found ∧ Noted found given found' := by
  rw [← noted_append_iff, List.singleton_append]

private theorem note_eq_ok_iff :
    note findings option value = .ok found ↔ Noted findings [(option.long, value)] found := by
  unfold note
  rw [noted_cons_iff, noted_nil_iff]
  cases findings.has option.long <;> simp [eq_comm]

private theorem noteValue_eq_ok_iff :
    noteValue findings option value = .ok found ↔
      option.Takes value ∧ Noted findings [(option.long, value)] found := by
  unfold noteValue OptionRule.Takes
  cases option.kind with
  | valued accepts =>
    simp only [OptionKind.valued.injEq, exists_eq_left']
    split
    · next h => simp [h, note_eq_ok_iff]
    · next h => simp [h]
  | switch | help | version => simp

private theorem noteBare_eq_ok_iff :
    noteBare findings option = .ok (found, pending) ↔
      (option.kind = .switch ∧ pending = none ∧ Noted findings [(option.long, "")] found) ∨
        (option.IsValued ∧ pending = some option ∧ found = findings) := by
  unfold noteBare OptionRule.IsValued
  cases option.kind with
  | switch => simp [map_eq_ok_iff, note_eq_ok_iff, eq_comm (a := pending), and_comm]
  | valued accepts => simp [eq_comm, and_comm]
  | help | version => simp

/-- An option is found with the value it is given. -/
theorem Noted.value? (h : Noted findings given found) (name : String) :
    found.value? name = (findings.value? name).or (given.lookup name) := by
  induction h with
  | done => simp
  | @step findings _ other value given hnew rest ih =>
    rw [ih]
    by_cases hname : name = other
    · subst hname
      have hnone : findings.values.lookup name = none := by
        simpa [Findings.has, Findings.value?] using hnew
      simp [Findings.value?, hnone]
    · simp [Findings.value?, List.lookup_cons, beq_false_of_ne hname]

private theorem Noted.operands (h : Noted findings given found) :
    found.operands = findings.operands := by
  induction h with
  | done => rfl
  | step _ _ ih => exact ih

/-- No option is given twice. -/
def Given.Distinct (given : Given) : Prop := (given.map Prod.fst).Nodup

private theorem exists_noted_iff : (∃ found, Noted findings given found) ↔
    given.Distinct ∧ ∀ name ∈ given.map Prod.fst, findings.has name = false := by
  unfold Given.Distinct
  induction given generalizing findings with
  | nil => simp [noted_nil_iff]
  | cons pair given ih =>
    obtain ⟨name, value⟩ := pair
    have hhas (other : String) : (Findings.has { findings with
        values := (name, value) :: findings.values } other = false) ↔
          other ≠ name ∧ findings.has other = false := by
      by_cases hother : other = name
      · simp [Findings.has, Findings.value?, hother]
      · simp [Findings.has, Findings.value?, List.lookup_cons, beq_false_of_ne hother, hother]
    simp only [noted_cons_iff, exists_and_left, ih, hhas, List.map_cons, List.nodup_cons,
      List.forall_mem_cons]
    constructor
    · rintro ⟨hname, hdistinct, hnew⟩
      exact ⟨⟨fun hmem => (hnew name hmem).1 rfl, hdistinct⟩, hname, fun n hn => (hnew n hn).2⟩
    · rintro ⟨⟨hmem, hdistinct⟩, hname, hnew⟩
      exact ⟨hname, hdistinct, fun n hn => ⟨fun he => hmem (he ▸ hn), hnew n hn⟩⟩

/-! Reading one word. -/

section
variable {name text : List Char}

/-- The name goes up to the first sign of equality. -/
private theorem exists_name (text : List Char) : ∃ name rest, '=' ∉ name ∧
    (rest = [] ∨ ∃ value, rest = '=' :: value) ∧ text = name ++ rest := by
  obtain ⟨hname, hrest, htext⟩ := Text.takeWhile_dropWhile_eq_iff.mp
    (⟨rfl, rfl⟩ : text.takeWhile (· != '=') = _ ∧ text.dropWhile (· != '=') = _)
  refine ⟨_, _, fun h => by simpa using hname _ h, ?_, htext⟩
  cases hdrop : text.dropWhile (· != '=') with
  | nil => exact .inl rfl
  | cons mark value =>
    rw [hdrop, Text.stops_cons] at hrest
    exact .inr ⟨value, by simpa using hrest⟩

private theorem takeWhile_name (hname : '=' ∉ name) {rest : List Char}
    (hrest : Text.Stops (· != '=') rest) :
    (name ++ rest).takeWhile (· != '=') = name ∧ (name ++ rest).dropWhile (· != '=') = rest :=
  Text.takeWhile_dropWhile_eq_iff.mpr
    ⟨fun c hc => by simpa using fun he : c = '=' => hname (he ▸ hc), hrest, rfl⟩

private theorem readLong_bare (hname : '=' ∉ name) (hoption : rule.Long name option) :
    readLong rule findings name = noteBare findings option := by
  have h := takeWhile_name hname (Text.stops_nil _)
  rw [List.append_nil] at h
  rw [readLong, h.1, h.2, hoption]

private theorem readLong_assigned (hname : '=' ∉ name) (hoption : rule.Long name option)
    (value : List Char) :
    readLong rule findings (name ++ '=' :: value) =
      (noteValue findings option (.ofList value)).map fun findings => (findings, none) := by
  have hstops : Text.Stops (· != '=') ('=' :: value) := Text.stops_cons.mpr (by simp)
  have h := takeWhile_name hname hstops
  rw [readLong, h.1, h.2, hoption]

/-- An option that is not there is not read. -/
private theorem exists_long (hname : '=' ∉ name) {rest : List Char}
    (hrest : rest = [] ∨ ∃ value, rest = '=' :: value)
    (h : readLong rule findings (name ++ rest) = .ok (found, pending)) :
    ∃ option, rule.Long name option := by
  have hstops : Text.Stops (· != '=') rest := by
    rcases hrest with rfl | ⟨value, rfl⟩
    · exact Text.stops_nil _
    · exact Text.stops_cons.mpr (by simp)
  rw [readLong, (takeWhile_name hname hstops).1] at h
  cases hoption : rule.options.find? fun option => option.long == .ofList name with
  | none => simp [hoption] at h
  | some option => exact ⟨option, hoption⟩

private theorem readLong_eq_ok_iff :
    readLong rule findings text = .ok (found, pending) ↔
      ∃ given, AfterTwo rule text given pending ∧ Noted findings given found := by
  constructor
  · intro h
    obtain ⟨name, rest, hname, hrest, rfl⟩ := exists_name text
    obtain ⟨option, hoption⟩ := exists_long hname hrest h
    rcases hrest with rfl | ⟨value, rfl⟩
    · rw [List.append_nil, readLong_bare hname hoption] at h
      rw [List.append_nil]
      rcases noteBare_eq_ok_iff.mp h with ⟨hkind, rfl, hnoted⟩ | ⟨hkind, rfl, rfl⟩
      · exact ⟨_, .switch hname hoption hkind, hnoted⟩
      · exact ⟨_, .apart hname hoption hkind, .done⟩
    · rw [readLong_assigned hname hoption, map_eq_ok_iff] at h
      obtain ⟨_, hvalue, hfound⟩ := h
      cases hfound
      obtain ⟨htakes, hnoted⟩ := noteValue_eq_ok_iff.mp hvalue
      exact ⟨_, .assigned hname hoption htakes, hnoted⟩
  · rintro ⟨given, h, hnoted⟩
    cases h with
    | switch hname hoption hkind =>
      rw [readLong_bare hname hoption]
      exact noteBare_eq_ok_iff.mpr (.inl ⟨hkind, rfl, hnoted⟩)
    | assigned hname hoption htakes =>
      rw [readLong_assigned hname hoption]
      exact map_eq_ok_iff.mpr ⟨found, noteValue_eq_ok_iff.mpr ⟨htakes, hnoted⟩, rfl⟩
    | apart hname hoption hkind =>
      cases hnoted
      rw [readLong_bare hname hoption]
      exact noteBare_eq_ok_iff.mpr (.inr ⟨hkind, rfl, rfl⟩)

end

/-- Letters of which the first has no value are read one by one. -/
private theorem readShort_switch {letter : Char} (hoption : rule.Short letter option)
    (hkind : option.kind = .switch) (letters : List Char) :
    readShort rule findings (letter :: letters) =
      (note findings option "").bind fun findings => readShort rule findings letters := by
  rw [readShort, hoption]
  simp only [hkind, noteBare]
  cases note findings option "" <;> rfl

private theorem readShort_valued {letter : Char} (hoption : rule.Short letter option)
    (hkind : option.IsValued) (letters : List Char) :
    readShort rule findings (letter :: letters) =
      match letters with
      | [] => .ok (findings, some option)
      | '=' :: value => (noteValue findings option (.ofList value)).map fun found => (found, none)
      | value => (noteValue findings option (.ofList value)).map fun found => (found, none) := by
  obtain ⟨accepts, hkind⟩ := hkind
  rw [readShort, hoption]
  simp only [hkind]
  split <;> simp_all

private theorem readShort_halts {letter : Char} {letters : List Char}
    (h : ∀ option, rule.Short letter option → option.kind ≠ .switch ∧ ¬ option.IsValued) :
    readShort rule findings (letter :: letters) ≠ .ok (found, pending) := by
  rw [readShort]
  cases hoption : rule.options.find? fun option => option.short == some letter with
  | none => simp
  | some option =>
    obtain ⟨hswitch, hvalued⟩ := h option hoption
    unfold OptionRule.IsValued at hvalued
    simp only [noteBare]
    cases hkind : option.kind with
    | switch => exact absurd hkind hswitch
    | valued accepts => exact absurd ⟨accepts, hkind⟩ hvalued
    | help | version => simp

private theorem readShort_eq_ok_iff {letters : List Char} :
    readShort rule findings letters = .ok (found, pending) ↔
      ∃ given, AfterOne rule letters given pending ∧ Noted findings given found := by
  constructor
  · intro h
    induction letters generalizing findings with
    | nil =>
      cases h
      exact ⟨[], .done, .done⟩
    | cons letter letters ih =>
      obtain ⟨option, hoption, hkind⟩ : ∃ option, rule.Short letter option ∧
          (option.kind = .switch ∨ option.IsValued) := by
        by_contra! hnone
        exact readShort_halts hnone h
      rcases hkind with hkind | hkind
      · rw [readShort_switch hoption hkind] at h
        obtain ⟨_, hnote, h⟩ := bind_eq_ok_iff.mp h
        obtain ⟨given, hgiven, hnoted⟩ := ih h
        exact ⟨_, .switch hoption hkind hgiven,
          noted_first_iff.mpr ⟨_, note_eq_ok_iff.mp hnote, hnoted⟩⟩
      · rw [readShort_valued hoption hkind] at h
        split at h
        · cases h
          exact ⟨_, .apart hoption hkind, .done⟩
        · obtain ⟨_, hvalue, hfound⟩ := map_eq_ok_iff.mp h
          cases hfound
          obtain ⟨htakes, hnoted⟩ := noteValue_eq_ok_iff.mp hvalue
          exact ⟨_, .assigned hoption htakes, hnoted⟩
        · next hne hfront =>
          obtain ⟨_, hvalue, hfound⟩ := map_eq_ok_iff.mp h
          cases hfound
          obtain ⟨htakes, hnoted⟩ := noteValue_eq_ok_iff.mp hvalue
          refine ⟨_, .attached hoption htakes hne fun hhead => ?_, hnoted⟩
          obtain ⟨value, rfl⟩ := List.head?_eq_some_iff.mp hhead
          exact hfront value rfl
  · rintro ⟨given, h, hnoted⟩
    induction h generalizing findings with
    | done =>
      cases hnoted
      rfl
    | switch hoption hkind rest ih =>
      obtain ⟨_, hfirst, hrest⟩ := noted_first_iff.mp hnoted
      rw [readShort_switch hoption hkind, note_eq_ok_iff.mpr hfirst]
      exact ih hrest
    | assigned hoption htakes =>
      rw [readShort_valued hoption htakes.isValued]
      exact map_eq_ok_iff.mpr ⟨found, noteValue_eq_ok_iff.mpr ⟨htakes, hnoted⟩, rfl⟩
    | attached hoption htakes hne hfront =>
      rw [readShort_valued hoption htakes.isValued]
      split
      · contradiction
      · simp at hfront
      · exact map_eq_ok_iff.mpr ⟨found, noteValue_eq_ok_iff.mpr ⟨htakes, hnoted⟩, rfl⟩
    | apart hoption hkind =>
      cases hnoted
      rw [readShort_valued hoption hkind]

/-! Reading words. -/

private theorem wordOf_long {text : List Char} (hne : text ≠ []) :
    wordOf (.ofList ('-' :: '-' :: text)) = .long text := by
  cases text with
  | nil => contradiction
  | cons c text => simp [wordOf]

private theorem wordOf_short {letters : List Char} (hne : letters ≠ [])
    (hfront : letters.head? ≠ some '-') :
    wordOf (.ofList ('-' :: letters)) = .short letters := by
  cases letters with
  | nil => contradiction
  | cons c letters =>
    have hc : c ≠ '-' := by simpa using hfront
    unfold wordOf
    rw [String.toList_ofList]
    split
    · simp_all
    · simp_all
    · next h => cases h; rfl
    · next h => exact absurd rfl (h c letters)

private theorem wordOf_plain (h : IsPlain word) : wordOf word = .operand := by
  unfold wordOf
  rcases h with h | h
  · rw [h]
    rfl
  · split <;> simp_all

/-- A word is an option, two hyphens alone, or plain. -/
private theorem word_cases (word : String) :
    (∃ text, text ≠ [] ∧ word = .ofList ('-' :: '-' :: text)) ∨
      (∃ letters, letters ≠ [] ∧ letters.head? ≠ some '-' ∧ word = .ofList ('-' :: letters)) ∨
        word = "--" ∨ IsPlain word := by
  obtain ⟨s, rfl⟩ : ∃ s, word = .ofList s := ⟨word.toList, String.ofList_toList.symm⟩
  rcases s with _ | ⟨c, _ | ⟨d, rest⟩⟩
  · simp [IsPlain]
  · by_cases hc : c = '-'
    · simp [IsPlain, hc]
    · simp [IsPlain, hc]
  · by_cases hc : c = '-'
    · subst hc
      by_cases hd : d = '-'
      · subst hd
        cases rest with
        | nil => exact .inr (.inr (.inl rfl))
        | cons e rest => exact .inl ⟨e :: rest, by simp, rfl⟩
      · exact .inr (.inl ⟨d :: rest, by simp, by simpa using hd, rfl⟩)
    · exact .inr (.inr (.inr (.inr (by simpa using hc))))

private theorem canBeValue_iff : canBeValue word = true ↔ IsPlain word := by
  unfold canBeValue
  rcases word_cases word with ⟨text, hne, rfl⟩ | ⟨letters, hne, hfront, rfl⟩ | rfl | h
  · rw [wordOf_long hne]
    simp [IsPlain]
  · rw [wordOf_short hne hfront]
    simp [IsPlain, hne]
  · simp [wordOf, IsPlain]
  · simp [wordOf_plain h, h]

section
variable {stops : Bool} {words rest : List String}

/-- A word that gives options is read for what it gives, whatever stands after it. -/
private theorem readWords_gives (h : Gives rule word given pending)
    (hnoted : Noted findings given found)
    (words : List String) :
    readWords rule stops none findings (word :: words) = readWords rule stops pending found words := by
  cases h with
  | long hne h =>
    rw [readWords, wordOf_long hne]
    simp only [readLong_eq_ok_iff.mpr ⟨_, h, hnoted⟩]
    rfl
  | short hne hfront h =>
    rw [readWords, wordOf_short hne hfront]
    simp only [readShort_eq_ok_iff.mpr ⟨_, h, hnoted⟩]
    rfl

private theorem readWords_value (hplain : IsPlain value) (hvalue : option.Takes value)
    (hnoted : Noted findings [(option.long, value)] found) (words : List String) :
    readWords rule stops (some option) findings (value :: words) =
      readWords rule stops none found words := by
  rw [readWords, if_pos (canBeValue_iff.mpr hplain), noteValue_eq_ok_iff.mpr ⟨hvalue, hnoted⟩]
  rfl

/-- Options are read for what they give, whatever stands after them. -/
theorem readWords_options {front : List String} (h : Options rule front given)
    (hnoted : Noted findings given found) (words : List String) :
    readWords rule stops none findings (front ++ words) = readWords rule stops none found words := by
  induction h generalizing findings with
  | done =>
    cases hnoted
    rfl
  | alone h rest ih =>
    obtain ⟨_, hfirst, hrest⟩ := noted_append_iff.mp hnoted
    rw [List.cons_append, readWords_gives h hfirst, ih hrest]
  | apart h hplain hvalue rest ih =>
    obtain ⟨_, hfirst, hrest⟩ := noted_append_iff.mp hnoted
    obtain ⟨_, hsecond, hrest⟩ := noted_first_iff.mp hrest
    rw [List.cons_append, List.cons_append, readWords_gives h hfirst,
      readWords_value hplain hvalue hsecond, ih hrest]

private theorem exists_gives (hword : word ≠ "--") (hplain : ¬ IsPlain word)
    (h : readWords rule stops none findings (word :: words) = .ok (found, rest)) :
    ∃ given pending noted, Gives rule word given pending ∧ Noted findings given noted ∧
      readWords rule stops pending noted words = .ok (found, rest) := by
  rcases word_cases word with ⟨text, hne, rfl⟩ | ⟨letters, hne, hfront, rfl⟩ | hdelimiter | hword
  · rw [readWords, wordOf_long hne] at h
    obtain ⟨⟨noted, pending⟩, hread, h⟩ := bind_eq_ok_iff.mp h
    obtain ⟨given, hafter, hnoted⟩ := readLong_eq_ok_iff.mp hread
    exact ⟨given, pending, noted, .long hne hafter, hnoted, h⟩
  · rw [readWords, wordOf_short hne hfront] at h
    obtain ⟨⟨noted, pending⟩, hread, h⟩ := bind_eq_ok_iff.mp h
    obtain ⟨given, hafter, hnoted⟩ := readShort_eq_ok_iff.mp hread
    exact ⟨given, pending, noted, .short hne hfront hafter, hnoted, h⟩
  · contradiction
  · contradiction

private theorem exists_value
    (h : readWords rule stops (some option) findings words = .ok (found, rest)) :
    ∃ value after noted, words = value :: after ∧ IsPlain value ∧ option.Takes value ∧
      Noted findings [(option.long, value)] noted ∧
        readWords rule stops none noted after = .ok (found, rest) := by
  cases words with
  | nil => simp [readWords] at h
  | cons value after =>
    rw [readWords] at h
    split at h
    · next hcan =>
      obtain ⟨noted, hvalue, h⟩ := bind_eq_ok_iff.mp h
      obtain ⟨htakes, hnoted⟩ := noteValue_eq_ok_iff.mp hvalue
      exact ⟨value, after, noted, rfl, canBeValue_iff.mp hcan, htakes, hnoted, h⟩
    · cases h

/-- Words that do not begin with an option. -/
def PastOptions (words : List String) : Prop := ∀ word ∈ words.head?, word = "--" ∨ IsPlain word

/-- What is read begins with options, up to the first word that is none. -/
theorem exists_options (h : readWords rule stops none findings words = .ok (found, rest)) :
    ∃ front after given noted, words = front ++ after ∧ Options rule front given ∧
      Noted findings given noted ∧ PastOptions after ∧
        readWords rule stops none noted after = .ok (found, rest) := by
  -- An option takes one word or two, so the induction is on how many words are left.
  induction hlength : words.length using Nat.strong_induction_on generalizing words findings with
  | _ length ih =>
    subst hlength
    by_cases hpast : PastOptions words
    · exact ⟨[], words, [], findings, rfl, .done, .done, hpast, h⟩
    · cases words with
      | nil => simp [PastOptions] at hpast
      | cons word words =>
        obtain ⟨hword, hplain⟩ : word ≠ "--" ∧ ¬ IsPlain word := by
          simpa [PastOptions] using hpast
        obtain ⟨given, pending, noted, hgives, hnoted, h⟩ := exists_gives hword hplain h
        cases pending with
        | none =>
          obtain ⟨front, after, more, noted', rfl, hfront, hmore, hafter, h⟩ :=
            ih words.length (by simp only [List.length_cons]; omega) h rfl
          exact ⟨word :: front, after, _, noted', rfl, .alone hgives hfront,
            noted_append_iff.mpr ⟨noted, hnoted, hmore⟩, hafter, h⟩
        | some option =>
          obtain ⟨value, words, noted', rfl, hvalue, htakes, hnext, h⟩ := exists_value h
          obtain ⟨front, after, more, noted'', rfl, hfront, hmore, hafter, h⟩ :=
            ih words.length (by simp only [List.length_cons]; omega) h rfl
          have hboth := noted_first_iff.mpr ⟨noted', hnext, hmore⟩
          exact ⟨word :: value :: front, after, _, noted'', rfl, .apart hgives hvalue htakes hfront,
            noted_append_iff.mpr ⟨noted, hnoted, hboth⟩, hafter, h⟩

private theorem noteOperand_ne_ok (hoperands : rule.operands = []) :
    noteOperand rule findings word ≠ .ok found := by
  simp [noteOperand, hoperands]

/-- What stands behind the options of a command without operands, and what is left to read of it. -/
inductive Behind : (stops : Bool) → List String → List String → Prop
  | nothing {stops : Bool} : Behind stops [] []
  | closed {stops : Bool} : Behind stops ["--"] []
  | operand {word : String} {words : List String} (h : IsPlain word) :
      Behind true (word :: words) (word :: words)

private theorem not_isPlain_delimiter : ¬ IsPlain "--" := by simp [IsPlain]

private theorem behind_nil_iff : Behind stops [] rest ↔ rest = [] :=
  ⟨fun h => by cases h; rfl, fun h => by rw [h]; exact .nothing⟩

private theorem behind_delimiter_iff :
    Behind stops ("--" :: words) rest ↔ words = [] ∧ rest = [] := by
  constructor
  · intro h
    cases h with
    | closed => exact ⟨rfl, rfl⟩
    | operand h => exact absurd h not_isPlain_delimiter
  · rintro ⟨rfl, rfl⟩
    exact .closed

private theorem behind_plain_iff (hplain : IsPlain word) :
    Behind stops (word :: words) rest ↔ stops = true ∧ rest = word :: words := by
  constructor
  · intro h
    cases h with
    | closed => exact absurd hplain not_isPlain_delimiter
    | operand => exact ⟨rfl, rfl⟩
  · rintro ⟨rfl, rfl⟩
    exact .operand hplain

private theorem Behind.pastOptions (h : Behind stops words rest) : PastOptions words := by
  cases h with
  | nothing => simp [PastOptions]
  | closed => simp [PastOptions]
  | operand h => simp [PastOptions, h]

private theorem readWords_past_iff (hoperands : rule.operands = []) (hpast : PastOptions words) :
    readWords rule stops none findings words = .ok (found, rest) ↔
      Behind stops words rest ∧ found = findings := by
  cases words with
  | nil => simp [readWords, behind_nil_iff, eq_comm, and_comm]
  | cons word words =>
    rcases hpast word rfl with rfl | hplain
    · have hword : wordOf "--" = .delimiter := by simp [wordOf]
      rw [readWords, hword, behind_delimiter_iff]
      cases words with
      | nil => simp [readOperands, bind, Except.bind, pure, Except.pure, eq_comm, and_comm]
      | cons word words => simp [bind_eq_ok_iff, readOperands, noteOperand_ne_ok hoperands]
    · rw [readWords, wordOf_plain hplain, behind_plain_iff hplain]
      cases stops with
      | true => simp [pure, Except.pure, eq_comm, and_comm]
      | false => simp [bind_eq_ok_iff, noteOperand_ne_ok hoperands]

/-- The words of a command without operands are read off the options at their front. -/
theorem readWords_eq_ok_iff (hoperands : rule.operands = []) :
    readWords rule stops none findings words = .ok (found, rest) ↔
      ∃ front given after, words = front ++ after ∧ Options rule front given ∧
        Noted findings given found ∧ Behind stops after rest := by
  constructor
  · intro h
    obtain ⟨front, after, given, noted, rfl, hfront, hnoted, hpast, h⟩ := exists_options h
    obtain ⟨hbehind, rfl⟩ := (readWords_past_iff hoperands hpast).mp h
    exact ⟨front, given, after, rfl, hfront, hnoted, hbehind⟩
  · rintro ⟨front, given, after, rfl, hfront, hnoted, hbehind⟩
    rw [readWords_options hfront hnoted]
    exact (readWords_past_iff hoperands hbehind.pastOptions).mpr ⟨hbehind, rfl⟩

end

/-! Starting the hub. -/

/-- A command line that starts the hub, what it gives ahead of the name of the command, and what
after it. -/
inductive StartLine : List String → Given → Given → Prop
  | line {before after close : List String} {ahead given : Given}
      (hbefore : Options programRule before ahead) (hahead : ahead.Distinct)
      (hafter : Options Topic.start.rule after given) (hgiven : given.Distinct)
      (hclose : close = [] ∨ close = ["--"]) :
      StartLine (before ++ "start" :: (after ++ close)) ahead given

/-- The host that is served where none is given. -/
def hostOf (given : Given) : String := (given.lookup "host").getD standardHost

/-- The port that is served. -/
def portOf (given : Given) : UInt16 := ((given.lookup "port").bind port?).getD standardPort

private theorem Noted.value?_of_none (h : Noted .none given found) (name : String) :
    found.value? name = given.lookup name := by
  rw [h.value?]
  simp [Findings.none, Findings.value?]

private theorem exists_noted_none_iff : (∃ found, Noted .none given found) ↔ given.Distinct := by
  rw [exists_noted_iff]
  simp [Findings.has, Findings.none, Findings.value?]

private theorem commandOf?_start (h : Noted .none given found) :
    commandOf? .start found = some (.start (hostOf given) (portOf given)) := by
  simp only [commandOf?, h.operands, Findings.none, h.value?_of_none, hostOf, portOf]

/-- Only the command of that name starts the hub. -/
private theorem lookup_start_iff {name : String} :
    topics.lookup name = some .start ↔ name = "start" := by
  constructor
  · intro h
    unfold topics at h
    by_contra hne
    simp only [List.lookup_cons, beq_false_of_ne hne] at h
    repeat' split at h
    all_goals simp_all
  · rintro rfl
    rfl

private theorem topic_of_start {topic : Topic} {host : String} {port : UInt16}
    (h : commandOf? topic found = some (.start host port)) : topic = .start := by
  unfold commandOf? at h
  split at h <;> simp_all

private theorem readTopic_start_iff {ahead : Findings} {topic : Topic} {words : List String}
    {host : String} {port : UInt16} {path : Option String} :
    readTopic ahead topic words = .run ⟨.start host port, path⟩ ↔
      topic = .start ∧ ∃ after given close, words = after ++ close ∧
        Options Topic.start.rule after given ∧ given.Distinct ∧ (close = [] ∨ close = ["--"]) ∧
          host = hostOf given ∧ port = portOf given ∧
            path = (given.lookup "config").or (ahead.value? "config") := by
  constructor
  · intro h
    unfold readTopic at h
    split at h
    · next halt _ => cases halt <;> cases h
    · next found rest hread =>
      split at h
      · next command hcommand =>
        cases h
        obtain rfl := topic_of_start hcommand
        obtain ⟨after, given, close, rfl, hafter, hnoted, hbehind⟩ :=
          (readWords_eq_ok_iff rfl).mp hread
        cases (commandOf?_start hnoted).symm.trans hcommand
        have hdistinct := exists_noted_none_iff.mp ⟨found, hnoted⟩
        refine ⟨rfl, after, given, close, rfl, hafter, hdistinct, ?_, rfl, rfl, ?_⟩
        · cases hbehind with
          | nothing => exact .inl rfl
          | closed => exact .inr rfl
        · rw [hnoted.value?_of_none]
      · cases h
  · rintro ⟨rfl, after, given, close, rfl, hafter, hdistinct, hclose, rfl, rfl, rfl⟩
    obtain ⟨found, hnoted⟩ := exists_noted_none_iff.mpr hdistinct
    have hbehind : Behind false close [] := by
      rcases hclose with rfl | rfl
      · exact .nothing
      · exact .closed
    have hread : readWords Topic.start.rule false none .none (after ++ close) = .ok (found, []) :=
      (readWords_eq_ok_iff rfl).mpr ⟨after, given, close, rfl, hafter, hnoted, hbehind⟩
    simp only [readTopic, hread, commandOf?_start hnoted, hnoted.value?_of_none]

/-- The configuration file that is named; what is given ahead of the command goes after. -/
def fileOf (ahead given : Given) : Option String :=
  (given.lookup "config").or (ahead.lookup "config")

/-- A command line starts the hub exactly if it is written so. -/
theorem readArguments_eq_start_iff {words : List String} {host : String} {port : UInt16}
    {path : Option String} :
    readArguments words = .run ⟨.start host port, path⟩ ↔
      ∃ ahead given, StartLine words ahead given ∧ host = hostOf given ∧ port = portOf given ∧
        path = fileOf ahead given := by
  constructor
  · intro h
    unfold readArguments at h
    split at h
    · next halt _ => cases halt <;> cases h
    · cases h
    · next found name rest hread =>
      obtain ⟨before, ahead, behind, rfl, hbefore, hahead, hbehind⟩ :=
        (readWords_eq_ok_iff rfl).mp hread
      obtain rfl : behind = name :: rest := by cases hbehind; rfl
      have hdistinct := exists_noted_none_iff.mp ⟨found, hahead⟩
      split at h
      · cases h
      · unfold readHelp at h
        repeat' split at h
        all_goals cases h
      · next topic _ htopic =>
        obtain ⟨rfl, after, given, close, rfl, hafter, hgiven, hclose, hhost, hport, hpath⟩ :=
          readTopic_start_iff.mp h
        obtain rfl := lookup_start_iff.mp htopic
        rw [hahead.value?_of_none] at hpath
        exact ⟨ahead, given, .line hbefore hdistinct hafter hgiven hclose, hhost, hport, hpath⟩
  · rintro ⟨ahead, given, hline, rfl, rfl, rfl⟩
    cases hline with
    | @line before after close _ _ hbefore hahead hafter hgiven hclose =>
      obtain ⟨found, hnoted⟩ := exists_noted_none_iff.mpr hahead
      have hread : readWords programRule true none .none (before ++ "start" :: (after ++ close)) =
          .ok (found, "start" :: (after ++ close)) :=
        (readWords_eq_ok_iff rfl).mpr ⟨before, ahead, _, rfl, hbefore, hnoted,
          .operand (by simp [IsPlain])⟩
      have htopic : topics.lookup "start" = some .start := lookup_start_iff.mpr rfl
      rw [fileOf, ← hnoted.value?_of_none]
      simp only [readArguments, hread, htopic]
      exact readTopic_start_iff.mpr
        ⟨rfl, after, given, close, rfl, hafter, hgiven, hclose, rfl, rfl, rfl⟩

end Signage.Cli
