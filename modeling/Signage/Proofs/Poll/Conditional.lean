import Mathlib.Data.Rat.Floor
import Signage.Proofs.Calendar.MailDates
import Signage.Proofs.Poll.Endings

/-!
Conditional answers. A device that tells a date is sent the file exactly if the file has changed after
the second of that date, and the headers of both answers tell the same of the file.
-/
namespace Signage.Calendar

/-- The moment as a number of seconds. -/
def Moment.time (moment : Moment) : ℚ := moment.seconds + moment.nanoseconds / 10 ^ 9

/-- Parts of a second are left out of the seconds of a moment, also before 1970. -/
theorem Moment.floor_time {moment : Moment} (h : moment.nanoseconds < 10 ^ 9) :
    ⌊moment.time⌋ = moment.seconds := by
  have hpart : (moment.nanoseconds : ℚ) / 10 ^ 9 < 1 := by
    rw [div_lt_one (by norm_num)]
    exact_mod_cast h
  have hnonneg : (0 : ℚ) ≤ moment.nanoseconds / 10 ^ 9 := by positivity
  rw [time, Int.floor_intCast_add, Int.floor_eq_zero_iff.mpr ⟨hnonneg, hpart⟩, add_zero]

end Signage.Calendar

namespace Signage.Poll
open Calendar Files Text

/-- The answer with a file to a device that has it or not. -/
def Response.withFile (path : List Char) (file : Opened) (has : Prop) [Decidable has] : Response :=
  if has then .notModified path file else .served path file

variable {fs : FileSystem} {path : List Char}

section
variable {file : Opened}

private theorem answerWith_of_mailDate {text : List Char} {second : Int}
    (h : IsMailDate (trim text) second) :
    answerWith path file (some text) = .withFile path file (file.modified.seconds ≤ second) := by
  have hread : readMailDate? (trim text) = some second := readMailDate?_eq_some_iff.mpr h
  simp [answerWith, isCurrent, hread, Response.withFile]

private theorem answerWith_of_no_mailDate {since : Option (List Char)}
    (h : ∀ text ∈ since, ∀ second, ¬ IsMailDate (trim text) second) :
    answerWith path file since = .served path file := by
  have hread : (since.bind fun text => readMailDate? (trim text)) = none := by
    cases since with
    | none => rfl
    | some text =>
      refine Option.eq_none_iff_forall_not_mem.mpr fun second hsecond => ?_
      exact h text rfl second (readMailDate?_eq_some_iff.mp hsecond)
  simp [answerWith, isCurrent, hread]

private theorem isMailDate_httpDate {second : Int} (h : hasPlainYear second)
    {before after : List Char}
    (hbefore : AreBlanks before) (hafter : AreBlanks after) :
    IsMailDate (trim (before ++ httpDate second ++ after)) second := by
  rw [trim_append_blanks hbefore hafter, trim_httpDate]
  exact readMailDate?_eq_some_iff.mp (readMailDate?_httpDate h)

end

/-- The value of a header, if there is such a header. -/
def Headers.value? (headers : Headers) (name : String) : Option String := headers.lookup name

/-- The two answers with a file tell the same of it, and only the one that sends it describes a
body. -/
structure TellAlike (now : Moment) (path : List Char) (file : Opened) : Prop where
  status : (Response.notModified path file).status = 304 ∧ (Response.served path file).status = 200
  caching : ∃ value, ((Response.notModified path file).headers now).value? "cache-control" = some value ∧
    ((Response.served path file).headers now).value? "cache-control" = some value
  modified : ∃ value, ((Response.notModified path file).headers now).value? "last-modified" = some value ∧
    ((Response.served path file).headers now).value? "last-modified" = some value
  bare : (Response.notModified path file).body = .empty ∧
    ∀ header ∈ (Response.notModified path file).headers now, ¬ "content-".toList <+: header.1.toList
  sent : (Response.served path file).body = file.bytes ∧
    ((Response.served path file).headers now).value? "content-length" =
      some (.ofList (numeral (Response.served path file).body.size))

private theorem tellAlike (now : Moment) (path : List Char) (file : File) :
    TellAlike now path file.opened where
  status := ⟨rfl, rfl⟩
  caching := ⟨_, rfl, rfl⟩
  modified := ⟨_, rfl, rfl⟩
  bare := by
    have hnames : ∀ name ∈ ["cache-control", "last-modified"], ¬ "content-".toList <+: name.toList := by
      decide
    exact ⟨rfl, fun header hheader => hnames header.1 (List.mem_map_of_mem hheader)⟩
  sent := ⟨rfl, rfl⟩

/-- A date is answered by its second compared with the time of the file, rounded down, and anything
else like no date. -/
theorem conditional_answers {file : File} (hfile : fs.find (.ofText path) = .ok (.file file))
    (hmoment : file.modified.nanoseconds < 10 ^ 9) (hyear : hasPlainYear file.modified.seconds) :
    (∀ second before after, hasPlainYear second → AreBlanks before → AreBlanks after →
      answerFrom fs path (some (before ++ httpDate second ++ after)) =
        .ok (.withFile path file.opened (⌊file.modified.time⌋ ≤ second))) ∧
    (∀ since, (∀ text ∈ since, ∀ second, ¬ IsMailDate (trim text) second) →
      answerFrom fs path since = .ok (.served path file.opened)) ∧
    (∀ now since response, answerFrom fs path since = .ok response →
      ∃ date, (response.headers now).value? "last-modified" = some date ∧
        answerFrom fs path (some date.toList) = .ok (.notModified path file.opened)) ∧
    (∀ earlier later second second', IsMailDate (trim earlier) second →
      IsMailDate (trim later) second' → second ≤ second' →
      answerFrom fs path (some earlier) = .ok (.notModified path file.opened) →
      answerFrom fs path (some later) = .ok (.notModified path file.opened)) ∧
    ∀ now, TellAlike now path file.opened := by
  have hanswer (since : Option (List Char)) :
      answerFrom fs path since = .ok (answerWith path file.opened since) :=
    answerFrom_of_view (view_of_find hfile)
  have hdate {text : List Char} {second : Int} (h : IsMailDate (trim text) second) :
      answerFrom fs path (some text) =
        .ok (.withFile path file.opened (⌊file.modified.time⌋ ≤ second)) := by
    rw [hanswer, answerWith_of_mailDate h]
    simp only [Moment.floor_time hmoment]
    rfl
  refine ⟨fun second before after hs hbefore hafter => ?_, fun since hsince => ?_,
    fun now since response hresponse => ?_, fun earlier later second second' hs hs' hle h => ?_,
    fun now => tellAlike now path file⟩
  · exact hdate (isMailDate_httpDate hs hbefore hafter)
  · rw [hanswer, answerWith_of_no_mailDate hsince]
  · have hown : (response.headers now).value? "last-modified" =
        some (.ofList (httpDate file.modified.seconds)) := by
      rw [hanswer] at hresponse
      cases hresponse
      unfold answerWith
      split <;> rfl
    refine ⟨_, hown, ?_⟩
    have htrim := isMailDate_httpDate hyear areBlanks_nil areBlanks_nil
    rw [List.nil_append, List.append_nil] at htrim
    rw [String.toList_ofList, hdate htrim, Response.withFile,
      if_pos (Moment.floor_time hmoment).le]
  · rw [hdate hs] at h
    rw [hdate hs']
    unfold Response.withFile at h ⊢
    split at h
    · next hbefore => rw [if_pos (hbefore.trans hle)]
    · cases h

/-- A file that changed half a second before 1970. -/
def oldFile : File := ⟨.empty, ⟨-1, 500000000⟩⟩

/-- A tree with a file and nothing else. -/
def oldTree : FileSystem := .holding [([['f']], .file oldFile)]

/-- The second before 1970 is told for the file, and the next answer tells that it has not changed
since; a second earlier it has. -/
theorem conditional_answers_before_epoch :
    oldTree.find (.ofText ['/', 'f']) = .ok (.file oldFile) ∧ ⌊oldFile.modified.time⌋ = -1 ∧
      answerFrom oldTree ['/', 'f'] none = .ok (.served ['/', 'f'] oldFile.opened) ∧
      answerFrom oldTree ['/', 'f'] (some ([' '] ++ httpDate (-1) ++ ['\t'])) =
        .ok (.notModified ['/', 'f'] oldFile.opened) ∧
      answerFrom oldTree ['/', 'f'] (some ([] ++ httpDate (-2) ++ [])) =
        .ok (.served ['/', 'f'] oldFile.opened) := by
  have hfile : oldTree.find (.ofText ['/', 'f']) = .ok (.file oldFile) := by rfl
  have hmoment : oldFile.modified.nanoseconds < 10 ^ 9 := by decide
  have hfloor : ⌊oldFile.modified.time⌋ = -1 := Moment.floor_time hmoment
  obtain ⟨hdates, hnone, -⟩ := conditional_answers hfile hmoment (by decide)
  refine ⟨hfile, hfloor, hnone none nofun, ?_, ?_⟩
  · rw [hdates _ _ _ (by decide) (by decide) (by decide)]
    simp only [hfloor]
    rfl
  · rw [hdates _ _ _ (by decide) areBlanks_nil areBlanks_nil]
    simp only [hfloor]
    rfl

end Signage.Poll
