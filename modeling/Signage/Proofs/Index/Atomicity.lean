import Mathlib.Data.List.Basic
import Signage.Proofs.Files.Ancestors
import Signage.Proofs.Files.Trees
import Signage.Proofs.Index.Publication

/-!
What readers find while content is published. A publication passes through three kinds of trees: one
in which no file has changed, one with a temporary file beside the target, and one in which the target
is replaced. In each of them the path holds what it held before or all of the new content.
-/
namespace Signage.Files

/-- A path that does not ask for a directory ends in a name of its own. -/
theorem Path.getLast?_names_ne_parentName {path : Path} (h : path.wantsDirectory = false) :
    path.names.getLast? ≠ some parentName := by
  intro hlast
  have hempty : path.isEmpty = false := by
    refine Bool.eq_false_iff.mpr fun he => ?_
    rw [Path.isEmpty, Bool.and_eq_true, List.all_eq_true] at he
    have hmem := List.mem_filter.mp (List.mem_of_getLast? hlast)
    have hnil := List.isEmpty_iff.mp (he.1 _ hmem.1)
    cases hnil
  rw [Path.wantsDirectory, hempty, Bool.not_false, Bool.true_and] at h
  rcases List.eq_nil_or_concat' path.parts with hparts | ⟨front, part, hparts⟩
  · rw [Path.names, hparts] at hlast
    cases hlast
  · rw [hparts, List.getLast?_concat, Option.any_some, Bool.or_eq_false_iff, Bool.not_eq_false'] at h
    have hpart : path.names.getLast? = some part := by
      simp [Path.names, hparts, List.filter_append, h.1]
    rw [hpart, Option.some.injEq] at hlast
    simp [hlast] at h

namespace FileSystem
variable {fs fs' : FileSystem} {path : Path} {place : Location} {file : File}

/-- The file that lies where a path means it to lie. -/
def held? (fs : FileSystem) (path : Path) : Option File :=
  if path.wantsDirectory then none
  else
    match fs.node? (path.place fs.workingDirectory) with
    | some (.file file) => some file
    | _ => none

private theorem held?_eq_some_iff : fs.held? path = some file ↔
    path.wantsDirectory = false ∧ fs.node? (path.place fs.workingDirectory) = some (.file file) := by
  unfold held?
  cases path.wantsDirectory with
  | true => simp
  | false =>
    rcases fs.node? (path.place fs.workingDirectory) with _ | _ | other <;> simp

private theorem held?_of_read (h : fs.read path = .ok file) : fs.held? path = some file := by
  obtain ⟨place, hl, hn, hw⟩ := find_eq_file_iff.mp (read_eq_ok_iff.mp h)
  rw [locate_eq_place hl] at hn
  exact held?_eq_some_iff.mpr ⟨hw, hn⟩

private theorem read_of_held? (hl : fs.locate path = .ok place) (h : fs.held? path = some file) :
    fs.read path = .ok file := by
  obtain ⟨hw, hn⟩ := held?_eq_some_iff.mp h
  rw [← locate_eq_place hl] at hn
  exact read_eq_ok_iff.mpr (find_eq_file_iff.mpr ⟨place, hl, hn, hw⟩)

private theorem held?_congr (hwd : fs'.workingDirectory = fs.workingDirectory)
    (h : path.wantsDirectory = false → ∀ file,
      fs'.node? (path.place fs.workingDirectory) = some (.file file) ↔
        fs.node? (path.place fs.workingDirectory) = some (.file file)) :
    fs'.held? path = fs.held? path := by
  refine Option.ext fun file => ?_
  rw [held?_eq_some_iff, held?_eq_some_iff, hwd]
  exact and_congr_right fun hw => h hw file

private theorem Extends.held?_eq (h : fs.Extends fs') (path : Path) :
    fs'.held? path = fs.held? path :=
  held?_congr h.workingDirectory fun _ _ => h.file_iff

end FileSystem
end Signage.Files

namespace Signage.Index
open Files Files.FileSystem Files.Work

variable {outages : Outages} {now : Calendar.Moment} {text content : List Char}
  {fs fs' state seen : FileSystem} {directory path target : Path} {place : Location} {file new : File}

/-- A temporary file does not lie where the file lies that it is to replace. -/
theorem Temporary.place_ne (h : Temporary fs fs' path target place file) (hnames : target.names ≠ [])
    (hw : target.wantsDirectory = false) (start : Location) : place ≠ target.place start := by
  obtain ⟨above, name, rfl, hname⟩ := h.named
  obtain ⟨front, last, hlast⟩ := (List.eq_nil_or_concat' target.names).resolve_left hnames
  have hup := Path.getLast?_names_ne_parentName hw
  rw [hlast, List.getLast?_concat] at hup hname
  rw [Path.place, hlast, follow_concat fun h => hup (congrArg some h)]
  intro heq
  exact hname (congrArg some (List.cons.inj (List.append_inj_right' heq rfl)).1.symm)

/-- How far the replacement of a file has come. -/
inductive Stage (fs : FileSystem) (target : Path) (new : File) : FileSystem → Prop
  | untouched {state : FileSystem} (h : fs.Extends state) : Stage fs target new state
  | drafted {made state : FileSystem} {path : Path} {draft : Location} {file : File}
      (hmade : fs.Extends made) (hnames : target.names ≠ [])
      (h : Temporary made state path target draft file) : Stage fs target new state
  | replaced {state : FileSystem} (h : fs.Replaces state (target.place fs.workingDirectory) new) :
      Stage fs target new state

namespace Stage

private theorem refl (fs : FileSystem) (target : Path) (new : File) : Stage fs target new fs :=
  .untouched (.refl fs)

/-- A file that comes once the directories are made is the new file at its place. -/
theorem of_enter {made : FileSystem} (hmade : fs.Extends made)
    (he : made.enter target new now = .ok state) : Stage fs target new state := by
  have hreplaces := hmade.replaces (puts_of_enter he).replaces
  rw [hmade.workingDirectory] at hreplaces
  exact .replaced hreplaces

private theorem keepsDirectories (h : Stage fs target new state) : fs.KeepsDirectories state := by
  cases h with
  | untouched h => exact h.keepsDirectories
  | drafted hmade _ h => exact hmade.keepsDirectories.trans h.puts.replaces.keepsDirectories
  | replaced h => exact h.keepsDirectories

/-- But for the target and one temporary file, all files are as they were. -/
theorem others (h : Stage fs target new state) :
    ∃ draft, ∀ place file, place ≠ draft → place ≠ target.place fs.workingDirectory →
      (state.node? place = some (.file file) ↔ fs.node? place = some (.file file)) := by
  cases h with
  | untouched h => exact ⟨[], fun place file _ _ => h.file_iff⟩
  | @drafted _ _ _ draft _ hmade _ h =>
    refine ⟨draft, fun place file hp _ => ?_⟩
    rw [h.puts.node place hp]
    exact hmade.file_iff
  | replaced h =>
    refine ⟨[], fun place file _ hp => ?_⟩
    rcases h.node place hp with hn | ⟨hn, hd⟩
    · rw [hn]
    · simp [hn, hd]

/-- At every stage the target holds what it held before or the new file. -/
theorem held?_cases (h : Stage fs target new state) :
    state.held? target = fs.held? target ∨ state.held? target = some new := by
  cases h with
  | untouched h => exact .inl (h.held?_eq target)
  | drafted hmade hnames h =>
    left
    rw [← hmade.held?_eq target]
    refine held?_congr h.puts.workingDirectory fun hw file => ?_
    rw [h.puts.node _ (h.place_ne hnames hw _).symm]
  | replaced h =>
    cases hw : target.wantsDirectory with
    | true => simp [FileSystem.held?, hw]
    | false =>
      right
      rw [held?_eq_some_iff, h.workingDirectory]
      exact ⟨hw, h.after⟩

end Stage

/-- What is found at a path, and in all other places, while a file is put there: the path holds what it
held before or all of the new file, what could be read can still be read, and there is at most one
file more anywhere else. What a path holds lies in the place that it means, while reading follows it
through the directories that are there. The two part for a path that goes up from a directory still
to be made: nothing can be read there, although its place may hold a file, which comes to be read as
soon as the directory is made. Only where the path is steady is what is read then what was read
before. -/
structure Intact (fs seen : FileSystem) (target : Path) (new : File) : Prop where
  held : seen.held? target = fs.held? target ∨ seen.held? target = some new
  reads : ∀ file, seen.read target = .ok file → fs.held? target = some file ∨ file = new
  readable : ∀ file, fs.read target = .ok file → ∃ found, seen.read target = .ok found
  steady : fs.IsTree → target.IsSteady fs → ∀ file, seen.read target = .ok file →
    fs.read target = .ok file ∨ file = new
  others : ∃ draft, ∀ place file, place ≠ draft → place ≠ target.place fs.workingDirectory →
    (seen.node? place = some (.file file) ↔ fs.node? place = some (.file file))

private theorem Stage.intact (h : Stage fs target new state) (hseen : state.Extends seen) :
    Intact fs seen target new := by
  have hkeeps := h.keepsDirectories.trans hseen.keepsDirectories
  have hheld := h.held?_cases
  rw [← hseen.held?_eq target] at hheld
  have hreads (file : File) (hr : seen.read target = .ok file) :
      fs.held? target = some file ∨ file = new := by
    rw [held?_of_read hr] at hheld
    exact hheld.imp Eq.symm Option.some.inj
  refine ⟨hheld, hreads, fun file hr => ?_, fun htree hsteady file hr => ?_, ?_⟩
  · obtain ⟨place, hl, -⟩ := find_eq_file_iff.mp (read_eq_ok_iff.mp hr)
    have hl' := hkeeps.locate hl
    rcases hheld with hs | hs
    · exact ⟨file, read_of_held? hl' (hs.trans (held?_of_read hr))⟩
    · exact ⟨new, read_of_held? hl' hs⟩
  · refine (hreads file hr).imp_left fun hbefore => ?_
    obtain ⟨place, hl, -⟩ := find_eq_file_iff.mp (read_eq_ok_iff.mp hr)
    have hn := (held?_eq_some_iff.mp hbefore).2
    rw [← hkeeps.workingDirectory, ← locate_eq_place hl] at hn
    exact read_of_held? (htree.locate hsteady hkeeps (by simp [hn]) hl) hbefore
  · obtain ⟨draft, hothers⟩ := h.others
    exact ⟨draft, fun place file hd hp => hseen.file_iff.trans (hothers place file hd hp)⟩

private theorem passStep_visits {kind : FileSystem → Prop} (step : Step) (h : kind fs) :
    (passStep outages step).Visits fs kind := by
  unfold passStep
  split
  · exact visits_throw h
  · exact visits_pure h

private theorem makeTemporary_visits {kind : FileSystem → Prop} (h : kind fs)
    (hdraft : ∀ state path draft file, Temporary fs state path target draft file → kind state) :
    (makeTemporary directory target now).Visits fs kind := by
  unfold makeTemporary
  refine visits_bind (visits_tree h) (leads_tree fun current heq => ?_)
  cases heq
  split
  · next path hfresh =>
    have hwritten (state : FileSystem) (hw : fs.write path ⟨.empty, now⟩ = .ok state) : kind state := by
      obtain ⟨draft, hfile⟩ := exists_temporary hfresh hw
      exact hdraft state path draft _ hfile
    refine visits_bind (visits_change h hwritten) (leads_change (fun state hw _ _ => ?_) ?_)
    · exact visits_pure (hwritten state hw)
    · rintro fault - a heq
      cases heq
  · exact visits_throw h

private theorem passStep_bind_visits {α : Type} {kind : FileSystem → Prop} {work : Work α}
    (step : Step) (h : kind fs) (hwork : work.Visits fs kind) :
    (passStep outages step >>= fun _ => work).Visits fs kind := by
  refine visits_bind (passStep_visits step h) (passStep_leads (fun _ _ _ => hwork) ?_)
  rintro - a heq
  cases heq

private theorem moving_visits {kind : FileSystem → Prop} {temporary : Path} {made : FileSystem}
    {bytes : ByteArray} (h : Temporary fs made temporary target place file)
    (hdraft : ∀ state path draft file, Temporary fs state path target draft file → kind state)
    (hdone : ∀ base state, fs.Matches base → base.enter target ⟨bytes, now⟩ now = .ok state →
      kind state) :
    (do passStep outages .write
        change fun fs => fs.write temporary ⟨bytes, now⟩
        passStep outages .sync
        passStep outages .replace
        change fun fs => fs.rename temporary target now : Work Unit).Visits made kind := by
  have hmade := hdraft made temporary place file h
  have hfilled := h.rewritten ⟨bytes, now⟩
  have hdrafted := hdraft _ temporary place _ hfilled
  refine passStep_bind_visits _ hmade (visits_bind ?_ ?_)
  · refine visits_change hmade fun state hw => ?_
    rw [h.write] at hw
    cases hw
    exact hdrafted
  · refine leads_change (fun state hw _ _ => ?_) ?_
    · rw [h.write] at hw
      cases hw
      refine passStep_bind_visits _ hdrafted (passStep_bind_visits _ hdrafted ?_)
      refine visits_change hdrafted fun state hm => ?_
      rw [hfilled.rename] at hm
      exact hdone _ state (hfilled.touched_drop now).toMatches hm
    · rintro fault - a heq
      cases heq

/-- The replacement of a file passes through the tree as it is, trees with a temporary file, and the
tree in which the file is replaced. -/
private theorem replaceFile_visits {kind : FileSystem → Prop} {bytes : ByteArray}
    (h : ∀ state, fs.Matches state → kind state)
    (hdraft : ∀ state path draft file, Temporary fs state path target draft file → kind state)
    (hdone : ∀ base state, fs.Matches base → base.enter target ⟨bytes, now⟩ now = .ok state →
      kind state) :
    (replaceFile outages now directory target bytes).Visits fs kind := by
  unfold replaceFile
  have hbefore := h fs (.refl fs)
  refine passStep_bind_visits _ hbefore (visits_bind (makeTemporary_visits hbefore hdraft) ?_)
  refine (makeTemporary_leads directory target now).mono fun answer made hmade temporary heq => ?_
  subst heq
  obtain ⟨-, draft, hfile⟩ := hmade
  refine visits_tryCatch (moving_visits hfile hdraft hdone) ?_
  refine (moving_leads outages now bytes hfile).mono fun answer state hleft error heq => ?_
  subst heq
  obtain ⟨-, -, left, hleft⟩ := hleft
  -- The temporary file is removed, which leads back to the files before it.
  refine visits_bind (visits_change (hdraft state temporary draft left hleft) fun fs' hr => ?_) ?_
  · rw [hleft.remove] at hr
    cases hr
    exact h _ (hleft.touched_drop now).toMatches
  · refine leads_change (fun fs' hr _ _ => ?_) fun fault hr => ?_
    · rw [hleft.remove] at hr
      cases hr
      exact visits_throw (h _ (hleft.touched_drop now).toMatches)
    · rw [hleft.remove] at hr
      cases hr

private theorem published?_visits {kind : FileSystem → Prop} (h : kind fs) :
    (published? outages path).Visits fs kind := by
  unfold published?
  refine passStep_bind_visits _ h (visits_bind (visits_tree h) (leads_tree fun current heq => ?_))
  cases heq
  split
  · exact visits_pure h
  · exact visits_pure h
  · exact visits_throw h

private theorem makeDirectories_visits {kind : FileSystem → Prop} (h : kind fs)
    (hmade : kind (fs.makeDirectories directory now).1) :
    (makeDirectories outages now directory).Visits fs kind := by
  unfold makeDirectories
  refine passStep_bind_visits _ h (visits_bind (visits_tree h) (leads_tree fun current heq => ?_))
  cases heq
  refine visits_bind (visits_become h hmade) (leads_become fun _ _ => ?_)
  exact visits_ofExcept hmade

/-- With nothing to publish the tree is never touched. -/
theorem publish_nil_visits (outages : Outages) (now : Calendar.Moment) (text : List Char)
    (fs : FileSystem) : (publish outages now text []).Visits fs (· = fs) := by
  refine visits_bind (visits_tree rfl) (leads_tree fun current heq => ?_)
  cases heq
  split
  · exact visits_pure rfl
  · exact visits_throw rfl

/-- All trees that a publication passes through are stages of the replacement at its path. -/
theorem publish_visits (outages : Outages) (now : Calendar.Moment) (text content : List Char)
    (fs : FileSystem) :
    (publish outages now text content).Visits fs (Stage fs (.ofText text) ⟨bytesOf content, now⟩) := by
  have hstart := Stage.refl fs (.ofText text) ⟨bytesOf content, now⟩
  by_cases hempty : content = []
  · subst hempty
    refine (publish_nil_visits outages now text fs).mono ?_
    rintro state rfl
    exact hstart
  · unfold publish
    rw [if_neg (by simpa using hempty)]
    refine visits_bind (published?_visits hstart) ?_
    refine (published?_leads outages (.ofText text)).mono fun answer current h found heq => ?_
    obtain ⟨rfl, -⟩ := h
    split
    · exact visits_pure hstart
    · split
      · exact visits_throw hstart
      · next directory hparent =>
        obtain ⟨name, hnames⟩ := (Path.continues_of_parent? hparent).names
        have hne : (Path.ofText text).names ≠ [] := by simp [hnames]
        have hextends := makeDirectories_extends directory current now
        refine visits_bind (makeDirectories_visits hstart (.untouched hextends)) ?_
        refine (makeDirectories_leads outages now directory).mono fun answer made hmade _ _ => ?_
        obtain ⟨-, rfl⟩ := hmade
        have hmade := directoriesMade_extends outages now current directory
        refine visits_bind (replaceFile_visits (fun state h => .untouched (hmade.trans h.extends))
          (fun state path draft file h => .drafted hmade hne h)
          fun base state h => .of_enter (hmade.trans h.extends)) ?_
        refine (replaceFile_ends outages now directory (.ofText text) (bytesOf content)).mono
          fun answer state hends done heq => ?_
        subst heq
        obtain ⟨-, base, place, htouched, henter⟩ := hends
        exact visits_pure (.of_enter (hmade.trans htouched.toMatches.extends) henter)

/-- What a publication tells of the tree before it and the tree it leaves. It goes by what can be read
at the path: content that was written was not read there before, although the place that the path
means may have held a file, if the path goes up from a directory still to be made. -/
def Accounts (fs fs' : FileSystem) (path : Path) (content : List Char) (now : Calendar.Moment) :
    Except Error Outcome → Prop
  | .ok .written => content ≠ [] ∧
      (fs.read path = .error .notFound ∨
        ∃ file, fs.read path = .ok file ∧ file.bytes ≠ bytesOf content) ∧
      fs'.read path = .ok ⟨bytesOf content, now⟩ ∧
      ∀ place file, place ≠ path.place fs.workingDirectory →
        (fs'.node? place = some (.file file) ↔ fs.node? place = some (.file file))
  | .ok .unchanged => content ≠ [] ∧ fs' = fs ∧
      ∃ file, fs.read path = .ok file ∧ file.bytes = bytesOf content
  | .ok .stale => content = [] ∧ fs' = fs ∧ fs.isFile path = true
  | .error _ => ∀ place file,
      fs'.node? place = some (.file file) ↔ fs.node? place = some (.file file)

private theorem publish_accounts (outages : Outages) (now : Calendar.Moment)
    (text content : List Char) (fs : FileSystem) :
    (publish outages now text content).Leads fs fun answer fs' =>
      Accounts fs fs' (.ofText text) content now answer ∧
        ((∃ shown, answer = .error (.noIndex shown)) ↔
          content = [] ∧ fs.isFile (.ofText text) = false) := by
  refine (publish_ends outages now text content).mono fun answer fs' h => ?_
  cases h with
  | stale hempty hfile => exact ⟨⟨hempty, rfl, hfile⟩, by simp [hfile]⟩
  | absent hempty hfile => exact ⟨fun _ _ => .rfl, by simp [hempty, hfile]⟩
  | unreadable hcontent => exact ⟨fun _ _ => .rfl, by simp [hcontent, Fault.toError]⟩
  | @unchanged file hcontent _ hread hsame =>
    exact ⟨⟨hcontent, rfl, file, hread, ByteArray.ext hsame⟩, by simp [hcontent]⟩
  | parentless hcontent => exact ⟨fun _ _ => .rfl, by simp [hcontent]⟩
  | blocked hcontent =>
    exact ⟨fun _ _ => (directoriesMade_extends outages now fs _).file_iff,
      by simp [hcontent, Fault.toError]⟩
  | unreplaced hcontent _ _ _ _ htouched =>
    have hextends := (directoriesMade_extends outages now fs _).trans htouched.toMatches.extends
    exact ⟨fun _ _ => hextends.file_iff, by simp [hcontent, Fault.toError]⟩
  | @written directory _ _ _ hcontent hlacks _ _ _ htouched henter =>
    have hmade := (directoriesMade_extends outages now fs directory).trans
      htouched.toMatches.extends
    refine ⟨⟨hcontent, hlacks.read.imp_right ?_, ?_, ?_⟩, by simp [hcontent]⟩
    · rintro ⟨file, hread, hdiffers⟩
      exact ⟨file, hread, fun h => hdiffers (congrArg ByteArray.data h)⟩
    · exact read_eq_ok_iff.mpr (find_of_enter henter)
    · intro other file hother
      have hputs := puts_of_enter henter
      rw [hmade.workingDirectory] at hputs
      rw [hputs.node other hother]
      exact hmade.file_iff

/-- Publishing is all or nothing, whatever the device fails at: the answer tells what has become of
the tree, and at no time is anything found at the path but what it held before, or all of the new
content. Readers may look while directories are still being made. -/
theorem publish_all_or_nothing (outages : Outages) (now : Calendar.Moment) (text content : List Char)
    (fs : FileSystem) :
    let path := Path.ofText text
    let run := (publish outages now text content).run.run (.start fs)
    Accounts fs run.2.current path content now run.1 ∧
      ((∃ shown, run.1 = .error (.noIndex shown)) ↔ content = [] ∧ fs.isFile path = false) ∧
      (content = [] → ∀ state ∈ run.2.states, state = fs) ∧
      ∀ state ∈ run.2.states, ∀ seen, state.Extends seen →
        Intact fs seen path ⟨bytesOf content, now⟩ := by
  obtain ⟨haccounts, hno⟩ := publish_accounts outages now text content fs []
  refine ⟨haccounts, hno, ?_, fun state hs seen => ?_⟩
  · rintro rfl
    exact (publish_nil_visits outages now text fs).states
  · exact ((publish_visits outages now text content fs).states state hs).intact

end Signage.Index
