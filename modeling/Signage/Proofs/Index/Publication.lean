import Signage.Index.Publication
import Signage.Proofs.Files.Changes
import Signage.Proofs.Files.Children
import Signage.Proofs.Files.Conduct

/-!
A publication replaces one file or none. Whatever it fails at, the files stay as they were; it may
have added directories on the way.
-/
namespace Signage.Index
open Files Files.FileSystem Files.Work

variable {fs fs' : FileSystem} {place : Location} {file : File}

/-- A step is passed or fails as the device does, and the tree stays. -/
theorem passStep_leads {outages : Outages} {step : Step}
    {post : Except Error Unit → FileSystem → Prop} (hok : outages step = false → post (.ok ()) fs)
    (herror : outages step = true → post (.error Fault.device.toError) fs) :
    (passStep outages step).Leads fs post := by
  unfold passStep
  split
  · next h => exact leads_throw (herror h)
  · next h => exact leads_pure (hok (Bool.eq_false_iff.mpr h))

/-- A step that the device does not fail at is passed. -/
theorem passStep_none (step : Step) : passStep .none step = pure () := rfl

/-- A temporary file lies where nothing was, under another name than the file that it is to replace;
the tree is otherwise as it was, but that the directory of the file has changed. -/
structure Temporary (fs fs' : FileSystem) (path target : Path) (place : Location) (file : File) :
    Prop where
  located : fs.locate path = .ok place
  isFile : path.wantsDirectory = false
  fresh : fs.node? place = none
  named : ∃ above name, place = above ++ [name] ∧ target.names.getLast? ≠ some name
  touched : (fs.put place (.file file)).Touched fs' place.dropLast

namespace Temporary
variable {path target : Path}

/-- A temporary file has been put where nothing was. -/
theorem puts (h : Temporary fs fs' path target place file) : fs.Puts fs' place file :=
  (puts_put file (by simp [h.fresh])).of_matches (.refl fs) h.touched.toMatches

private theorem located' (h : Temporary fs fs' path target place file) :
    fs'.locate path = .ok place :=
  h.puts.replaces.keepsDirectories.locate h.located

/-- The temporary file can be written again. -/
theorem write (h : Temporary fs fs' path target place file) (other : File) :
    fs'.write path other = .ok (fs'.put place (.file other)) := by
  refine write_eq_ok_iff.mpr ⟨place, h.located', h.isFile, by simp [h.puts.after], ?_⟩
  rw [written, h.puts.after]

/-- The file stays temporary when something else is written to it. -/
theorem rewritten (h : Temporary fs fs' path target place file) (other : File) :
    Temporary fs (fs'.put place (.file other)) path target place other := by
  refine ⟨h.located, h.isFile, h.fresh, h.named, ?_⟩
  have htouched := h.touched.put place (.file other)
  rwa [put_put] at htouched

/-- Without the temporary file the tree is as before, but that the directory has changed. -/
theorem touched_drop (h : Temporary fs fs' path target place file) (now : Calendar.Moment) :
    fs.Touched (fs'.drop place now) place.dropLast := by
  have herased := h.touched.erase place
  rw [erase_put _ h.fresh] at herased
  exact herased.trans (touched_stamp _ _ now)

/-- A temporary file can be removed. -/
theorem remove (h : Temporary fs fs' path target place file) (now : Calendar.Moment) :
    fs'.remove path now = .ok (fs'.drop place now) :=
  remove_eq_ok h.located' h.puts.after h.isFile

/-- To move the temporary file is to let its content come to where it goes. -/
theorem rename (h : Temporary fs fs' path target place file) (now : Calendar.Moment) :
    fs'.rename path target now = (fs'.drop place now).enter target file now :=
  rename_eq h.located' h.puts.after h.isFile target

end Temporary

private theorem isStep_temporaryName (number : Nat) : isStep (temporaryName number) = true := by
  simp [temporaryName, temporaryMark, isStep]

private theorem temporaryName_ne_parentName (number : Nat) : temporaryName number ≠ parentName := by
  simp [temporaryName, temporaryMark, parentName]

/-- There is room in the directory for a temporary file that is to replace the target. -/
def HasRoom (fs : FileSystem) (directory target : Path) : Prop :=
  ∃ path, freshPath fs (directory.startingAt fs.workingDirectory) target = some path ∧
    fs.Writable path

private theorem freshPath_eq_some {directory target path : Path}
    (h : freshPath fs directory target = some path) :
    (fs.find path).isOk = false ∧ ∃ number, path = directory.child (temporaryName number) ∧
      target.names.getLast? ≠ some (temporaryName number) := by
  unfold freshPath at h
  have hmem := List.mem_of_find?_eq_some h
  simp only [List.mem_map, List.mem_filter] at hmem
  obtain ⟨name, ⟨⟨number, -, rfl⟩, hname⟩, rfl⟩ := hmem
  exact ⟨by simpa using List.find?_some h, number, rfl, by simpa using hname⟩

private theorem freshPath_eq {directory target : Path}
    (hname : target.names.getLast? ≠ some (temporaryName 0))
    (h : (fs.find (directory.child (temporaryName 0))).isOk = false) :
    freshPath fs directory target = some (directory.child (temporaryName 0)) := by
  rw [freshPath, List.range_succ_eq_map, List.map_cons, List.filter_cons_of_pos (by simpa using hname),
    List.map_cons, List.find?_cons_of_pos]
  simp [h]

/-- What is written to a free path is a temporary file. -/
theorem exists_temporary {directory target path : Path} (hfresh : freshPath fs directory target = some path)
    (hw : fs.write path file = .ok fs') : ∃ place, Temporary fs fs' path target place file := by
  obtain ⟨hfree, number, rfl, hname⟩ := freshPath_eq_some hfresh
  obtain ⟨place, hl, hwants, hd, rfl⟩ := write_eq_ok_iff.mp hw
  have hfresh : fs.node? place = none := by
    cases hn : fs.node? place with
    | none => rfl
    | some node =>
      cases node with
      | directory => exact absurd hn hd
      | file old =>
        simp [find_eq_file_iff.mpr ⟨place, hl, hn, hwants⟩, Except.isOk, Except.toBool] at hfree
  have hplace := locate_eq_place hl
  rw [Path.place, Path.names_child (isStep_temporaryName number),
    follow_concat (temporaryName_ne_parentName number)] at hplace
  refine ⟨place, hl, hwants, hfresh, ⟨_, _, hplace, hname⟩, ?_⟩
  rw [written, hfresh]
  exact touched_stamp _ _ _

/-- A temporary file is made if the directory has room for one, else nothing is done. -/
theorem makeTemporary_leads (directory target : Path) (now : Calendar.Moment) :
    (makeTemporary directory target now).Leads fs fun answer fs' =>
      match answer with
      | .ok path => HasRoom fs directory target ∧
          ∃ place, Temporary fs fs' path target place ⟨.empty, now⟩
      | .error error => ¬HasRoom fs directory target ∧ fs' = fs ∧
          ∃ fault : Fault, error = fault.toError := by
  unfold makeTemporary
  refine leads_bind (leads_tree ?_)
  dsimp only
  split
  · next path hfresh =>
    refine leads_bind (leads_change (fun written hw => leads_pure ?_) fun fault hw => ?_)
    · exact ⟨⟨path, hfresh, writable_of_write hw⟩, exists_temporary hfresh hw⟩
    · refine ⟨?_, rfl, fault, rfl⟩
      rintro ⟨other, hother, hwritable⟩
      obtain rfl : path = other := Option.some.inj (hfresh.symm.trans hother)
      obtain ⟨written, hw'⟩ := hwritable.exists_write ⟨.empty, now⟩
      rw [hw] at hw'
      cases hw'
  · next hnone =>
    refine leads_throw ⟨?_, rfl, _, rfl⟩
    rintro ⟨other, hother, -⟩
    rw [hnone] at hother
    cases hother

private theorem removal_leads {path target : Path} {error : Error} {base : FileSystem}
    (h : Temporary base fs path target place file) (now : Calendar.Moment) :
    (do change fun fs => fs.remove path now
        throw error : Work Unit).Leads fs fun answer fs' =>
      answer = .error error ∧ base.Touched fs' place.dropLast := by
  refine leads_bind (leads_change (fun fs' hf => leads_throw ⟨rfl, ?_⟩) fun fault hf => ?_)
  · rw [h.remove] at hf
    cases hf
    exact h.touched_drop now
  · rw [h.remove] at hf
    cases hf

/-- If the device fails, it does before there is a temporary file. -/
structure Outages.IsEarly (outages : Outages) : Prop where
  write : outages .write = false
  sync : outages .sync = false
  replace : outages .replace = false

/-- Nothing hinders that a temporary file is filled and moved to a path. -/
structure Movable (outages : Outages) (fs : FileSystem) (path : Path) : Prop
    extends outages.IsEarly where
  writable : fs.Writable path

/-- Nothing hinders that a file is put in place of what lies at a path. -/
structure Replaceable (outages : Outages) (fs : FileSystem) (directory path : Path) : Prop
    extends Movable outages fs path where
  makeTemporary : outages .makeTemporary = false
  room : HasRoom fs directory path

private theorem not_of_outage {outages : Outages} {step : Step} {works : Prop}
    (h : outages step = true) (hpass : works → outages step = false) : ¬works := fun hworks => by
  rw [hpass hworks] at h
  cases h

/-- The temporary file is filled and moved, or it is left behind. -/
theorem moving_leads {temporary path : Path} {made : FileSystem} (outages : Outages)
    (now : Calendar.Moment) (bytes : ByteArray)
    (h : Temporary fs made temporary path place file) :
    (do passStep outages .write
        change fun fs => fs.write temporary ⟨bytes, now⟩
        passStep outages .sync
        passStep outages .replace
        change fun fs => fs.rename temporary path now : Work Unit).Leads made fun answer state =>
      match answer with
      | .ok () => Movable outages fs path ∧
          ∃ base, fs.Touched base place.dropLast ∧ base.enter path ⟨bytes, now⟩ now = .ok state
      | .error error => ¬Movable outages fs path ∧ (∃ fault : Fault, error = fault.toError) ∧
          ∃ left, Temporary fs state temporary path place left := by
  have hwritten := h.rewritten ⟨bytes, now⟩
  refine leads_bind (passStep_leads (fun hwrite => ?_)
    fun hfails => ⟨not_of_outage hfails (·.write), ⟨_, rfl⟩, _, h⟩)
  refine leads_bind (leads_change (fun written hw => ?_) fun fault hw => ?_)
  · rw [h.write] at hw
    cases hw
    refine leads_bind (passStep_leads (fun hsync => ?_)
      fun hfails => ⟨not_of_outage hfails (·.sync), ⟨_, rfl⟩, _, hwritten⟩)
    refine leads_bind (passStep_leads (fun hreplace => ?_)
      fun hfails => ⟨not_of_outage hfails (·.replace), ⟨_, rfl⟩, _, hwritten⟩)
    refine leads_change (fun moved hm => ?_) fun fault hm => ⟨fun hr => ?_, ⟨_, rfl⟩, _, hwritten⟩
    · rw [hwritten.rename] at hm
      have htouched := hwritten.touched_drop now
      have hwritable := htouched.toMatches.symm.writable (writable_of_enter hm)
      exact ⟨⟨⟨hwrite, hsync, hreplace⟩, hwritable⟩, _, htouched, hm⟩
    · have hwritable := (hwritten.touched_drop now).toMatches.writable hr.writable
      obtain ⟨moved, hmoved⟩ := hwritable.exists_enter ⟨bytes, now⟩ now
      rw [hwritten.rename, hmoved] at hm
      cases hm
  · rw [h.write] at hw
    cases hw

/-- A file is replaced as a whole, or the tree is what it was. A directory may have changed then, if
there was something that hindered the temporary file to be moved. -/
theorem replaceFile_ends (outages : Outages) (now : Calendar.Moment) (directory path : Path)
    (bytes : ByteArray) :
    (replaceFile outages now directory path bytes).Leads fs fun answer fs' =>
      match answer with
      | .ok () => Replaceable outages fs directory path ∧
          ∃ base place, fs.Touched base place ∧ base.enter path ⟨bytes, now⟩ now = .ok fs'
      | .error error => ¬Replaceable outages fs directory path ∧
          ((∃ place, fs.Touched fs' place) ∧ (Movable outages fs path → fs' = fs)) ∧
          ∃ fault : Fault, error = fault.toError := by
  have hsame : (∃ place, fs.Touched fs place) ∧ (Movable outages fs path → fs = fs) :=
    ⟨⟨[], .refl fs []⟩, fun _ => rfl⟩
  unfold replaceFile
  refine leads_bind (passStep_leads (fun htemp => ?_)
    fun h => ⟨not_of_outage h (·.makeTemporary), hsame, _, rfl⟩)
  refine leads_bind ((makeTemporary_leads directory path now).mono fun answer made h => ?_)
  rcases answer with error | temporary
  · obtain ⟨hroom, rfl, hfault⟩ := h
    exact ⟨fun hr => hroom hr.room, hsame, hfault⟩
  · obtain ⟨hroom, place, hfile⟩ := h
    refine leads_tryCatch (fun error state => ¬Movable outages fs path ∧
      (∃ fault : Fault, error = fault.toError) ∧
      ∃ file, Temporary fs state temporary path place file) ?_ ?_
    · refine (moving_leads outages now bytes hfile).mono fun answer state h => ?_
      rcases answer with error | ⟨⟩
      · exact h
      · obtain ⟨hmovable, base, hbase, henter⟩ := h
        exact ⟨⟨hmovable, htemp, hroom⟩, base, _, hbase, henter⟩
    · rintro error state ⟨hstuck, hfault, file, hfile⟩
      refine (removal_leads hfile now).mono fun answer fs' h => ?_
      rw [h.1]
      exact ⟨fun hr => hstuck hr.toMovable,
        ⟨⟨_, h.2⟩, fun hmovable => absurd hmovable hstuck⟩, hfault⟩

/-- A file is replaced as a whole, or all files stay as they were. -/
theorem replaceFile_leads (outages : Outages) (now : Calendar.Moment) (directory path : Path)
    (bytes : ByteArray) :
    (replaceFile outages now directory path bytes).Leads fs fun answer fs' =>
      match answer with
      | .ok () => fs.Puts fs' (path.place fs.workingDirectory) ⟨bytes, now⟩
      | .error _ => fs.Extends fs' := by
  refine (replaceFile_ends outages now directory path bytes).mono fun answer fs' h => ?_
  rcases answer with error | ⟨⟩
  · obtain ⟨-, ⟨⟨place, htouched⟩, -⟩, -⟩ := h
    exact htouched.toMatches.extends
  · obtain ⟨-, base, place, htouched, henter⟩ := h
    exact htouched.toMatches.puts_of_enter henter

/-- Replacing a file works if the device does, there is room for a temporary file, and no directory
is in the way. -/
theorem replaceFile_succeeds {directory path : Path} {goal : Location} (now : Calendar.Moment)
    (bytes : ByteArray) (hname : path.names.getLast? ≠ some (temporaryName 0))
    (ht : fs.locate ((directory.startingAt fs.workingDirectory).child (temporaryName 0)) = .ok place)
    (hfresh : fs.node? place = none)
    (htw : ((directory.startingAt fs.workingDirectory).child (temporaryName 0)).wantsDirectory = false)
    (hl : fs.locate path = .ok goal) (hd : fs.node? goal ≠ some .directory)
    (hw : path.wantsDirectory = false) :
    (replaceFile .none now directory path bytes).Leads fs fun answer _ => answer = .ok () := by
  have hfind : (fs.find ((directory.startingAt fs.workingDirectory).child (temporaryName 0))).isOk =
      false := by
    simp [find, ht, hfresh, bind, Except.bind, Except.isOk, Except.toBool]
  have hroom : HasRoom fs directory path :=
    ⟨_, freshPath_eq hname hfind, place, ht, htw, by simp [hfresh]⟩
  refine (replaceFile_ends .none now directory path bytes).mono fun answer fs' h => ?_
  rcases answer with error | ⟨⟩
  · exact absurd ⟨⟨⟨rfl, rfl, rfl⟩, goal, hl, hw, hd⟩, rfl, hroom⟩ h.1
  · rfl

/-- Without room for a temporary file nothing is replaced. -/
theorem replaceFile_fails {directory path : Path} {fault : Fault} (now : Calendar.Moment)
    (bytes : ByteArray) (hname : path.names.getLast? ≠ some (temporaryName 0))
    (ht : fs.locate ((directory.startingAt fs.workingDirectory).child (temporaryName 0)) =
      .error fault) :
    (replaceFile .none now directory path bytes).Leads fs fun answer fs' =>
      fs.Matches fs' ∧ ∃ error, answer = .error error := by
  have hfind : (fs.find ((directory.startingAt fs.workingDirectory).child (temporaryName 0))).isOk =
      false := by
    simp [find, ht, bind, Except.bind, Except.isOk, Except.toBool]
  refine (replaceFile_ends .none now directory path bytes).mono fun answer fs' h => ?_
  rcases answer with error | ⟨⟩
  · obtain ⟨-, ⟨⟨place, htouched⟩, -⟩, -⟩ := h
    exact ⟨htouched.toMatches, error, rfl⟩
  · obtain ⟨temporary, hfresh, place, hl, -⟩ := h.1.room
    obtain rfl := Option.some.inj ((freshPath_eq hname hfind).symm.trans hfresh)
    rw [ht] at hl
    cases hl

/-- The tree with a directory and all directories on the way to it, and whether all of it worked. -/
def directoriesMade (outages : Outages) (now : Calendar.Moment) (fs : FileSystem)
    (directory : Path) : FileSystem × Except Fault Unit :=
  if outages .makeDirectories then (fs, .error .device) else fs.makeDirectories directory now

/-- A publication makes directories, and changes nothing else before it comes to the file. -/
theorem directoriesMade_extends (outages : Outages) (now : Calendar.Moment) (fs : FileSystem)
    (directory : Path) : fs.Extends (directoriesMade outages now fs directory).1 := by
  unfold directoriesMade
  split
  · exact .refl fs
  · exact makeDirectories_extends directory fs now

/-- The directories are made, or as many as can be, unless the device fails. -/
theorem makeDirectories_leads (outages : Outages) (now : Calendar.Moment) (directory : Path) :
    (makeDirectories outages now directory).Leads fs fun answer fs' =>
      answer = (directoriesMade outages now fs directory).2.mapError Fault.toError ∧
        fs' = (directoriesMade outages now fs directory).1 := by
  unfold makeDirectories directoriesMade
  refine leads_bind (passStep_leads (fun h => ?_) fun h => ?_)
  · refine leads_bind (leads_tree (leads_bind (leads_become ?_)))
    rw [h, if_neg (by simp)]
    refine leads_ofExcept (fun _ hmade => ?_) fun _ hmade => ?_
    · exact ⟨(congrArg (Except.mapError Fault.toError) hmade).symm, rfl⟩
    · exact ⟨(congrArg (Except.mapError Fault.toError) hmade).symm, rfl⟩
  · rw [h, if_pos rfl]
    exact ⟨rfl, rfl⟩

/-- There is something at the path that is no file, or the device fails. -/
def Unreadable (outages : Outages) (fs : FileSystem) (path : Path) : Prop :=
  outages .read = true ∨ ∃ fault, fs.read path = .error fault ∧ fault ≠ .notFound

/-- There is nothing at the path, or a file with other bytes. -/
structure Lacks (outages : Outages) (fs : FileSystem) (path : Path) (bytes : ByteArray) : Prop where
  step : outages .read = false
  read : fs.read path = .error .notFound ∨
    ∃ file, fs.read path = .ok file ∧ file.bytes.data ≠ bytes.data

/-- What is published already is read, and the tree stays. -/
theorem published?_leads (outages : Outages) (path : Path) :
    (published? outages path).Leads fs fun answer fs' => fs' = fs ∧
      match answer with
      | .ok found => outages .read = false ∧ (found = none ∧ fs.read path = .error .notFound ∨
          ∃ file, fs.read path = .ok file ∧ found = some file.bytes)
      | .error error => Unreadable outages fs path ∧ ∃ fault : Fault, error = fault.toError := by
  unfold published?
  refine leads_bind (passStep_leads (fun hstep => ?_) fun h => ⟨rfl, .inl h, _, rfl⟩)
  refine leads_bind (leads_tree ?_)
  dsimp only
  split
  · next file hr => exact leads_pure ⟨rfl, hstep, .inr ⟨file, hr, rfl⟩⟩
  · next hr => exact leads_pure ⟨rfl, hstep, .inl ⟨rfl, hr⟩⟩
  · next fault hne hr => exact leads_throw ⟨rfl, .inr ⟨fault, hr, hne⟩, fault, rfl⟩

/-- How a publication ends, and with which tree. -/
inductive Publication (outages : Outages) (now : Calendar.Moment) (text content : List Char)
    (fs : FileSystem) : Except Error Outcome → FileSystem → Prop
  | stale (hempty : content = []) (hfile : fs.isFile (.ofText text) = true) :
      Publication outages now text content fs (.ok .stale) fs
  | absent (hempty : content = []) (hfile : fs.isFile (.ofText text) = false) :
      Publication outages now text content fs (.error (.noIndex (.ofList text))) fs
  | unreadable {fault : Fault} (hcontent : content ≠ [])
      (hread : Unreadable outages fs (.ofText text)) :
      Publication outages now text content fs (.error fault.toError) fs
  | unchanged {file : File} (hcontent : content ≠ []) (hstep : outages .read = false)
      (hread : fs.read (.ofText text) = .ok file)
      (hsame : file.bytes.data = (bytesOf content).data) :
      Publication outages now text content fs (.ok .unchanged) fs
  | parentless (hcontent : content ≠ [])
      (hlacks : Lacks outages fs (.ofText text) (bytesOf content))
      (hparent : (Path.ofText text).parent? = none) :
      Publication outages now text content fs
        (.error (.invalidInput s!"index path has no parent: {String.ofList text}")) fs
  | blocked {fault : Fault} {directory : Path} (hcontent : content ≠ [])
      (hlacks : Lacks outages fs (.ofText text) (bytesOf content))
      (hparent : (Path.ofText text).parent? = some directory)
      (hmade : (directoriesMade outages now fs directory).2 = .error fault) :
      Publication outages now text content fs (.error fault.toError)
        (directoriesMade outages now fs directory).1
  | unreplaced {fault : Fault} {directory : Path} {fs' : FileSystem} {place : Location}
      (hcontent : content ≠ [])
      (hlacks : Lacks outages fs (.ofText text) (bytesOf content))
      (hparent : (Path.ofText text).parent? = some directory)
      (hmade : (directoriesMade outages now fs directory).2 = .ok ())
      (hreplaceable : ¬Replaceable outages (directoriesMade outages now fs directory).1 directory
        (.ofText text))
      (htouched : (directoriesMade outages now fs directory).1.Touched fs' place)
      (hkept : Movable outages (directoriesMade outages now fs directory).1 (.ofText text) →
        fs' = (directoriesMade outages now fs directory).1) :
      Publication outages now text content fs (.error fault.toError) fs'
  | written {directory : Path} {base fs' : FileSystem} {place : Location} (hcontent : content ≠ [])
      (hlacks : Lacks outages fs (.ofText text) (bytesOf content))
      (hparent : (Path.ofText text).parent? = some directory)
      (hmade : (directoriesMade outages now fs directory).2 = .ok ())
      (hreplaceable : Replaceable outages (directoriesMade outages now fs directory).1 directory
        (.ofText text))
      (htouched : (directoriesMade outages now fs directory).1.Touched base place)
      (henter : base.enter (.ofText text) ⟨bytesOf content, now⟩ now = .ok fs') :
      Publication outages now text content fs (.ok .written) fs'

/-- A publication has one of its endings, whatever the device fails at. -/
theorem publish_ends (outages : Outages) (now : Calendar.Moment) (text content : List Char) :
    (publish outages now text content).Leads fs (Publication outages now text content fs) := by
  unfold publish
  split
  · next hempty =>
    have hnil := List.isEmpty_iff.mp hempty
    unfold keepStale
    refine leads_bind (leads_tree ?_)
    dsimp only
    split
    · next hfile => exact leads_pure (.stale hnil hfile)
    · next hfile => exact leads_throw (.absent hnil (Bool.eq_false_iff.mpr hfile))
  · next hempty =>
    have hcontent : content ≠ [] := fun h => hempty (List.isEmpty_iff.mpr h)
    refine leads_bind ((published?_leads outages (Path.ofText text)).mono fun answer fs' h => ?_)
    obtain ⟨rfl, hfound⟩ := h
    rcases answer with error | found
    · obtain ⟨hread, fault, rfl⟩ := hfound
      exact .unreadable hcontent hread
    · obtain ⟨hstep, hfound⟩ := hfound
      dsimp only
      split
      · next hsame =>
        obtain ⟨bytes, rfl, hbytes⟩ := (Option.any_eq_true _ _).mp hsame
        obtain ⟨hnone, -⟩ | ⟨file, hread, hfile⟩ := hfound
        · cases hnone
        · cases hfile
          exact leads_pure (.unchanged hcontent hstep hread (of_decide_eq_true hbytes))
      · next hdiffers =>
        have hlacks : Lacks outages fs' (.ofText text) (bytesOf content) := by
          refine ⟨hstep, hfound.imp And.right ?_⟩
          rintro ⟨file, hread, rfl⟩
          exact ⟨file, hread, by simpa using hdiffers⟩
        split
        · next hparent => exact leads_throw (.parentless hcontent hlacks hparent)
        · next directory hparent =>
          refine leads_bind ((makeDirectories_leads outages now directory).mono fun answer made h => ?_)
          obtain ⟨hmade, rfl⟩ := h
          rcases hanswer : (directoriesMade outages now fs' directory).2 with fault | ⟨⟩
          · rw [hanswer] at hmade
            subst hmade
            exact .blocked hcontent hlacks hparent hanswer
          · rw [hanswer] at hmade
            subst hmade
            refine leads_bind ((replaceFile_ends outages now directory (Path.ofText text)
              (bytesOf content)).mono fun answer replaced hr => ?_)
            rcases answer with error | ⟨⟩
            · obtain ⟨hr, ⟨⟨place, htouched⟩, hkept⟩, fault, rfl⟩ := hr
              exact .unreplaced hcontent hlacks hparent hanswer hr htouched hkept
            · obtain ⟨hr, base, place, htouched, henter⟩ := hr
              exact leads_pure (.written hcontent hlacks hparent hanswer hr htouched henter)

/-- A publication that writes replaces the one file at its path; one that fails adds directories
at most, and any other changes nothing at all. -/
theorem publish_leads (outages : Outages) (now : Calendar.Moment) (text content : List Char) :
    (publish outages now text content).Leads fs fun answer fs' =>
      match answer with
      | .ok .written =>
        fs.Replaces fs' ((Path.ofText text).place fs.workingDirectory) ⟨bytesOf content, now⟩
      | .ok _ => fs' = fs
      | .error _ => fs.Extends fs' := by
  refine (publish_ends outages now text content).mono fun answer fs' h => ?_
  cases h with
  | stale | unchanged => rfl
  | absent | unreadable | parentless => exact .refl fs
  | blocked => exact directoriesMade_extends outages now fs _
  | unreplaced _ _ _ _ _ htouched =>
    exact (directoriesMade_extends outages now fs _).trans htouched.toMatches.extends
  | @written directory _ _ _ _ _ _ _ _ htouched henter =>
    have hmade := directoriesMade_extends outages now fs directory
    rw [← hmade.workingDirectory]
    exact hmade.replaces (htouched.toMatches.puts_of_enter henter).replaces

/-- With nothing to publish nothing changes, and it is an error if there is no index. -/
theorem publish_nil_leads (outages : Outages) (now : Calendar.Moment) (path : List Char) :
    (publish outages now path []).Leads fs fun answer fs' =>
      fs' = fs ∧ answer =
        if fs.isFile (.ofText path) then .ok .stale else .error (.noIndex (.ofList path)) := by
  refine (publish_ends outages now path []).mono fun answer fs' h => ?_
  cases h with
  | stale _ hfile | absent _ hfile => simp [hfile]
  | unreadable hcontent | unchanged hcontent | parentless hcontent | blocked hcontent
  | unreplaced hcontent | written hcontent => exact absurd rfl hcontent

/-- With something to publish, a publication neither keeps what is there nor misses it. -/
theorem publish_leads_of_ne_nil {outages : Outages} {now : Calendar.Moment} {text content : List Char}
    (h : content ≠ []) :
    (publish outages now text content).Leads fs fun answer _ =>
      answer ≠ .ok .stale ∧ ∀ path, answer ≠ .error (.noIndex path) := by
  refine (publish_ends outages now text content).mono fun answer fs' hends => ?_
  cases hends with
  | stale hempty | absent hempty => exact absurd hempty h
  | unreadable | unchanged | parentless | blocked | unreplaced | written => simp [Fault.toError]

/-- After a publication that does not fail there is a file at its path. -/
theorem Publication.exists_find {outages : Outages} {now : Calendar.Moment}
    {text content : List Char} {outcome : Outcome}
    (h : Publication outages now text content fs (.ok outcome) fs') :
    ∃ file, fs'.find (.ofText text) = .ok (.file file) := by
  cases h with
  | stale _ hfile => exact isFile_iff.mp hfile
  | unchanged _ _ hread => exact ⟨_, read_eq_ok_iff.mp hread⟩
  | written _ _ _ _ _ _ henter => exact ⟨_, find_of_enter henter⟩

end Signage.Index
