import Signage.Proofs.Files.Places

/-!
What operations change in a tree of files. Making directories adds directories, and putting a
file in its place adds or replaces that file; all else stays.
-/
namespace Signage.Files.FileSystem
variable {fs fs' fs'' : FileSystem} {place : Location} {path : Path} {file : File}
  {now : Calendar.Moment}

/-- A tree has gained directories, and nothing else has changed. -/
structure Extends (fs fs' : FileSystem) : Prop where
  workingDirectory : fs'.workingDirectory = fs.workingDirectory
  node : ∀ place, fs'.node? place = fs.node? place ∨
    fs.node? place = none ∧ fs'.node? place = some .directory

/-- A file has come to a place where no directory was; all else has gained directories at most. -/
structure Replaces (fs fs' : FileSystem) (place : Location) (file : File) : Prop where
  workingDirectory : fs'.workingDirectory = fs.workingDirectory
  before : fs.node? place ≠ some .directory
  after : fs'.node? place = some (.file file)
  node : ∀ other, other ≠ place → fs'.node? other = fs.node? other ∨
    fs.node? other = none ∧ fs'.node? other = some .directory

/-- A file has come to a place where no directory was, and nothing else has changed. -/
structure Puts (fs fs' : FileSystem) (place : Location) (file : File) : Prop where
  workingDirectory : fs'.workingDirectory = fs.workingDirectory
  before : fs.node? place ≠ some .directory
  after : fs'.node? place = some (.file file)
  node : ∀ other, other ≠ place → fs'.node? other = fs.node? other

/-- A file that is put in a place replaces what was there. -/
theorem Puts.replaces (h : fs.Puts fs' place file) : fs.Replaces fs' place file :=
  ⟨h.workingDirectory, h.before, h.after, fun other ho => .inl (h.node other ho)⟩

theorem Extends.refl (fs : FileSystem) : fs.Extends fs := ⟨rfl, fun _ => .inl rfl⟩

/-- A tree with the same files and directories has no more than these. -/
theorem Matches.extends (h : fs.Matches fs') : fs.Extends fs' :=
  ⟨h.workingDirectory, fun place => .inl (h.node? place)⟩

theorem Extends.trans (h : fs.Extends fs') (h' : fs'.Extends fs'') : fs.Extends fs'' := by
  refine ⟨h'.workingDirectory.trans h.workingDirectory, fun place => ?_⟩
  rcases h.node place with hn | ⟨hn, hd⟩
  · rcases h'.node place with hn' | ⟨hn', hd'⟩
    · exact .inl (hn'.trans hn)
    · exact .inr ⟨hn ▸ hn', hd'⟩
  · rcases h'.node place with hn' | ⟨hn', -⟩
    · exact .inr ⟨hn, hn'.trans hd⟩
    · rw [hd] at hn'
      cases hn'

/-- Directories that come to a tree leave those that are there. -/
theorem Extends.keepsDirectories (h : fs.Extends fs') : fs.KeepsDirectories fs' := by
  refine ⟨h.workingDirectory, fun place hp => ?_⟩
  rcases h.node place with hn | ⟨hn, -⟩
  · rw [hn, hp]
  · rw [hn] at hp
    cases hp

/-- Files are the same as before directories were added. -/
theorem Extends.file_iff (h : fs.Extends fs') :
    fs'.node? place = some (.file file) ↔ fs.node? place = some (.file file) := by
  rcases h.node place with hn | ⟨hn, hd⟩
  · rw [hn]
  · simp [hn, hd]

/-- A file takes the place of no directory. -/
theorem Replaces.keepsDirectories (h : fs.Replaces fs' place file) : fs.KeepsDirectories fs' := by
  refine ⟨h.workingDirectory, fun other ho => ?_⟩
  have hne : other ≠ place := by
    rintro rfl
    exact h.before ho
  rcases h.node other hne with hn | ⟨hn, -⟩
  · rw [hn, ho]
  · rw [hn] at ho
    cases ho

/-- The directories may be added before the file is put in its place. -/
theorem Extends.replaces (h : fs.Extends fs') (h' : fs'.Replaces fs'' place file) :
    fs.Replaces fs'' place file := by
  refine ⟨h'.workingDirectory.trans h.workingDirectory, ?_, h'.after, fun other ho => ?_⟩
  · exact fun hp => h'.before (h.keepsDirectories.directory place hp)
  · rcases h'.node other ho with hn' | ⟨hn', hd'⟩
    · rcases h.node other with hn | ⟨hn, hd⟩
      · exact .inl (hn'.trans hn)
      · exact .inr ⟨hn, hn'.trans hd⟩
    · rcases h.node other with hn | ⟨-, hd⟩
      · exact .inr ⟨hn ▸ hn', hd'⟩
      · rw [hd] at hn'
        cases hn'

/-- The root is a directory. -/
theorem ne_root (h : fs.node? place ≠ some .directory) : place ≠ [] := by
  rintro rfl
  exact h rfl

/-- What is added lies where it was put, whatever is told of the directory around it. -/
theorem matches_add (fs : FileSystem) (place : Location) (node : Node) (now : Calendar.Moment) :
    (fs.put place node).Matches (fs.add place node now) := ⟨rfl, rfl⟩

/-- A new directory lies where it was put, whatever is told of it and of the one around it. -/
theorem matches_addDirectory (fs : FileSystem) (place : Location) (now : Calendar.Moment) :
    (fs.put place .directory).Matches (fs.addDirectory place now) := ⟨rfl, rfl⟩

/-- A directory is made exactly where a path leads to a place with nothing in it. -/
theorem makeDirectory_eq_ok_iff : fs.makeDirectory path now = .ok fs' ↔
    ∃ place, fs.locate path = .ok place ∧ fs.node? place = none ∧
      fs' = fs.addDirectory place now := by
  unfold makeDirectory
  cases hl : fs.locate path with
  | error fault => simp [bind, Except.bind]
  | ok place =>
    simp only [bind, Except.bind, Except.ok.injEq, exists_eq_left']
    cases hn : fs.node? place with
    | none => simp [eq_comm]
    | some node => simp

/-- Two trees that hold the same go on to do so when a directory is made in both. -/
theorem Matches.makeDirectory {fs₁ fs₂ : FileSystem} (h : fs₁.Matches fs₂) (path : Path)
    (now now' : Calendar.Moment) :
    (∃ fs₁' fs₂', fs₁.makeDirectory path now = .ok fs₁' ∧ fs₂.makeDirectory path now' = .ok fs₂' ∧
      fs₁'.Matches fs₂') ∨
    ∃ fault, fs₁.makeDirectory path now = .error fault ∧
      fs₂.makeDirectory path now' = .error fault := by
  rw [FileSystem.makeDirectory, FileSystem.makeDirectory, h.locate]
  cases fs₁.locate path with
  | error fault => exact .inr ⟨fault, rfl, rfl⟩
  | ok place =>
    simp only [bind, Except.bind, h.node?]
    cases fs₁.node? place with
    | none =>
      refine .inl ⟨_, _, rfl, rfl, ?_⟩
      exact (matches_addDirectory fs₁ place now).symm.trans
        ((h.put place .directory).trans (matches_addDirectory fs₂ place now'))
    | some node => exact .inr ⟨_, rfl, rfl⟩

/-- To make a directory changes nothing else. -/
theorem makeDirectory_extends (h : fs.makeDirectory path now = .ok fs') : fs.Extends fs' := by
  obtain ⟨place, -, hn, rfl⟩ := makeDirectory_eq_ok_iff.mp h
  have hd : fs.node? place ≠ some .directory := by simp [hn]
  refine ⟨rfl, fun other => ?_⟩
  rw [(matches_addDirectory fs place now).node?, node?_put fs other .directory (ne_root hd)]
  by_cases ho : other = place
  · exact .inr ⟨ho ▸ hn, if_pos ho⟩
  · exact .inl (if_neg ho)

/-- To make directories one after the other changes nothing else, as far as it goes. -/
theorem makeAll_extends (now : Calendar.Moment) (paths : List Path) (fs : FileSystem) :
    fs.Extends (makeAll now paths fs).1 := by
  induction paths generalizing fs with
  | nil => exact .refl fs
  | cons path above ih =>
    have habove := ih fs
    rw [makeAll]
    split
    · next h => exact makeDirectory_extends h
    · split
      · next h =>
        rw [h] at habove
        exact habove
      · next fs' h =>
        rw [h] at habove
        have hext : fs.Extends fs' := habove
        split
        · next h' => exact hext.trans (makeDirectory_extends h')
        · split <;> exact hext
    · split <;> exact .refl fs

/-- To make all directories on a way changes nothing else, as far as it goes. -/
theorem makeDirectories_extends (path : Path) (fs : FileSystem) (now : Calendar.Moment) :
    fs.Extends (fs.makeDirectories path now).1 :=
  makeAll_extends now path.ancestors fs

/-- A file is written exactly where a path leads to a place that no directory takes. -/
theorem write_eq_ok_iff : fs.write path file = .ok fs' ↔
    ∃ place, fs.locate path = .ok place ∧ path.wantsDirectory = false ∧
      fs.node? place ≠ some .directory ∧ fs' = fs.written place file := by
  unfold write
  cases hl : fs.locate path with
  | error fault => simp [bind, Except.bind]
  | ok place =>
    simp only [bind, Except.bind, Except.ok.injEq, exists_eq_left']
    cases path.wantsDirectory with
    | true => simp
    | false =>
      cases hn : fs.node? place with
      | none => simp [eq_comm]
      | some node => cases node <;> simp [eq_comm]

/-- A file is entered exactly where it could be written, and the directory around it has changed. -/
theorem enter_eq_ok_iff : fs.enter path file now = .ok fs' ↔
    ∃ place, fs.locate path = .ok place ∧ path.wantsDirectory = false ∧
      fs.node? place ≠ some .directory ∧ fs' = fs.add place (.file file) now := by
  unfold enter
  cases hl : fs.locate path with
  | error fault => simp [bind, Except.bind]
  | ok place =>
    simp only [bind, Except.bind, Except.ok.injEq, exists_eq_left']
    cases path.wantsDirectory with
    | true => simp
    | false =>
      cases hn : fs.node? place with
      | none => simp [eq_comm]
      | some node => cases node <;> simp [eq_comm]

/-- A file can be at the path. -/
def Writable (fs : FileSystem) (path : Path) : Prop :=
  ∃ place, fs.locate path = .ok place ∧ path.wantsDirectory = false ∧
    fs.node? place ≠ some .directory

/-- Where a file can be written, every file can be. -/
theorem Writable.exists_write (h : fs.Writable path) (file : File) :
    ∃ fs', fs.write path file = .ok fs' := by
  obtain ⟨place, hl, hw, hd⟩ := h
  exact ⟨_, write_eq_ok_iff.mpr ⟨place, hl, hw, hd, rfl⟩⟩

/-- Where a file can be written, one can be entered. -/
theorem Writable.exists_enter (h : fs.Writable path) (file : File) (now : Calendar.Moment) :
    ∃ fs', fs.enter path file now = .ok fs' := by
  obtain ⟨place, hl, hw, hd⟩ := h
  exact ⟨_, enter_eq_ok_iff.mpr ⟨place, hl, hw, hd, rfl⟩⟩

/-- The same paths can be written to in trees that match. -/
theorem Matches.writable (h : fs.Matches fs') (hw : fs.Writable path) : fs'.Writable path := by
  obtain ⟨place, hl, hw, hd⟩ := hw
  exact ⟨place, (h.locate path).trans hl, hw, by rwa [h.node?]⟩

/-- What has been written to could be. -/
theorem writable_of_write (h : fs.write path file = .ok fs') : fs.Writable path := by
  obtain ⟨place, hl, hw, hd, -⟩ := write_eq_ok_iff.mp h
  exact ⟨place, hl, hw, hd⟩

/-- What has been entered at could be written to. -/
theorem writable_of_enter (h : fs.enter path file now = .ok fs') : fs.Writable path := by
  obtain ⟨place, hl, hw, hd, -⟩ := enter_eq_ok_iff.mp h
  exact ⟨place, hl, hw, hd⟩

/-- What is put in a place last stays there. -/
@[simp] theorem put_put (fs : FileSystem) (place : Location) (node node' : Node) :
    (fs.put place node).put place node' = fs.put place node' := by
  simp [put, List.filter_filter]

/-- What is put where nothing was replaces nothing. -/
private theorem filter_nodes (h : fs.node? place = none) :
    (fs.nodes.filter fun entry => entry.1 != place) = fs.nodes := by
  have hkeys : ∀ entry ∈ fs.nodes, (entry.1 != place) = true := by
    intro entry hentry
    rw [bne_iff_ne]
    rintro rfl
    unfold node? at h
    split at h
    · cases h
    · rw [List.lookup_eq_none_iff] at h
      simpa using h entry hentry
  exact List.filter_eq_self.mpr hkeys

/-- What is put where nothing was can be taken away again. -/
theorem erase_put (node : Node) (h : fs.node? place = none) : (fs.put place node).erase place = fs := by
  simp [put, erase, filter_nodes h]

/-- A new directory is one more thing in the tree. -/
theorem length_nodes_makeDirectory (h : fs.makeDirectory path now = .ok fs') :
    fs'.nodes.length = fs.nodes.length + 1 := by
  obtain ⟨place, -, hn, rfl⟩ := makeDirectory_eq_ok_iff.mp h
  rw [(matches_addDirectory fs place now).nodes, put, filter_nodes hn, List.length_cons]

/-- A file may be put wherever no directory lies. -/
theorem puts_put (file : File) (h : fs.node? place ≠ some .directory) :
    fs.Puts (fs.put place (.file file)) place file := by
  refine ⟨rfl, h, ?_, fun other ho => ?_⟩
  · rw [node?_put _ _ _ (ne_root h), if_pos rfl]
  · rw [node?_put _ _ _ (ne_root h), if_neg ho]

/-- What is told of directories is no matter for the files in them. -/
theorem Puts.of_matches {fs₁ fs₂ : FileSystem} (h : fs.Puts fs' place file) (h₁ : fs₁.Matches fs)
    (h₂ : fs'.Matches fs₂) : fs₁.Puts fs₂ place file where
  workingDirectory := by rw [h₂.workingDirectory, h.workingDirectory, h₁.workingDirectory]
  before := h₁.node? place ▸ h.before
  after := (h₂.node? place).trans h.after
  node other ho := by rw [h₂.node?, h.node other ho, h₁.node?]

/-- What has come to a path is found there. -/
theorem find_of_enter (h : fs.enter path file now = .ok fs') : fs'.find path = .ok (.file file) := by
  obtain ⟨place, hl, hw, hd, rfl⟩ := enter_eq_ok_iff.mp h
  have hputs := (puts_put file hd).of_matches (.refl fs) (matches_add fs place _ now)
  exact find_eq_file_iff.mpr ⟨place, hputs.replaces.keepsDirectories.locate hl, hputs.after, hw⟩

/-- The file comes to the place that the path means. -/
theorem puts_of_enter (h : fs.enter path file now = .ok fs') :
    fs.Puts fs' (path.place fs.workingDirectory) file := by
  obtain ⟨place, hl, -, hd, rfl⟩ := enter_eq_ok_iff.mp h
  rw [← locate_eq_place hl]
  exact (puts_put file hd).of_matches (.refl fs) (matches_add fs place _ now)

/-- A file that is entered lies in the place that the path means. -/
theorem Matches.puts_of_enter (h : fs.Matches fs')
    (he : fs'.enter path file now = .ok fs'') : fs.Puts fs'' (path.place fs.workingDirectory) file := by
  have hputs := (FileSystem.puts_of_enter he).of_matches h (.refl fs'')
  rwa [h.workingDirectory] at hputs

/-- A file that can be read can be removed. -/
theorem remove_eq_ok (hl : fs.locate path = .ok place) (hn : fs.node? place = some (.file file))
    (hw : path.wantsDirectory = false) : fs.remove path now = .ok (fs.drop place now) := by
  have hr : fs.read path = .ok file := read_eq_ok_iff.mpr (find_eq_file_iff.mpr ⟨place, hl, hn, hw⟩)
  simp [remove, hr, hl, bind, Except.bind]

/-- Moving a file takes it from its place and lets it come to another. -/
theorem rename_eq (hl : fs.locate path = .ok place) (hn : fs.node? place = some (.file file))
    (hw : path.wantsDirectory = false) (target : Path) :
    fs.rename path target now = (fs.drop place now).enter target file now := by
  have hr : fs.read path = .ok file := read_eq_ok_iff.mpr (find_eq_file_iff.mpr ⟨place, hl, hn, hw⟩)
  simp [rename, hr, hl, bind, Except.bind]

end Signage.Files.FileSystem
