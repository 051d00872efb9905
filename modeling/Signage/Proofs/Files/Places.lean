import Mathlib.Tactic.Basic
import Signage.Files.FileSystem

/-!
The place that a path means depends on its names and the working directory alone. Whether the
path leads there depends on the directories on the way, and directories are never removed.
-/
namespace Signage.Files

/-- The place that names lead to, whatever lies on the way. -/
def follow (place : Location) (names : List Name) : Location :=
  names.foldl (fun place name => if name = parentName then place.dropLast else place ++ [name]) place

/-- A last name leads one step further, if it does not lead up. -/
theorem follow_concat {name : Name} (h : name ≠ parentName) (place : Location) (names : List Name) :
    follow place (names ++ [name]) = follow place names ++ [name] := by
  simp [follow, List.foldl_append, h]

/-- The place that a path means when relative paths start at a place. -/
def Path.place (path : Path) (start : Location) : Location :=
  follow (if path.isAbsolute then [] else start) path.names

namespace FileSystem
variable {fs fs' : FileSystem} {place : Location} {path : Path} {file : File}

@[simp] theorem node?_root (fs : FileSystem) : fs.node? [] = some .directory := rfl

/-- A walk that succeeds ends where its names lead. -/
theorem walk_eq_follow {names : List Name} {start : Location}
    (h : fs.walk start names = .ok place) : place = follow start names := by
  induction names generalizing start with
  | nil =>
    cases h
    rfl
  | cons name names ih =>
    simp only [walk, bind, Except.bind] at h
    split at h
    · cases h
    · split at h
      · cases h
      · exact ih h

/-- A path is located in the place that it means, if it is at all. -/
theorem locate_eq_place (h : fs.locate path = .ok place) :
    place = path.place fs.workingDirectory := by
  unfold locate at h
  split at h
  · cases h
  · split at h
    · cases h
    · split at h
      · cases h
      · exact walk_eq_follow h

/-- A path leads to a place if it is well written, not too long, and can be walked. -/
theorem locate_eq_ok_iff : fs.locate path = .ok place ↔
    (path.names.any fun name => name.contains '\x00') = false ∧ path.size ≤ longestPath ∧
      path.isEmpty = false ∧
      fs.walk (if path.isAbsolute then [] else fs.workingDirectory) path.names = .ok place := by
  constructor
  · intro h
    unfold locate at h
    split at h
    · cases h
    · next hplain =>
      split at h
      · cases h
      · next hsize =>
        split at h
        · cases h
        · next hempty =>
          exact ⟨Bool.eq_false_iff.mpr hplain, Nat.not_lt.mp hsize, Bool.eq_false_iff.mpr hempty, h⟩
  · rintro ⟨hplain, hsize, hempty, hwalk⟩
    rw [locate, hplain, hempty, if_neg (by simp), if_neg (Nat.not_lt.mpr hsize), if_neg (by simp),
      hwalk]

/-- Paths that are too long are not located. -/
theorem exists_locate_eq_error (fs : FileSystem) (h : longestPath < path.size) :
    ∃ fault, fs.locate path = .error fault := by
  unfold locate
  split
  · exact ⟨_, rfl⟩
  · exact ⟨_, rfl⟩

/-- Only directories pass for directories. -/
theorem requireDirectory_eq_ok : fs.requireDirectory place = .ok () ↔
    fs.node? place = some .directory := by
  unfold requireDirectory
  split <;> simp_all

/-- A walk goes on from where its first names lead. -/
theorem walk_append (names more : List Name) (start : Location) :
    fs.walk start (names ++ more) = (fs.walk start names).bind fun place => fs.walk place more := by
  induction names generalizing start with
  | nil => rfl
  | cons name names ih =>
    simp only [List.cons_append, walk, bind, Except.bind]
    split
    · rfl
    · split
      · rfl
      · simpa only [bind, Except.bind] using ih _

/-- All directories of a tree are directories of another one, and relative paths start alike. -/
structure KeepsDirectories (fs fs' : FileSystem) : Prop where
  workingDirectory : fs'.workingDirectory = fs.workingDirectory
  directory : ∀ place, fs.node? place = some .directory → fs'.node? place = some .directory

theorem KeepsDirectories.trans {fs'' : FileSystem} (h : fs.KeepsDirectories fs')
    (h' : fs'.KeepsDirectories fs'') : fs.KeepsDirectories fs'' :=
  ⟨h'.workingDirectory.trans h.workingDirectory, fun place hp => h'.directory place (h.directory place hp)⟩

/-- A walk succeeds again as long as the directories stay. -/
theorem KeepsDirectories.walk {names : List Name} {start : Location}
    (h : fs.KeepsDirectories fs') (hw : fs.walk start names = .ok place) :
    fs'.walk start names = .ok place := by
  induction names generalizing start with
  | nil => exact hw
  | cons name names ih =>
    simp only [FileSystem.walk, bind, Except.bind] at hw ⊢
    split at hw
    · cases hw
    · next hd =>
      have hd' := requireDirectory_eq_ok.mpr (h.directory _ (requireDirectory_eq_ok.mp hd))
      rw [hd']
      split at hw
      · cases hw
      · next hl =>
        rw [if_neg hl]
        exact ih hw

/-- What a path led to is still led to while directories stay. -/
theorem KeepsDirectories.locate (h : fs.KeepsDirectories fs')
    (hl : fs.locate path = .ok place) : fs'.locate path = .ok place := by
  unfold FileSystem.locate at hl ⊢
  rw [h.workingDirectory]
  split at hl
  · cases hl
  · next h1 =>
    rw [if_neg h1]
    split at hl
    · cases hl
    · next h2 =>
      rw [if_neg h2]
      split at hl
      · cases hl
      · next h3 =>
        rw [if_neg h3]
        exact h.walk hl

/-- The trees hold the same files and directories; what is told of the directories may differ. -/
structure Matches (fs fs' : FileSystem) : Prop where
  nodes : fs'.nodes = fs.nodes
  workingDirectory : fs'.workingDirectory = fs.workingDirectory

namespace Matches

theorem refl (fs : FileSystem) : fs.Matches fs := ⟨rfl, rfl⟩

theorem symm (h : fs.Matches fs') : fs'.Matches fs := ⟨h.nodes.symm, h.workingDirectory.symm⟩

theorem trans {fs'' : FileSystem} (h : fs.Matches fs') (h' : fs'.Matches fs'') :
    fs.Matches fs'' :=
  ⟨h'.nodes.trans h.nodes, h'.workingDirectory.trans h.workingDirectory⟩

/-- In every place lies the same. -/
theorem node? (h : fs.Matches fs') (place : Location) : fs'.node? place = fs.node? place := by
  rw [FileSystem.node?, FileSystem.node?, h.nodes]

/-- Trees match after the same change to both. -/
theorem put (h : fs.Matches fs') (place : Location) (node : Node) :
    (fs.put place node).Matches (fs'.put place node) :=
  ⟨by simp [FileSystem.put, h.nodes], h.workingDirectory⟩

private theorem erase (h : fs.Matches fs') (place : Location) :
    (fs.erase place).Matches (fs'.erase place) :=
  ⟨by simp [FileSystem.erase, h.nodes], h.workingDirectory⟩

/-- Trees that match have the same directories. -/
theorem keepsDirectories (h : fs.Matches fs') : fs.KeepsDirectories fs' :=
  ⟨h.workingDirectory, fun place hp => (h.node? place).trans hp⟩

private theorem walk (h : fs.Matches fs') (names : List Name) (start : Location) :
    fs'.walk start names = fs.walk start names := by
  induction names generalizing start with
  | nil => rfl
  | cons name names ih =>
    simp only [FileSystem.walk, requireDirectory, h.node?, ih]

/-- A path leads to the same place in both trees, or nowhere for the same reason. -/
theorem locate (h : fs.Matches fs') (path : Path) : fs'.locate path = fs.locate path := by
  rw [FileSystem.locate, FileSystem.locate, h.workingDirectory, h.walk]

/-- The same is found at every path. -/
theorem find (h : fs.Matches fs') (path : Path) : fs'.find path = fs.find path := by
  simp only [FileSystem.find, h.locate, h.node?]

/-- The same can be read at every path. -/
theorem read (h : fs.Matches fs') (path : Path) : fs'.read path = fs.read path := by
  rw [FileSystem.read, FileSystem.read, h.find]

/-- The same paths lead to directories. -/
theorem isDirectory (h : fs.Matches fs') (path : Path) :
    fs'.isDirectory path = fs.isDirectory path := by
  rw [FileSystem.isDirectory, FileSystem.isDirectory, h.find]

end Matches

/-- Nothing differs between the trees but what is told of one directory. -/
structure Touched (fs fs' : FileSystem) (place : Location) : Prop extends Matches fs fs' where
  resize : fs'.resize = fs.resize
  attributes : ∀ other, other ≠ place → fs'.attributes other = fs.attributes other

namespace Touched

theorem refl (fs : FileSystem) (place : Location) : fs.Touched fs place :=
  ⟨.refl fs, rfl, fun _ _ => rfl⟩

theorem trans {fs'' : FileSystem} (h : fs.Touched fs' place) (h' : fs'.Touched fs'' place) :
    fs.Touched fs'' place :=
  ⟨h.toMatches.trans h'.toMatches, h'.resize.trans h.resize,
    fun other ho => (h'.attributes other ho).trans (h.attributes other ho)⟩

/-- A change elsewhere leaves it at the one directory. -/
theorem put (h : fs.Touched fs' place) (other : Location) (node : Node) :
    (fs.put other node).Touched (fs'.put other node) place :=
  ⟨h.toMatches.put other node, h.resize, h.attributes⟩

/-- What goes elsewhere leaves it at the one directory. -/
theorem erase (h : fs.Touched fs' place) (other : Location) :
    (fs.erase other).Touched (fs'.erase other) place :=
  ⟨h.toMatches.erase other, h.resize, h.attributes⟩

end Touched

/-- A change in a directory is told of that directory alone. -/
theorem touched_stamp (fs : FileSystem) (place : Location) (now : Calendar.Moment) :
    fs.Touched (fs.stamp place now) place :=
  ⟨⟨rfl, rfl⟩, rfl, fun _ ho => if_neg ho⟩

/-- The working directory is where its names lead from the root. -/
structure Settled (fs : FileSystem) : Prop where
  isStep : ∀ name ∈ fs.workingDirectory, isStep name = true
  plain : (fs.workingDirectory.any fun name => name.contains '\x00') = false
  walk : fs.walk [] fs.workingDirectory = .ok fs.workingDirectory

/-- A working directory stays one as long as the directories do. -/
theorem Settled.mono (h : fs.Settled) (hk : fs.KeepsDirectories fs') : fs'.Settled := by
  refine ⟨?_, ?_, ?_⟩ <;> rw [hk.workingDirectory]
  · exact h.isStep
  · exact h.plain
  · exact hk.walk h.walk

/-- A directory is found where a path leads to one. -/
theorem find_eq_directory_iff : fs.find path = .ok .directory ↔
    ∃ place, fs.locate path = .ok place ∧ fs.node? place = some .directory := by
  unfold find
  cases hl : fs.locate path with
  | error fault => simp [bind, Except.bind]
  | ok place =>
    simp only [bind, Except.bind, Except.ok.injEq, exists_eq_left']
    cases hn : fs.node? place with
    | none => simp
    | some node =>
      cases node with
      | directory => simp
      | file found => cases path.wantsDirectory <;> simp

/-- A path passes for a directory if it leads to one. -/
theorem isDirectory_iff : fs.isDirectory path = true ↔
    ∃ place, fs.locate path = .ok place ∧ fs.node? place = some .directory := by
  rw [← find_eq_directory_iff]
  unfold isDirectory
  split
  · next h => simp [h]
  · next h =>
    constructor
    · intro h
      cases h
    · intro hf
      exact absurd hf h

/-- A file is found where a path leads to it that does not ask for a directory. -/
theorem find_eq_file_iff : fs.find path = .ok (.file file) ↔
    ∃ place, fs.locate path = .ok place ∧ fs.node? place = some (.file file) ∧
      path.wantsDirectory = false := by
  unfold find
  cases hl : fs.locate path with
  | error fault => simp [bind, Except.bind]
  | ok place =>
    simp only [bind, Except.bind, Except.ok.injEq, exists_eq_left']
    cases hn : fs.node? place with
    | none => simp
    | some node => cases node <;> cases hw : path.wantsDirectory <;> simp

/-- What can be read are the files that are found. -/
theorem read_eq_ok_iff : fs.read path = .ok file ↔ fs.find path = .ok (.file file) := by
  unfold read
  cases hf : fs.find path with
  | error fault => simp [bind, Except.bind]
  | ok node => cases node <;> simp [bind, Except.bind]

/-- A path passes for a file if one can be read there. -/
theorem isFile_eq_isOk_read : fs.isFile path = (fs.read path).isOk := by
  unfold isFile read
  cases fs.find path with
  | error fault => rfl
  | ok node => cases node <;> rfl

/-- A path passes for a file if one is found there. -/
theorem isFile_iff : fs.isFile path = true ↔ ∃ file, fs.find path = .ok (.file file) := by
  unfold isFile
  split
  · next file h => simp [h]
  · next h =>
    constructor
    · intro h
      cases h
    · rintro ⟨file, hf⟩
      exact absurd hf (h file)

/-- The bytes of the file at a place. -/
def bytes? (fs : FileSystem) (place : Location) : Option ByteArray :=
  match fs.node? place with
  | some (.file file) => some file.bytes
  | _ => none

/-- The bytes of a place are those of the file that lies there. -/
theorem bytes?_eq_some_iff {bytes : ByteArray} : fs.bytes? place = some bytes ↔
    ∃ file, fs.node? place = some (.file file) ∧ file.bytes = bytes := by
  unfold bytes?
  split <;> simp_all

/-- The bytes of a place depend on what lies there alone. -/
theorem bytes?_congr (h : fs'.node? place = fs.node? place) : fs'.bytes? place = fs.bytes? place := by
  rw [bytes?, bytes?, h]

end FileSystem
end Signage.Files
