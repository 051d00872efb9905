import Mathlib.Data.List.Induction
import Signage.Proofs.Files.Children

/-!
Whatever lies anywhere in a tree lies in a directory. Operations keep it so, and it makes a way that
directories were made for one that had nothing at its end before.
-/
namespace Signage.Files

namespace Path
variable {path : Path}

/-- The path does not go up from directories that are still to be made. -/
def IsSteady (path : Path) (fs : FileSystem) : Prop :=
  ∃ front back place, path.names = front ++ back ∧ parentName ∉ back ∧
    fs.walk (if path.isAbsolute then [] else fs.workingDirectory) front = .ok place

/-- A name behind a steady path leads up nowhere. -/
theorem IsSteady.child {fs : FileSystem} (h : path.IsSteady fs) {name : Name} (hn : IsName name) :
    (path.child name).IsSteady fs := by
  obtain ⟨front, back, place, hnames, hup, hwalk⟩ := h
  refine ⟨front, back ++ [name], place, ?_, ?_, ?_⟩
  · rw [names_child hn.isStep, hnames, List.append_assoc]
  · simp [hup, hn.ne_parentName.symm]
  · rwa [isAbsolute_child]

end Path

namespace FileSystem
variable {fs fs' : FileSystem} {place : Location} {path : Path} {file : File}
  {now : Calendar.Moment}

/-- Whatever lies anywhere lies in a directory. -/
def IsTree (fs : FileSystem) : Prop :=
  ∀ place name, fs.node? (place ++ [name]) ≠ none → fs.node? place = some .directory

/-- The root alone is a tree. -/
theorem isTree_empty : FileSystem.empty.IsTree := by
  intro place name h
  simp [node?, FileSystem.empty, holding] at h

private theorem IsTree.directory (h : fs.IsTree) (names : List Name)
    (hne : names ≠ []) (hn : fs.node? (place ++ names) ≠ none) :
    fs.node? place = some .directory := by
  induction names using List.reverseRecOn with
  | nil => exact absurd rfl hne
  | append_singleton names name ih =>
    rw [← List.append_assoc] at hn
    have hd := h _ name hn
    by_cases hnil : names = []
    · rwa [hnil, List.append_nil] at hd
    · exact ih hnil (by simp [hd])

private theorem follow_of_not_mem {names : List Name} (h : parentName ∉ names) (start : Location) :
    follow start names = start ++ names := by
  induction names generalizing start with
  | nil => simp [follow]
  | cons name names ih =>
    rw [List.mem_cons, not_or] at h
    have hstep : follow start (name :: names) = follow (start ++ [name]) names := by
      rw [follow, List.foldl_cons, if_neg (Ne.symm h.1), follow]
    rw [hstep, ih h.2, List.append_assoc, List.singleton_append]

/-- A way that does not go up was open already if there was something at its end. -/
private theorem IsTree.walk (h : fs.IsTree) {start : Location} {names : List Name}
    (hup : parentName ∉ names) (hn : fs.node? place ≠ none)
    (hw : fs'.walk start names = .ok place) : fs.walk start names = .ok place := by
  have hplace : place = start ++ names := (walk_eq_follow hw).trans (follow_of_not_mem hup start)
  induction names generalizing start with
  | nil => exact hw
  | cons name names ih =>
    rw [List.mem_cons, not_or] at hup
    rw [hplace] at hn
    have hd := h.directory (name :: names) (by simp) hn
    rw [← hplace] at hn
    simp only [FileSystem.walk, requireDirectory_eq_ok.mpr hd, bind, Except.bind] at hw ⊢
    split at hw
    · cases hw
    · split at hw
      · cases hw
      · next hshort =>
        rw [if_neg (Ne.symm hup.1)] at hw ⊢
        rw [if_neg hshort]
        exact ih hup.2 hw (by simp [hplace])

/-- Where something lay already, the way to it was open, unless it goes up from a directory that was
made since. -/
theorem IsTree.locate (h : fs.IsTree) (hsteady : path.IsSteady fs) (hk : fs.KeepsDirectories fs')
    (hn : fs.node? place ≠ none) (hl : fs'.locate path = .ok place) : fs.locate path = .ok place := by
  obtain ⟨front, back, base, hnames, hup, hfront⟩ := hsteady
  obtain ⟨hplain, hsize, hempty, hwalk⟩ := locate_eq_ok_iff.mp hl
  rw [hk.workingDirectory, hnames, walk_append, hk.walk hfront] at hwalk
  have hback : fs.walk base back = .ok place := h.walk hup hn hwalk
  refine locate_eq_ok_iff.mpr ⟨hplain, hsize, hempty, ?_⟩
  rw [hnames, walk_append, hfront]
  exact hback

/-- What can be read once directories were made could be read before, unless the way to it goes up
from one of them. -/
theorem IsTree.read (h : fs.IsTree) (hsteady : path.IsSteady fs) (hext : fs.Extends fs')
    (hr : fs'.read path = .ok file) : fs.read path = .ok file := by
  obtain ⟨place, hl, hn, hw⟩ := find_eq_file_iff.mp (read_eq_ok_iff.mp hr)
  have hfile := hext.file_iff.mp hn
  have hbefore := h.locate hsteady hext.keepsDirectories (by simp [hfile]) hl
  exact read_eq_ok_iff.mpr (find_eq_file_iff.mpr ⟨place, hbefore, hfile, hw⟩)

/-- There is a directory above a place. -/
private def Rooted (fs : FileSystem) (place : Location) : Prop :=
  ∀ above name, place = above ++ [name] → fs.node? above = some .directory

private theorem rooted_root : fs.Rooted [] := fun above name h => by simp at h

/-- What can be walked to lies in a directory, if the way begins in one. -/
private theorem IsTree.rooted_of_walk (h : fs.IsTree) {start : Location} {names : List Name}
    (hstart : fs.Rooted start) (hw : fs.walk start names = .ok place) : fs.Rooted place := by
  induction names generalizing start with
  | nil =>
    cases hw
    exact hstart
  | cons name names ih =>
    simp only [FileSystem.walk, bind, Except.bind] at hw
    split at hw
    · cases hw
    · next hrequire =>
      have hd := requireDirectory_eq_ok.mp hrequire
      split at hw
      · cases hw
      · refine ih ?_ hw
        intro above last hlast
        split at hlast
        · rcases List.eq_nil_or_concat start with rfl | ⟨front, top, rfl⟩
          · simp at hlast
          · rw [List.concat_eq_append] at hd hlast
            rw [List.dropLast_concat] at hlast
            subst hlast
            rw [List.append_assoc] at hd
            exact h.directory ([last] ++ [top]) (by simp) (Option.ne_none_iff_exists'.mpr ⟨_, hd⟩)
        · obtain ⟨rfl, -⟩ := List.append_inj' hlast rfl
          exact hd

/-- What a path leads to lies in a directory. -/
private theorem IsTree.rooted (h : fs.IsTree) (hs : fs.Settled) (hl : fs.locate path = .ok place) :
    fs.Rooted place := by
  obtain ⟨-, -, -, hwalk⟩ := locate_eq_ok_iff.mp hl
  refine h.rooted_of_walk ?_ hwalk
  split
  · exact rooted_root
  · exact h.rooted_of_walk rooted_root hs.walk

private theorem IsTree.put (h : fs.IsTree) (hroot : fs.Rooted place)
    (hd : fs.node? place ≠ some .directory) (node : Node) : (fs.put place node).IsTree := by
  intro above name hn
  rw [node?_put _ _ _ (ne_root hd)] at hn ⊢
  have habove : fs.node? above = some .directory := by
    by_cases ho : above ++ [name] = place
    · exact hroot above name ho.symm
    · rw [if_neg ho] at hn
      exact h above name hn
  rw [if_neg, habove]
  rintro rfl
  exact hd habove

/-- Whether everything lies in a directory shows in the files and directories alone. -/
theorem IsTree.of_matches (h : fs.IsTree) (hm : fs.Matches fs') : fs'.IsTree := by
  intro place name hn
  rw [hm.node?] at hn ⊢
  exact h place name hn

private theorem IsTree.makeDirectory (h : fs.IsTree) (hs : fs.Settled)
    (hmake : fs.makeDirectory path now = .ok fs') : fs'.IsTree := by
  obtain ⟨place, hl, hn, rfl⟩ := makeDirectory_eq_ok_iff.mp hmake
  refine IsTree.of_matches ?_ (matches_addDirectory fs place now)
  exact h.put (h.rooted hs hl) (by simp [hn]) .directory

/-- Directories can be made on the way to one. -/
theorem IsTree.makeAll (h : fs.IsTree) (hs : fs.Settled) (paths : List Path) :
    (makeAll now paths fs).1.IsTree := by
  induction paths generalizing fs with
  | nil => exact h
  | cons path above ih =>
    have habove := ih h hs
    have hextends := makeAll_extends now above fs
    rw [FileSystem.makeAll]
    split
    · next hmake => exact h.makeDirectory hs hmake
    · split
      · next hblocked =>
        rw [hblocked] at habove
        exact habove
      · next hmade =>
        rw [hmade] at habove hextends
        split
        · next hmake => exact habove.makeDirectory (hs.mono hextends.keepsDirectories) hmake
        · split <;> exact habove
    · split <;> exact h

/-- A file that is entered lies in a directory. -/
theorem IsTree.enter (h : fs.IsTree) (hs : fs.Settled) (he : fs.enter path file now = .ok fs') :
    fs'.IsTree := by
  obtain ⟨place, hl, -, hd, rfl⟩ := enter_eq_ok_iff.mp he
  exact (h.put (h.rooted hs hl) hd (.file file)).of_matches (matches_add fs place _ now)

end FileSystem
end Signage.Files
