import Signage.Proofs.Files.Changes
import Signage.Proofs.Text.Parts

/-!
Paths to something in a directory: how they are joined and taken apart again, and where they lead.
-/
namespace Signage.Files

/-- A text that names something in a directory. -/
structure IsName (name : Name) : Prop where
  isStep : isStep name = true
  ne_parentName : name ≠ parentName
  slash : '/' ∉ name
  plain : name.contains '\x00' = false

/-- Names are not empty. -/
theorem IsName.ne_nil {name : Name} (h : IsName name) : name ≠ [] := by
  rintro rfl
  cases h.isStep

/-- Whether the name is not too long for a device. -/
def IsShort (name : Name) : Prop := (String.ofList name).utf8ByteSize ≤ FileSystem.longestName

instance (name : Name) : Decidable (IsShort name) := Nat.decLe _ _

namespace Path
variable {path : Path} {name above : Name}

/-- A path has a part, be it an empty one. -/
theorem parts_ofText_ne_nil (s : List Char) : (ofText s).parts ≠ [] := Text.splitAt_ne_nil _ s

private theorem child_eq_append (h : path.parts.getLast? ≠ some []) :
    path.child name = ⟨path.parts ++ [name]⟩ := by
  unfold child
  split
  · contradiction
  · rfl

private theorem child_eq_dropLast (h : path.parts.getLast? = some []) :
    path.child name = ⟨path.parts.dropLast ++ [name]⟩ := by
  rw [child, h]

private theorem join_nil (h : '/' ∉ name) : join [] name = name := by
  unfold join
  split
  · simp at h
  · rfl

private theorem join_slash (front : List Char) (h : '/' ∉ name) :
    join (front ++ ['/']) name = front ++ '/' :: name := by
  unfold join
  split
  · simp at h
  · rw [List.getLast?_concat]
    simp

private theorem join_concat {c : Char} (front : List Char) (hc : c ≠ '/') (h : '/' ∉ name) :
    join (front ++ [c]) name = front ++ [c] ++ '/' :: name := by
  unfold join
  split
  · simp at h
  · rw [List.getLast?_concat]
    split
    · contradiction
    · simp_all
    · rfl

/-- Joining a text and a name writes the path to the name in the directory. -/
theorem ofText_join (base : List Char) (h : '/' ∉ name) :
    ofText (join base name) = (ofText base).child name := by
  have hname : Text.splitAt '/' name = [name] := Text.splitAt_of_not_mem h
  rcases List.eq_nil_or_concat base with rfl | ⟨front, c, rfl⟩
  · rw [join_nil h, child_eq_dropLast rfl]
    simp [ofText, hname, Text.splitAt]
  · rw [List.concat_eq_append]
    by_cases hc : c = '/'
    · subst hc
      have hfront : Text.splitAt '/' (front ++ ['/']) = Text.splitAt '/' front ++ [[]] :=
        Text.splitAt_append front []
      rw [join_slash front h, child_eq_dropLast (by simp [ofText, hfront])]
      simp [ofText, hfront, Text.splitAt_append, hname]
    · obtain ⟨parts, part, hparts⟩ := Text.exists_splitAt_concat hc front
      rw [join_concat front hc h, child_eq_append (by simp [ofText, hparts])]
      simp only [ofText, Text.splitAt_append, hname]

/-- The last part is the name. -/
@[simp] theorem getLast?_child : (path.child name).parts.getLast? = some name := by
  by_cases h : path.parts.getLast? = some []
  · simp [child_eq_dropLast h]
  · simp [child_eq_append h]

private theorem parts_child_ne_nil : (path.child name).parts ≠ [] := by
  intro h
  have hlast : (path.child name).parts.getLast? = some name := getLast?_child
  simp [h] at hlast

/-- In a directory that is named itself, a name is one more part. -/
theorem parts_child_child (h : above ≠ []) :
    ((path.child above).child name).parts = (path.child above).parts ++ [name] := by
  rw [child_eq_append (by simpa using h)]

/-- A child has one name more. -/
theorem names_child (h : isStep name = true) : (path.child name).names = path.names ++ [name] := by
  by_cases hl : path.parts.getLast? = some []
  · obtain ⟨front, hfront⟩ := List.getLast?_eq_some_iff.mp hl
    have hempty : isStep [] = false := rfl
    simp [child_eq_dropLast hl, names, hfront, h, hempty]
  · simp [child_eq_append hl, names, h]

/-- Whether a path is absolute shows in its first part. -/
theorem isAbsolute_cons (first : Name) {rest : List Name} (h : rest ≠ []) :
    (⟨first :: rest⟩ : Path).isAbsolute = first.isEmpty := by
  obtain ⟨second, rest, rfl⟩ := List.exists_cons_of_ne_nil h
  cases first <;> rfl

@[simp] theorem isAbsolute_child : (path.child name).isAbsolute = path.isAbsolute := by
  obtain ⟨parts⟩ := path
  match parts with
  | [] => simp [child, isAbsolute]
  | [first] => cases first <;> simp [child, isAbsolute]
  | first :: second :: parts =>
    rw [isAbsolute_cons first (by simp)]
    by_cases hl : (first :: second :: parts).getLast? = some []
    · rw [child_eq_dropLast hl]
      exact isAbsolute_cons first (by simp)
    · rw [child_eq_append hl]
      exact isAbsolute_cons first (by simp)

/-- A path with a name behind it is not empty. -/
theorem isEmpty_child (h : name ≠ []) : (path.child name).isEmpty = false := by
  have hmem : name ∈ (path.child name).parts := List.mem_of_getLast? getLast?_child
  have hall : (path.child name).parts.all List.isEmpty = false := by
    rw [List.all_eq_false]
    exact ⟨name, hmem, by simpa using h⟩
  rw [isEmpty, hall, Bool.false_and]

/-- A name at the end of a path may be that of a file. -/
theorem wantsDirectory_child (h : isStep name = true) (hp : name ≠ parentName) :
    (path.child name).wantsDirectory = false := by
  simp [wantsDirectory, h, hp]

/-- The name can be taken off again. -/
theorem parent?_child_child (ha : isStep above = true) (h : isStep name = true) :
    ((path.child above).child name).parent? = some (path.child above) := by
  have hne : above ≠ [] := by
    rintro rfl
    cases ha
  have hup (parts : List Name) {last : Name} (hl : isStep last = true) :
      upToLastStep (parts ++ [last]) = parts ++ [last] := by
    simp [upToLastStep, hl]
  have hlast : (path.child above).parts.getLast? = some above := getLast?_child
  obtain ⟨front, hfront⟩ := List.getLast?_eq_some_iff.mp hlast
  have hnames : ((path.child above).child name).names ≠ [] := by
    rw [names_child h]
    simp
  rw [parent?, if_neg hnames, parts_child_child hne, hup _ h, List.dropLast_concat, hfront, hup _ ha,
    ← hfront]
  split
  · next hnil => exact absurd hnil parts_child_ne_nil
  · rfl

/-- The path as seen from the root leads on as the path does. -/
theorem startingAt_child (place : Location) (hp : path.parts ≠ []) :
    (path.child name).startingAt place = (path.startingAt place).child name := by
  unfold startingAt
  rw [isAbsolute_child]
  split
  · rfl
  · obtain ⟨front, last, hparts⟩ : ∃ front last, path.parts = front ++ [last] := by
      rcases List.eq_nil_or_concat path.parts with hnil | ⟨front, last, hparts⟩
      · contradiction
      · exact ⟨front, last, hparts.trans List.concat_eq_append⟩
    have happend : [] :: place ++ path.parts = [] :: place ++ front ++ [last] := by
      simp [hparts]
    have hlast : ([] :: place ++ path.parts).getLast? = some last := by
      rw [happend, List.getLast?_concat]
    by_cases hl : last = []
    · rw [child_eq_dropLast (by simp [hparts, hl]), child_eq_dropLast (hlast.trans (by rw [hl])),
        happend, List.dropLast_concat, hparts, List.dropLast_concat]
      simp
    · have hne : ([] :: place ++ path.parts).getLast? ≠ some [] := by
        rw [hlast]
        simpa using hl
      rw [child_eq_append (by simp [hparts, hl]), child_eq_append hne, hparts]
      simp

private theorem names_startingAt (place : Location) :
    (path.startingAt place).names =
      if path.isAbsolute then path.names else place.filter isStep ++ path.names := by
  unfold startingAt names
  split
  · rfl
  · have hempty : isStep [] = false := rfl
    simp [hempty]

private theorem isAbsolute_startingAt (place : Location) (hp : path.parts ≠ []) :
    (path.startingAt place).isAbsolute = true := by
  unfold startingAt
  split
  · assumption
  · exact isAbsolute_cons [] (by simp [hp])

/-- A last part stands behind one more mark. -/
theorem intercalate_concat (mark : Char) (parts : List Name) (h : parts ≠ []) (last : Name) :
    [mark].intercalate (parts ++ [last]) = [mark].intercalate parts ++ mark :: last := by
  induction parts with
  | nil => contradiction
  | cons first parts ih =>
    cases parts with
    | nil => simp [List.intercalate_cons_cons]
    | cons second parts =>
      have ih := ih (by simp)
      rw [List.cons_append, List.cons_append] at *
      rw [List.intercalate_cons_cons, ih, List.intercalate_cons_cons]
      simp

/-- A path is no longer than those to what lies in it. -/
theorem size_le_size_child_child (ha : above ≠ []) :
    (path.child above).size ≤ ((path.child above).child name).size := by
  have htext : ((path.child above).child name).text = (path.child above).text ++ '/' :: name := by
    rw [text, parts_child_child ha, intercalate_concat _ _ parts_child_ne_nil]
    rfl
  rw [size, size, htext, String.ofList_append, String.utf8ByteSize_append]
  exact Nat.le_add_right _ _

/-- Nothing on the way hinders the path to lead to a place; its length is another matter. -/
structure Reaches (path : Path) (fs : FileSystem) (place : Location) : Prop where
  plain : (path.names.any fun name => name.contains '\x00') = false
  walk : fs.walk (if path.isAbsolute then [] else fs.workingDirectory) path.names = .ok place

section
variable {fs fs' : FileSystem} {place : Location}
open FileSystem

/-- A path leads on as long as the directories on it stay. -/
theorem Reaches.mono (h : path.Reaches fs place) (hk : fs.KeepsDirectories fs') :
    path.Reaches fs' place := by
  refine ⟨h.plain, ?_⟩
  rw [hk.workingDirectory]
  exact hk.walk h.walk

/-- The path leads to the same place when it is seen from the root. -/
theorem Reaches.startingAt (h : path.Reaches fs place) (hs : fs.Settled) (hp : path.parts ≠ []) :
    (path.startingAt fs.workingDirectory).Reaches fs place := by
  have hsteps : fs.workingDirectory.filter isStep = fs.workingDirectory :=
    List.filter_eq_self.mpr hs.isStep
  have hwalk := h.walk
  refine ⟨?_, ?_⟩
  · rw [names_startingAt, hsteps]
    split
    · exact h.plain
    · rw [List.any_append, hs.plain, h.plain]
      rfl
  · rw [isAbsolute_startingAt _ hp, if_pos rfl, names_startingAt, hsteps]
    split at hwalk
    · next ha => rwa [if_pos ha]
    · next ha =>
      rw [if_neg ha, walk_append, hs.walk]
      exact hwalk

/-- A path that leads to a place and is not too long is located there. -/
theorem Reaches.locate (h : path.Reaches fs place) (hs : path.size ≤ longestPath)
    (he : path.isEmpty = false) : fs.locate path = .ok place := by
  unfold FileSystem.locate
  rw [h.plain, he, if_neg (by simp), if_neg (Nat.not_lt.mpr hs), if_neg (by simp), h.walk]

private theorem plain_child (h : path.Reaches fs place) (hn : IsName name) :
    ((path.child name).names.any fun name => name.contains '\x00') = false := by
  rw [names_child hn.isStep, List.any_append, h.plain, Bool.false_or, List.any_cons, hn.plain]
  rfl

private theorem walk_child (h : path.Reaches fs place) (hn : IsName name) :
    fs.walk (if (path.child name).isAbsolute then [] else fs.workingDirectory)
      (path.child name).names = fs.walk place [name] := by
  rw [isAbsolute_child, names_child hn.isStep, walk_append, h.walk]
  rfl

/-- A path into a directory leads to what may lie there. -/
theorem Reaches.child (h : path.Reaches fs place) (hd : fs.node? place = some .directory)
    (hn : IsName name) (hshort : IsShort name) :
    (path.child name).Reaches fs (place ++ [name]) := by
  refine ⟨plain_child h hn, ?_⟩
  rw [walk_child h hn, FileSystem.walk, requireDirectory_eq_ok.mpr hd]
  simp only [bind, Except.bind]
  rw [if_neg (Nat.not_lt.mpr hshort), if_neg hn.ne_parentName]
  rfl

/-- A path through a place that is empty leads nowhere. -/
theorem Reaches.locate_child_eq_notFound (h : path.Reaches fs place) (hd : fs.node? place = none)
    (hn : IsName name) (hs : (path.child name).size ≤ longestPath) :
    fs.locate (path.child name) = .error .notFound := by
  have hrequire : fs.requireDirectory place = .error .notFound := by
    rw [requireDirectory, hd]
  unfold FileSystem.locate
  rw [plain_child h hn, isEmpty_child hn.ne_nil, if_neg (by simp), if_neg (Nat.not_lt.mpr hs),
    if_neg (by simp), walk_child h hn, FileSystem.walk, hrequire]
  rfl

/-- A path on which a name is too long leads nowhere, and neither does one that is itself. -/
theorem Reaches.locate_child_child_eq_nameTooLong (h : path.Reaches fs place)
    (hd : fs.node? place = some .directory) (ha : IsName above) (hn : IsName name)
    (hlong : ¬(IsShort above ∧ ((path.child above).child name).size ≤ longestPath)) :
    fs.locate ((path.child above).child name) = .error .nameTooLong := by
  have hplain : (((path.child above).child name).names.any fun name => name.contains '\x00') =
      false := by
    rw [names_child hn.isStep, List.any_append, plain_child h ha, List.any_cons, hn.plain]
    rfl
  unfold FileSystem.locate
  rw [hplain, isEmpty_child hn.ne_nil, if_neg (by simp)]
  split
  · rfl
  · next hs =>
    rw [if_neg (by simp)]
    have hshort : ¬IsShort above := fun hshort => hlong ⟨hshort, Nat.not_lt.mp hs⟩
    rw [isAbsolute_child, names_child hn.isStep, walk_append, walk_child h ha, FileSystem.walk,
      requireDirectory_eq_ok.mpr hd]
    simp only [bind, Except.bind]
    rw [if_pos (Nat.not_le.mp hshort)]
    rfl

/-- Making a directory in one that exists adds it if it is missing, and nothing else. -/
theorem Reaches.makeDirectories_child (h : path.Reaches fs place)
    (hd : fs.node? place = some .directory) (hn : IsName name) (hshort : IsShort name)
    (hs : (path.child name).size ≤ longestPath)
    (hfile : ∀ file, fs.node? (place ++ [name]) ≠ some (.file file)) (now : Calendar.Moment) :
    fs.makeDirectories (path.child name) now =
      (if fs.node? (place ++ [name]) = none then fs.addDirectory (place ++ [name]) now else fs,
        .ok ()) := by
  have hlocate := (h.child hd hn hshort).locate hs (isEmpty_child hn.ne_nil)
  have hancestors : ∃ above, (path.child name).ancestors = path.child name :: above := by
    unfold ancestors
    rw [names_child hn.isStep, List.length_append]
    exact ⟨_, rfl⟩
  obtain ⟨above, hancestors⟩ := hancestors
  rw [FileSystem.makeDirectories, hancestors, makeAll]
  cases hnode : fs.node? (place ++ [name]) with
  | none =>
    have hmake : fs.makeDirectory (path.child name) now =
        .ok (fs.addDirectory (place ++ [name]) now) := by
      simp [makeDirectory, hlocate, hnode, bind, Except.bind]
    rw [hmake]
    rfl
  | some node =>
    cases node with
    | file file => exact absurd hnode (hfile file)
    | directory =>
      have hmake : fs.makeDirectory (path.child name) now = .error .alreadyExists := by
        simp [makeDirectory, hlocate, hnode, bind, Except.bind]
      have hfound := isDirectory_iff.mpr ⟨_, hlocate, hnode⟩
      simp [hmake, hfound]

/-- The path leads to a name in a directory that is named itself. -/
def IsNested (path : Path) : Prop :=
  ∃ (base : Path) (folder name : Name), path = (base.child folder).child name ∧ IsName folder ∧
    IsName name ∧ IsShort name

/-- The directory that a nested path lies in has a name. -/
theorem IsNested.names_ne_nil {above : Path} (h : path.IsNested) (hparent : path.parent? = some above) :
    above.names ≠ [] := by
  obtain ⟨base, folder, name, rfl, hfolder, hname, -⟩ := h
  obtain rfl : base.child folder = above :=
    Option.some.inj ((parent?_child_child hfolder.isStep hname.isStep).symm.trans hparent)
  simp [names_child hfolder.isStep]

private theorem size_le_of_read
    (h : fs.read path = .error .notFound ∨ ∃ file, fs.read path = .ok file) :
    path.size ≤ longestPath := by
  refine Nat.not_lt.mp fun hlong => ?_
  have hlocate : fs.locate path = .error .badName ∨ fs.locate path = .error .nameTooLong := by
    unfold FileSystem.locate
    split
    · exact .inl rfl
    · exact .inr rfl
  unfold FileSystem.read find at h
  rcases hlocate with hl | hl <;> simp [hl, bind, Except.bind] at h

/-- In a directory that is there a file can be put where there is none, or where there is one. -/
theorem IsNested.writable {above : Path} (h : path.IsNested) (hparent : path.parent? = some above)
    (hd : fs.isDirectory above = true)
    (hread : fs.read path = .error .notFound ∨ ∃ file, fs.read path = .ok file) :
    fs.Writable path := by
  have hsize := size_le_of_read hread
  obtain ⟨base, folder, name, rfl, hfolder, hname, hshort⟩ := h
  obtain rfl : base.child folder = above :=
    Option.some.inj ((parent?_child_child hfolder.isStep hname.isStep).symm.trans hparent)
  obtain ⟨place, hl, hn⟩ := isDirectory_iff.mp hd
  obtain ⟨hplain, -, -, hwalk⟩ := locate_eq_ok_iff.mp hl
  have hlocate := (Reaches.child ⟨hplain, hwalk⟩ hn hname hshort).locate hsize
    (isEmpty_child hname.ne_nil)
  refine ⟨_, hlocate, wantsDirectory_child hname.isStep hname.ne_parentName, fun hdirectory => ?_⟩
  have hfind := find_eq_directory_iff.mpr ⟨_, hlocate, hdirectory⟩
  unfold FileSystem.read at hread
  simp [hfind, bind, Except.bind] at hread

end

end Path
end Signage.Files
