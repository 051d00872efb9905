import Mathlib.Data.List.Chain
import Mathlib.Data.List.Induction
import Signage.Proofs.Files.Children

/-!
The directories above a path. Whatever leads to a path leads through all of them, so that to make
them once more changes nothing, whether the first time they could all be made or not.
-/
namespace Signage.Files
namespace Path
variable {path above : Path}

private theorem upToLastStep_concat (parts : List Name) (part : Name) :
    upToLastStep (parts ++ [part]) = if isStep part then parts ++ [part] else upToLastStep parts := by
  simp only [upToLastStep, List.reverse_append, List.reverse_singleton, List.singleton_append,
    List.dropWhile_cons]
  by_cases h : isStep part = true
  · simp [h]
  · simp [h]

/-- What is cut off holds no steps. -/
private theorem exists_upToLastStep (parts : List Name) :
    ∃ tail, parts = upToLastStep parts ++ tail ∧ tail.filter isStep = [] := by
  induction parts using List.reverseRecOn with
  | nil => exact ⟨[], rfl, rfl⟩
  | append_singleton parts part ih =>
    rw [upToLastStep_concat]
    split
    · exact ⟨[], by simp, rfl⟩
    · next h =>
      obtain ⟨tail, hparts, htail⟩ := ih
      refine ⟨tail ++ [part], ?_, by simp [htail, h]⟩
      rw [← List.append_assoc, ← hparts]

/-- What is left ends in a step. -/
private theorem upToLastStep_cases (parts : List Name) :
    upToLastStep parts = [] ∨ ∃ front last, upToLastStep parts = front ++ [last] ∧ isStep last = true := by
  induction parts using List.reverseRecOn with
  | nil => exact .inl rfl
  | append_singleton parts part ih =>
    rw [upToLastStep_concat]
    split
    · next h => exact .inr ⟨parts, part, rfl, h⟩
    · exact ih

/-- The parts of a path are those of the directory above it and more. -/
structure Continues (path above : Path) : Prop where
  names : ∃ name, path.names = above.names ++ [name]
  parts : above.names ≠ [] → ∃ more, path.parts = above.parts ++ more
  last : above.names ≠ [] → ∃ front last, above.parts = front ++ [last] ∧ isStep last = true

private theorem filter_upToLastStep (parts : List Name) :
    (upToLastStep parts).filter isStep = parts.filter isStep := by
  obtain ⟨tail, hparts, htail⟩ := exists_upToLastStep parts
  have h := congrArg (List.filter isStep) hparts
  rw [List.filter_append, htail, List.append_nil] at h
  exact h.symm

/-- A path goes one step further than its parent. -/
theorem continues_of_parent? (h : path.parent? = some above) : path.Continues above := by
  unfold parent? at h
  split at h
  · cases h
  · next hnames =>
    obtain ⟨tail, hparts, -⟩ := exists_upToLastStep path.parts
    rcases upToLastStep_cases path.parts with hnil | ⟨front, last, hfront, hlast⟩
    · have hfilter := filter_upToLastStep path.parts
      rw [hnil] at hfilter
      exact absurd hfilter.symm hnames
    · rw [hfront, List.dropLast_concat] at h
      have hall : path.names = (upToLastStep front).filter isStep ++ [last] := by
        rw [filter_upToLastStep, names, ← filter_upToLastStep path.parts, hfront]
        simp [hlast]
      split at h
      · next hnil =>
        cases h
        have habove : (ofText (if path.isAbsolute then ['/'] else [])).names = [] := by
          cases path.isAbsolute <;> rfl
        refine ⟨⟨last, ?_⟩, fun hne => absurd habove hne, fun hne => absurd habove hne⟩
        rw [habove, hall, hnil]
        rfl
      · next hne =>
        cases h
        refine ⟨⟨last, hall⟩, fun _ => ?_, fun _ => ?_⟩
        · obtain ⟨tail', hfront', -⟩ := exists_upToLastStep front
          refine ⟨tail' ++ last :: tail, ?_⟩
          rw [hparts, hfront]
          simp only [List.append_assoc, List.singleton_append]
          rw [← List.append_assoc (upToLastStep front), ← hfront']
        · rcases upToLastStep_cases front with hnil | hends
          · exact absurd hnil hne
          · exact hends

private theorem size_le_size_append {parts : List Name} (hne : parts ≠ []) (more : List Name) :
    (⟨parts⟩ : Path).size ≤ (⟨parts ++ more⟩ : Path).size := by
  induction more using List.reverseRecOn with
  | nil => rw [List.append_nil]
  | append_singleton more part ih =>
    refine Nat.le_trans ih ?_
    rw [← List.append_assoc, size, size, text, text, intercalate_concat _ _ (by simp [hne]),
      String.ofList_append, String.utf8ByteSize_append]
    exact Nat.le_add_right _ _

private theorem Continues.size_le (h : path.Continues above) (hn : above.names ≠ []) :
    above.size ≤ path.size := by
  obtain ⟨more, hmore⟩ := h.parts hn
  obtain ⟨front, last, hfront, -⟩ := h.last hn
  have hsize := size_le_size_append (show above.parts ≠ [] by simp [hfront]) more
  rwa [← hmore] at hsize

private theorem Continues.isAbsolute (h : path.Continues above) (hn : above.names ≠ []) :
    above.isAbsolute = path.isAbsolute := by
  obtain ⟨more, hmore⟩ := h.parts hn
  obtain ⟨front, last, hfront, hlast⟩ := h.last hn
  obtain ⟨parts⟩ := above
  obtain ⟨parts'⟩ := path
  cases hfront
  cases hmore
  cases front with
  | nil =>
    cases last with
    | nil => cases hlast
    | cons c last => rfl
  | cons first front =>
    have habove : (⟨first :: (front ++ [last])⟩ : Path).isAbsolute = first.isEmpty :=
      isAbsolute_cons first (by simp)
    have hpath : (⟨first :: (front ++ [last] ++ more)⟩ : Path).isAbsolute = first.isEmpty :=
      isAbsolute_cons first (by simp)
    exact habove.trans hpath.symm

private theorem isEmpty_eq_false_of_names_ne_nil (hn : path.names ≠ []) : path.isEmpty = false := by
  obtain ⟨name, hname⟩ := List.exists_mem_of_ne_nil _ hn
  obtain ⟨hpart, hstep⟩ := List.mem_filter.mp hname
  have hall : path.parts.all List.isEmpty = false := by
    rw [List.all_eq_false]
    refine ⟨name, hpart, ?_⟩
    rw [List.isEmpty_iff]
    rintro rfl
    cases hstep
  rw [isEmpty, hall, Bool.false_and]

/-- What leads to the path leads through the directory above. -/
def Passes (path above : Path) : Prop :=
  ∀ (fs : FileSystem) (place : Location), fs.locate path = .ok place → fs.isDirectory above = true

private theorem Continues.passes (h : path.Continues above) (hn : above.names ≠ []) :
    path.Passes above := by
  intro fs place hl
  obtain ⟨hplain, hsize, -, hwalk⟩ := FileSystem.locate_eq_ok_iff.mp hl
  obtain ⟨name, hname⟩ := h.names
  rw [hname, List.any_append, Bool.or_eq_false_iff] at hplain
  rw [hname, FileSystem.walk_append, ← h.isAbsolute hn] at hwalk
  cases habove : fs.walk (if above.isAbsolute then [] else fs.workingDirectory) above.names with
  | error fault =>
    rw [habove] at hwalk
    cases hwalk
  | ok upper =>
    rw [habove] at hwalk
    have hlocate : fs.locate above = .ok upper :=
      FileSystem.locate_eq_ok_iff.mpr ⟨hplain.1, Nat.le_trans (h.size_le hn) hsize,
        isEmpty_eq_false_of_names_ne_nil hn, habove⟩
    have hdirectory : fs.node? upper = some .directory := by
      rw [← FileSystem.requireDirectory_eq_ok]
      cases hrequire : fs.requireDirectory upper with
      | ok _ => rfl
      | error fault =>
        simp [Except.bind, FileSystem.walk, hrequire, bind] at hwalk
    exact FileSystem.isDirectory_iff.mpr ⟨upper, hlocate, hdirectory⟩

private theorem isChain_ascent (count : Nat) (path : Path) (hcount : path.names.length = count) :
    (ascent count path).IsChain Passes := by
  induction count generalizing path with
  | zero => exact .nil
  | succ count ih =>
    rw [ascent]
    split
    · next above hparent =>
      have hcontinues := continues_of_parent? hparent
      obtain ⟨name, hname⟩ := hcontinues.names
      have habove : above.names.length = count := by
        rw [hname, List.length_append] at hcount
        exact Nat.succ.inj hcount
      have hchain := ih above habove
      cases count with
      | zero => exact .singleton path
      | succ count =>
        have hn : above.names ≠ [] := List.ne_nil_of_length_eq_add_one habove
        rw [ascent] at hchain ⊢
        exact .cons_cons (hcontinues.passes hn) hchain
    · exact .singleton path

/-- Each of the paths above a path that have names of their own is passed on the way to the one
before it. -/
theorem isChain_ancestors (path : Path) : path.ancestors.IsChain Passes :=
  isChain_ascent _ path rfl

end Path

namespace FileSystem
variable {fs fs' made : FileSystem} {path above : Path} {paths : List Path} {fault : Fault}
  {answer : Except Fault Unit} {now now' : Calendar.Moment}

private theorem isDirectory_of_makeDirectory (h : fs.makeDirectory path now = .ok fs') :
    fs'.isDirectory path = true := by
  have hkeeps := (makeDirectory_extends h).keepsDirectories
  obtain ⟨place, hl, hn, rfl⟩ := makeDirectory_eq_ok_iff.mp h
  have hd : fs.node? place ≠ some .directory := by simp [hn]
  refine isDirectory_iff.mpr ⟨place, hkeeps.locate hl, ?_⟩
  rw [(matches_addDirectory fs place now).node?, node?_put _ _ _ (ne_root hd), if_pos rfl]

/-- A directory cannot be made where there is one. -/
theorem makeDirectory_of_isDirectory (h : fs.isDirectory path = true) :
    fs.makeDirectory path now = .error .alreadyExists := by
  obtain ⟨place, hl, hn⟩ := isDirectory_iff.mp h
  simp [makeDirectory, hl, hn, bind, Except.bind]

/-- Where there is a directory already, none is made. -/
theorem makeAll_of_isDirectory (paths : List Path) (h : fs.isDirectory path = true) :
    makeAll now (path :: paths) fs = (fs, .ok ()) := by
  rw [makeAll, makeDirectory_of_isDirectory h]
  simp [h]

/-- How it ends to make a directory and those above it, and with which tree. -/
private inductive Makes (now : Calendar.Moment) (path : Path) (above : List Path) (fs : FileSystem) :
    FileSystem × Except Fault Unit → Prop
  | made {base fs' : FileSystem} (h : base.makeDirectory path now = .ok fs') :
      Makes now path above fs (fs', .ok ())
  | found {base : FileSystem} (hd : base.isDirectory path = true) : Makes now path above fs (base, .ok ())
  | refused {fault : Fault} (h : fs.makeDirectory path now = .error fault)
      (hd : fs.isDirectory path = false) : Makes now path above fs (fs, .error fault)
  | blocked {base : FileSystem} {fault : Fault} (habove : makeAll now above fs = (base, .error fault)) :
      Makes now path above fs (base, .error fault)
  | stopped {base : FileSystem} {fault : Fault} (habove : makeAll now above fs = (base, .ok ()))
      (h : base.makeDirectory path now = .error fault) (hd : base.isDirectory path = false) :
      Makes now path above fs (base, .error fault)

private theorem makes (now : Calendar.Moment) (path : Path) (above : List Path) (fs : FileSystem) :
    Makes now path above fs (makeAll now (path :: above) fs) := by
  rw [makeAll]
  split
  · next h => exact .made h
  · split
    · next h => exact .blocked h
    · next base habove =>
      split
      · next h => exact .made h
      · next h =>
        split
        · next hd => exact .found hd
        · next hd => exact .stopped habove h (Bool.eq_false_iff.mpr hd)
  · next h =>
    split
    · next hd => exact .found hd
    · next hd => exact .refused h (Bool.eq_false_iff.mpr hd)

private theorem isDirectory_eq_false_of_passes (hpasses : path.Passes above)
    (h : fs.isDirectory above = false) : fs.isDirectory path = false := by
  rw [← Bool.not_eq_true] at h ⊢
  intro hd
  obtain ⟨place, hl, -⟩ := isDirectory_iff.mp hd
  exact h (hpasses fs place hl)

/-- A directory that cannot be made is not made by those above it. -/
private theorem makeAll_stays (h : fs.makeDirectory path now = .error fault)
    (hstays : (makeAll now paths fs).1 = fs) : (makeAll now (path :: paths) fs).1 = fs := by
  rw [makeAll, h]
  split
  · next heq => cases heq
  · split
    · next heq => exact (congrArg Prod.fst heq).symm.trans hstays
    · next base heq =>
      obtain rfl : base = fs := (congrArg Prod.fst heq).symm.trans hstays
      rw [h]
      dsimp only
      split <;> rfl
  · split <;> rfl

/-- A directory that could be made is there, and one that could not is not. -/
theorem isDirectory_makeAll (now : Calendar.Moment) (paths : List Path) (path : Path)
    (hchain : (path :: paths).IsChain Path.Passes) (fs : FileSystem) :
    (makeAll now (path :: paths) fs).1.isDirectory path = (makeAll now (path :: paths) fs).2.isOk := by
  induction paths generalizing path with
  | nil =>
    have hmakes := makes now path [] fs
    generalize makeAll now [path] fs = result at hmakes ⊢
    cases hmakes with
    | made h => exact isDirectory_of_makeDirectory h
    | found hd => exact hd
    | refused _ hd => exact hd
    | blocked habove => cases habove
    | stopped _ _ hd => exact hd
  | cons above paths ih =>
    have hmakes := makes now path (above :: paths) fs
    generalize makeAll now (path :: above :: paths) fs = result at hmakes ⊢
    cases hmakes with
    | made h => exact isDirectory_of_makeDirectory h
    | found hd => exact hd
    | refused _ hd => exact hd
    | @blocked base fault habove =>
      cases hchain with
      | cons_cons hpasses hchain =>
        have hnone := ih above hchain
        rw [habove] at hnone
        exact isDirectory_eq_false_of_passes hpasses hnone
    | stopped _ _ hd => exact hd

/-- A directory that is named itself is there once it could be made. -/
theorem isDirectory_makeDirectories (hnames : path.names ≠ []) (fs : FileSystem)
    (now : Calendar.Moment) :
    (fs.makeDirectories path now).1.isDirectory path = (fs.makeDirectories path now).2.isOk := by
  obtain ⟨above, hancestors⟩ : ∃ above, path.ancestors = path :: above := by
    obtain ⟨count, hcount⟩ := Nat.exists_eq_succ_of_ne_zero (mt List.length_eq_zero_iff.mp hnames)
    exact ⟨_, by rw [Path.ancestors, hcount, Path.ascent]⟩
  have hchain := Path.isChain_ancestors path
  rw [hancestors] at hchain
  rw [makeDirectories, hancestors]
  exact isDirectory_makeAll now above path hchain fs

/-- Below what could not be made nothing can be made. -/
private theorem makeDirectory_of_blocked {base : FileSystem}
    (hchain : (path :: paths).IsChain Path.Passes) (h : makeAll now paths fs = (base, .error fault)) :
    ∃ fault, base.makeDirectory path now = .error fault := by
  cases hmake : base.makeDirectory path now with
  | error fault => exact ⟨fault, rfl⟩
  | ok made =>
    obtain ⟨place, hl, -⟩ := makeDirectory_eq_ok_iff.mp hmake
    cases hchain with
    | singleton => cases h
    | @cons_cons _ above paths hpasses hchain =>
      have hnone := isDirectory_makeAll now paths above hchain fs
      rw [h, hpasses base place hl] at hnone
      cases hnone

/-- To make directories once more changes nothing, and works if it worked. -/
theorem makeAll_makeAll (now : Calendar.Moment) (paths : List Path)
    (hchain : paths.IsChain Path.Passes) (fs : FileSystem) :
    (makeAll now paths (makeAll now paths fs).1).1 = (makeAll now paths fs).1 ∧
      (makeAll now paths (makeAll now paths fs).1).2.isOk = (makeAll now paths fs).2.isOk := by
  induction paths generalizing fs with
  | nil => exact ⟨rfl, rfl⟩
  | cons path above ih =>
    have hsame : (makeAll now (path :: above) (makeAll now (path :: above) fs).1).1 =
        (makeAll now (path :: above) fs).1 := by
      have hend := isDirectory_makeAll now above path hchain fs
      have hmakes := makes now path above fs
      generalize hresult : makeAll now (path :: above) fs = result at hmakes hend ⊢
      cases hmakes with
      | made h => rw [makeAll_of_isDirectory above hend]
      | found hd => rw [makeAll_of_isDirectory above hd]
      | refused h hd => rw [hresult]
      | blocked habove =>
        have hstays := (ih hchain.tail fs).1
        rw [habove] at hstays
        obtain ⟨fault, h⟩ := makeDirectory_of_blocked hchain habove
        exact makeAll_stays h hstays
      | stopped habove h hd =>
        have hstays := (ih hchain.tail fs).1
        rw [habove] at hstays
        exact makeAll_stays h hstays
    refine ⟨hsame, ?_⟩
    rw [← isDirectory_makeAll now above path hchain, hsame, isDirectory_makeAll now above path hchain]

/-- Two attempts to make directories come to the same, and leave trees that hold the same. -/
structure EndAlike (first again : FileSystem × Except Fault Unit) : Prop where
  left : first.1.Matches again.1
  answer : again.2 = first.2

private theorem Matches.endAlike_of_error (h : fs.Matches fs') (path : Path) (fault : Fault) :
    EndAlike (if fs.isDirectory path then (fs, .ok ()) else (fs, .error fault))
      (if fs'.isDirectory path then (fs', .ok ()) else (fs', .error fault)) := by
  rw [h.isDirectory]
  split
  · exact ⟨h, rfl⟩
  · exact ⟨h, rfl⟩

/-- Directories are made alike in trees that hold the same, at whatever moments. -/
theorem Matches.makeAll (h : fs.Matches fs') (now now' : Calendar.Moment) (paths : List Path) :
    EndAlike (makeAll now paths fs) (makeAll now' paths fs') := by
  induction paths with
  | nil => exact ⟨h, rfl⟩
  | cons path above ih =>
    rw [FileSystem.makeAll, FileSystem.makeAll]
    rcases h.makeDirectory path now now' with ⟨made, made', hm, hm', hmade⟩ | ⟨fault, hm, hm'⟩
    · rw [hm, hm']
      exact ⟨hmade, rfl⟩
    · rw [hm, hm']
      by_cases hfault : fault = .notFound
      · subst hfault
        obtain ⟨hleft, hanswer⟩ := ih
        revert hleft hanswer
        rcases FileSystem.makeAll now above fs with ⟨base, fault | ⟨⟩⟩ <;>
          rcases FileSystem.makeAll now' above fs' with ⟨base', fault' | ⟨⟩⟩ <;>
          intro hbase hanswer
        · cases hanswer
          exact ⟨hbase, rfl⟩
        · cases hanswer
        · cases hanswer
        · dsimp only at hbase ⊢
          rcases hbase.makeDirectory path now now' with ⟨made, made', hm, hm', hmade⟩ | ⟨fault, hm, hm'⟩
          · rw [hm, hm']
            exact ⟨hmade, rfl⟩
          · rw [hm, hm']
            exact hbase.endAlike_of_error path fault
      · cases fault with
        | notFound => contradiction
        | _ => exact h.endAlike_of_error path _

/-- Making directories leaves the tree as it is, or brings something new. -/
private theorem makeAll_eq_or_lt (now : Calendar.Moment) (paths : List Path) (fs : FileSystem) :
    (makeAll now paths fs).1 = fs ∨ fs.nodes.length < (makeAll now paths fs).1.nodes.length := by
  have hmade {base made : FileSystem} {path : Path}
      (hbase : base = fs ∨ fs.nodes.length < base.nodes.length)
      (hm : base.makeDirectory path now = .ok made) : fs.nodes.length < made.nodes.length := by
    have hlt := length_nodes_makeDirectory hm
    rcases hbase with rfl | hbase
    · omega
    · omega
  induction paths with
  | nil => exact .inl rfl
  | cons path above ih =>
    rw [makeAll]
    split
    · next hm => exact .inr (hmade (.inl rfl) hm)
    · revert ih
      rcases makeAll now above fs with ⟨base, fault | ⟨⟩⟩ <;> intro ih
      · exact ih
      · dsimp only at ih ⊢
        split
        · next hm => exact .inr (hmade ih hm)
        · split <;> exact ih
    · split <;> exact .inl rfl

/-- To make directories once more changes nothing at all, also if what is told of directories has
changed meanwhile, and works if it worked. -/
theorem makeAll_again (paths : List Path) (hchain : paths.IsChain Path.Passes)
    (h : (makeAll now paths fs).1.Matches fs') (now' : Calendar.Moment) :
    (makeAll now' paths fs').1 = fs' ∧
      (makeAll now' paths fs').2.isOk = (makeAll now paths fs).2.isOk := by
  obtain ⟨hsame, hok⟩ := makeAll_makeAll now paths hchain fs
  obtain ⟨hleft, hanswer⟩ := h.makeAll now now' paths
  rw [hsame] at hleft
  refine ⟨?_, ?_⟩
  · rcases makeAll_eq_or_lt now' paths fs' with heq | hlt
    · exact heq
    · rw [hleft.nodes, h.nodes] at hlt
      exact absurd hlt (Nat.lt_irrefl _)
  · rw [hanswer, hok]

end FileSystem
end Signage.Files
