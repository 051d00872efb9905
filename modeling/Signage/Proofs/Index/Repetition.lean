import Signage.Proofs.Files.Ancestors
import Signage.Proofs.Files.Trees
import Signage.Proofs.Index.Naming
import Signage.Proofs.Index.Publication

/-!
Publishing the same content once more. What the first publication leaves makes the second one end
as the first, without a change: what was written is found as it should be, and what was in the way
is still in the way.
-/
namespace Signage.Index
open Files Files.FileSystem

variable {outages : Outages} {now now' : Calendar.Moment} {text content : List Char}
  {bytes : ByteArray} {fs fs' fs'' : FileSystem} {answer answer' : Except Error Outcome}
  {directory path : Path} {file : File}

/-- Work that is done once more goes as it went before. It leaves all files as they are, and what is
told of directories as well; only where it fails late may one directory have changed. What worked works
again, and what failed fails again if the way is a steady one. -/
structure Repeats {α : Type} (isEarly isSteady : Prop) (first again : Except Error α × FileSystem) :
    Prop where
  touched : ∃ place, first.2.Touched again.2 place
  kept : isEarly ∨ again.1.isOk = true → again.2 = first.2
  works : first.1.isOk = true → again.1.isOk = true
  fails : isSteady → first.1.isOk = false → again.1.isOk = false

/-- Work that leaves the tree as it was and ends as before repeats itself. -/
theorem repeats_of_eq {α : Type} {isEarly isSteady : Prop} {first again : Except Error α × FileSystem}
    (hsame : again.2 = first.2) (hok : again.1.isOk = first.1.isOk) :
    Repeats isEarly isSteady first again where
  touched := ⟨[], hsame ▸ .refl first.2 []⟩
  kept _ := hsame
  works h := hok.trans h
  fails _ h := hok.trans h

private theorem directoriesMade_again {made : FileSystem}
    (h : (directoriesMade outages now fs directory).1.Matches made) (now' : Calendar.Moment) :
    (directoriesMade outages now' made directory).1 = made ∧
      (directoriesMade outages now' made directory).2.isOk =
        (directoriesMade outages now fs directory).2.isOk := by
  unfold directoriesMade at h ⊢
  split
  · exact ⟨rfl, rfl⟩
  · next hstep =>
    rw [if_neg hstep] at h
    exact makeAll_again _ (Path.isChain_ancestors directory) h now'

private theorem Replaceable.of_matches (h : Replaceable outages fs directory path)
    (hm : fs.Matches fs') : Replaceable outages fs' directory path := by
  refine ⟨⟨h.toIsEarly, hm.writable h.writable⟩, h.makeTemporary, ?_⟩
  obtain ⟨temporary, hfresh, hwritable⟩ := h.room
  refine ⟨temporary, ?_, hm.writable hwritable⟩
  rw [hm.workingDirectory, ← hfresh]
  simp only [freshPath, hm.nodes, hm.find]

private theorem Lacks.not_unreadable (h : Lacks outages fs path bytes) :
    ¬Unreadable outages fs path := by
  rintro (hstep | ⟨fault, hread, hfault⟩)
  · rw [h.step] at hstep
    cases hstep
  · rcases h.read with hnone | ⟨file, hfile, -⟩
    · rw [hnone] at hread
      cases hread
      exact hfault rfl
    · rw [hfile] at hread
      cases hread

private theorem Lacks.differs (h : Lacks outages fs path bytes) (hread : fs.read path = .ok file) :
    file.bytes.data ≠ bytes.data := by
  rcases h.read with hnone | ⟨other, hother, hdiffers⟩
  · rw [hnone] at hread
    cases hread
  · rw [hother] at hread
    cases hread
    exact hdiffers

private theorem not_unreadable_of_read (hstep : outages .read = false)
    (hread : fs.read path = .ok file) : ¬Unreadable outages fs path := by
  rintro (h | ⟨fault, h, -⟩)
  · rw [hstep] at h
    cases h
  · rw [hread] at h
    cases h

/-- With nothing to publish, a publication tells whether there is an index. -/
private theorem Publication.of_nil (h : Publication outages now text content fs answer fs')
    (hempty : content = []) : fs' = fs ∧ answer.isOk = fs.isFile (.ofText text) := by
  cases h with
  | stale _ hfile | absent _ hfile => exact ⟨rfl, hfile.symm⟩
  | unreadable hcontent | unchanged hcontent | parentless hcontent | blocked hcontent
  | unreplaced hcontent | written hcontent => exact absurd hempty hcontent

/-- Where the file is as it is to be, a publication finds it so. -/
private theorem Publication.of_read (h : Publication outages now text content fs answer fs')
    (hcontent : content ≠ []) (hstep : outages .read = false)
    (hread : fs.read (.ofText text) = .ok file) (hsame : file.bytes.data = (bytesOf content).data) :
    fs' = fs ∧ answer = .ok .unchanged := by
  cases h with
  | stale hempty | absent hempty => exact absurd hempty hcontent
  | unreadable _ hunreadable => exact absurd hunreadable (not_unreadable_of_read hstep hread)
  | unchanged => exact ⟨rfl, rfl⟩
  | parentless _ hlacks | blocked _ hlacks | unreplaced _ hlacks | written _ hlacks =>
    exact absurd hsame (hlacks.differs hread)

/-- Where nothing can be read because of what lies there, a publication fails at it. -/
private theorem Publication.of_unreadable (h : Publication outages now text content fs answer fs')
    (hcontent : content ≠ []) (hread : Unreadable outages fs (.ofText text)) :
    fs' = fs ∧ answer.isOk = false := by
  cases h with
  | stale hempty | absent hempty => exact absurd hempty hcontent
  | unreadable => exact ⟨rfl, rfl⟩
  | unchanged _ hstep hfile => exact absurd hread (not_unreadable_of_read hstep hfile)
  | parentless _ hlacks | blocked _ hlacks | unreplaced _ hlacks | written _ hlacks =>
    exact absurd hread hlacks.not_unreadable

/-- Where no directory can be told to publish in, a publication fails. -/
private theorem Publication.of_parentless (h : Publication outages now text content fs answer fs')
    (hcontent : content ≠ []) (hlacks : Lacks outages fs (.ofText text) (bytesOf content))
    (hparent : (Path.ofText text).parent? = none) : fs' = fs ∧ answer.isOk = false := by
  cases h with
  | stale hempty | absent hempty => exact absurd hempty hcontent
  | unreadable | parentless => exact ⟨rfl, rfl⟩
  | unchanged _ _ hread hsame => exact absurd hsame (hlacks.differs hread)
  | blocked _ _ hsome | unreplaced _ _ hsome | written _ _ hsome =>
    rw [hparent] at hsome
    cases hsome

private theorem isDirectory_of_made (hnames : directory.names ≠ [])
    (hmade : (directoriesMade outages now fs directory).2 = .ok ()) :
    (directoriesMade outages now fs directory).1.isDirectory directory = true := by
  unfold directoriesMade at hmade ⊢
  split at hmade
  · cases hmade
  · next hstep =>
    rw [if_neg hstep, isDirectory_makeDirectories hnames, hmade]
    rfl

/-- Where the directories are made already as far as can be, and still nothing can be put in place,
a publication changes one directory at most, and fails if the content was not there all the time. -/
private theorem Publication.of_made (h : Publication outages now text content fs answer fs')
    (hcontent : content ≠ []) (hparent : (Path.ofText text).parent? = some directory)
    (hmade : (directoriesMade outages now fs directory).1 = fs)
    (hfails : (directoriesMade outages now fs directory).2.isOk = true →
      ¬Replaceable outages fs directory (.ofText text)) :
    (∃ place, fs.Touched fs' place) ∧
      ((outages.IsEarly ∧ (Path.ofText text).IsNested) ∨ answer.isOk = true → fs' = fs) ∧
      ((∀ file, fs.read (.ofText text) = .ok file →
        file.bytes.data ≠ (bytesOf content).data) → answer.isOk = false) := by
  cases h with
  | stale hempty | absent hempty => exact absurd hempty hcontent
  | unreadable | parentless => exact ⟨⟨[], .refl fs []⟩, fun _ => rfl, fun _ => rfl⟩
  | unchanged _ _ hread hsame =>
    exact ⟨⟨[], .refl fs []⟩, fun _ => rfl, fun hdiffers => absurd hsame (hdiffers _ hread)⟩
  | blocked _ _ hsome =>
    cases hparent.symm.trans hsome
    rw [hmade]
    exact ⟨⟨[], .refl fs []⟩, fun _ => rfl, fun _ => rfl⟩
  | unreplaced _ hlacks hsome hworks _ htouched hkept =>
    cases hparent.symm.trans hsome
    rw [hmade] at htouched hkept
    refine ⟨⟨_, htouched⟩, fun h => ?_, fun _ => rfl⟩
    rcases h with ⟨hearly, hnested⟩ | hok
    · have hdirectory := isDirectory_of_made (hnested.names_ne_nil hparent) hworks
      rw [hmade] at hdirectory
      have hread : fs.read (.ofText text) = .error .notFound ∨ ∃ file, fs.read (.ofText text) = .ok file :=
        hlacks.read.imp_right fun ⟨file, hfile, _⟩ => ⟨file, hfile⟩
      exact hkept ⟨hearly, hnested.writable hparent hdirectory hread⟩
    · cases hok
  | written _ _ hsome hworks hreplaceable =>
    cases hparent.symm.trans hsome
    rw [hmade] at hreplaceable
    exact absurd hreplaceable (hfails (congrArg Except.isOk hworks))

/-- To publish the same once more goes as it went before. A way is steady that does not go up from
directories that were made in vain. -/
theorem Publication.repeats (first : Publication outages now text content fs answer fs')
    (second : Publication outages now' text content fs' answer' fs'') :
    Repeats (outages.IsEarly ∧ (Path.ofText text).IsNested)
      (fs.IsTree ∧ (Path.ofText text).IsSteady fs) (answer, fs') (answer', fs'') := by
  -- Directories alone do not make the content readable.
  have hdiffers {directory : Path} {left : FileSystem}
      (hlacks : Lacks outages fs (.ofText text) (bytesOf content))
      (hleft : (directoriesMade outages now fs directory).1.Matches left)
      (hway : fs.IsTree ∧ (Path.ofText text).IsSteady fs) (file : File)
      (hread : left.read (.ofText text) = .ok file) : file.bytes.data ≠ (bytesOf content).data := by
    rw [hleft.read] at hread
    exact hlacks.differs (hway.1.read hway.2 (directoriesMade_extends outages now fs directory) hread)
  cases first with
  | stale hempty hfile | absent hempty hfile =>
    obtain ⟨hsame, hok⟩ := second.of_nil hempty
    exact repeats_of_eq hsame (hok.trans hfile)
  | unreadable hcontent hread =>
    obtain ⟨hsame, hok⟩ := second.of_unreadable hcontent hread
    exact repeats_of_eq hsame hok
  | unchanged hcontent hstep hread hsame =>
    obtain ⟨rfl, rfl⟩ := second.of_read hcontent hstep hread hsame
    exact repeats_of_eq rfl rfl
  | parentless hcontent hlacks hparent =>
    obtain ⟨hsame, hok⟩ := second.of_parentless hcontent hlacks hparent
    exact repeats_of_eq hsame hok
  | @blocked _ directory hcontent hlacks hparent hmade =>
    have hleft := Matches.refl (directoriesMade outages now fs directory).1
    obtain ⟨hstays, hagain⟩ := directoriesMade_again hleft now'
    have hfails := hagain.trans (congrArg Except.isOk hmade)
    obtain ⟨htouched, hkept, hok⟩ :=
      second.of_made hcontent hparent hstays fun hworks => by rw [hfails] at hworks; cases hworks
    exact ⟨htouched, hkept, (fun h => by cases h), fun hway _ => hok (hdiffers hlacks hleft hway)⟩
  | @unreplaced _ directory _ _ hcontent hlacks hparent _ hreplaceable hleft =>
    obtain ⟨hstays, -⟩ := directoriesMade_again hleft.toMatches now'
    obtain ⟨htouched, hkept, hok⟩ := second.of_made hcontent hparent hstays fun _ hr =>
      hreplaceable (hr.of_matches hleft.toMatches.symm)
    exact ⟨htouched, hkept, (fun h => by cases h),
      fun hway _ => hok (hdiffers hlacks hleft.toMatches hway)⟩
  | written hcontent hlacks _ _ _ _ henter =>
    have hread := read_eq_ok_iff.mpr (find_of_enter henter)
    obtain ⟨rfl, rfl⟩ := second.of_read hcontent hlacks.step hread rfl
    exact repeats_of_eq rfl rfl

/-- A publication leaves everything in a directory. -/
theorem Publication.isTree (h : Publication outages now text content fs answer fs')
    (htree : fs.IsTree) (hs : fs.Settled) : fs'.IsTree := by
  have hmade (directory : Path) : (directoriesMade outages now fs directory).1.IsTree := by
    unfold directoriesMade
    split
    · exact htree
    · exact htree.makeAll hs _
  cases h with
  | stale | absent | unreadable | unchanged | parentless => exact htree
  | blocked => exact hmade _
  | unreplaced _ _ _ _ _ htouched => exact (hmade _).of_matches htouched.toMatches
  | @written directory _ _ _ _ _ _ _ _ htouched henter =>
    have hkeeps := (directoriesMade_extends outages now fs directory).keepsDirectories.trans
      htouched.toMatches.keepsDirectories
    exact ((hmade directory).of_matches htouched.toMatches).enter (hs.mono hkeeps) henter

end Signage.Index
