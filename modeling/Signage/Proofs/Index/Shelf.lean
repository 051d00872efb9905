import Signage.Proofs.Index.Naming
import Signage.Proofs.Index.Publication

/-!
One publication on a device that works. An index is put in its place, for which the directory of
its uuid may have to be made; in the rest of the tree nothing changes.
-/
namespace Signage.Index
open Files Files.FileSystem Files.Work

variable {directory path content : List Char} {fs fs' : FileSystem} {base : Location}
variable {player player' : Player}

/-- The directory of all indexes of a uuid. -/
def folderOf (base : Location) (player : Player) : Location := base ++ [player.uuid.toList]

/-- The place of an index. -/
def placeOf (base : Location) (player : Player) : Location :=
  base ++ [player.uuid.toList, indexName player.playlistId]

/-- The place of the first temporary file beside an index. -/
def draftPlaceOf (base : Location) (player : Player) : Location :=
  base ++ [player.uuid.toList, temporaryName 0]

/-- The path of the first temporary file beside an index, as seen from the root. -/
def draftPath (directory : List Char) (start : Location) (player : Player) : Path :=
  (((Path.ofText directory).startingAt start).child player.uuid.toList).child (temporaryName 0)

/-- The directory of all indexes is there, at a place of the tree. -/
structure Site (directory : List Char) (fs : FileSystem) (base : Location) : Prop where
  settled : fs.Settled
  reaches : (Path.ofText directory).Reaches fs base
  isDirectory : fs.node? base = some .directory

/-- A site stays one as long as the directories do. -/
theorem Site.mono (h : Site directory fs base) (hk : fs.KeepsDirectories fs') :
    Site directory fs' base :=
  ⟨h.settled.mono hk, h.reaches.mono hk, hk.directory base h.isDirectory⟩

/-- Neither the uuid nor a path that the publication goes by is too long for the device. -/
structure Fits (directory : List Char) (start : Location) (player : Player) : Prop where
  uuid : IsShort player.uuid.toList
  index : (((Path.ofText directory).child player.uuid.toList).child
    (indexName player.playlistId)).size ≤ longestPath
  draft : (draftPath directory start player).size ≤ longestPath

/-- The index of a player that fits has a path that is not too long. -/
theorem Fits.size_le {start : Location} (h : Fits directory start player)
    (hpath : indexPath directory player = .ok path) : (Path.ofText path).size ≤ longestPath := by
  rw [ofText_indexPath hpath]
  exact h.index

/-- No directory is in the way of an index, and no file in the way of its directory. -/
structure Free (fs : FileSystem) (base : Location) (player : Player) : Prop where
  folder : fs.node? (folderOf base player) = some .directory ∨
    fs.node? (folderOf base player) = none ∧ fs.node? (placeOf base player) = none
  place : fs.node? (placeOf base player) ≠ some .directory
  draft : fs.node? (draftPlaceOf base player) = none

/-- Nothing has changed but an index and its directory, and that was made at most. -/
structure Spares (fs fs' : FileSystem) (base : Location) (player : Player) : Prop where
  workingDirectory : fs'.workingDirectory = fs.workingDirectory
  folder : fs'.node? (folderOf base player) = fs.node? (folderOf base player) ∨
    fs.node? (folderOf base player) = none ∧ fs'.node? (folderOf base player) = some .directory
  others : ∀ place, place ≠ folderOf base player → place ≠ placeOf base player →
    fs'.node? place = fs.node? place

theorem Spares.refl (fs : FileSystem) : Spares fs fs base player :=
  ⟨rfl, .inl rfl, fun _ _ _ => rfl⟩

/-- A publication takes away no directory. -/
theorem Spares.keepsDirectories (h : Spares fs fs' base player)
    (hplace : fs.node? (placeOf base player) ≠ some .directory) : fs.KeepsDirectories fs' := by
  refine ⟨h.workingDirectory, fun other ho => ?_⟩
  by_cases hf : other = folderOf base player
  · subst hf
    rcases h.folder with hn | ⟨-, hn⟩
    · rw [hn, ho]
    · exact hn
  · have hn : other ≠ placeOf base player := by
      rintro rfl
      exact hplace ho
    rw [h.others other hf hn, ho]

/-- No player's directory is the place of an index. -/
theorem folderOf_ne_placeOf : folderOf base player ≠ placeOf base player' := by
  intro h
  have hl := congrArg List.length (List.append_cancel_left h)
  simp at hl

private theorem draftPlaceOf_ne_folderOf : draftPlaceOf base player ≠ folderOf base player' := by
  intro h
  have hl := congrArg List.length (List.append_cancel_left h)
  simp at hl

/-- No temporary file lies where an index belongs. -/
theorem draftPlaceOf_ne_placeOf : draftPlaceOf base player ≠ placeOf base player' := by
  intro h
  have hnames := List.append_cancel_left h
  simp only [List.cons.injEq, and_true] at hnames
  exact temporaryName_ne_indexName player'.playlistId hnames.2

namespace Site

private theorem reaches_folder (hsite : Site directory fs base)
    (hpath : indexPath directory player = .ok path) (hshort : IsShort player.uuid.toList) :
    ((Path.ofText directory).child player.uuid.toList).Reaches fs (folderOf base player) :=
  hsite.reaches.child hsite.isDirectory (isName_uuid hpath) hshort

/-- The index of a player is located in its place, once the player's directory is there. -/
theorem locate (hsite : Site directory fs base)
    (hpath : indexPath directory player = .ok path)
    (hd : fs.node? (folderOf base player) = some .directory)
    (hshort : IsShort player.uuid.toList) (hs : (Path.ofText path).size ≤ longestPath) :
    fs.locate (.ofText path) = .ok (placeOf base player) := by
  have hname := isName_indexName player.playlistId
  have hplace := (hsite.reaches_folder hpath hshort).child hd hname (isShort_indexName _)
  rw [← ofText_indexPath hpath, folderOf, List.append_assoc] at hplace
  refine hplace.locate hs ?_
  rw [ofText_indexPath hpath]
  exact Path.isEmpty_child hname.ne_nil

private theorem locate_draft (hsite : Site directory fs base)
    (hpath : indexPath directory player = .ok path)
    (hd : fs.node? (folderOf base player) = some .directory)
    (hshort : IsShort player.uuid.toList)
    (hs : (draftPath directory fs.workingDirectory player).size ≤ longestPath) :
    fs.locate (draftPath directory fs.workingDirectory player) = .ok (draftPlaceOf base player) := by
  have hroot := hsite.reaches.startingAt hsite.settled (Path.parts_ofText_ne_nil directory)
  have hfolder := hroot.child hsite.isDirectory (isName_uuid hpath) hshort
  have hplace := hfolder.child hd isName_temporaryName isShort_temporaryName
  rw [List.append_assoc] at hplace
  exact hplace.locate hs (Path.isEmpty_child isName_temporaryName.ne_nil)

private theorem wantsDirectory_eq_false (hpath : indexPath directory player = .ok path) :
    (Path.ofText path).wantsDirectory = false := by
  have hname := isName_indexName player.playlistId
  rw [ofText_indexPath hpath]
  exact Path.wantsDirectory_child hname.isStep hname.ne_parentName

/-- At the path of an index its file is read, or nothing is found. -/
theorem read_eq (hsite : Site directory fs base) (hpath : indexPath directory player = .ok path)
    (hfree : Free fs base player) (hshort : IsShort player.uuid.toList)
    (hs : (Path.ofText path).size ≤ longestPath) :
    fs.read (.ofText path) =
      match fs.node? (placeOf base player) with
      | some (.file file) => .ok file
      | _ => .error .notFound := by
  rcases hfree.folder with hd | ⟨hnone, hplace⟩
  · have hl := hsite.locate hpath hd hshort hs
    cases hn : fs.node? (placeOf base player) with
    | none => simp [FileSystem.read, find, hl, hn, bind, Except.bind]
    | some node =>
      cases node with
      | directory => exact absurd hn hfree.place
      | file file =>
        exact read_eq_ok_iff.mpr
          (find_eq_file_iff.mpr ⟨_, hl, hn, wantsDirectory_eq_false hpath⟩)
  · rw [ofText_indexPath hpath] at hs ⊢
    have hl := (hsite.reaches_folder hpath hshort).locate_child_eq_notFound hnone
      (isName_indexName _) hs
    rw [hplace]
    simp [FileSystem.read, find, hl, bind, Except.bind]

/-- The directory of an index has been made if it was missing. -/
private structure Opens (fs fs' : FileSystem) (base : Location) (player : Player) : Prop where
  workingDirectory : fs'.workingDirectory = fs.workingDirectory
  folder : fs'.node? (folderOf base player) = some .directory
  others : ∀ place, place ≠ folderOf base player → fs'.node? place = fs.node? place

private theorem Opens.keepsDirectories (h : Opens fs fs' base player) :
    fs.KeepsDirectories fs' := by
  refine ⟨h.workingDirectory, fun other ho => ?_⟩
  by_cases hf : other = folderOf base player
  · rw [hf, h.folder]
  · rw [h.others other hf, ho]

private theorem Opens.of_matches {opened : FileSystem} (h : Opens fs opened base player)
    (hm : opened.Matches fs') : Opens fs fs' base player where
  workingDirectory := hm.workingDirectory.trans h.workingDirectory
  folder := (hm.node? _).trans h.folder
  others place hp := (hm.node? place).trans (h.others place hp)

private theorem Opens.spares (h : Opens fs fs' base player) (hfree : Free fs base player) :
    Spares fs fs' base player := by
  refine ⟨h.workingDirectory, ?_, fun place hf _ => h.others place hf⟩
  rcases hfree.folder with hd | ⟨hnone, -⟩
  · exact .inl (h.folder.trans hd.symm)
  · exact .inr ⟨hnone, h.folder⟩

/-- The directory is made first, and then the index is put into it. -/
private theorem Opens.spares_of_puts {opened : FileSystem} {file : File}
    (h : Opens fs opened base player) (hfree : Free fs base player)
    (hputs : opened.Puts fs' (placeOf base player) file) : Spares fs fs' base player := by
  refine ⟨hputs.workingDirectory.trans h.workingDirectory, ?_, fun place hf hp => ?_⟩
  · rw [hputs.node (folderOf base player) folderOf_ne_placeOf]
    exact (h.spares hfree).folder
  · exact (hputs.node place hp).trans (h.others place hf)

private theorem makeDirectories_opens (hsite : Site directory fs base)
    (hpath : indexPath directory player = .ok path) (hfree : Free fs base player)
    (hshort : IsShort player.uuid.toList) (hs : (Path.ofText path).size ≤ longestPath)
    (now : Calendar.Moment) :
    (makeDirectories .none now ((Path.ofText directory).child player.uuid.toList)).Leads fs
      fun answer fs' => answer = .ok () ∧ Opens fs fs' base player := by
  have hname := isName_uuid hpath
  have hsize : ((Path.ofText directory).child player.uuid.toList).size ≤ longestPath := by
    rw [ofText_indexPath hpath] at hs
    exact Nat.le_trans (Path.size_le_size_child_child hname.ne_nil) hs
  have hfile (file : File) : fs.node? (folderOf base player) ≠ some (.file file) := by
    rcases hfree.folder with hd | ⟨hnone, -⟩
    · simp [hd]
    · simp [hnone]
  have hmake := hsite.reaches.makeDirectories_child hsite.isDirectory hname hshort hsize hfile now
  unfold makeDirectories
  simp only [passStep_none, pure_bind]
  refine leads_bind (leads_tree ?_)
  dsimp only
  rw [hmake]
  refine leads_bind (leads_become (leads_pure ⟨rfl, ?_⟩))
  change Opens fs (if fs.node? (folderOf base player) = none then _ else fs) base player
  split
  · next hnone =>
    have hroot : folderOf base player ≠ [] := by simp [folderOf]
    have hnode (place : Location) :=
      ((matches_addDirectory fs (folderOf base player) now).node? place).trans
        (node?_put fs place .directory hroot)
    refine ⟨rfl, ?_, fun place hp => ?_⟩
    · exact (hnode _).trans (if_pos rfl)
    · exact (hnode place).trans (if_neg hp)
  · next hsome =>
    exact ⟨rfl, hfree.folder.resolve_right fun h => hsome h.1, fun _ _ => rfl⟩

private theorem published?_eq (hsite : Site directory fs base)
    (hpath : indexPath directory player = .ok path) (hfree : Free fs base player)
    (hshort : IsShort player.uuid.toList) (hs : (Path.ofText path).size ≤ longestPath) :
    (published? .none (.ofText path)).Leads fs fun answer fs' =>
      fs' = fs ∧ answer = .ok (fs.bytes? (placeOf base player)) := by
  unfold published? bytes?
  simp only [passStep_none, pure_bind]
  refine leads_bind (leads_tree ?_)
  dsimp only
  rw [hsite.read_eq hpath hfree hshort hs]
  rcases fs.node? (placeOf base player) with _ | _ | file
  · exact leads_pure ⟨rfl, rfl⟩
  · exact leads_pure ⟨rfl, rfl⟩
  · exact leads_pure ⟨rfl, rfl⟩

private theorem parent?_eq (hpath : indexPath directory player = .ok path) :
    (Path.ofText path).parent? = some ((Path.ofText directory).child player.uuid.toList) := by
  have hname := isName_uuid hpath
  rw [ofText_indexPath hpath]
  exact Path.parent?_child_child hname.isStep (isName_indexName player.playlistId).isStep

private theorem draftPath_eq (place : Location) :
    (((Path.ofText directory).child player.uuid.toList).startingAt place).child (temporaryName 0) =
      draftPath directory place player := by
  rw [Path.startingAt_child place (Path.parts_ofText_ne_nil directory), draftPath]

/-- An index is called otherwise than the first temporary file beside it. -/
private theorem getLast?_names_ne (hpath : indexPath directory player = .ok path) :
    (Path.ofText path).names.getLast? ≠ some (temporaryName 0) := by
  rw [ofText_indexPath hpath, Path.names_child (isName_indexName player.playlistId).isStep]
  simpa using (temporaryName_ne_indexName player.playlistId).symm

private theorem replaceFile_opened (hsite : Site directory fs base)
    (hpath : indexPath directory player = .ok path)
    (hd : fs.node? (folderOf base player) = some .directory) (hfree : Free fs base player)
    (hfits : Fits directory fs.workingDirectory player) (hs : (Path.ofText path).size ≤ longestPath)
    (now : Calendar.Moment) (bytes : ByteArray) :
    (replaceFile .none now ((Path.ofText directory).child player.uuid.toList) (.ofText path)
      bytes).Leads fs fun answer fs' =>
        answer = .ok () ∧ fs.Puts fs' (placeOf base player) ⟨bytes, now⟩ := by
  have hl := hsite.locate hpath hd hfits.uuid hs
  have hdraft := hsite.locate_draft hpath hd hfits.uuid hfits.draft
  have hdraftFile : (draftPath directory fs.workingDirectory player).wantsDirectory = false :=
    Path.wantsDirectory_child isName_temporaryName.isStep isName_temporaryName.ne_parentName
  rw [← draftPath_eq] at hdraft hdraftFile
  have hok := replaceFile_succeeds now bytes (getLast?_names_ne hpath) hdraft hfree.draft hdraftFile
    hl hfree.place
    (wantsDirectory_eq_false hpath)
  refine (hok.and (replaceFile_leads .none now _ (.ofText path) bytes)).mono fun answer fs' h => ?_
  obtain ⟨rfl, hputs⟩ := h
  rw [← locate_eq_place hl] at hputs
  exact ⟨rfl, hputs⟩

/-- An index that fits is put in its place. -/
theorem publish_leads_ok (hsite : Site directory fs base)
    (hpath : indexPath directory player = .ok path) (hfree : Free fs base player)
    (hfits : Fits directory fs.workingDirectory player) (hc : content ≠ [])
    (now : Calendar.Moment) :
    (publish .none now path content).Leads fs fun answer fs' =>
      (∃ outcome, answer = .ok outcome) ∧ Spares fs fs' base player ∧
        fs'.node? (folderOf base player) = some .directory ∧
        fs'.bytes? (placeOf base player) = some (bytesOf content) := by
  have hempty : ¬content.isEmpty = true := by simpa using hc
  have hs := hfits.size_le hpath
  unfold publish
  rw [if_neg hempty]
  refine leads_bind ((hsite.published?_eq hpath hfree hfits.uuid hs).mono fun answer fs' h => ?_)
  obtain ⟨rfl, rfl⟩ := h
  dsimp only
  split
  · next hsame =>
    obtain ⟨bytes, hbytes, heq⟩ := (Option.any_eq_true _ _).mp hsame
    have hbytes' : bytes = bytesOf content := ByteArray.ext (of_decide_eq_true heq)
    obtain ⟨file, hfile, -⟩ := bytes?_eq_some_iff.mp hbytes
    refine leads_pure ⟨⟨_, rfl⟩, .refl fs', hfree.folder.resolve_right fun h => ?_, ?_⟩
    · rw [h.2] at hfile
      cases hfile
    · rw [hbytes, hbytes']
  · rw [parent?_eq hpath]
    dsimp only
    refine leads_bind ((hsite.makeDirectories_opens hpath hfree hfits.uuid hs now).mono
      fun answer opened h => ?_)
    obtain ⟨rfl, hopens⟩ := h
    have hplace := hopens.others (placeOf base player) folderOf_ne_placeOf.symm
    have hdraft := hopens.others (draftPlaceOf base player) draftPlaceOf_ne_folderOf
    have hfree' : Free opened base player :=
      ⟨.inl hopens.folder, hplace ▸ hfree.place, hdraft.trans hfree.draft⟩
    rw [← hopens.workingDirectory] at hfits
    refine leads_bind (((hsite.mono hopens.keepsDirectories).replaceFile_opened hpath hopens.folder
      hfree' hfits hs now (bytesOf content)).mono fun answer replaced h => ?_)
    obtain ⟨rfl, hputs⟩ := h
    refine leads_pure ⟨⟨_, rfl⟩, hopens.spares_of_puts hfree hputs, ?_, ?_⟩
    · rw [hputs.node (folderOf base player) folderOf_ne_placeOf, hopens.folder]
    · exact bytes?_eq_some_iff.mpr ⟨_, hputs.after, rfl⟩

private theorem locate_eq_nameTooLong (hsite : Site directory fs base)
    (hpath : indexPath directory player = .ok path)
    (hlong : ¬(IsShort player.uuid.toList ∧ (Path.ofText path).size ≤ longestPath)) :
    fs.locate (.ofText path) = .error .nameTooLong := by
  rw [ofText_indexPath hpath] at hlong ⊢
  exact hsite.reaches.locate_child_child_eq_nameTooLong hsite.isDirectory
    (isName_uuid hpath) (isName_indexName _) hlong

/-- An index that does not fit is not published; its directory may have been made. -/
theorem publish_leads_error (hsite : Site directory fs base)
    (hpath : indexPath directory player = .ok path) (hfree : Free fs base player)
    (hunfit : ¬Fits directory fs.workingDirectory player)
    (hnone : fs.node? (placeOf base player) = none) (hc : content ≠ []) (now : Calendar.Moment) :
    (publish .none now path content).Leads fs fun answer fs' =>
      (∃ error, answer = .error error) ∧ Spares fs fs' base player ∧
        fs'.node? (placeOf base player) = none := by
  have hempty : ¬content.isEmpty = true := by simpa using hc
  unfold publish
  rw [if_neg hempty]
  by_cases hlong : IsShort player.uuid.toList ∧ (Path.ofText path).size ≤ longestPath
  · obtain ⟨hshort, hs⟩ := hlong
    have hdraft : longestPath < (draftPath directory fs.workingDirectory player).size := by
      refine Nat.not_le.mp fun hd => hunfit ⟨hshort, ?_, hd⟩
      rwa [← ofText_indexPath hpath]
    refine leads_bind ((hsite.published?_eq hpath hfree hshort hs).mono fun answer fs' h => ?_)
    obtain ⟨rfl, rfl⟩ := h
    have hbytes : fs'.bytes? (placeOf base player) = none := by
      rw [bytes?, hnone]
    dsimp only
    rw [hbytes, parent?_eq hpath, if_neg (by simp)]
    dsimp only
    refine leads_bind ((hsite.makeDirectories_opens hpath hfree hshort hs now).mono
      fun answer opened h => ?_)
    obtain ⟨rfl, hopens⟩ := h
    obtain ⟨fault, hl⟩ := opened.exists_locate_eq_error hdraft
    rw [← draftPath_eq, ← hopens.workingDirectory] at hl
    have hfails := replaceFile_fails now (bytesOf content) (getLast?_names_ne hpath) hl
    refine leads_bind (hfails.mono fun answer replaced h => ?_)
    obtain ⟨hsame, error, rfl⟩ := h
    refine ⟨⟨error, rfl⟩, (hopens.of_matches hsame).spares hfree, ?_⟩
    rw [hsame.node?]
    exact (hopens.others (placeOf base player) folderOf_ne_placeOf.symm).trans hnone
  · have hl := hsite.locate_eq_nameTooLong hpath hlong
    have hread : fs.read (.ofText path) = .error .nameTooLong := by
      simp [FileSystem.read, find, hl, bind, Except.bind]
    unfold published?
    simp only [passStep_none, pure_bind]
    refine leads_bind (leads_bind (leads_tree ?_))
    dsimp only
    rw [hread]
    exact leads_throw ⟨⟨_, rfl⟩, .refl fs, hnone⟩

end Site

end Signage.Index
