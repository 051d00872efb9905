import Signage.Index.Compiler
import Signage.Proofs.Files.Children
import Signage.Proofs.Text.Numerals

/-!
The paths of indexes. A uuid that is accepted is one name, so that the path of an index leads to a
place two names below the directory, and no two pairs of a uuid and a playlist share a path.
-/
namespace Signage.Index
open Files

variable {directory path : List Char} {player player' : Player}

private theorem isSafeName_iff {uuid : List Char} : isSafeName uuid = true ↔
    uuid ≠ [] ∧ uuid ≠ ['.'] ∧ uuid ≠ ['.', '.'] ∧ ∀ c ∈ uuid, isSafeCharacter c = true := by
  simp [isSafeName, and_assoc]

/-- A uuid that cannot be the name of a directory, or that has a character which is no ASCII letter
or digit and none of three marks. -/
def Unusable (uuid : List Char) : Prop :=
  uuid = [] ∨ uuid = ['.'] ∨ uuid = ['.', '.'] ∨
    ∃ c ∈ uuid, ¬(c.isAlphanum = true ∨ c = '-' ∨ c = '_' ∨ c = '.')

/-- A uuid is unusable exactly if its name is not safe. -/
theorem unusable_iff {uuid : List Char} : Unusable uuid ↔ isSafeName uuid = false := by
  rw [← Bool.not_eq_true, isSafeName_iff, Unusable]
  simp only [isSafeCharacter, Bool.or_eq_true, beq_iff_eq, or_assoc, not_and_or, not_not, not_forall,
    ne_eq, exists_prop]

/-- A text of safe characters is a name if it is no step of its own. -/
private theorem isName_of_safe {name : Name} (hn : name ≠ []) (hd : name ≠ ['.'])
    (hp : name ≠ ['.', '.']) (h : ∀ c ∈ name, isSafeCharacter c = true) : IsName name := by
  have hunsafe {c : Char} (hc : isSafeCharacter c = false) : c ∉ name := by
    intro hm
    rw [h c hm] at hc
    cases hc
  refine ⟨by simp [isStep, hn, hd], hp, hunsafe (by decide), ?_⟩
  rw [List.contains_eq_mem, decide_eq_false_iff_not]
  exact hunsafe (by decide)

private theorem isName_of_isSafeName {uuid : List Char} (h : isSafeName uuid = true) :
    IsName uuid := by
  obtain ⟨hn, hd, hp, hc⟩ := isSafeName_iff.mp h
  exact isName_of_safe hn hd hp hc

private theorem isSafeCharacter_of_isDigit {c : Char} (h : c.isDigit = true) :
    isSafeCharacter c = true := by
  simp [isSafeCharacter, Char.isAlphanum, h]

private theorem five_le_length_indexName (id : PlaylistId) : 5 ≤ (indexName id).length := by
  simp [indexName]

/-- Published files have names that lead to no other directory. -/
theorem isName_indexName (id : PlaylistId) : IsName (indexName id) := by
  have hlong := five_le_length_indexName id
  have hne {name : Name} (hl : name.length < 5) : indexName id ≠ name := by
    rintro rfl
    omega
  refine isName_of_safe (hne (by decide)) (hne (by decide)) (hne (by decide)) fun c hc => ?_
  rcases List.mem_append.mp hc with hc | hc
  · rcases Text.isDigit_of_mem_integerNumeral hc with rfl | hd
    · decide
    · exact isSafeCharacter_of_isDigit hd
  · have hending : ['.', 's', 'm', 'i', 'l'].all isSafeCharacter = true := by decide
    exact List.all_eq_true.mp hending c hc

private theorem utf8ByteSize_ofList_le (s : List Char) :
    (String.ofList s).utf8ByteSize ≤ 4 * s.length := by
  induction s with
  | nil => exact Nat.le_refl _
  | cons c s ih =>
    have hc := Char.utf8Size_le_four c
    rw [String.ofList_cons, String.utf8ByteSize_append, String.utf8ByteSize_singleton,
      List.length_cons]
    omega

/-- Published files have names that no device refuses. -/
theorem isShort_indexName (id : PlaylistId) : IsShort (indexName id) := by
  have hnumeral : id.numeral.length ≤ 20 := by
    refine Text.length_integerNumeral_le (by decide) ?_
    have hlow := id.value.le_toInt
    have hhigh := id.value.toInt_lt
    omega
  have hlength : (indexName id).length ≤ 25 := by
    simpa [indexName] using hnumeral
  have hsize := utf8ByteSize_ofList_le (indexName id)
  unfold IsShort FileSystem.longestName
  omega

/-- Temporary files have names that lead to no other directory. -/
theorem isName_temporaryName : IsName (temporaryName 0) := by
  have hsafe : (temporaryName 0).all isSafeCharacter = true := by decide
  exact isName_of_safe (by decide) (by decide) (by decide) (List.all_eq_true.mp hsafe)

/-- Temporary files have names that no device refuses. -/
theorem isShort_temporaryName : IsShort (temporaryName 0) := by
  unfold IsShort
  decide

/-- A temporary file is never taken for an index. -/
theorem temporaryName_ne_indexName (id : PlaylistId) : temporaryName 0 ≠ indexName id := by
  intro h
  have hlast := congrArg List.getLast? h
  have hindex : (indexName id).getLast? = some 'l' := by simp [indexName]
  rw [hindex] at hlast
  revert hlast
  decide

/-- Each playlist has its own published file. -/
theorem indexName_injective : Function.Injective indexName := by
  intro id id' h
  have hn := Text.integerNumeral_injective (List.append_cancel_right h)
  obtain ⟨value⟩ := id
  obtain ⟨value'⟩ := id'
  exact congrArg PlaylistId.mk (Int64.toInt_inj.mp hn)

/-- The path of an index leads to the name of its playlist in the directory of its uuid. -/
theorem indexPath_eq_ok_iff : indexPath directory player = .ok path ↔
    isSafeName player.uuid.toList = true ∧
      path = join (join directory player.uuid.toList) (indexName player.playlistId) := by
  unfold indexPath
  split
  · next h => simp [h, eq_comm]
  · next h => simp [h]

/-- A uuid that a path is made of leads to no other directory. -/
theorem isName_uuid (h : indexPath directory player = .ok path) : IsName player.uuid.toList :=
  isName_of_isSafeName (indexPath_eq_ok_iff.mp h).1

/-- An unusable uuid is refused whatever could be read for it, and no file is touched. -/
theorem Compiler.compile_of_unusable (compiler : Compiler) (outages : Outages)
    (sources : Content.Sources) (now : Calendar.Clock) (h : Unusable player.uuid.toList) :
    compiler.compile outages sources now player =
      throw (.invalidInput s!"unusable player uuid: {Text.quoted player.uuid}") := by
  rw [compile, indexPath, unusable_iff.mp h]
  rfl

/-- The index of a player lies in the directory of its uuid, below the one of all indexes. -/
theorem ofText_indexPath (h : indexPath directory player = .ok path) :
    Path.ofText path =
      ((Path.ofText directory).child player.uuid.toList).child (indexName player.playlistId) := by
  have hname := isName_uuid h
  obtain ⟨-, rfl⟩ := indexPath_eq_ok_iff.mp h
  have hindex := isName_indexName player.playlistId
  rw [Path.ofText_join _ hindex.slash, Path.ofText_join _ hname.slash]

/-- Different pairs of a uuid and a playlist have different paths. -/
theorem indexPath_injective (h : indexPath directory player = .ok path)
    (h' : indexPath directory player' = .ok path) :
    player.uuid = player'.uuid ∧ player.playlistId = player'.playlistId := by
  have hparts := congrArg Path.parts ((ofText_indexPath h).symm.trans (ofText_indexPath h'))
  rw [Path.parts_child_child (isName_uuid h).ne_nil,
    Path.parts_child_child (isName_uuid h').ne_nil] at hparts
  obtain ⟨hfolders, hindexes⟩ := List.append_inj' hparts (by simp)
  have huuid := congrArg List.getLast? hfolders
  rw [Path.getLast?_child, Path.getLast?_child, Option.some.injEq] at huuid
  exact ⟨String.toList_inj.mp huuid, indexName_injective (List.cons.inj hindexes).1⟩

end Signage.Index
