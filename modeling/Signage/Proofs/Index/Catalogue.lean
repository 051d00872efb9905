import Mathlib.Data.List.Induction
import Signage.Proofs.Index.Shelf

/-!
Runs of compilations on a device that works. What lies below the directory after a run are the
latest indexes of the pairs of a uuid and a playlist for which something was rendered, and the
compilation of one pair takes no notice of the others.
-/
namespace Signage.Index
open Files Files.FileSystem Files.Work

variable {directory path : List Char} {fs fs' : FileSystem} {base : Location}
variable {player player' : Player}

/-- The players share their index. -/
def SamePair (player player' : Player) : Prop :=
  player.uuid = player'.uuid ∧ player.playlistId = player'.playlistId

instance : Decidable (SamePair player player') :=
  inferInstanceAs (Decidable (_ ∧ _))

private theorem SamePair.symm (h : SamePair player player') : SamePair player' player :=
  ⟨h.1.symm, h.2.symm⟩

private theorem placeOf_injective (h : placeOf base player = placeOf base player') :
    SamePair player player' := by
  have hnames := List.append_cancel_left h
  simp only [List.cons.injEq, and_true] at hnames
  exact ⟨String.toList_inj.mp hnames.1, indexName_injective hnames.2⟩

private theorem SamePair.placeOf_eq (h : SamePair player player') :
    placeOf base player = placeOf base player' := by
  rw [placeOf, placeOf, h.1, h.2]

private theorem SamePair.folderOf_eq (h : SamePair player player') :
    folderOf base player = folderOf base player' := by
  rw [folderOf, folderOf, h.1]

private theorem SamePair.indexPath_eq (h : SamePair player player') :
    indexPath directory player = indexPath directory player' := by
  rw [indexPath, indexPath, h.1, h.2]

private theorem SamePair.fits {start : Location} (h : SamePair player player')
    (hf : Fits directory start player) : Fits directory start player' := by
  obtain ⟨huuid, hplaylist⟩ := h
  obtain ⟨hu, hi, hd⟩ := hf
  rw [draftPath] at hd
  rw [huuid] at hu hi hd
  rw [hplaylist] at hi
  exact ⟨hu, hi, hd⟩

/-- One compilation, with everything that may have changed since the one before. -/
structure Call where
  limits : Content.Limits
  templates : Template.Sources
  targets : Section.Targets
  sources : Content.Sources
  now : Calendar.Clock
  player : Player

namespace Call

def compiler (directory : List Char) (call : Call) : Compiler :=
  ⟨directory, call.limits, call.templates, call.targets⟩

def document (directory : List Char) (call : Call) : List Char :=
  (call.compiler directory).document call.sources call.now.date call.player

/-- The work of the call on a device that does not fail. -/
def perform (directory : List Char) (call : Call) : Work (List Char) :=
  (call.compiler directory).compile .none call.sources call.now call.player

/-- The document, if there is one and it is the index of the player. -/
def rendered? (directory : List Char) (player : Player) (call : Call) : Option (List Char) :=
  if SamePair call.player player ∧ call.document directory ≠ [] then some (call.document directory)
  else none

end Call

/-- The tree after calls, one after another. -/
def run (directory : List Char) (fs : FileSystem) (calls : List Call) : FileSystem :=
  calls.foldl (fun fs call => (Work.on fs (call.perform directory)).2) fs

/-- The latest document that is not empty among those of the player's uuid and playlist. -/
def latest (directory : List Char) (calls : List Call) (player : Player) : Option (List Char) :=
  (calls.filterMap (Call.rendered? directory player)).getLast?

private theorem latest_concat (calls : List Call) (call : Call) (player : Player) :
    latest directory (calls ++ [call]) player =
      (call.rendered? directory player).or (latest directory calls player) := by
  rw [latest, latest, List.filterMap_append, List.getLast?_append]
  cases h : call.rendered? directory player <;> simp [h]

private theorem Call.isSome_rendered?_iff {call : Call} : (call.rendered? directory player).isSome ↔
    SamePair call.player player ∧ call.document directory ≠ [] := by
  unfold rendered?
  split <;> simp_all

/-- A call that renders nothing for the pair leaves the latest document as it is. -/
theorem latest_concat_of_nil {call : Call} (h : call.document directory = [])
    (calls : List Call) (player : Player) :
    latest directory (calls ++ [call]) player = latest directory calls player := by
  have hrendered : call.rendered? directory player = none := if_neg fun hc => hc.2 h
  rw [latest_concat, hrendered, Option.none_or]

private theorem latest_concat_of_ne {call : Call} (h : ¬SamePair call.player player)
    (calls : List Call) :
    latest directory (calls ++ [call]) player = latest directory calls player := by
  have hrendered : call.rendered? directory player = none := if_neg fun hc => h hc.1
  rw [latest_concat, hrendered, Option.none_or]

private theorem SamePair.rendered?_eq (h : SamePair player player') (call : Call) :
    call.rendered? directory player = call.rendered? directory player' := by
  have hiff : SamePair call.player player ↔ SamePair call.player player' := by
    rw [SamePair, SamePair, h.1, h.2]
  simp only [Call.rendered?, hiff]

private theorem SamePair.latest_eq (h : SamePair player player') (calls : List Call) :
    latest directory calls player = latest directory calls player' := by
  rw [latest, latest, funext h.rendered?_eq]

/-- There is a latest document if any call has rendered one. -/
theorem isSome_latest_iff {calls : List Call} : (latest directory calls player).isSome ↔
    ∃ call ∈ calls, SamePair call.player player ∧ call.document directory ≠ [] := by
  rw [latest, List.getLast?_isSome, Ne, List.filterMap_eq_nil_iff]
  simp only [not_forall, ← Option.isSome_iff_ne_none, Call.isSome_rendered?_iff, exists_prop]

/-- How a call ends that finds its place free. -/
inductive Ending (directory : List Char) (base : Location) (call : Call) (fs : FileSystem) :
    Except Error (List Char) → FileSystem → Prop where
  | refused {error : Error} (hpath : indexPath directory call.player = .error error) :
    Ending directory base call fs (.error error) fs
  | kept {path : List Char} (hpath : indexPath directory call.player = .ok path)
    (hdocument : call.document directory = []) (hfile : fs.isFile (.ofText path) = true) :
    Ending directory base call fs (.ok path) fs
  | missing {path : List Char} (hpath : indexPath directory call.player = .ok path)
    (hdocument : call.document directory = []) (hfile : fs.isFile (.ofText path) = false) :
    Ending directory base call fs (.error (.noIndex (.ofList path))) fs
  | published {path : List Char} {fs' : FileSystem}
    (hpath : indexPath directory call.player = .ok path)
    (hdocument : call.document directory ≠ [])
    (hfits : Fits directory fs.workingDirectory call.player)
    (hspares : Spares fs fs' base call.player)
    (hfolder : fs'.node? (folderOf base call.player) = some .directory)
    (hbytes : fs'.bytes? (placeOf base call.player) = some (bytesOf (call.document directory))) :
    Ending directory base call fs (.ok path) fs'
  | failed {path : List Char} {error : Error} {fs' : FileSystem}
    (hpath : indexPath directory call.player = .ok path)
    (hdocument : call.document directory ≠ [])
    (hunfit : ¬Fits directory fs.workingDirectory call.player)
    (hspares : Spares fs fs' base call.player)
    (hnone : fs'.node? (placeOf base call.player) = none) :
    Ending directory base call fs (.error error) fs'

private theorem Ending.spares {call : Call} {answer : Except Error (List Char)}
    (h : Ending directory base call fs answer fs') : Spares fs fs' base call.player := by
  cases h with
  | refused => exact .refl fs
  | kept => exact .refl fs
  | missing => exact .refl fs
  | published _ _ _ hspares _ _ => exact hspares
  | failed _ _ _ hspares _ => exact hspares

private theorem Call.perform_leads {call : Call} (hsite : Site directory fs base)
    (hfree : Free fs base call.player)
    (hnone : ¬Fits directory fs.workingDirectory call.player →
      fs.node? (placeOf base call.player) = none) :
    (call.perform directory).Leads fs (Ending directory base call fs) := by
  unfold perform Compiler.compile
  cases hpath : indexPath (call.compiler directory).directory call.player with
  | error error => exact leads_throw (.refused hpath)
  | ok path =>
    change Leads (do
      let _ ← publish .none call.now.moment path (call.document directory)
      return path) fs _
    by_cases hdocument : call.document directory = []
    · rw [hdocument]
      refine leads_bind ((publish_nil_leads .none call.now.moment path).mono fun answer fs' h => ?_)
      obtain ⟨rfl, rfl⟩ := h
      cases hfile : fs'.isFile (.ofText path) with
      | true => exact leads_pure (.kept hpath hdocument hfile)
      | false => exact .missing hpath hdocument hfile
    · by_cases hfits : Fits directory fs.workingDirectory call.player
      · refine leads_bind ((hsite.publish_leads_ok hpath hfree hfits hdocument call.now.moment).mono
          fun answer fs' h => ?_)
        obtain ⟨⟨outcome, rfl⟩, hspares, hfolder, hbytes⟩ := h
        exact leads_pure (.published hpath hdocument hfits hspares hfolder hbytes)
      · refine leads_bind ((hsite.publish_leads_error hpath hfree hfits (hnone hfits) hdocument
          call.now.moment).mono fun answer fs' h => ?_)
        obtain ⟨⟨error, rfl⟩, hspares, hnone'⟩ := h
        exact .failed hpath hdocument hfits hspares hnone'

/-- What lies below the directory after calls that began with nothing below it. -/
structure Holds (directory : List Char) (base start : Location) (calls : List Call)
    (fs : FileSystem) : Prop where
  workingDirectory : fs.workingDirectory = start
  site : Site directory fs base
  nodes : ∀ names node, names ≠ [] → fs.node? (base ++ names) = some node →
    (∃ name, names = [name]) ∧ node = .directory ∨
      ∃ call ∈ calls, ∃ path file, indexPath directory call.player = .ok path ∧
        Fits directory start call.player ∧ base ++ names = placeOf base call.player ∧
        node = .file file
  folders : ∀ player, fs.node? (placeOf base player) ≠ none →
    fs.node? (folderOf base player) = some .directory
  bytes : ∀ player path, indexPath directory player = .ok path → Fits directory start player →
    fs.bytes? (placeOf base player) = (latest directory calls player).map bytesOf

namespace Holds
variable {start : Location} {calls : List Call} {call : Call} {node : Node}

/-- At the place of an index there is a file, and the index can be published. -/
theorem index (h : Holds directory base start calls fs)
    (hn : fs.node? (placeOf base player) = some node) : ∃ path file,
      indexPath directory player = .ok path ∧ Fits directory start player ∧ node = .file file := by
  rcases h.nodes _ node (by simp) hn with ⟨⟨name, hname⟩, -⟩ | ⟨call, -, path, file, hpath, hfits, hp, rfl⟩
  · cases hname
  · have hpair := placeOf_injective hp.symm
    exact ⟨path, file, hpair.indexPath_eq ▸ hpath, hpair.fits hfits, rfl⟩

private theorem free (h : Holds directory base start calls fs) (player : Player) :
    Free fs base player := by
  refine ⟨?_, ?_, ?_⟩
  · cases hn : fs.node? (folderOf base player) with
    | none =>
      refine .inr ⟨rfl, ?_⟩
      by_contra hplace
      rw [h.folders player hplace] at hn
      cases hn
    | some node =>
      rcases h.nodes _ node (by simp) hn with ⟨-, rfl⟩ | ⟨call, -, path, file, -, -, hp, -⟩
      · exact .inl rfl
      · exact absurd hp folderOf_ne_placeOf
  · intro hn
    obtain ⟨path, file, -, -, hfile⟩ := h.index hn
    cases hfile
  · cases hn : fs.node? (draftPlaceOf base player) with
    | none => rfl
    | some node =>
      rcases h.nodes _ node (by simp) hn with ⟨⟨name, hname⟩, -⟩ | ⟨call, -, path, file, -, -, hp, -⟩
      · cases hname
      · exact absurd hp draftPlaceOf_ne_placeOf

private theorem node?_placeOf_eq_none (h : Holds directory base start calls fs)
    (hunfit : ¬Fits directory start player) : fs.node? (placeOf base player) = none := by
  cases hn : fs.node? (placeOf base player) with
  | none => rfl
  | some node =>
    obtain ⟨path, file, -, hfits, -⟩ := h.index hn
    exact absurd hfits hunfit

private theorem ends (h : Holds directory base start calls fs) (call : Call) :
    Ending directory base call fs (Work.on fs (call.perform directory)).1
      (Work.on fs (call.perform directory)).2 := by
  refine (Call.perform_leads h.site (h.free call.player) fun hunfit => ?_).on
  rw [h.workingDirectory] at hunfit
  exact h.node?_placeOf_eq_none hunfit

/-- A call that spares the rest of the tree has to do right by its own place alone. -/
private theorem advance (h : Holds directory base start calls fs)
    (hspares : Spares fs fs' base call.player)
    (hfolder : fs'.node? (placeOf base call.player) ≠ none →
      fs'.node? (folderOf base call.player) = some .directory)
    (hindex : ∀ node, fs'.node? (placeOf base call.player) = some node → ∃ path file,
      indexPath directory call.player = .ok path ∧ Fits directory start call.player ∧
        node = .file file)
    (hbytes : ∀ path, indexPath directory call.player = .ok path →
      Fits directory start call.player → fs'.bytes? (placeOf base call.player) =
        (latest directory (calls ++ [call]) call.player).map bytesOf) :
    Holds directory base start (calls ++ [call]) fs' := by
  have hkeeps := hspares.keepsDirectories (h.free call.player).place
  have hother (player : Player) (hpair : ¬SamePair call.player player) :
      fs'.node? (placeOf base player) = fs.node? (placeOf base player) := by
    refine hspares.others _ folderOf_ne_placeOf.symm fun hp => hpair ?_
    exact placeOf_injective hp.symm
  refine ⟨hspares.workingDirectory.trans h.workingDirectory, h.site.mono hkeeps, ?_, ?_, ?_⟩
  · intro names node hne hn
    have hold (ho : fs'.node? (base ++ names) = fs.node? (base ++ names)) :
        (∃ name, names = [name]) ∧ node = .directory ∨
          ∃ call' ∈ calls ++ [call], ∃ path file, indexPath directory call'.player = .ok path ∧
            Fits directory start call'.player ∧ base ++ names = placeOf base call'.player ∧
            node = .file file := by
      rcases h.nodes names node hne (ho.symm.trans hn) with hd | ⟨call', hmem, hfile⟩
      · exact .inl hd
      · exact .inr ⟨call', List.mem_append_left _ hmem, hfile⟩
    by_cases hf : base ++ names = folderOf base call.player
    · rcases hspares.folder with ho | ⟨-, hd⟩
      · exact hold (by rw [hf, ho])
      · rw [hf, hd] at hn
        cases hn
        exact .inl ⟨⟨_, List.append_cancel_left hf⟩, rfl⟩
    · by_cases hp : base ++ names = placeOf base call.player
      · obtain ⟨path, file, hpath, hfits, rfl⟩ := hindex node (hp ▸ hn)
        exact .inr ⟨call, by simp, path, file, hpath, hfits, hp, rfl⟩
      · exact hold (hspares.others _ hf hp)
  · intro player hne
    by_cases hpair : SamePair call.player player
    · rw [← hpair.folderOf_eq]
      rw [← hpair.placeOf_eq] at hne
      exact hfolder hne
    · rw [hother player hpair] at hne
      exact hkeeps.directory _ (h.folders player hne)
  · intro player path hpath hfits
    by_cases hpair : SamePair call.player player
    · rw [← hpair.placeOf_eq, ← hpair.latest_eq]
      exact hbytes path (hpair.indexPath_eq.trans hpath) (hpair.symm.fits hfits)
    · rw [bytes?_congr (hother player hpair), latest_concat_of_ne hpair]
      exact h.bytes player path hpath hfits

/-- A call that changes nothing and renders no index keeps what was there. -/
private theorem idle (h : Holds directory base start calls fs)
    (hnone : ∀ path, indexPath directory call.player = .ok path →
      call.document directory = []) :
    Holds directory base start (calls ++ [call]) fs := by
  refine h.advance (.refl fs) (h.folders call.player) (fun node hn => h.index hn) ?_
  intro path hpath hfits
  rw [latest_concat_of_nil (hnone path hpath)]
  exact h.bytes call.player path hpath hfits

/-- Every call keeps what is said of the tree below the directory. -/
theorem concat (h : Holds directory base start calls fs) (call : Call) :
    Holds directory base start (calls ++ [call]) (Work.on fs (call.perform directory)).2 := by
  have hends := h.ends call
  generalize (Work.on fs (call.perform directory)).1 = answer at hends
  generalize (Work.on fs (call.perform directory)).2 = fs' at hends ⊢
  cases hends with
  | refused hpath =>
    refine h.idle fun path hpath' => ?_
    rw [hpath] at hpath'
    cases hpath'
  | kept hpath hdocument hfile => exact h.idle fun _ _ => hdocument
  | missing hpath hdocument hfile => exact h.idle fun _ _ => hdocument
  | @published path fs' hpath hdocument hfits hspares hfolder hbytes =>
    rw [h.workingDirectory] at hfits
    refine h.advance hspares (fun _ => hfolder) ?_ ?_
    · intro node hn
      obtain ⟨file, hfile, -⟩ := bytes?_eq_some_iff.mp hbytes
      rw [hfile] at hn
      cases hn
      exact ⟨path, file, hpath, hfits, rfl⟩
    · intro path hpath hfits
      have hrendered : call.rendered? directory call.player = some (call.document directory) :=
        if_pos ⟨⟨rfl, rfl⟩, hdocument⟩
      rw [latest_concat, hrendered, hbytes]
      rfl
  | failed hpath hdocument hunfit hspares hnone =>
    rw [h.workingDirectory] at hunfit
    refine h.advance hspares (fun hne => absurd hnone hne) ?_ fun _ _ hfits => absurd hfits hunfit
    intro node hn
    rw [hnone] at hn
    cases hn

/-- At the path of an index the latest document of its pair is read. -/
theorem read (h : Holds directory base start calls fs)
    (hpath : indexPath directory player = .ok path) (hfits : Fits directory start player) :
    (fs.read (.ofText path)).toOption.map File.bytes =
      (latest directory calls player).map bytesOf := by
  have hs := hfits.size_le hpath
  rw [h.site.read_eq hpath (h.free player) hfits.uuid hs, ← h.bytes player path hpath hfits, bytes?]
  rcases fs.node? (placeOf base player) with _ | _ | file <;> rfl

private theorem isFile_eq (h : Holds directory base start calls fs)
    (hpath : indexPath directory player = .ok path) (hfits : Fits directory start player) :
    fs.isFile (.ofText path) = (latest directory calls player).isSome := by
  have hread := congrArg Option.isSome (h.read hpath hfits)
  rw [Option.isSome_map, Option.isSome_map] at hread
  rw [isFile_eq_isOk_read, ← hread]
  cases fs.read (.ofText path) <;> rfl

/-- A call tells the path if there is an index of its pair then, and misses it otherwise. -/
theorem answer (h : Holds directory base start calls fs)
    (hpath : indexPath directory call.player = .ok path) (hfits : Fits directory start call.player) :
    (Work.on fs (call.perform directory)).1 =
      if (latest directory (calls ++ [call]) call.player).isSome then .ok path
      else .error (.noIndex (.ofList path)) := by
  have hends := h.ends call
  have hfile := h.isFile_eq hpath hfits
  generalize (Work.on fs (call.perform directory)).1 = answer at hends ⊢
  generalize (Work.on fs (call.perform directory)).2 = fs' at hends
  cases hends with
  | refused hpath' =>
    rw [hpath] at hpath'
    cases hpath'
  | kept hpath' hdocument hfile' =>
    cases hpath.symm.trans hpath'
    rw [latest_concat_of_nil hdocument, ← hfile, if_pos hfile']
  | missing hpath' hdocument hfile' =>
    cases hpath.symm.trans hpath'
    rw [latest_concat_of_nil hdocument, ← hfile, hfile', if_neg (by simp)]
  | published hpath' hdocument =>
    cases hpath.symm.trans hpath'
    have hsome : (latest directory (calls ++ [call]) call.player).isSome :=
      isSome_latest_iff.mpr ⟨call, by simp, ⟨rfl, rfl⟩, hdocument⟩
    rw [if_pos hsome]
  | failed _ _ hunfit =>
    rw [h.workingDirectory] at hunfit
    exact absurd hfits hunfit

end Holds

private theorem run_concat (calls : List Call) (call : Call) :
    run directory fs (calls ++ [call]) =
      (Work.on (run directory fs calls) (call.perform directory)).2 := by
  rw [run, List.foldl_append]
  rfl

/-- What is said of the tree below the directory holds after any run. -/
theorem run_holds (hsite : Site directory fs base)
    (hempty : ∀ names, names ≠ [] → fs.node? (base ++ names) = none) (calls : List Call) :
    Holds directory base fs.workingDirectory calls (run directory fs calls) := by
  induction calls using List.reverseRecOn with
  | nil =>
    refine ⟨rfl, hsite, ?_, ?_, ?_⟩
    · intro names node hne hn
      rw [run, List.foldl_nil, hempty names hne] at hn
      cases hn
    · exact fun player hne => absurd (hempty _ (by simp)) hne
    · intro player path hpath hfits
      rw [run, List.foldl_nil, bytes?, placeOf, hempty _ (by simp)]
      rfl
  | append_singleton calls call ih =>
    rw [run_concat]
    exact ih.concat call

/-- The tree below a directory after calls, and what the next calls do to it. -/
structure Isolated (directory : List Char) (base start : Location) (calls : List Call)
    (fs : FileSystem) : Prop where
  /-- Every file is the index of a player that was compiled. -/
  confined : ∀ names file, fs.node? (base ++ names) = some (.file file) →
    ∃ call ∈ calls, ∃ path, indexPath directory call.player = .ok path ∧
      names = [call.player.uuid.toList, indexName call.player.playlistId] ∧
      fs.locate (.ofText path) = .ok (base ++ names)
  /-- A pair has an index if one of its calls rendered something. -/
  present : ∀ player path, indexPath directory player = .ok path → Fits directory start player →
    (fs.isFile (.ofText path) ↔
      ∃ call ∈ calls, SamePair call.player player ∧ call.document directory ≠ [])
  /-- The index is the latest that was rendered. -/
  current : ∀ player path, indexPath directory player = .ok path → Fits directory start player →
    (fs.read (.ofText path)).toOption.map File.bytes =
      (latest directory calls player).map bytesOf
  /-- A call fails if nothing was ever rendered for its pair, and tells the path otherwise. -/
  answer : ∀ (call : Call) path, indexPath directory call.player = .ok path →
    Fits directory start call.player →
    (Work.on fs (call.perform directory)).1 =
      if (latest directory (calls ++ [call]) call.player).isSome then .ok path
      else .error (.noIndex (.ofList path))
  /-- A call changes nothing but its own index and the directory of it. -/
  spared : ∀ (call : Call) place, place ≠ base ++ [call.player.uuid.toList] →
    place ≠ base ++ [call.player.uuid.toList, indexName call.player.playlistId] →
    (Work.on fs (call.perform directory)).2.node? place = fs.node? place
  /-- A call of another pair makes no difference to what is read for a pair and to how its next
  call ends. -/
  undisturbed : ∀ (call other : Call) path, ¬SamePair other.player call.player →
    indexPath directory call.player = .ok path → Fits directory start call.player →
    (Work.on fs (other.perform directory)).2.read (.ofText path) = fs.read (.ofText path) ∧
      (Work.on (Work.on fs (other.perform directory)).2 (call.perform directory)).1 =
        (Work.on fs (call.perform directory)).1

namespace Holds
variable {start : Location} {calls : List Call} {call other : Call}

private theorem confined (h : Holds directory base start calls fs) {names : List Name} {file : File}
    (hn : fs.node? (base ++ names) = some (.file file)) :
    ∃ call ∈ calls, ∃ path, indexPath directory call.player = .ok path ∧
      names = [call.player.uuid.toList, indexName call.player.playlistId] ∧
      fs.locate (.ofText path) = .ok (base ++ names) := by
  have hne : names ≠ [] := by
    rintro rfl
    rw [List.append_nil, h.site.isDirectory] at hn
    cases hn
  rcases h.nodes names _ hne hn with ⟨-, hd⟩ | ⟨call, hmem, path, file, hpath, hfits, hp, -⟩
  · cases hd
  · have hfolder := h.folders call.player (by rw [← hp, hn]; simp)
    refine ⟨call, hmem, path, hpath, List.append_cancel_left hp, ?_⟩
    rw [hp]
    exact h.site.locate hpath hfolder hfits.uuid (hfits.size_le hpath)

private theorem undisturbed (h : Holds directory base start calls fs)
    (hpair : ¬SamePair other.player call.player)
    (hpath : indexPath directory call.player = .ok path) (hfits : Fits directory start call.player) :
    (Work.on fs (other.perform directory)).2.read (.ofText path) = fs.read (.ofText path) ∧
      (Work.on (Work.on fs (other.perform directory)).2 (call.perform directory)).1 =
        (Work.on fs (call.perform directory)).1 := by
  have hs := hfits.size_le hpath
  have h' := h.concat other
  have hplace : (Work.on fs (other.perform directory)).2.node? (placeOf base call.player) =
      fs.node? (placeOf base call.player) := by
    refine (h.ends other).spares.others _ folderOf_ne_placeOf.symm fun hp => hpair ?_
    exact placeOf_injective hp.symm
  constructor
  · rw [h'.site.read_eq hpath (h'.free call.player) hfits.uuid hs,
      h.site.read_eq hpath (h.free call.player) hfits.uuid hs, hplace]
  · rw [h'.answer hpath hfits, h.answer hpath hfits, latest_concat (calls ++ [other]),
      latest_concat_of_ne hpair, ← latest_concat]

private theorem isolated (h : Holds directory base start calls fs) :
    Isolated directory base start calls fs where
  confined _ _ hn := h.confined hn
  present player path hpath hfits := by rw [h.isFile_eq hpath hfits, isSome_latest_iff]
  current _ _ hpath hfits := h.read hpath hfits
  answer _ _ hpath hfits := h.answer hpath hfits
  spared call place hfolder hplace := (h.ends call).spares.others place hfolder hplace
  undisturbed _ _ _ hpair hpath hfits := h.undisturbed hpair hpath hfits

end Holds

/-- Compilations for a directory that is empty at first keep the indexes of different pairs apart.
A uuid that cannot be the name of a directory is refused before anything is read or touched. -/
theorem run_isolated (hsite : Site directory fs base)
    (hempty : ∀ names, names ≠ [] → fs.node? (base ++ names) = none) (calls : List Call) :
    Isolated directory base fs.workingDirectory calls (run directory fs calls) ∧
      (∀ player player' path, indexPath directory player = .ok path →
        indexPath directory player' = .ok path → SamePair player player') ∧
      ∀ (compiler : Compiler) outages sources now player, Unusable player.uuid.toList →
        compiler.compile outages sources now player =
          throw (.invalidInput s!"unusable player uuid: {Text.quoted player.uuid}") :=
  ⟨(run_holds hsite hempty calls).isolated, fun _ _ _ => indexPath_injective,
    fun compiler outages sources now _ => compiler.compile_of_unusable outages sources now⟩

/-- A tree with an empty directory for indexes. -/
def bareSite : FileSystem := .holding [(["index".toList], .directory)]

/-- A player with the first playlist. -/
def guest (uuid : String) : Player := { Player.blank with uuid := uuid, playlistId := ⟨1⟩ }

/-- A call for such a player with a template that has no places. -/
def callFor (uuid template : String) : Call where
  limits := .standard
  templates := fun _ => template.toList
  targets := ⟨"", ""⟩
  sources := ⟨fun _ _ => .error (.notFound ""), fun _ => .error (.notFound "")⟩
  now := .ofSeconds 0
  player := guest uuid

private theorem site_bareSite : Site "/index".toList bareSite ["index".toList] :=
  ⟨⟨by decide, by decide, rfl⟩, ⟨by decide, by decide⟩, rfl⟩

private theorem node?_bareSite (names : List Name) (h : names ≠ []) :
    bareSite.node? (["index".toList] ++ names) = none := by
  obtain ⟨name, names, rfl⟩ := List.exists_cons_of_ne_nil h
  rfl

private theorem fits_guest :
    ∀ uuid ∈ ["lobby", "hall"], Fits "/index".toList bareSite.workingDirectory (guest uuid) := by
  simp only [List.forall_mem_cons, List.not_mem_nil, false_imp_iff, implies_true, and_true]
  refine ⟨⟨?_, ?_, ?_⟩, ⟨?_, ?_, ?_⟩⟩ <;> decide +kernel

/-- One player gets an index, and another one none. -/
theorem run_isolated_two_players :
    let fs := run "/index".toList bareSite [callFor "lobby" "<smil/>", callFor "hall" ""]
    Site "/index".toList bareSite ["index".toList] ∧
      (∀ names, names ≠ [] → bareSite.node? (["index".toList] ++ names) = none) ∧
      (fs.read (.ofText "/index/lobby/1.smil".toList)).toOption.map File.bytes =
        some (bytesOf "<smil/>".toList) ∧
      fs.isFile (.ofText "/index/hall/1.smil".toList) = false := by
  have h := (run_isolated site_bareSite node?_bareSite
    [callFor "lobby" "<smil/>", callFor "hall" ""]).1
  have hlobby := h.current (guest "lobby") "/index/lobby/1.smil".toList rfl
    (fits_guest _ (by decide))
  have hhall := h.present (guest "hall") "/index/hall/1.smil".toList rfl (fits_guest _ (by decide))
  refine ⟨site_bareSite, node?_bareSite, ?_, ?_⟩
  · rw [hlobby]
    decide +kernel
  · rw [← Bool.not_eq_true, hhall]
    decide +kernel

end Signage.Index
