import Signage.Proofs.Index.Repetition
import Signage.Proofs.Poll.Endings
import Signage.Proofs.Store.Reporting

/-!
The same poll made once more. The second poll finds stored and published what the first one left, so
that it changes nothing and is answered alike.
-/
namespace Signage.Poll
open Identity (Device)
open Files Files.FileSystem Index

section
variable {device : Device} {after : Reply Player × Store.Tables}

/-- How the player of a device is loaded from a store: it is then stored as the device reports
itself, or still cannot be read. -/
inductive LoadsStored (device : Device) : Reply Player × Store.Tables → Prop
  | works {player : Player} {tables : Store.Tables}
      (hstored : Store.getPlayer tables device.uuid = .ok (some player))
      (hcurrent : IsCurrentReport device player) : LoadsStored device (.works player, tables)
  | fails {error : Error} {tables : Store.Tables}
      (hunread : Store.getPlayer tables device.uuid = .error error) :
      LoadsStored device (.fails error, tables)

private theorem find_repository (uuid : String) (tables : Store.Tables) :
    Store.repository.find uuid tables = Store.replyOf (Store.getPlayer tables uuid) := rfl

private theorem loadsStored_loadPlayer (device : Device) (tables : Store.Tables) :
    LoadsStored device (loadPlayer Store.repository device tables) := by
  cases hget : Store.getPlayer tables device.uuid with
  | error error =>
    have hload : loadPlayer Store.repository device tables = (.fails error, tables) := by
      rw [loadPlayer, find_repository, hget]
      rfl
    rw [hload]
    exact .fails hget
  | ok found =>
    have hfind : Store.repository.find device.uuid tables = .works found := by
      rw [find_repository, hget]
      rfl
    rw [loadPlayer_of_find hfind]
    cases found with
    | none =>
      rcases Store.registerPlayer_cases hget device.name device.firmware device.model with
        ⟨player, hregister, hstored, hcurrent⟩ | ⟨error, hregister, hunread⟩
      · have hsettle : settle Store.repository device none tables = (.works player, _) :=
          congrArg (fun result => (Store.replyOf result.1, result.2)) hregister
        rw [hsettle]
        exact .works hstored hcurrent
      · have hsettle : settle Store.repository device none tables = (.fails error, _) :=
          congrArg (fun result => (Store.replyOf result.1, result.2)) hregister
        rw [hsettle]
        exact .fails hunread
    | some player =>
      by_cases hcurrent : IsCurrentReport device player
      · rw [settle_of_current hcurrent]
        exact .works hget hcurrent
      · rw [settle_of_not_current hcurrent]
        exact .works (Store.getPlayer_touchPlayer hget device.firmware device.model) ⟨rfl, rfl⟩

private theorem LoadsStored.eq (h : LoadsStored device after) :
    loadPlayer Store.repository device after.2 = after := by
  cases h with
  | works hstored hcurrent =>
    rw [loadPlayer, find_repository, hstored]
    exact settle_of_current hcurrent
  | fails hunread =>
    rw [loadPlayer, find_repository, hunread]
    rfl

/-- To load the player of a device once more gives the same player, and changes nothing. -/
theorem loadPlayer_loadPlayer (device : Device) (tables : Store.Tables) :
    loadPlayer Store.repository device (loadPlayer Store.repository device tables).2 =
      loadPlayer Store.repository device tables :=
  (loadsStored_loadPlayer device tables).eq

end

section
variable {dispatcher : Dispatcher} {sources : Content.Sources} {now now' : Calendar.Clock}
  {player : Player} {fs : FileSystem} {path : List Char}

/-- Everything lies in a directory, and the way to the indexes does not go up from directories that
are still to be made. If it did, a publication that fails after it has made them would leave a way
open that was closed before. -/
structure IsOrderly (dispatcher : Dispatcher) (fs : FileSystem) : Prop where
  tree : fs.IsTree
  steady : (Path.ofText dispatcher.compiler.directory).IsSteady fs

private theorem isSteady_indexPath {directory : List Char}
    (h : indexPath directory player = .ok path)
    (hsteady : (Path.ofText directory).IsSteady fs) : (Path.ofText path).IsSteady fs := by
  rw [ofText_indexPath h]
  exact (hsteady.child (isName_uuid h)).child (isName_indexName player.playlistId)

private theorem isNested_indexPath {directory : List Char}
    (h : indexPath directory player = .ok path) :
    (Path.ofText path).IsNested :=
  ⟨_, _, _, ofText_indexPath h, isName_uuid h, isName_indexName _, isShort_indexName _⟩

/-- Work that is done once more comes to the same answer, if it comes to an answer both times. -/
structure Recurs {α : Type} (isEarly isSteady : Prop) (first again : Except Error α × FileSystem) : Prop
    extends Repeats isEarly isSteady first again where
  same : ∀ a a', first.1 = .ok a → again.1 = .ok a' → a' = a

private theorem recurs_of_eq {α : Type} {isEarly isSteady : Prop}
    {first again : Except Error α × FileSystem}
    (h : again = first) : Recurs isEarly isSteady first again where
  toRepeats := repeats_of_eq (congrArg Prod.snd h) (congrArg (·.1.isOk) h)
  same a a' ha ha' := by
    rw [h, ha] at ha'
    exact (Except.ok.inj ha').symm

private theorem isOk_map {ε α β : Type} (f : α → β) (answer : Except ε α) :
    (answer.map f).isOk = answer.isOk := by
  cases answer <;> rfl

private theorem Recurs.toOption_eq {α : Type} {isEarly isSteady : Prop}
    {first again : Except Error α × FileSystem} (h : Recurs isEarly isSteady first again)
    (hway : first.1.isOk = true ∨ isSteady) : again.1.toOption = first.1.toOption := by
  obtain ⟨answer, fs⟩ := first
  obtain ⟨answer', fs'⟩ := again
  cases answer with
  | ok a =>
    cases answer' with
    | ok a' => exact congrArg some (h.same a a' rfl rfl)
    | error => cases h.works rfl
  | error =>
    cases answer' with
    | ok => cases h.fails (hway.resolve_left (by simp [Except.isOk, Except.toBool])) rfl
    | error => rfl

/-- To compile the index of a player once more selects the same file. -/
theorem compile_recurs (hdate : now'.date = now.date)
    (hpath : indexPath dispatcher.compiler.directory player = .ok path) :
    let first := Work.on fs (dispatcher.compile sources now player)
    Recurs dispatcher.outages.IsEarly (IsOrderly dispatcher fs) first
      (Work.on first.2 (dispatcher.compile sources now' player)) := by
  dsimp only
  rw [on_compile hpath, on_compile hpath, hdate]
  generalize dispatcher.compiler.document sources now.date player = content
  have first := (@publish_ends fs dispatcher.outages now.moment path content).on
  generalize Work.on fs (publish dispatcher.outages now.moment path content) = ended at first ⊢
  obtain ⟨answer, fs'⟩ := ended
  have second := (@publish_ends fs' dispatcher.outages now'.moment path content).on
  dsimp only
  generalize Work.on fs' (publish dispatcher.outages now'.moment path content) = ended at second ⊢
  obtain ⟨answer', fs''⟩ := ended
  have hrepeats := first.repeats second
  refine ⟨⟨hrepeats.touched, fun h => hrepeats.kept (h.imp (⟨·, isNested_indexPath hpath⟩) ?_),
    fun h => ?_, fun horderly h => ?_⟩, fun a a' ha ha' => ?_⟩
  · exact (isOk_map _ _).symm.trans
  · rw [isOk_map] at h ⊢
    exact hrepeats.works h
  · rw [isOk_map] at h ⊢
    exact hrepeats.fails ⟨horderly.tree, isSteady_indexPath hpath horderly.steady⟩ h
  · cases answer with
    | error => cases ha
    | ok outcome =>
      cases answer' with
      | error => cases ha'
      | ok outcome' =>
        cases ha
        cases ha'
        rfl

/-- To select the file for a player once more selects the same file. -/
theorem filePath_recurs (dispatcher : Dispatcher) (sources : Content.Sources) (player : Player)
    (fs : FileSystem) (hdate : now'.date = now.date) :
    let first := Work.on fs (dispatcher.filePath sources now player)
    Recurs dispatcher.outages.IsEarly (IsOrderly dispatcher fs) first
      (Work.on first.2 (dispatcher.filePath sources now' player)) := by
  dsimp only
  cases hstrategy : Strategy.ofPlayer player with
  | fixture name =>
    rw [on_filePath_of_fixture hstrategy]
    exact recurs_of_eq (on_filePath_of_fixture hstrategy)
  | fail reason =>
    rw [on_filePath_of_fail hstrategy]
    exact recurs_of_eq (on_filePath_of_fail hstrategy)
  | compile =>
    rcases indexPath_cases dispatcher.compiler.directory player with ⟨path, hpath⟩ | huuid
    · rw [filePath_of_compile hstrategy, filePath_of_compile hstrategy]
      exact compile_recurs hdate hpath
    · rw [on_filePath_of_unusable hstrategy huuid]
      exact recurs_of_eq (on_filePath_of_unusable hstrategy huuid)

/-- To answer a player once more gives the same answer. -/
theorem answer_recurs (dispatcher : Dispatcher) (sources : Content.Sources)
    (since : Option (List Char)) (player : Player) (fs : FileSystem) (hdate : now'.date = now.date) :
    let first := Work.on fs (dispatcher.answer sources now since player)
    Recurs dispatcher.outages.IsEarly (IsOrderly dispatcher fs) first
      (Work.on first.2 (dispatcher.answer sources now' since player)) := by
  have h := filePath_recurs dispatcher sources player fs hdate
  dsimp only at h ⊢
  rw [on_answer, on_answer]
  dsimp only
  generalize Work.on fs (dispatcher.filePath sources now player) = first at h ⊢
  obtain ⟨answer, fs'⟩ := first
  dsimp only at h ⊢
  generalize Work.on fs' (dispatcher.filePath sources now' player) = again at h ⊢
  obtain ⟨answer', fs''⟩ := again
  cases answer with
  | ok path =>
    cases answer' with
    | error error' => cases h.works rfl
    | ok path' =>
      obtain rfl : path' = path := h.same path path' rfl rfl
      obtain rfl : fs'' = fs' := h.kept (.inr rfl)
      exact recurs_of_eq rfl
  | error error =>
    refine ⟨⟨h.touched, fun hkept => h.kept (hkept.imp_right fun hok => ?_), nofun,
      fun horderly _ => ?_⟩, nofun⟩
    · cases answer' with
      | ok path' => rfl
      | error error' => cases hok
    · cases answer' with
      | ok path' => cases h.fails horderly rfl
      | error error' => rfl

end

/-- The device is told the same at two moments, but for the date on which what it has is outdated
when there is no answer. -/
structure TellsSame (now now' : Calendar.Moment) (first again : Response) : Prop where
  response : again = first
  headers : first ≠ .fallback → again.headers now' = first.headers now
  fallback : first = .fallback →
    (again.headers now').filter (fun header => header.1 ≠ "expires") =
      (first.headers now).filter fun header => header.1 ≠ "expires"

private theorem tellsSame (now now' : Calendar.Moment) (response : Response) :
    TellsSame now now' response response := by
  refine ⟨rfl, fun hne => ?_, fun hfallback => ?_⟩
  · cases response with
    | fallback => exact absurd rfl hne
    | rejected | notModified | served => rfl
  · cases hfallback
    simp [Response.headers]

/-- What a poll that is made once more comes to: what is stored is left as it was, and so are all
files and directories. Only when a publication has failed late again may it be told of one directory
that it has changed. The device is told the same, if it was sent a file or the way to the files is
orderly. -/
structure PollRepeats {σ : Type} (dispatcher : Dispatcher) (fs : FileSystem)
    (now now' : Calendar.Moment) (first again : Response × σ × FileSystem) : Prop where
  stored : again.2.1 = first.2.1
  touched : ∃ place, first.2.2.Touched again.2.2 place
  kept : dispatcher.outages.IsEarly ∨ again.1 ≠ .fallback → again.2.2 = first.2.2
  told : first.1 ≠ .fallback ∨ IsOrderly dispatcher fs → TellsSame now now' first.1 again.1

private theorem isOk_of_ne_fallback {answer : Except Error Response}
    (h : answer.toOption.getD .fallback ≠ .fallback) : answer.isOk = true := by
  cases answer with
  | ok response => rfl
  | error error => exact absurd rfl h

section
variable {dispatcher : Dispatcher} {sources : Content.Sources} {now now' : Calendar.Clock}
  {fs : FileSystem}

private theorem pollRepeats_of_eq {σ : Type} {first again : Response × σ × FileSystem}
    (h : again = first) (now now' : Calendar.Moment) :
    PollRepeats dispatcher fs now now' first again where
  stored := by rw [h]
  touched := ⟨[], h ▸ .refl first.2.2 []⟩
  kept _ := by rw [h]
  told _ := by
    rw [h]
    exact tellsSame now now' first.1

/-- A poll that is made once more finds what is stored and published as it left it, and is answered
alike. -/
theorem dispatch_dispatch (dispatcher : Dispatcher) (sources : Content.Sources) (request : Request)
    (tables : Store.Tables) (fs : FileSystem) (hdate : now'.date = now.date) :
    let first := dispatcher.dispatch Store.repository sources now request tables fs
    PollRepeats dispatcher fs now.moment now'.moment first
      (dispatcher.dispatch Store.repository sources now' request first.2.1 first.2.2) := by
  dsimp only
  by_cases h : Unidentified (Identity.ofUserAgent request.userAgent)
  · rw [dispatch_of_unidentified h]
    exact pollRepeats_of_eq (dispatch_of_unidentified h) _ _
  · have hreload := loadPlayer_loadPlayer (Identity.ofUserAgent request.userAgent) tables
    have hloads := loadsStored_loadPlayer (Identity.ofUserAgent request.userAgent) tables
    generalize hload : loadPlayer Store.repository (Identity.ofUserAgent request.userAgent) tables =
      loaded at hreload hloads
    cases hloads with
    | @fails error =>
      have hlost : (Reply.fails error : Reply Player).IsLost := .inl ⟨error, rfl⟩
      rw [dispatch_of_lost h hload hlost]
      exact pollRepeats_of_eq (dispatch_of_lost h hreload hlost) _ _
    | @works player _ =>
      have hrecurs := answer_recurs dispatcher sources request.since player fs hdate
      rw [dispatch_of_works h hload]
      dsimp only
      rw [dispatch_of_works h hreload]
      refine ⟨rfl, hrecurs.touched, fun hkept => hrecurs.kept (hkept.imp_right isOk_of_ne_fallback),
        fun hway => ?_⟩
      dsimp only
      rw [hrecurs.toOption_eq (hway.imp_left isOk_of_ne_fallback)]
      exact tellsSame _ _ _

/-- A poll that is made once more, on the same day and with nothing between, finds what is stored and
published as it left it, and is answered alike. The player that was served is the one stored. -/
theorem dispatch_repeats (dispatcher : Dispatcher) (sources : Content.Sources) (request : Request)
    (tables : Store.Tables) (fs : FileSystem) (hdate : now'.date = now.date) :
    let device := Identity.ofUserAgent request.userAgent
    let first := dispatcher.dispatch Store.repository sources now request tables fs
    let again := dispatcher.dispatch Store.repository sources now' request first.2.1 first.2.2
    PollRepeats dispatcher fs now.moment now'.moment first again ∧
      ∀ player, ¬Unidentified device →
        (loadPlayer Store.repository device tables).1 = .works player →
          Store.getPlayer first.2.1 device.uuid = .ok (some player) := by
  intro device first again
  refine ⟨dispatch_dispatch dispatcher sources request tables fs hdate, fun player h hserved => ?_⟩
  have hstate : first.2.1 = (loadPlayer Store.repository device tables).2 :=
    state_dispatch dispatcher sources now tables fs h
  have hloads := loadsStored_loadPlayer device tables
  rw [hstate]
  generalize loadPlayer Store.repository device tables = loaded at hserved hloads ⊢
  cases hloads with
  | works hstored =>
    cases hserved
    exact hstored
  | fails => cases hserved

/-- However often the poll is made again within the day, all files and all that is stored are left as
they were after the first. -/
theorem dispatch_settles (dispatcher : Dispatcher) (sources : Content.Sources) (request : Request)
    (tables : Store.Tables) (fs : FileSystem) (clocks : List Calendar.Clock)
    (hdates : ∀ later ∈ clocks, later.date = now.date) :
    let first := dispatcher.dispatch Store.repository sources now request tables fs
    let last := clocks.foldl (fun left later =>
      (dispatcher.dispatch Store.repository sources later request left.1 left.2).2) first.2
    last.1 = first.2.1 ∧ first.2.2.Matches last.2 := by
  induction clocks generalizing tables fs now with
  | nil => exact ⟨rfl, .refl _⟩
  | cons later clocks ih =>
    obtain ⟨hlater, hdates⟩ := List.forall_mem_cons.mp hdates
    have hagain := dispatch_dispatch dispatcher sources request tables fs hlater
    dsimp only at hagain ⊢
    rw [List.foldl_cons]
    generalize dispatcher.dispatch Store.repository sources now request tables fs = first at hagain ⊢
    have hdates : ∀ clock ∈ clocks, clock.date = later.date := fun clock hclock =>
      (hdates clock hclock).trans hlater.symm
    obtain ⟨hstored, hfiles⟩ := ih first.2.1 first.2.2 hdates
    obtain ⟨place, htouched⟩ := hagain.touched
    exact ⟨hstored.trans hagain.stored, htouched.toMatches.trans hfiles⟩

private theorem filePath_isTree (dispatcher : Dispatcher) (sources : Content.Sources)
    (now : Calendar.Clock) (player : Player) (htree : fs.IsTree) (hs : fs.Settled) :
    (Work.on fs (dispatcher.filePath sources now player)).2.IsTree := by
  cases hstrategy : Strategy.ofPlayer player with
  | fixture name =>
    rw [on_filePath_of_fixture hstrategy]
    exact htree
  | fail reason =>
    rw [on_filePath_of_fail hstrategy]
    exact htree
  | compile =>
    rcases indexPath_cases dispatcher.compiler.directory player with ⟨path, hpath⟩ | huuid
    · rw [filePath_of_compile hstrategy, on_compile hpath]
      exact (@publish_ends fs dispatcher.outages now.moment path _).on.isTree htree hs
    · rw [on_filePath_of_unusable hstrategy huuid]
      exact htree

/-- Polls leave everything in a directory. -/
theorem dispatch_isTree {σ : Type} (dispatcher : Dispatcher) (repository : Repository σ)
    (sources : Content.Sources) (now : Calendar.Clock) (request : Request) (state : σ)
    (htree : fs.IsTree) (hs : fs.Settled) :
    (dispatcher.dispatch repository sources now request state fs).2.2.IsTree := by
  by_cases h : Unidentified (Identity.ofUserAgent request.userAgent)
  · rw [dispatch_of_unidentified h]
    exact htree
  · have hanswer (player : Player) :
        (Work.on fs (dispatcher.answer sources now request.since player)).2.IsTree := by
      rw [on_answer]
      exact filePath_isTree dispatcher sources now player htree hs
    rw [dispatch_of_identified h]
    split
    · next player state' _ =>
      have hleft := hanswer player
      split
      · next hends =>
        rw [hends] at hleft
        exact hleft
      · next hends =>
        rw [hends] at hleft
        exact hleft
    · exact htree

end

/-- A hub that has published nothing yet and has no fixtures. -/
def bareHub : Dispatcher where
  compiler := ⟨"index".toList, ⟨4, 16⟩, fun _ => "\x7b\x7bplaylist.items\x7d\x7d".toList, ⟨"", ""⟩⟩
  fixtures := "fixtures".toList
  outages := .none

/-- A released player with something to play. -/
def stocked : Store.Tables :=
  [.create "news" .master 10, .setContent ⟨1⟩ ⟨"<a/>", "", ""⟩, .give "dev-1" (.playlist ⟨1⟩),
    .give "dev-1" (.status .released)].foldl Store.Operation.apply
      (Store.addPlayer .empty "dev-1" "Lobby" "v0.5" .garlic)

/-- The player polls with new firmware. -/
def updatedLobby : Request :=
  ⟨"GAPI/1.0 (UUID:dev-1; NAME:Lobby) garlic-linux/v0.6.0.745 (MODEL:Garlic)", none⟩

private theorem isOrderly_bareHub : IsOrderly bareHub .empty :=
  ⟨isTree_empty, [], ["index".toList], [], by decide, by decide, rfl⟩

theorem dispatch_repeats_of_updated :
    let sources := Store.sources stocked fun _ => .error (.external "")
    let first := bareHub.dispatch Store.repository sources (.ofSeconds 300) updatedLobby stocked
      .empty
    let again := bareHub.dispatch Store.repository sources (.ofSeconds 360) updatedLobby first.2.1
      first.2.2
    (Calendar.Clock.ofSeconds 360).date = (Calendar.Clock.ofSeconds 300).date ∧
      first.1.status = 200 ∧ again.2 = first.2 ∧
        TellsSame (.ofSeconds 300) (.ofSeconds 360) first.1 again.1 := by
  have hdate : (Calendar.Clock.ofSeconds 360).date = (Calendar.Clock.ofSeconds 300).date := by decide
  intro sources first again
  obtain ⟨hrepeats, -⟩ := dispatch_repeats bareHub sources updatedLobby stocked .empty hdate
  have hfiles : again.2.2 = first.2.2 := hrepeats.kept (.inl ⟨rfl, rfl, rfl⟩)
  exact ⟨hdate, by decide +kernel, Prod.ext hrepeats.stored hfiles,
    hrepeats.told (.inr isOrderly_bareHub)⟩

/-- A hub that sends everyone the same document, on a device that fails at one step. -/
def failingHub (directory : String) (failing : Index.Step) : Dispatcher where
  compiler := ⟨directory.toList, ⟨4, 16⟩, fun _ => "<smil/>".toList, ⟨"", ""⟩⟩
  fixtures := "fixtures".toList
  outages := fun step => step == failing

/-- The index of the player lies in `b`; there is no `a`. -/
def publishedBeside : FileSystem :=
  .holding [(["b".toList], .directory), (["b".toList, "dev-1".toList], .directory),
    (["b".toList, "dev-1".toList, "1.smil".toList],
      .file ⟨bytesOf "<smil/>".toList, .ofSeconds 100⟩)]

/-- What may differ when a poll is made again. A device that fails to make the temporary file in
`a/../b/dev-1` has made `a` before, so that the second poll finds the index that the first did not,
and is served. And one that fails to put that file in its place has made and removed it both times,
which counts as a change of its directory. -/
theorem served_after_fallback :
    let sources := Store.sources stocked fun _ => .error (.external "")
    let hub := failingHub "a/../b" .makeTemporary
    let first := hub.dispatch Store.repository sources (.ofSeconds 300) updatedLobby stocked
      publishedBeside
    let again := hub.dispatch Store.repository sources (.ofSeconds 360) updatedLobby first.2.1
      first.2.2
    let hub' := failingHub "c" .replace
    let first' := hub'.dispatch Store.repository sources (.ofSeconds 300) updatedLobby stocked
      publishedBeside
    let again' := hub'.dispatch Store.repository sources (.ofSeconds 360) updatedLobby first'.2.1
      first'.2.2
    let place := ["c".toList, "dev-1".toList]
    (Calendar.Clock.ofSeconds 360).date = (Calendar.Clock.ofSeconds 300).date ∧
      (first.1.status = 304 ∧ again.1.status = 200) ∧
        (first'.2.2.attributes place).modified = .ofSeconds 300 ∧
          (again'.2.2.attributes place).modified = .ofSeconds 360 := by
  decide +kernel

end Signage.Poll
