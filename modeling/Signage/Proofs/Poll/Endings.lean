import Signage.Proofs.Index.Naming
import Signage.Proofs.Poll.Interleaving
import Signage.Proofs.Poll.Serving

/-!
How a poll ends. There are four answers; the one that makes a device go on with what it has is given
for every failure, and then all files are as they were.
-/
namespace Signage.Poll
open Identity (Device)
open Files Index

/-- A device of no supported family, or one that cannot be told from others. -/
def Unidentified (device : Device) : Prop := device.model = .unknown ∨ device.uuid = ""

/-- The call failed, or there was no answer in time. -/
def Reply.IsLost {α : Type} (reply : Reply α) : Prop := (∃ error, reply = .fails error) ∨ reply = .hangs

section Loading
variable {σ : Type} (repository : Repository σ) (device : Device) (state : σ)

/-- The device reports what is stored of it. -/
def IsCurrentReport (player : Player) : Prop :=
  player.firmware = device.firmware ∧ player.model = device.model

/-- How the player of a device is loaded, and the state that is left. -/
inductive Loads : Player → σ → Prop
  | known {player : Player} (hfind : repository.find device.uuid state = .works (some player))
      (hsame : IsCurrentReport device player) : Loads player state
  | noted {player : Player} {state' : σ}
      (hfind : repository.find device.uuid state = .works (some player))
      (hnew : ¬IsCurrentReport device player)
      (htouch : repository.touch device state = (.works (), state')) :
      Loads (updated device player) state'
  | registered {player : Player} {state' : σ}
      (hfind : repository.find device.uuid state = .works none)
      (hregister : repository.register device state = (.works player, state')) :
      Loads player state'

/-- Which call is lost when no player is loaded, and the state that is left. -/
inductive Loses : σ → Prop
  | find (hlost : (repository.find device.uuid state).IsLost) : Loses state
  | touch {player : Player} {reply : Reply Unit} {state' : σ}
      (hfind : repository.find device.uuid state = .works (some player))
      (hnew : ¬IsCurrentReport device player)
      (htouch : repository.touch device state = (reply, state')) (hlost : reply.IsLost) :
      Loses state'
  | register {reply : Reply Player} {state' : σ}
      (hfind : repository.find device.uuid state = .works none)
      (hregister : repository.register device state = (reply, state')) (hlost : reply.IsLost) :
      Loses state'

end Loading

section Serving
variable (dispatcher : Dispatcher) (sources : Content.Sources) (now : Calendar.Clock)
  (player : Player) (fs : FileSystem)

/-- Compile the index of the player. -/
def Dispatcher.compile : Work (List Char) :=
  dispatcher.compiler.compile dispatcher.outages sources now player

/-- The path of the file that is selected for the player, and the tree that is left. -/
inductive Selects : List Char → FileSystem → Prop
  | fixture {name : String} (hstrategy : Strategy.ofPlayer player = .fixture name) :
      Selects (join dispatcher.fixtures name.toList) fs
  | index {path : List Char} {fs' : FileSystem} (hstrategy : Strategy.ofPlayer player = .compile)
      (hcompile : Work.on fs (dispatcher.compile sources now player) = (.ok path, fs')) :
      Selects path fs'

/-- Why no file is sent to the player, and the tree that is left. -/
inductive Refuses : FileSystem → Prop
  | status (hstatus : player.status = .testException ∨ ∃ code, player.status = .unknown code) :
      Refuses fs
  | fixture {name : String} {fault : Fault}
      (hstrategy : Strategy.ofPlayer player = .fixture name)
      (hview : fs.view (.ofText (join dispatcher.fixtures name.toList)) = .error fault) :
      Refuses fs
  | uuid (hstrategy : Strategy.ofPlayer player = .compile) (huuid : Unusable player.uuid.toList) :
      Refuses fs
  | absent {path : List Char} (hstrategy : Strategy.ofPlayer player = .compile)
      (hpath : indexPath dispatcher.compiler.directory player = .ok path)
      (hempty : dispatcher.compiler.document sources now.date player = [])
      (habsent : fs.isFile (.ofText path) = false) : Refuses fs
  | publication {path : List Char} {error : Error} {fs' : FileSystem}
      (hstrategy : Strategy.ofPlayer player = .compile)
      (hpath : indexPath dispatcher.compiler.directory player = .ok path)
      (hcontent : dispatcher.compiler.document sources now.date player ≠ [])
      (hpublish : Work.on fs (publish dispatcher.outages now.moment path
        (dispatcher.compiler.document sources now.date player)) = (.error error, fs')) :
      Refuses fs'

end Serving

/-- How a poll ends: its answer, the state of the repository and the tree. -/
inductive Ends {σ : Type} (dispatcher : Dispatcher) (repository : Repository σ)
    (sources : Content.Sources) (now : Calendar.Clock) (request : Request) (state : σ)
    (fs : FileSystem) : Response × σ × FileSystem → Prop
  | rejected (h : Unidentified (Identity.ofUserAgent request.userAgent)) :
      Ends dispatcher repository sources now request state fs (.rejected, state, fs)
  | answered {player : Player} {state' : σ} {path : List Char} {fs' : FileSystem}
      {response : Response} (h : ¬Unidentified (Identity.ofUserAgent request.userAgent))
      (hload : Loads repository (Identity.ofUserAgent request.userAgent) state player state')
      (hselect : Selects dispatcher sources now player fs path fs')
      (hfile : answerFrom fs' path request.since = .ok response) :
      Ends dispatcher repository sources now request state fs (response, state', fs')
  | lost {state' : σ} (h : ¬Unidentified (Identity.ofUserAgent request.userAgent))
      (hlost : Loses repository (Identity.ofUserAgent request.userAgent) state state') :
      Ends dispatcher repository sources now request state fs (.fallback, state', fs)
  | refused {player : Player} {state' : σ} {fs' : FileSystem}
      (h : ¬Unidentified (Identity.ofUserAgent request.userAgent))
      (hload : Loads repository (Identity.ofUserAgent request.userAgent) state player state')
      (hrefuse : Refuses dispatcher sources now player fs fs') :
      Ends dispatcher repository sources now request state fs (.fallback, state', fs')

/-- A device is known exactly if it is not unidentified. -/
theorem isKnown_iff {device : Device} : device.isKnown = true ↔ ¬Unidentified device := by
  simp [Device.isKnown, Unidentified]

section
variable {σ : Type} {repository : Repository σ} {device : Device} {state state' : σ} {player : Player}

/-- A player that is looked up is settled as it was found. -/
theorem loadPlayer_of_find {found : Option Player}
    (hfind : repository.find device.uuid state = .works found) :
    loadPlayer repository device state = settle repository device found state := by
  rw [loadPlayer, hfind]

/-- A player that is stored as the device reports itself is taken as it is. -/
theorem settle_of_current (h : IsCurrentReport device player) :
    settle repository device (some player) state = (.works player, state) := if_pos h

/-- A player that is stored otherwise is touched, and taken as the device reports itself. -/
theorem settle_of_not_current (h : ¬IsCurrentReport device player) :
    settle repository device (some player) state =
      match repository.touch device state with
      | (.works _, state) => (.works (updated device player), state)
      | (.fails error, state) => (.fails error, state)
      | (.hangs, state) => (.hangs, state) := if_neg h

private theorem Loads.eq (h : Loads repository device state player state') :
    loadPlayer repository device state = (.works player, state') := by
  cases h with
  | known hfind hsame => rw [loadPlayer_of_find hfind, settle_of_current hsame]
  | noted hfind hnew htouch => rw [loadPlayer_of_find hfind, settle_of_not_current hnew, htouch]
  | registered hfind hregister => exact (loadPlayer_of_find hfind).trans hregister

private theorem Loses.eq (h : Loses repository device state state') :
    ∃ reply, loadPlayer repository device state = (reply, state') ∧ reply.IsLost := by
  cases h with
  | find hlost =>
    unfold loadPlayer
    rcases hlost with ⟨error, hfind⟩ | hfind
    · rw [hfind]
      exact ⟨_, rfl, .inl ⟨error, rfl⟩⟩
    · rw [hfind]
      exact ⟨_, rfl, .inr rfl⟩
  | touch hfind hnew htouch hlost =>
    rw [loadPlayer_of_find hfind, settle_of_not_current hnew, htouch]
    rcases hlost with ⟨error, rfl⟩ | rfl
    · exact ⟨_, rfl, .inl ⟨error, rfl⟩⟩
    · exact ⟨_, rfl, .inr rfl⟩
  | register hfind hregister hlost => exact ⟨_, (loadPlayer_of_find hfind).trans hregister, hlost⟩

/-- A player is loaded, or a call is lost. -/
theorem loads_or_loses (repository : Repository σ) (device : Device) (state : σ) :
    (∃ player state', Loads repository device state player state') ∨
      ∃ state', Loses repository device state state' := by
  cases hfind : repository.find device.uuid state with
  | fails error => exact .inr ⟨state, .find (.inl ⟨error, hfind⟩)⟩
  | hangs => exact .inr ⟨state, .find (.inr hfind)⟩
  | works found =>
    cases found with
    | none =>
      rcases hregister : repository.register device state with ⟨player | error | _, state'⟩
      · exact .inl ⟨player, state', .registered hfind hregister⟩
      · exact .inr ⟨state', .register hfind hregister (.inl ⟨error, rfl⟩)⟩
      · exact .inr ⟨state', .register hfind hregister (.inr rfl)⟩
    | some player =>
      by_cases hsame : IsCurrentReport device player
      · exact .inl ⟨player, state, .known hfind hsame⟩
      · rcases htouch : repository.touch device state with ⟨⟨⟩ | error | _, state'⟩
        · exact .inl ⟨_, state', .noted hfind hsame htouch⟩
        · exact .inr ⟨state', .touch hfind hsame htouch (.inl ⟨error, rfl⟩)⟩
        · exact .inr ⟨state', .touch hfind hsame htouch (.inr rfl)⟩

end

section
variable {dispatcher : Dispatcher} {sources : Content.Sources} {now : Calendar.Clock}
  {since : Option (List Char)} {player : Player} {fs fs' : FileSystem} {path : List Char}
  {moment : Calendar.Moment}

/-- A file that can be opened is answered with. -/
theorem answerFrom_of_view {file : Opened} (h : fs.view (.ofText path) = .ok file) :
    answerFrom fs path since = .ok (answerWith path file since) := by
  rw [answerFrom, h]

private theorem answerFrom_of_error {fault : Fault} (since : Option (List Char))
    (h : fs.view (.ofText path) = .error fault) :
    answerFrom fs path since = .error fault.toError := by
  rw [answerFrom, h]

private theorem exists_fail_iff : (∃ reason, Strategy.ofPlayer player = .fail reason) ↔
    player.status = .testException ∨ ∃ code, player.status = .unknown code := by
  unfold Strategy.ofPlayer
  cases player.status with
  | released => cases player.playlistId.isAssigned <;> simp [Strategy.withoutPlaylist]
  | testException => simp
  | unknown code => simp
  | _ => simp [Strategy.unreleased, Strategy.simulation]

/-- An answer is made from the tree that the search for a path leaves. -/
theorem on_answer (dispatcher : Dispatcher) (sources : Content.Sources) (now : Calendar.Clock)
    (since : Option (List Char)) (player : Player) (fs : FileSystem) :
    Work.on fs (dispatcher.answer sources now since player) =
      ((Work.on fs (dispatcher.filePath sources now player)).1.bind fun path =>
        answerFrom (Work.on fs (dispatcher.filePath sources now player)).2 path since,
        (Work.on fs (dispatcher.filePath sources now player)).2) := by
  unfold Dispatcher.answer
  refine Work.on_bind (fun path fs => answerFrom fs path since) fun path fs past => ?_
  rw [Work.run_tree_bind]
  cases answerFrom fs path since <;> rfl

/-- A released player gets the index that is compiled for it. -/
theorem filePath_of_compile (h : Strategy.ofPlayer player = .compile) :
    dispatcher.filePath sources now player = dispatcher.compile sources now player := by
  rw [Dispatcher.filePath, h, Dispatcher.compile]

/-- A fixture is selected without a change to the files. -/
theorem on_filePath_of_fixture {name : String} (h : Strategy.ofPlayer player = .fixture name) :
    Work.on fs (dispatcher.filePath sources now player) =
      (.ok (join dispatcher.fixtures name.toList), fs) := by
  rw [Dispatcher.filePath, h]
  rfl

/-- A player that is refused gets no file, and no file is changed. -/
theorem on_filePath_of_fail {reason : String} (h : Strategy.ofPlayer player = .fail reason) :
    Work.on fs (dispatcher.filePath sources now player) = (.error (.status reason), fs) := by
  rw [Dispatcher.filePath, h]
  rfl

/-- An unusable uuid is refused before anything is published. -/
theorem on_filePath_of_unusable (h : Strategy.ofPlayer player = .compile)
    (huuid : Unusable player.uuid.toList) :
    Work.on fs (dispatcher.filePath sources now player) =
      (.error (.invalidInput s!"unusable player uuid: {Text.quoted player.uuid}"), fs) := by
  rw [filePath_of_compile h, Dispatcher.compile, Compiler.compile_of_unusable _ _ _ _ huuid]
  rfl

/-- A compilation ends as its publication does. -/
theorem on_compile (hpath : indexPath dispatcher.compiler.directory player = .ok path) :
    Work.on fs (dispatcher.compile sources now player) =
      ((Work.on fs (publish dispatcher.outages now.moment path
          (dispatcher.compiler.document sources now.date player))).1.map fun _ => path,
        (Work.on fs (publish dispatcher.outages now.moment path
          (dispatcher.compiler.document sources now.date player))).2) := by
  unfold Dispatcher.compile Compiler.compile
  rw [hpath]
  exact Work.on_bind (fun _ _ => .ok path) fun _ _ _ => rfl

/-- An index has a path unless the uuid is unusable. -/
theorem indexPath_cases (directory : List Char) (player : Player) :
    (∃ path, indexPath directory player = .ok path) ∨ Unusable player.uuid.toList := by
  rw [unusable_iff, indexPath]
  cases isSafeName player.uuid.toList with
  | true => exact .inl ⟨_, rfl⟩
  | false => exact .inr rfl

private theorem on_publish_nil (outages : Outages) (path : List Char) :
    Work.on fs (publish outages moment path []) =
      (if fs.isFile (.ofText path) then .ok .stale else .error (.noIndex (.ofList path)), fs) := by
  obtain ⟨hsame, hanswer⟩ := (@publish_nil_leads fs outages moment path).on
  exact Prod.ext hanswer hsame

private theorem find_of_publish {outages : Outages} {content : List Char} {outcome : Outcome}
    (h : Work.on fs (publish outages moment path content) = (.ok outcome, fs')) :
    ∃ file, fs'.find (.ofText path) = .ok (.file file) := by
  have hends := (@publish_ends fs outages moment path content).on
  rw [h] at hends
  exact hends.exists_find

/-- A file that is found can be opened. -/
theorem view_of_find {file : File} (h : fs.find (.ofText path) = .ok (.file file)) :
    fs.view (.ofText path) = .ok file.opened := by
  rw [FileSystem.view, h]
  rfl

/-- A compiled index can be opened. -/
theorem answerFrom_of_publish {outages : Outages} {content : List Char} {outcome : Outcome}
    (since : Option (List Char))
    (h : Work.on fs (publish outages moment path content) = (.ok outcome, fs')) :
    ∃ response, answerFrom fs' path since = .ok response := by
  obtain ⟨file, hfind⟩ := find_of_publish h
  exact ⟨_, answerFrom_of_view (view_of_find hfind)⟩

private theorem Selects.on_answer (h : Selects dispatcher sources now player fs path fs') :
    Work.on fs (dispatcher.answer sources now since player) =
      (answerFrom fs' path since, fs') := by
  rw [Poll.on_answer]
  cases h with
  | fixture hstrategy =>
    rw [on_filePath_of_fixture hstrategy]
    rfl
  | index hstrategy hcompile =>
    rw [filePath_of_compile hstrategy, hcompile]
    rfl

private theorem Refuses.on_answer (since : Option (List Char))
    (h : Refuses dispatcher sources now player fs fs') :
    ∃ error, Work.on fs (dispatcher.answer sources now since player) = (.error error, fs') := by
  rw [Poll.on_answer]
  cases h with
  | status hstatus =>
    obtain ⟨reason, hreason⟩ := exists_fail_iff.mpr hstatus
    rw [on_filePath_of_fail hreason]
    exact ⟨_, rfl⟩
  | fixture hstrategy hview =>
    rw [on_filePath_of_fixture hstrategy]
    have hfile := answerFrom_of_error since hview
    exact ⟨_, congrArg (·, fs) hfile⟩
  | uuid hstrategy huuid =>
    rw [on_filePath_of_unusable hstrategy huuid]
    exact ⟨_, rfl⟩
  | absent hstrategy hpath hempty habsent =>
    rw [filePath_of_compile hstrategy, on_compile hpath, hempty, on_publish_nil, habsent]
    exact ⟨_, rfl⟩
  | publication hstrategy hpath hcontent hpublish =>
    rw [filePath_of_compile hstrategy, on_compile hpath, hpublish]
    exact ⟨_, rfl⟩

/-- A file is selected that can be opened, or none is sent. -/
theorem selects_or_refuses (dispatcher : Dispatcher) (sources : Content.Sources)
    (now : Calendar.Clock) (since : Option (List Char)) (player : Player) (fs : FileSystem) :
    (∃ path fs' response, Selects dispatcher sources now player fs path fs' ∧
      answerFrom fs' path since = .ok response) ∨
        ∃ fs', Refuses dispatcher sources now player fs fs' := by
  cases hstrategy : Strategy.ofPlayer player with
  | fixture name =>
    cases hview : fs.view (.ofText (join dispatcher.fixtures name.toList)) with
    | error fault => exact .inr ⟨fs, .fixture hstrategy hview⟩
    | ok file =>
      exact .inl ⟨_, fs, _, .fixture hstrategy, answerFrom_of_view hview⟩
  | compile =>
    rcases indexPath_cases dispatcher.compiler.directory player with ⟨path, hpath⟩ | huuid
    · have hcompile : Work.on fs (dispatcher.compile sources now player) = _ := on_compile hpath
      rcases hpublish : Work.on fs (publish dispatcher.outages now.moment path
        (dispatcher.compiler.document sources now.date player)) with ⟨error | outcome, fs'⟩
      · by_cases hcontent : dispatcher.compiler.document sources now.date player = []
        · rw [hcontent, on_publish_nil] at hpublish
          split at hpublish
          · cases hpublish
          · next habsent =>
            exact .inr ⟨fs, .absent hstrategy hpath hcontent (Bool.eq_false_iff.mpr habsent)⟩
        · exact .inr ⟨fs', .publication hstrategy hpath hcontent hpublish⟩
      · rw [hpublish] at hcompile
        obtain ⟨response, hfile⟩ := answerFrom_of_publish since hpublish
        exact .inl ⟨path, fs', response, .index hstrategy hcompile, hfile⟩
    · exact .inr ⟨fs, .uuid hstrategy huuid⟩
  | fail reason =>
    exact .inr ⟨fs, .status (exists_fail_iff.mp ⟨reason, hstrategy⟩)⟩

/-- Nothing but directories has come where no file is sent. -/
theorem Refuses.extends (h : Refuses dispatcher sources now player fs fs') : fs.Extends fs' := by
  cases h with
  | status | fixture | uuid | absent => exact .refl fs
  | @publication path _ _ _ _ _ hpublish =>
    have hleads := (@publish_leads fs dispatcher.outages now.moment path
      (dispatcher.compiler.document sources now.date player)).on
    rw [hpublish] at hleads
    exact hleads

end

section
variable {σ : Type} {dispatcher : Dispatcher} {repository : Repository σ}
  {sources : Content.Sources} {now : Calendar.Clock} {request : Request} {state : σ}
  {fs : FileSystem}

/-- A device that does not say who it is is rejected, and nothing is changed. -/
theorem dispatch_of_unidentified (h : Unidentified (Identity.ofUserAgent request.userAgent)) :
    dispatcher.dispatch repository sources now request state fs = (.rejected, state, fs) := by
  have hknown : (Identity.ofUserAgent request.userAgent).isKnown = false :=
    Bool.eq_false_iff.mpr fun hknown => isKnown_iff.mp hknown h
  simp [Dispatcher.dispatch, hknown]

/-- A device that says who it is has its player loaded and answered; failures end in the fallback.
-/
theorem dispatch_of_identified (h : ¬Unidentified (Identity.ofUserAgent request.userAgent)) :
    dispatcher.dispatch repository sources now request state fs =
      match loadPlayer repository (Identity.ofUserAgent request.userAgent) state with
      | (.works player, state) =>
        match Work.on fs (dispatcher.answer sources now request.since player) with
        | (.ok response, fs) => (response, state, fs)
        | (.error _, fs) => (.fallback, state, fs)
      | (_, state) => (.fallback, state, fs) := by
  rw [Dispatcher.dispatch, isKnown_iff.mpr h]
  rfl

/-- A player that is loaded is answered, or sent the fallback if that fails. -/
theorem dispatch_of_works {player : Player} {state' : σ}
    (h : ¬Unidentified (Identity.ofUserAgent request.userAgent))
    (hload : loadPlayer repository (Identity.ofUserAgent request.userAgent) state =
      (.works player, state')) :
    dispatcher.dispatch repository sources now request state fs =
      ((Work.on fs (dispatcher.answer sources now request.since player)).1.toOption.getD .fallback,
        state', (Work.on fs (dispatcher.answer sources now request.since player)).2) := by
  rw [dispatch_of_identified h, hload]
  dsimp only
  rcases Work.on fs (dispatcher.answer sources now request.since player) with ⟨error | response, fs'⟩
  · rfl
  · rfl

/-- A player that cannot be loaded is sent the fallback, and the files stay. -/
theorem dispatch_of_lost {reply : Reply Player} {state' : σ}
    (h : ¬Unidentified (Identity.ofUserAgent request.userAgent))
    (hload : loadPlayer repository (Identity.ofUserAgent request.userAgent) state = (reply, state'))
    (hlost : reply.IsLost) :
    dispatcher.dispatch repository sources now request state fs = (.fallback, state', fs) := by
  rw [dispatch_of_identified h, hload]
  rcases hlost with ⟨error, rfl⟩ | rfl
  · rfl
  · rfl

/-- A poll has no other ending than the one that is told of it. -/
theorem Ends.eq {after : Response × σ × FileSystem}
    (h : Ends dispatcher repository sources now request state fs after) :
    dispatcher.dispatch repository sources now request state fs = after := by
  cases h with
  | rejected h => exact dispatch_of_unidentified h
  | answered h hload hselect hfile =>
    rw [dispatch_of_works h hload.eq, hselect.on_answer, hfile]
    rfl
  | lost h hlost =>
    obtain ⟨reply, hreply, hlost⟩ := hlost.eq
    exact dispatch_of_lost h hreply hlost
  | refused h hload hrefuse =>
    obtain ⟨error, hanswer⟩ := hrefuse.on_answer request.since
    rw [dispatch_of_works h hload.eq, hanswer]
    rfl

private theorem exists_ends (dispatcher : Dispatcher) (repository : Repository σ)
    (sources : Content.Sources) (now : Calendar.Clock) (request : Request) (state : σ)
    (fs : FileSystem) :
    ∃ after, Ends dispatcher repository sources now request state fs after := by
  by_cases h : Unidentified (Identity.ofUserAgent request.userAgent)
  · exact ⟨_, .rejected h⟩
  · rcases loads_or_loses repository (Identity.ofUserAgent request.userAgent) state with
      ⟨player, state', hload⟩ | ⟨state', hlost⟩
    · rcases selects_or_refuses dispatcher sources now request.since player fs with
        ⟨path, fs', response, hselect, hfile⟩ | ⟨fs', hrefuse⟩
      · exact ⟨_, .answered h hload hselect hfile⟩
      · exact ⟨_, .refused h hload hrefuse⟩
    · exact ⟨_, .lost h hlost⟩

/-- What a poll may change of what is stored: the one call that it makes for its device. -/
inductive Notes (repository : Repository σ) (device : Device) (state : σ) : σ → Prop
  | nothing : Notes repository device state state
  | report {player : Player} (hfind : repository.find device.uuid state = .works (some player))
      (hnew : ¬IsCurrentReport device player) :
      Notes repository device state (repository.touch device state).2
  | registration (hfind : repository.find device.uuid state = .works none) :
      Notes repository device state (repository.register device state).2

private theorem Loads.notes {device : Device} {player : Player} {state' : σ}
    (h : Loads repository device state player state') : Notes repository device state state' := by
  cases h with
  | known => exact .nothing
  | noted hfind hnew htouch =>
    have hnotes := Notes.report hfind hnew
    rwa [htouch] at hnotes
  | registered hfind hregister =>
    have hnotes := Notes.registration hfind
    rwa [hregister] at hnotes

private theorem Loses.notes {device : Device} {state' : σ}
    (h : Loses repository device state state') :
    Notes repository device state state' := by
  cases h with
  | find => exact .nothing
  | touch hfind hnew htouch =>
    have hnotes := Notes.report hfind hnew
    rwa [htouch] at hnotes
  | register hfind hregister =>
    have hnotes := Notes.registration hfind
    rwa [hregister] at hnotes

private theorem status_eq_403_iff {response : Response} :
    response.status = 403 ↔ response = .rejected := by
  cases response <;> simp [Response.status]

/-- Where a file is opened the answer is one of the other two. -/
theorem ne_of_answerFrom {path : List Char} {since : Option (List Char)} {response : Response}
    (h : answerFrom fs path since = .ok response) : response ≠ .rejected ∧ response ≠ .fallback := by
  unfold answerFrom at h
  split at h
  · cases h
    unfold answerWith
    split <;> simp
  · cases h

end

section
open Store
variable {device : Device} {tables : Tables}

/-- The rows of a store after a poll: no row is lost or put elsewhere, the row of the device may
have what it reports, and a device without a row may have its first one. -/
structure RowsNoted (device : Device) (tables tables' : Tables) : Prop where
  others : tables' = { tables with players := tables'.players }
  rows : tables'.players = tables.players ∨ tables'.players = tables.players.map (note device) ∨
    tables.player? device.uuid = none ∧ tables'.players = tables.players ++
      [newPlayerRow tables.nextNumber device.uuid device.name device.firmware device.model]

private theorem rowsNoted_settle (device : Device) (found : Option Player) (tables : Tables) :
    RowsNoted device tables (settle Store.repository device found tables).2 := by
  refine ⟨?_, (settle_players device found tables).imp_right fun h => h.imp_right And.right⟩
  cases found with
  | some player =>
    by_cases h : IsCurrentReport device player
    · rw [settle_of_current h]
    · rw [settle_of_not_current h]
      rfl
  | none =>
    cases h : tables.player? device.uuid with
    | some row => rw [settle_none_of_stored h]
    | none => simp [settle, Store.repository, registerPlayer, addPlayer, h]

private theorem rowsNoted_loadPlayer (device : Device) (tables : Tables) :
    RowsNoted device tables (loadPlayer Store.repository device tables).2 := by
  have hsame : RowsNoted device tables tables := ⟨rfl, .inl rfl⟩
  unfold loadPlayer
  split
  · exact rowsNoted_settle device _ tables
  · exact hsame
  · exact hsame

end

/-- What is left in the repository when the device is told is what loading its player leaves. -/
theorem state_dispatch {σ : Type} {repository : Repository σ} {request : Request}
    (dispatcher : Dispatcher) (sources : Content.Sources) (now : Calendar.Clock) (state : σ)
    (fs : FileSystem) (h : ¬Unidentified (Identity.ofUserAgent request.userAgent)) :
    (dispatcher.dispatch repository sources now request state fs).2.1 =
      (loadPlayer repository (Identity.ofUserAgent request.userAgent) state).2 := by
  rw [dispatch_of_identified h]
  split
  · next hload =>
    rw [hload]
    split <;> rfl
  · next hload => rw [hload]

/-- What is said of the end of a poll: which answer it is, what it rests on, and what is left. -/
structure Concludes {σ : Type} (dispatcher : Dispatcher) (repository : Repository σ)
    (sources : Content.Sources) (now : Calendar.Clock) (request : Request) (state : σ)
    (fs : FileSystem) (after : Response × σ × FileSystem) : Prop where
  ends : Ends dispatcher repository sources now request state fs after
  only : ∀ other, Ends dispatcher repository sources now request state fs other → other = after
  rejected : after.1.status = 403 ↔ Unidentified (Identity.ofUserAgent request.userAgent)
  untouched : after.1.status = 403 → after.1.body = .empty ∧ after.2 = (state, fs)
  files : after.1 = .fallback → fs.Extends after.2.2
  notes : after.1 = .fallback →
    Notes repository (Identity.ofUserAgent request.userAgent) state after.2.1

private theorem concludes_dispatch {σ : Type} (dispatcher : Dispatcher) (repository : Repository σ)
    (sources : Content.Sources) (now : Calendar.Clock) (request : Request) (state : σ)
    (fs : FileSystem) :
    Concludes dispatcher repository sources now request state fs
      (dispatcher.dispatch repository sources now request state fs) := by
  obtain ⟨after, h⟩ := exists_ends dispatcher repository sources now request state fs
  rw [h.eq]
  refine ⟨h, fun other ho => ho.eq.symm.trans h.eq, ?_, ?_, ?_, ?_⟩
  · rw [status_eq_403_iff]
    cases h with
    | rejected h => exact ⟨fun _ => h, fun _ => rfl⟩
    | answered h _ _ hfile =>
      exact ⟨fun hr => absurd hr (ne_of_answerFrom hfile).1, fun hu => absurd hu h⟩
    | lost h | refused h =>
      exact ⟨fun hr => absurd hr (by simp), fun hu => absurd hu h⟩
  · rw [status_eq_403_iff]
    intro hrejected
    cases h with
    | rejected => exact ⟨rfl, rfl⟩
    | answered _ _ _ hfile => exact absurd hrejected (ne_of_answerFrom hfile).1
    | lost | refused => cases hrejected
  · intro hfallback
    cases h with
    | rejected => cases hfallback
    | answered _ _ _ hfile => exact absurd hfallback (ne_of_answerFrom hfile).2
    | lost => exact .refl fs
    | refused _ _ hrefuse => exact hrefuse.extends
  · intro hfallback
    cases h with
    | rejected => exact .nothing
    | answered _ _ _ hfile => exact absurd hfallback (ne_of_answerFrom hfile).2
    | lost _ hlost => exact hlost.notes
    | refused _ hload => exact hload.notes

private theorem rowsNoted_dispatch (dispatcher : Dispatcher) (sources : Content.Sources)
    (now : Calendar.Clock) (request : Request) (tables : Store.Tables) (fs : FileSystem) :
    RowsNoted (Identity.ofUserAgent request.userAgent) tables
      (dispatcher.dispatch Store.repository sources now request tables fs).2.1 := by
  by_cases h : Unidentified (Identity.ofUserAgent request.userAgent)
  · rw [dispatch_of_unidentified h]
    exact ⟨rfl, .inl rfl⟩
  · rw [state_dispatch dispatcher sources now tables fs h]
    exact rowsNoted_loadPlayer _ tables

/-- However calls to a repository end, every poll ends in one of four answers, and where a device is
to go on with what it has no file has changed. In a store its own row is all that may have. -/
theorem dispatch_concludes (dispatcher : Dispatcher) (sources : Content.Sources)
    (now : Calendar.Clock) (request : Request) (fs : FileSystem) :
    (∀ {σ : Type} (repository : Repository σ) (state : σ),
      Concludes dispatcher repository sources now request state fs
        (dispatcher.dispatch repository sources now request state fs)) ∧
    ∀ tables : Store.Tables, RowsNoted (Identity.ofUserAgent request.userAgent) tables
      (dispatcher.dispatch Store.repository sources now request tables fs).2.1 :=
  ⟨fun repository state => concludes_dispatch dispatcher repository sources now request state fs,
    fun tables => rowsNoted_dispatch dispatcher sources now request tables fs⟩

end Signage.Poll
