import Mathlib.Logic.Function.Basic
import Signage.Proofs.Store.Administration

/-!
The store as it is meant: what is remembered of playlists and players, each under its identifier, and
what a request answers and changes. A request looks at nothing but the records that it names, and
changes one of them at most.
-/
namespace Signage.Store

/-- What is remembered of a playlist. -/
structure PlaylistEntry where
  name : String
  mode : Mode
  duration : UInt64
  columns : Content.Columns
  layout : Option Layout

/-- What is remembered of a player. -/
structure PlayerEntry where
  name : String
  firmware : String
  model : Model
  status : Status
  playlist : PlaylistId
  refresh : UInt64
  commands : List String
  reports : Reports
  screenTimes : List ScreenDay

/-- What is remembered of a playlist that was just created. -/
def PlaylistEntry.created (name : String) (mode : Mode) (duration : UInt64) : PlaylistEntry :=
  ⟨name, mode, duration, ⟨"", "", ""⟩, none⟩

/-- What is remembered of a player that was just registered. -/
def PlayerEntry.registered (name firmware : String) (model : Model) : PlayerEntry :=
  ⟨name, firmware, model, .unregistered, .none, 900, [], .none, []⟩

def PlayerEntry.given (entry : PlayerEntry) : Setting → PlayerEntry
  | .status status => { entry with status }
  | .playlist playlist => { entry with playlist }
  | .refresh refresh => { entry with refresh }
  | .commands commands => { entry with commands }
  | .reports reports => { entry with reports }
  | .screenTimes screenTimes => { entry with screenTimes }

/-- All that is remembered. -/
structure Registry where
  /-- The number of the playlist created last, which is that of all created; zero before the first. -/
  count : Int
  playlists : PlaylistId → Option PlaylistEntry
  players : String → Option PlayerEntry

/-- A number of seconds as it is given back: those that the store has no sign bit for are lost. -/
def recalled (seconds : UInt64) : UInt64 := if seconds.toNat < Nat.pow 2 63 then seconds else 0

namespace Registry

def empty : Registry := ⟨0, fun _ => none, fun _ => none⟩

/-- The player of an entry. What belongs to the playlist is that of the playlist that is assigned
now; if there is none, it is assumed. -/
def playerOf (registry : Registry) (uuid : String) (entry : PlayerEntry) : Player :=
  let playlist := registry.playlists entry.playlist
  { uuid := uuid
    name := entry.name
    firmware := entry.firmware
    model := entry.model
    status := .ofCode entry.status.code
    playlistId := entry.playlist
    playlistName := (playlist.map PlaylistEntry.name).getD ""
    mode := (playlist.map PlaylistEntry.mode).getD .master
    zones := playlist.bind PlaylistEntry.layout
    duration := recalled ((playlist.map PlaylistEntry.duration).getD 0)
    refresh := recalled entry.refresh
    commands := entry.commands
    reports := entry.reports
    screenTimes := entry.screenTimes
    canvas := .assumed }

def player? (registry : Registry) (uuid : String) : Option Player :=
  (registry.players uuid).map (registry.playerOf uuid)

def playlist? (registry : Registry) (id : PlaylistId) : Option Content.Playlist :=
  (registry.playlists id).map fun entry => ⟨id, entry.name, entry.mode, recalled entry.duration⟩

def content? (registry : Registry) (id : PlaylistId) : Option Content.Columns :=
  (registry.playlists id).map PlaylistEntry.columns

def putPlaylist (registry : Registry) (id : PlaylistId) (entry : PlaylistEntry) : Registry :=
  { registry with playlists := Function.update registry.playlists id (some entry) }

def putPlayer (registry : Registry) (uuid : String) (entry : PlayerEntry) : Registry :=
  { registry with players := Function.update registry.players uuid (some entry) }

/-- What is remembered of one playlist leaves the others. -/
theorem playlists_putPlaylist (registry : Registry) (id other : PlaylistId) (entry : PlaylistEntry) :
    (registry.putPlaylist id entry).playlists other =
      if other = id then some entry else registry.playlists other :=
  Function.update_apply registry.playlists id (some entry) other

/-- What is remembered of one player leaves the others. -/
theorem players_putPlayer (registry : Registry) (uuid other : String) (entry : PlayerEntry) :
    (registry.putPlayer uuid entry).players other =
      if other = uuid then some entry else registry.players other :=
  Function.update_apply registry.players uuid (some entry) other

/-- To remember what is remembered already changes nothing. -/
theorem putPlayer_eq_self {registry : Registry} {uuid : String} {entry : PlayerEntry}
    (h : registry.players uuid = some entry) : registry.putPlayer uuid entry = registry := by
  rw [putPlayer, ← h, Function.update_eq_self]

end Registry

/-- What can be asked of the store. -/
inductive Request where
  | create (name : String) (mode : Mode) (duration : UInt64)
  | setContent (id : PlaylistId) (columns : Content.Columns)
  | setLayout (id : PlaylistId) (layout : Layout)
  | register (uuid name firmware : String) (model : Model)
  | touch (uuid firmware : String) (model : Model)
  | give (uuid : String) (setting : Setting)

/-- What the store answers when all went well. -/
inductive Answer where
  | done
  | playlist (playlist : Content.Playlist)
  | player (player : Player)

namespace Registry

/-- Playlists are numbered from one on, for as long as there are numbers. -/
def create (registry : Registry) (name : String) (mode : Mode) (duration : UInt64) :
    Except Error Answer × Registry :=
  match Number.int64? (registry.count + 1) with
  | some number =>
    (.ok (.playlist ⟨⟨number⟩, name, mode, duration⟩),
      { registry.putPlaylist ⟨number⟩ (.created name mode duration) with count := registry.count + 1 })
  | none => (.error storeFull, registry)

/-- Change what is remembered of a playlist, which has to be something. -/
def changePlaylist (registry : Registry) (id : PlaylistId) (change : PlaylistEntry → PlaylistEntry) :
    Except Error Answer × Registry :=
  match registry.playlists id with
  | some entry => (.ok .done, registry.putPlaylist id (change entry))
  | none => (.error (.noPlaylist id), registry)

/-- The first registration counts, and every one tells what is remembered. -/
def register (registry : Registry) (uuid name firmware : String) (model : Model) :
    Except Error Answer × Registry :=
  let entry := (registry.players uuid).getD (.registered name firmware model)
  (.ok (.player (registry.playerOf uuid entry)), registry.putPlayer uuid entry)

def touch (registry : Registry) (uuid firmware : String) (model : Model) :
    Except Error Answer × Registry :=
  match registry.players uuid with
  | some entry => (.ok .done, registry.putPlayer uuid { entry with firmware, model })
  | none => (.ok .done, registry)

def give (registry : Registry) (uuid : String) (setting : Setting) : Except Error Answer × Registry :=
  match registry.players uuid with
  | some entry => (.ok .done, registry.putPlayer uuid (entry.given setting))
  | none => (.error (.noPlayer uuid), registry)

end Registry

namespace Request

/-- The tables after a change, which stay as they are if it fails. -/
def settled (tables : Tables) : Except Error Tables → Except Error Answer × Tables
  | .ok changed => (.ok .done, changed)
  | .error error => (.error error, tables)

/-- What the store answers, and the tables after it. -/
def perform (tables : Tables) : Request → Except Error Answer × Tables
  | .create name mode duration =>
    match createPlaylist tables name mode duration with
    | .ok (playlist, changed) => (.ok (.playlist playlist), changed)
    | .error error => (.error error, tables)
  | .setContent id columns => settled tables (Store.setContent tables id columns)
  | .setLayout id layout => settled tables (Store.setLayout tables id layout)
  | .register uuid name firmware model =>
    let (answer, changed) := registerPlayer tables uuid name firmware model
    (answer.map .player, changed)
  | .touch uuid firmware model => (.ok .done, touchPlayer tables uuid firmware model)
  | .give uuid setting => settled tables (setting.give tables uuid)

/-- What a request is meant to answer, and the registry after it. -/
def meant (registry : Registry) : Request → Except Error Answer × Registry
  | .create name mode duration => registry.create name mode duration
  | .setContent id columns => registry.changePlaylist id fun entry => { entry with columns }
  | .setLayout id layout => registry.changePlaylist id fun entry => { entry with layout := some layout }
  | .register uuid name firmware model => registry.register uuid name firmware model
  | .touch uuid firmware model => registry.touch uuid firmware model
  | .give uuid setting => registry.give uuid setting

/-- The answers to requests made one after the other, and the state after all of them. -/
def run {σ : Type} (step : σ → Request → Except Error Answer × σ) :
    σ → List Request → List (Except Error Answer) × σ
  | state, [] => ([], state)
  | state, request :: requests =>
    let (answer, state) := step state request
    let (answers, state) := run step state requests
    (answer :: answers, state)

end Request
end Signage.Store
