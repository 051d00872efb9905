import Signage.Player.Identifier
import Signage.Store.Affinity

/-! The tables of the store. -/
namespace Signage.Store

/-- A row: a value for each column. -/
@[ext] structure Record (κ : Type) where
  get : κ → Cell

/-- The row with another value in one column. -/
def Record.set {κ : Type} [DecidableEq κ] (row : Record κ) (column : κ) (cell : Cell) : Record κ :=
  ⟨fun other => if other = column then cell else row.get other⟩

/-- A cell that has been set is read back. -/
@[simp] theorem Record.get_set_same {κ : Type} [DecidableEq κ] (row : Record κ) (column : κ)
    (cell : Cell) : (row.set column cell).get column = cell := by simp [Record.set]

/-- Setting a cell leaves those of the other columns. -/
@[simp] theorem Record.get_set_of_ne {κ : Type} [DecidableEq κ] (row : Record κ)
    {column other : κ} (cell : Cell) (h : other ≠ column) :
    (row.set column cell).get other = row.get other := by
  simp [Record.set, h]

/-- A row stays as it is when a column is given the value it has. -/
@[simp] theorem Record.set_get {κ : Type} [DecidableEq κ] (row : Record κ) (column : κ) :
    row.set column (row.get column) = row := by
  ext other
  by_cases h : other = column <;> simp [Record.set, h]

/-- The columns of a player that matter. -/
inductive PlayerColumn where
  /-- The number of the row, by which rows are told apart; it is never read. -/
  | number
  | uuid
  | name
  | firmware
  | model
  | status
  | playlist
  | refresh
  | commands
  | reports
  | screenTimes
  | width
  | height
  deriving DecidableEq, Repr

namespace PlayerColumn

def all : List PlayerColumn :=
  [number, uuid, name, firmware, model, status, playlist, refresh, commands, reports, screenTimes,
    width, height]

def label : PlayerColumn → String
  | number => "rowid"
  | uuid => "uuid"
  | name => "player_name"
  | firmware => "firmware"
  | model => "model"
  | status => "status"
  | playlist => "playlist_id"
  | refresh => "refresh"
  | commands => "commands"
  | reports => "reports"
  | screenTimes => "screen_times"
  | width => "width"
  | height => "height"

def affinity : PlayerColumn → Affinity
  | number | status | playlist | refresh | width | height => .integer
  | _ => .text

end PlayerColumn

/-- The columns of a playlist that are ever read, besides its identifier. -/
inductive PlaylistColumn where
  | name
  | mode
  | duration
  | items
  | prefetch
  | exclusive
  | layout
  deriving DecidableEq, Repr

namespace PlaylistColumn

def all : List PlaylistColumn := [name, mode, duration, items, prefetch, exclusive, layout]

def label : PlaylistColumn → String
  | name => "playlist_name"
  | mode => "playlist_mode"
  | duration => "duration"
  | items => "items"
  | prefetch => "prefetch"
  | exclusive => "exclusive"
  | layout => "multizone"

def affinity : PlaylistColumn → Affinity
  | duration => .integer
  | _ => .text

/-- Whether a column may be left empty. -/
def isNullable : PlaylistColumn → Bool
  | layout => true
  | _ => false

end PlaylistColumn

abbrev PlayerRow := Record PlayerColumn

abbrev PlaylistRow := Record PlaylistColumn

/-- Everything that is stored. -/
structure Tables where
  players : List PlayerRow
  playlists : List (PlaylistId × PlaylistRow)
  /-- The identifier given to a playlist last. -/
  lastId : PlaylistId

namespace Tables

def empty : Tables := ⟨[], [], .none⟩

def isPlayer (uuid : String) (row : PlayerRow) : Bool := row.get .uuid == .text uuid

def player? (tables : Tables) (uuid : String) : Option PlayerRow :=
  tables.players.find? (isPlayer uuid)

def playlist? (tables : Tables) (id : PlaylistId) : Option PlaylistRow := tables.playlists.lookup id

def updatePlayer (tables : Tables) (uuid : String) (change : PlayerRow → PlayerRow) : Tables :=
  { tables with
    players := tables.players.map fun row => if isPlayer uuid row then change row else row }

def updatePlaylist (tables : Tables) (id : PlaylistId) (change : PlaylistRow → PlaylistRow) :
    Tables :=
  { tables with
    playlists := tables.playlists.map fun entry =>
      if entry.1 = id then (id, change entry.2) else entry }

end Tables
end Signage.Store
