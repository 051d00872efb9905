import Signage.Content.Fragment
import Signage.Content.Playlist
import Signage.Json.Writer
import Signage.Player.Zone
import Signage.Store.Column

/-! Stored playlists. -/
namespace Signage.Store

/-- A column of a playlist in an answer. -/
def PlaylistColumn.at (column : PlaylistColumn) (index : Nat) (row : PlaylistRow) : Column :=
  ⟨index, column.label, row.get column⟩

/-- The row of a new playlist, which has no markup. -/
def newPlaylistRow (name : String) (mode : Mode) (duration : UInt64) : PlaylistRow where
  get
    | .name => .text name
    | .mode => .text mode.name
    | .duration => .integer (Number.asSigned duration)
    | .items | .prefetch | .exclusive => .text ""
    | .layout => .null

/-- The greatest identifier that is or was given. -/
def Tables.greatestId (tables : Tables) : Int :=
  (tables.playlists.map fun entry => entry.1.value.toInt).foldl max tables.lastId.value.toInt

/-- There is no identifier left. -/
def storeFull : Error := .database (.other "database or disk is full")

/-- Store a new playlist; identifiers are never given twice. -/
def createPlaylist (tables : Tables) (name : String) (mode : Mode) (duration : UInt64) :
    Except Error (Content.Playlist × Tables) :=
  match Number.int64? (tables.greatestId + 1) with
  | some next =>
    .ok (⟨⟨next⟩, name, mode, duration⟩,
      { tables with
        playlists := tables.playlists ++ [(⟨next⟩, newPlaylistRow name mode duration)]
        lastId := ⟨next⟩ })
  | none => .error storeFull

/-- Change the row of a playlist, which has to be stored. -/
def changePlaylist (tables : Tables) (id : PlaylistId) (change : PlaylistRow → PlaylistRow) :
    Except Error Tables :=
  match tables.playlist? id with
  | some _ => .ok (tables.updatePlaylist id change)
  | none => .error (.noPlaylist id)

def setContent (tables : Tables) (id : PlaylistId) (columns : Content.Columns) :
    Except Error Tables :=
  changePlaylist tables id fun row =>
    ((row.set .items (.text columns.items)).set .prefetch (.text columns.prefetch)).set .exclusive
      (.text columns.exclusive)

def setLayout (tables : Tables) (id : PlaylistId) (layout : Layout) : Except Error Tables :=
  changePlaylist tables id fun row => row.set .layout (.text layout.toJson.toText)

/-- The markup in a row. -/
def readColumns (row : PlaylistRow) : Except StorageFault Content.Columns := do
  let items ← (PlaylistColumn.items.at 0 row).text
  let prefetch ← (PlaylistColumn.prefetch.at 1 row).text
  let exclusive ← (PlaylistColumn.exclusive.at 2 row).text
  return ⟨items, prefetch, exclusive⟩

def getContent (tables : Tables) (id : PlaylistId) : Except Error (Option Content.Columns) :=
  match tables.playlist? id with
  | some row => failed ((readColumns row).map some)
  | none => .ok none

/-- The mode in a row; letter case does not matter. -/
def readMode (text : String) : Except StorageFault Mode :=
  match Mode.ofNameAnyCase? text with
  | some mode => .ok mode
  | none => .error (.other (Mode.unknownName text))

/-- The description in a row. -/
def readPlaylist (id : PlaylistId) (row : PlaylistRow) : Except StorageFault Content.Playlist := do
  let name ← (PlaylistColumn.name.at 1 row).text
  let mode ← (PlaylistColumn.mode.at 2 row).text
  let duration ← (PlaylistColumn.duration.at 3 row).integer
  let mode ← readMode mode
  return ⟨id, name, mode, Number.clampedUnsigned duration⟩

def getPlaylist (tables : Tables) (id : PlaylistId) : Except Error (Option Content.Playlist) :=
  match tables.playlist? id with
  | some row => failed ((readPlaylist id row).map some)
  | none => .ok none

def columnOf (columns : Content.Columns) : Content.Fragment → String
  | .items => columns.items
  | .prefetch => columns.prefetch
  | .exclusive => columns.exclusive

/-- One kind of markup of a playlist, which has to be stored. -/
def loadColumn (tables : Tables) (fragment : Content.Fragment) (id : PlaylistId) :
    Except Error Content.Markup := do
  match ← getContent tables id with
  | some columns => .ok (columnOf columns fragment).toList
  | none => .error (.noPlaylist id)

end Signage.Store
