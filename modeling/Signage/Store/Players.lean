import Signage.Json.Reader
import Signage.Player.Basic
import Signage.Store.Playlists

/-! Stored players. A player is read together with the playlist it is assigned. -/
namespace Signage.Store

/-- The row of a player that was not seen before. -/
def newPlayerRow (number : Int64) (uuid name firmware : String) (model : Model) : PlayerRow where
  get
    | .number => .integer number
    | .uuid => .text uuid
    | .name => .text name
    | .firmware => .text firmware
    | .model => .text model.name
    | .status => .integer Status.unregistered.code
    | .playlist => .integer 0
    | .refresh => .integer 900
    | .commands => .text "[]"
    | .reports => .text "\x7b\x7d"
    | .screenTimes => .text "[]"
    | .width => .integer 1920
    | .height => .integer 1080

/-- A column of a player in an answer. -/
def PlayerColumn.at (column : PlayerColumn) (index : Nat) (row : PlayerRow) : Column :=
  ⟨index, column.label, row.get column⟩

/-- A column of the assigned playlist in an answer; all are empty if there is no playlist. -/
def PlaylistColumn.joinedAt (column : PlaylistColumn) (index : Nat)
    (playlist : Option PlaylistRow) : Column :=
  ⟨index, column.label, playlist.elim .null fun row => row.get column⟩

/-- What the columns of a player and its playlist hold, before texts are read as documents. -/
structure PlayerColumns where
  uuid : String
  name : String
  firmware : String
  model : String
  status : Int64
  playlist : Int64
  refresh : Int64
  commands : String
  reports : String
  screenTimes : String
  width : UInt32
  height : UInt32
  playlistName : Option String
  playlistMode : Option String
  duration : Option Int64
  layout : Option String

/-- What the columns hold; the first that holds something else is at fault. -/
def readPlayerColumns (row : PlayerRow) (playlist : Option PlaylistRow) :
    Except StorageFault PlayerColumns := do
  let uuid ← (PlayerColumn.uuid.at 0 row).text
  let name ← (PlayerColumn.name.at 1 row).text
  let firmware ← (PlayerColumn.firmware.at 2 row).text
  let model ← (PlayerColumn.model.at 3 row).text
  let status ← (PlayerColumn.status.at 4 row).integer
  let id ← (PlayerColumn.playlist.at 5 row).integer
  let refresh ← (PlayerColumn.refresh.at 6 row).integer
  let commands ← (PlayerColumn.commands.at 7 row).text
  let reports ← (PlayerColumn.reports.at 8 row).text
  let screenTimes ← (PlayerColumn.screenTimes.at 9 row).text
  let width ← (PlayerColumn.width.at 10 row).word
  let height ← (PlayerColumn.height.at 11 row).word
  let playlistName ← (PlaylistColumn.name.joinedAt 12 playlist).optional Column.text
  let playlistMode ← (PlaylistColumn.mode.joinedAt 13 playlist).optional Column.text
  let duration ← (PlaylistColumn.duration.joinedAt 14 playlist).optional Column.integer
  let layout ← (PlaylistColumn.layout.joinedAt 15 playlist).optional Column.text
  return { uuid, name, firmware, model, status, playlist := id, refresh, commands, reports,
           screenTimes, width, height, playlistName, playlistMode, duration, layout }

/-- The document in a column of a player. -/
def readDocument {α : Type} (decode : Json → Option α) (column uuid text : String) :
    Except StorageFault α :=
  match (Json.ofText? text).bind decode with
  | some a => .ok a
  | none => .error (.malformed column uuid)

/-- The layout in a column that may be empty or hold an empty text. -/
def readLayout (uuid : String) : Option String → Except StorageFault (Option Layout)
  | none => .ok none
  | some text =>
    if text = "" then .ok none
    else (readDocument Layout.ofJson? "multizone" uuid text).map some

/-- The player in the columns; the first document at fault is reported. -/
def PlayerColumns.player (columns : PlayerColumns) : Except StorageFault Player := do
  let uuid := columns.uuid
  let commands ← readDocument (Json.toList? Json.toString?) "commands" uuid columns.commands
  let reports ← readDocument Reports.ofJson? "reports" uuid columns.reports
  let screenTimes ←
    readDocument (Json.toList? ScreenDay.ofJson?) "screen_times" uuid columns.screenTimes
  let zones ← readLayout uuid columns.layout
  let mode ← columns.playlistMode.elim (.ok .master) readMode
  return {
    uuid := uuid
    name := columns.name
    firmware := columns.firmware
    model := (Model.ofName? columns.model).getD .unknown
    status := .ofCode columns.status
    playlistId := ⟨columns.playlist⟩
    playlistName := columns.playlistName.getD ""
    mode := mode
    zones := zones
    duration := Number.clampedUnsigned (columns.duration.getD 0)
    refresh := Number.clampedUnsigned columns.refresh
    commands := commands
    reports := reports
    screenTimes := screenTimes
    canvas := ⟨columns.width, columns.height⟩ }

/-- The row of the playlist that a row of a player is assigned. -/
def Tables.assigned? (tables : Tables) (row : PlayerRow) : Option PlaylistRow :=
  match row.get .playlist with
  | .integer id => tables.playlist? ⟨id⟩
  | _ => none

def readPlayer (tables : Tables) (row : PlayerRow) : Except StorageFault Player := do
  let columns ← readPlayerColumns row (tables.assigned? row)
  columns.player

/-- The player of a uuid, if it is stored. -/
def getPlayer (tables : Tables) (uuid : String) : Except Error (Option Player) :=
  match tables.player? uuid with
  | some row => failed ((readPlayer tables row).map some)
  | none => .ok none

def Tables.numbers (tables : Tables) : List Int64 :=
  tables.players.filterMap fun row => (row.get .number).integer?

/-- The number for a new row: the one after the greatest in use, and after the last number of all
the least positive one that is free. -/
def Tables.nextNumber (tables : Tables) : Int64 :=
  match tables.numbers with
  | [] => 1
  | number :: numbers =>
    let greatest := numbers.foldl max number
    if greatest = Int64.maxValue then
      let candidates := (List.range (numbers.length + 2)).map fun n => Int64.ofNat (n + 1)
      (candidates.find? fun n => !tables.numbers.contains n).getD 1
    else greatest + 1

/-- The tables with a player that was not seen before; one that was seen stays as it is. -/
def addPlayer (tables : Tables) (uuid name firmware : String) (model : Model) : Tables :=
  match tables.player? uuid with
  | some _ => tables
  | none =>
    let row := newPlayerRow tables.nextNumber uuid name firmware model
    { tables with players := tables.players ++ [row] }

/-- Store a player unless it is stored, and tell what is stored. -/
def registerPlayer (tables : Tables) (uuid name firmware : String) (model : Model) :
    Except Error Player × Tables :=
  let tables := addPlayer tables uuid name firmware model
  let answer := match getPlayer tables uuid with
    | .ok (some player) => .ok player
    | .ok none => .error (.noPlayer uuid)
    | .error error => .error error
  (answer, tables)

/-- Note what a device reports; nothing happens if it is not stored. -/
def touchPlayer (tables : Tables) (uuid firmware : String) (model : Model) : Tables :=
  tables.updatePlayer uuid fun row =>
    (row.set .firmware (.text firmware)).set .model (.text model.name)

/-- Change one column of a player, which has to be stored. -/
def setColumn (column : PlayerColumn) (cell : Cell) (tables : Tables) (uuid : String) :
    Except Error Tables :=
  match tables.player? uuid with
  | some _ => .ok (tables.updatePlayer uuid fun row => row.set column cell)
  | none => .error (.noPlayer uuid)

def setStatus (status : Status) := setColumn .status (.integer status.code)

def assignPlaylist (id : PlaylistId) := setColumn .playlist (.integer id.value)

def setRefresh (refresh : UInt64) := setColumn .refresh (.integer (Number.asSigned refresh))

def setCommands (commands : List String) :=
  setColumn .commands (.text (Json.strings commands).toText)

def setReports (reports : Reports) := setColumn .reports (.text reports.toJson.toText)

def setScreenTimes (days : List ScreenDay) :=
  setColumn .screenTimes (.text (Json.array (days.map ScreenDay.toJson)).toText)

end Signage.Store
