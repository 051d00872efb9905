import Signage.Player.Mode
import Signage.Player.Model
import Signage.Player.Schedule
import Signage.Player.Status
import Signage.Player.Zone

/-! Player devices and what they are to play. -/
namespace Signage

/-- The size of a device's screen in pixels. -/
structure Canvas where
  width : UInt32
  height : UInt32
  deriving DecidableEq

namespace Canvas

/-- The size assumed of a device that has told none. -/
def assumed : Canvas := ⟨1920, 1080⟩

/-- The fields of a canvas, in the order of the array form. -/
def fieldNames : List String := ["width", "height"]

def toJson (canvas : Canvas) : Json :=
  .record (fieldNames.zip [.integer canvas.width.toNat, .integer canvas.height.toNat])

def ofJson? (json : Json) : Option Canvas := do
  let [width, height] ← json.fields? fieldNames | none
  return {
    width := ← Json.required (Json.toWord? Number.uint32?) width
    height := ← Json.required (Json.toWord? Number.uint32?) height }

end Canvas

/-- The reports a device is asked to push. -/
structure Reports where
  inventory : Bool
  playedDurations : Bool
  eventLogs : Bool
  configuration : Bool
  executions : Bool
  deriving DecidableEq

namespace Reports

def none : Reports := ⟨false, false, false, false, false⟩

/-- The flags, in the order of the array form. -/
def fieldNames : List String :=
  ["inventory", "played_durations", "event_logs", "configuration", "executions"]

def toJson (reports : Reports) : Json :=
  .record (fieldNames.zip
    [.boolean reports.inventory, .boolean reports.playedDurations, .boolean reports.eventLogs,
      .boolean reports.configuration, .boolean reports.executions])

def ofJson? (json : Json) : Option Reports := do
  let [inventory, playedDurations, eventLogs, configuration, executions] ←
    json.fields? fieldNames | Option.none
  return {
    inventory := ← Json.defaulted false Json.toBool? inventory
    playedDurations := ← Json.defaulted false Json.toBool? playedDurations
    eventLogs := ← Json.defaulted false Json.toBool? eventLogs
    configuration := ← Json.defaulted false Json.toBool? configuration
    executions := ← Json.defaulted false Json.toBool? executions }

end Reports

/-- A device and its assignment. -/
structure Player where
  uuid : String
  name : String
  firmware : String
  model : Model
  status : Status
  playlistId : PlaylistId
  playlistName : String
  mode : Mode
  zones : Option Layout
  /-- How long the playlist plays, in seconds. -/
  duration : UInt64
  /-- How often the device polls, in seconds. -/
  refresh : UInt64
  /-- Remote tasks that wait for the device. -/
  commands : List String
  reports : Reports
  screenTimes : List ScreenDay
  canvas : Canvas
  deriving DecidableEq

namespace Player

/-- A device that was never seen before and belongs to nobody. -/
def unregistered (uuid name firmware : String) (model : Model) : Player where
  uuid := uuid
  name := name
  firmware := firmware
  model := model
  status := .unregistered
  playlistId := .none
  playlistName := ""
  mode := .master
  zones := none
  duration := 0
  refresh := 900
  commands := []
  reports := .none
  screenTimes := []
  canvas := .assumed

def blank : Player := unregistered "" "" "" .unknown

/-- Whether the playlist is composed from several zones. -/
def isMultizone (player : Player) : Bool := player.mode == .multizone

/-- The fields of a player, in the order of the array form. -/
def fieldNames : List String :=
  ["uuid", "name", "firmware", "model", "status", "playlist_id", "playlist_name",
    "playlist_mode", "zones", "duration", "refresh", "commands", "reports", "screen_times",
    "properties"]

def toJson (player : Player) : Json :=
  .record (fieldNames.zip
    [.string player.uuid, .string player.name, .string player.firmware, player.model.toJson,
      player.status.toJson, player.playlistId.toJson, .string player.playlistName,
      player.mode.toJson, player.zones.elim .null Layout.toJson,
      .integer player.duration.toNat, .integer player.refresh.toNat, .strings player.commands,
      player.reports.toJson, .array (player.screenTimes.map ScreenDay.toJson),
      player.canvas.toJson])

def ofJson? (json : Json) : Option Player := do
  let [uuid, name, firmware, model, status, playlistId, playlistName, mode, zones, duration,
      refresh, commands, reports, screenTimes, canvas] ← json.fields? fieldNames | none
  return {
    uuid := ← Json.required Json.toString? uuid
    name := ← Json.required Json.toString? name
    firmware := ← Json.required Json.toString? firmware
    model := ← Json.required Model.ofJson? model
    status := ← Json.required Status.ofJson? status
    playlistId := ← Json.required PlaylistId.ofJson? playlistId
    playlistName := ← Json.required Json.toString? playlistName
    mode := ← Json.required Mode.ofJson? mode
    zones := ← Json.nullable Layout.ofJson? zones
    duration := ← Json.required (Json.toWord? Number.uint64?) duration
    refresh := ← Json.required (Json.toWord? Number.uint64?) refresh
    commands := ← Json.required (Json.toList? Json.toString?) commands
    reports := ← Json.required Reports.ofJson? reports
    screenTimes := ← Json.required (Json.toList? ScreenDay.ofJson?) screenTimes
    canvas := ← Json.required Canvas.ofJson? canvas }

end Player
end Signage
