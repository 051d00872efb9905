import Signage.Player.Identifier

/-! Layouts of several zones, each playing its own playlist. -/
namespace Signage

/-- The unit in which the geometry of zones is told to devices. -/
inductive ExportUnit where
  | percent
  | pixel
  deriving DecidableEq, Repr

namespace ExportUnit

/-- The name a unit is stored and exchanged by. -/
def name : ExportUnit → String
  | percent => "percent"
  | pixel => "pixel"

def ofName? (text : String) : Option ExportUnit :=
  [percent, pixel].find? fun unit => unit.name == text

def toJson (unit : ExportUnit) : Json := .string unit.name

def ofJson? : Json → Option ExportUnit := Json.toNamed? ofName?

/-- What is written for a unit is read back. -/
theorem ofJson?_toJson (unit : ExportUnit) : ofJson? unit.toJson = some unit := by
  cases unit <;> decide

end ExportUnit

/-- One zone of a layout, in pixels. -/
structure Zone where
  name : String
  left : UInt32
  top : UInt32
  width : UInt32
  height : UInt32
  zIndex : Int32
  background : String
  playlist : PlaylistId
  deriving DecidableEq

namespace Zone

/-- The fields of a zone, in the order of the array form. -/
def fieldNames : List String :=
  ["zone_name", "zone_left", "zone_top", "zone_width", "zone_height", "zone_z_index",
    "zone_bgcolor", "zone_playlist_id"]

def toJson (zone : Zone) : Json :=
  .record (fieldNames.zip
    [.string zone.name, .integer zone.left.toNat, .integer zone.top.toNat,
      .integer zone.width.toNat, .integer zone.height.toNat, .integer zone.zIndex.toInt,
      .string zone.background, zone.playlist.toJson])

def ofJson? (json : Json) : Option Zone := do
  let [name, left, top, width, height, zIndex, background, playlist] ← json.fields? fieldNames
    | none
  return {
    name := ← Json.defaulted "" Json.toString? name
    left := ← Json.required (Json.toWord? Number.uint32?) left
    top := ← Json.required (Json.toWord? Number.uint32?) top
    width := ← Json.required (Json.toWord? Number.uint32?) width
    height := ← Json.required (Json.toWord? Number.uint32?) height
    zIndex := ← Json.defaulted 0 (Json.toWord? Number.int32?) zIndex
    background := ← Json.defaulted "transparent" Json.toString? background
    playlist := ← Json.required PlaylistId.ofJson? playlist }

end Zone

/-- A layout of zones on a screen. -/
structure Layout where
  exportUnit : ExportUnit
  screenWidth : UInt32
  screenHeight : UInt32
  zones : List Zone
  deriving DecidableEq

namespace Layout

/-- The zones with their identifiers. -/
def numbered (layout : Layout) : List (ZoneId × Zone) :=
  layout.zones.zipIdx.map fun (zone, index) => (.ofIndex index, zone)

/-- The fields of a layout, in the order of the array form. -/
def fieldNames : List String := ["export_unit", "screen_width", "screen_height", "zones"]

def toJson (layout : Layout) : Json :=
  .record (fieldNames.zip
    [layout.exportUnit.toJson, .integer layout.screenWidth.toNat,
      .integer layout.screenHeight.toNat, .array (layout.zones.map Zone.toJson)])

def ofJson? (json : Json) : Option Layout := do
  let [exportUnit, screenWidth, screenHeight, zones] ← json.fields? fieldNames | none
  return {
    exportUnit := ← Json.defaulted .percent ExportUnit.ofJson? exportUnit
    screenWidth := ← Json.required (Json.toWord? Number.uint32?) screenWidth
    screenHeight := ← Json.required (Json.toWord? Number.uint32?) screenHeight
    zones := ← Json.defaulted [] (Json.toList? Zone.ofJson?) zones }

end Layout
end Signage
