import Signage.Player.Basic
import Signage.Section.Escape
import Signage.Section.Percentage
import Signage.Section.Row

/-! The regions of the screen: one that fills it, or one for each zone. -/
namespace Signage.Section

/-- The place of a region, in the texts that are told to devices. -/
structure Geometry where
  left : List Char
  top : List Char
  width : List Char
  height : List Char

namespace Geometry

def full : Geometry := ⟨['0'], ['0'], ['1', '0', '0', '%'], ['1', '0', '0', '%']⟩

/-- The place of a zone in pixels. -/
def inPixels (zone : Zone) : Geometry :=
  ⟨Text.numeral zone.left.toNat, Text.numeral zone.top.toNat, Text.numeral zone.width.toNat,
    Text.numeral zone.height.toNat⟩

/-- The place of a zone in shares of the screen. -/
def inPercent (layout : Layout) (zone : Zone) : Geometry :=
  ⟨percentage zone.left layout.screenWidth, percentage zone.top layout.screenHeight,
    percentage zone.width layout.screenWidth, percentage zone.height layout.screenHeight⟩

/-- The place of a zone in the unit of its layout. -/
def ofZone (layout : Layout) (zone : Zone) : Geometry :=
  match layout.exportUnit with
  | .pixel => inPixels zone
  | .percent => inPercent layout zone

end Geometry

/-- The name that every region begins with. -/
def screenName : List Char := ['s', 'c', 'r', 'e', 'e', 'n']

def regionRow (canvas : Canvas) (name : List Char) (place : Geometry) (zIndex : Int32)
    (background : String) : Row :=
  [("root_width", Text.numeral canvas.width.toNat),
    ("root_height", Text.numeral canvas.height.toNat), ("region_name", name),
    ("left", place.left), ("top", place.top), ("width", place.width), ("height", place.height),
    ("z_index", Text.integerNumeral zIndex.toInt),
    ("background_color", escape background.toList)]

/-- The row of a zone; the number of the zone tells its region apart. -/
def zoneRow (canvas : Canvas) (layout : Layout) (id : ZoneId) (zone : Zone) : Row :=
  regionRow canvas (screenName ++ id.numeral) (.ofZone layout zone) zone.zIndex zone.background

/-- The row of the region that fills the screen. -/
def fullScreenRow (canvas : Canvas) : Row := regionRow canvas screenName .full 0 "transparent"

/-- The rows of the section: only a multizone player that has zones gets more than one region. -/
def layoutRows (player : Player) : List Row :=
  match player.zones with
  | some layout =>
    if player.isMultizone && !layout.zones.isEmpty then
      layout.numbered.map fun (id, zone) => zoneRow player.canvas layout id zone
    else [fullScreenRow player.canvas]
  | none => [fullScreenRow player.canvas]

end Signage.Section
