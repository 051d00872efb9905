import Signage.Json.Decode
import Signage.Text.Numeral

/-! Identifiers: playlists by the number they are stored under, zones by their place. -/
namespace Signage

/-- Identifier of a stored playlist. -/
structure PlaylistId where
  value : Int64
  deriving DecidableEq

namespace PlaylistId

def none : PlaylistId := ⟨0⟩

/-- Whether the identifier can belong to a playlist. -/
def isAssigned (id : PlaylistId) : Bool := 0 < id.value

def numeral (id : PlaylistId) : List Char := Text.integerNumeral id.value.toInt

def text (id : PlaylistId) : String := .ofList id.numeral

def toJson (id : PlaylistId) : Json := .integer id.value.toInt

def ofJson? (json : Json) : Option PlaylistId := (json.toWord? Number.int64?).map PlaylistId.mk

/-- What is written for an identifier is read back. -/
theorem ofJson?_toJson (id : PlaylistId) : ofJson? id.toJson = some id := by
  simp [ofJson?, toJson, Json.toWord?, Json.toInt?, Number.int64?_toInt]

end PlaylistId

/-- Identifier of a zone within its layout. -/
structure ZoneId where
  value : UInt32
  deriving DecidableEq

namespace ZoneId

/-- The identifier of the zone at the given place, counted from zero; identifiers count from one
and start over after 2^32 places. -/
def ofIndex (index : Nat) : ZoneId := ⟨.ofNat index + 1⟩

def numeral (id : ZoneId) : List Char := Text.numeral id.value.toNat

def toJson (id : ZoneId) : Json := .integer id.value.toNat

def ofJson? (json : Json) : Option ZoneId := (json.toWord? Number.uint32?).map ZoneId.mk

end ZoneId
end Signage
