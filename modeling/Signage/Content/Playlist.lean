import Signage.Json.Decode
import Signage.Player.Mode
import Signage.Player.Identifier

/-! Playlists as they are stored: what describes them, and their markup. -/
namespace Signage.Content

/-- The description of a playlist. -/
structure Playlist where
  id : PlaylistId
  name : String
  mode : Mode
  /-- The playing time in seconds. -/
  duration : UInt64
  deriving DecidableEq

namespace Playlist

/-- The fields of a description, in the order of the array form. -/
def fieldNames : List String := ["id", "name", "mode", "duration"]

def toJson (playlist : Playlist) : Json :=
  .record (fieldNames.zip
    [playlist.id.toJson, .string playlist.name, playlist.mode.toJson,
      .integer playlist.duration.toNat])

def ofJson? (json : Json) : Option Playlist := do
  let [id, name, mode, duration] ← json.fields? fieldNames | none
  return {
    id := ← Json.required PlaylistId.ofJson? id
    name := ← Json.required Json.toString? name
    mode := ← Json.required Mode.ofJson? mode
    duration := ← Json.required (Json.toWord? Number.uint64?) duration }

end Playlist

/-- The stored markup of a playlist, a column for each kind of fragment. -/
structure Columns where
  items : String
  prefetch : String
  exclusive : String
  deriving DecidableEq

namespace Columns

/-- The columns, in the order of the array form. -/
def fieldNames : List String := ["items", "prefetch", "exclusive"]

def toJson (columns : Columns) : Json :=
  .record (fieldNames.zip
    [.string columns.items, .string columns.prefetch, .string columns.exclusive])

def ofJson? (json : Json) : Option Columns := do
  let [items, prefetch, exclusive] ← json.fields? fieldNames | none
  return {
    items := ← Json.required Json.toString? items
    prefetch := ← Json.required Json.toString? prefetch
    exclusive := ← Json.required Json.toString? exclusive }

end Columns
end Signage.Content
