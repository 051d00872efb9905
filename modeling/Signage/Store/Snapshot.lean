import Signage.Files.Work
import Signage.Json.Decode
import Signage.Json.Reader
import Signage.Json.Writer
import Signage.Store.Tables

/-! The store as it lies in a file. An empty file is an empty store. -/
namespace Signage.Store

/-- Values that no column is read as are written as the name of their class in brackets, those of
texts with their bytes. -/
def Cell.toJson : Cell → Json
  | null => .null
  | integer n => .integer n.toInt
  | text s => .string s
  | garbled ⟨bytes, _⟩ =>
    .array [.string StorageClass.text.name, .array (bytes.map fun b => .integer b.toNat)]
  | real => .array [.string StorageClass.real.name]
  | blob => .array [.string StorageClass.blob.name]

def Cell.ofJson? : Json → Option Cell
  | .null => some null
  | .integer n => (Number.int64? n).map integer
  | .string s => some (text s)
  | .array [.string name] =>
    if name = StorageClass.real.name then some real
    else if name = StorageClass.blob.name then some blob
    else none
  | .array [.string name, bytes] => do
    let bytes ← bytes.toList? (Json.toWord? Number.uint8?)
    if h : name = StorageClass.text.name ∧ (Text.flaw? bytes).isSome then
      some (garbled ⟨bytes, h.2⟩)
    else none
  | _ => none

/-- A row as the list of its values. -/
def rowToJson {κ : Type} (columns : List κ) (row : Record κ) : Json :=
  .array (columns.map fun column => (row.get column).toJson)

/-- The row with the listed values; columns beyond the list are empty. -/
def rowOfJson? {κ : Type} [DecidableEq κ] (columns : List κ) (json : Json) :
    Option (Record κ) := do
  let cells ← json.toList? Cell.ofJson?
  if cells.length ≠ columns.length then none
  let values := columns.zip cells
  return ⟨fun column => (values.lookup column).getD .null⟩

/-- A playlist with its identifier. -/
def playlistOfJson? : Json → Option (PlaylistId × PlaylistRow)
  | .array [id, row] => do
    return (← PlaylistId.ofJson? id, ← rowOfJson? PlaylistColumn.all row)
  | _ => none

/-- The parts of a store. -/
def snapshotNames : List String := ["last_id", "playlists", "players"]

def Tables.toJson (tables : Tables) : Json :=
  .record (snapshotNames.zip
    [tables.lastId.toJson,
      .array (tables.playlists.map fun (id, row) =>
        .array [id.toJson, rowToJson PlaylistColumn.all row]),
      .array (tables.players.map (rowToJson PlayerColumn.all))])

def Tables.ofJson? (json : Json) : Option Tables := do
  let [lastId, playlists, players] ← json.fields? snapshotNames | none
  return {
    lastId := ← Json.required PlaylistId.ofJson? lastId
    playlists := ← Json.required (Json.toList? playlistOfJson?) playlists
    players := ← Json.required (Json.toList? (rowOfJson? PlayerColumn.all)) players }

/-- The bytes of a file that holds the tables. -/
def Tables.toBytes (tables : Tables) : ByteArray := tables.toJson.toText.toUTF8

/-- The tables that a file holds. -/
def Tables.ofBytes? (bytes : ByteArray) : Option Tables := do
  if bytes.isEmpty then return .empty
  Tables.ofJson? (← Json.ofText? (← String.fromUTF8? bytes))

end Signage.Store
