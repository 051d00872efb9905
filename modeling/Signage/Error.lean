import Signage.Player.Identifier
import Signage.Store.Cell

/-! What can go wrong, by cause, and the wording of it. -/
namespace Signage

/-- Why a stored row cannot be read. -/
inductive StorageFault where
  /-- The value in a column is of a class the column is not read as. -/
  | columnType (found : Store.StorageClass) (index : Nat) (column : String)
  /-- The bytes of the text in a column spell none. -/
  | undecodable (flaw : Text.Flaw) (index : Nat)
  /-- The number in a column does not fit the field it is read into. -/
  | outOfRange (value : Int64) (index : Nat)
  /-- The text in a column is not a document of the expected form. -/
  | malformed (column uuid : String)
  /-- Any other fault, in words. -/
  | other (detail : String)
  deriving DecidableEq, Repr

def StorageFault.message : StorageFault → String
  | columnType found index column =>
    s!"Invalid column type {found.name} at index: {index}, name: {column}"
  | undecodable flaw index =>
    s!"Conversion error from type {Store.StorageClass.text.name} at index: {index}, {flaw.message}"
  | outOfRange value index => s!"Integer {value.toInt} out of range at index {index}"
  | malformed column uuid => s!"malformed {column} for player {uuid}: not of the expected form"
  | other detail => detail

/-- The failures of the signage hub. -/
inductive Error where
  | notFound (what : String)
  | database (fault : StorageFault)
  | io (detail : String)
  | invalidInput (detail : String)
  /-- A playlist contains itself, directly or through others. -/
  | cycle (playlist : PlaylistId)
  | limitExceeded (detail : String)
  /-- A page hosted elsewhere could not be fetched. -/
  | external (detail : String)
  | render (detail : String)
  /-- Nothing was generated, and there is nothing to fall back to. -/
  | noIndex (path : String)
  /-- The status of the player forbids an answer. -/
  | status (reason : String)
  | internal (detail : String)

namespace Error

def message : Error → String
  | notFound what => s!"Not found: {what}"
  | database fault => s!"Database error: {fault.message}"
  | io detail => s!"IO error: {detail}"
  | invalidInput detail => s!"Invalid input: {detail}"
  | cycle playlist => s!"Playlist cycle detected at playlist {playlist.text}"
  | limitExceeded detail => s!"Limit exceeded: {detail}"
  | external detail => s!"External content error: {detail}"
  | render detail => s!"Render error: {detail}"
  | noIndex path => s!"index generation failed and no previous index exists: {path}"
  | status reason => s!"Status error: {reason}"
  | internal detail => s!"Internal error: {detail}"

def noPlayer (uuid : String) : Error := notFound s!"player {uuid}"

def noPlaylist (id : PlaylistId) : Error := notFound s!"playlist {id.text}"

end Error
end Signage
