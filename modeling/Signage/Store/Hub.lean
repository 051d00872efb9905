import Signage.Content.Resolve
import Signage.Poll.Repository
import Signage.Store.Players

/-! The store as what polls and compilations ask. -/
namespace Signage.Store

open Poll (Reply Repository)

/-- The reply that an answer of the store amounts to; it always comes in time. -/
def replyOf {α : Type} : Except Error α → Reply α
  | .ok a => .works a
  | .error error => .fails error

/-- The stored players as a repository. -/
def repository : Repository Tables where
  find uuid tables := replyOf (getPlayer tables uuid)
  touch device tables :=
    (.works (), touchPlayer tables device.uuid device.firmware device.model)
  register device tables :=
    let (answer, tables) :=
      registerPlayer tables device.uuid device.name device.firmware device.model
    (replyOf answer, tables)

/-- The stored markup as a source of content, beside pages hosted elsewhere. -/
def sources (tables : Tables) (page : List Char → Except Error Content.Markup) :
    Content.Sources where
  column := loadColumn tables
  page := page

end Signage.Store
