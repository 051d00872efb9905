import Signage.Index.Publication
import Signage.Section.Preparation
import Signage.Template.Builtin
import Signage.Text.Quoted

/-!
Compilation of the index of a player: its content is composed, its sections are prepared and put
into the template of its family, and the document is published under its uuid and playlist.
-/
namespace Signage.Index

/-- What the compilation of all players has in common. -/
structure Compiler where
  /-- The directory below which indexes are published. -/
  directory : List Char
  limits : Content.Limits
  templates : Template.Sources
  targets : Section.Targets

/-- Whether a character may stand in a file name made of a uuid. -/
def isSafeCharacter (c : Char) : Bool := c.isAlphanum || c == '-' || c == '_' || c == '.'

/-- Whether a uuid can be the name of a directory. -/
def isSafeName (uuid : List Char) : Bool :=
  uuid != [] && uuid != ['.'] && uuid != ['.', '.'] && uuid.all isSafeCharacter

def indexName (playlist : PlaylistId) : List Char := playlist.numeral ++ ['.', 's', 'm', 'i', 'l']

def indexPath (directory : List Char) (player : Player) : Except Error (List Char) :=
  if isSafeName player.uuid.toList then
    .ok (Files.join (Files.join directory player.uuid.toList) (indexName player.playlistId))
  else .error (.invalidInput s!"unusable player uuid: {Text.quoted player.uuid}")

namespace Compiler

/-- What the index of a player is made from. -/
def subject (compiler : Compiler) (sources : Content.Sources) (today : Calendar.Date)
    (player : Player) : Section.Subject where
  player := player
  content := Content.compose (Content.resolver compiler.limits sources) player
  targets := compiler.targets
  simple := !(Template.select player.model player.firmware.toList).supportsPrefetch
  today := today

/-- The document of a player; empty if the template does not render. -/
def document (compiler : Compiler) (sources : Content.Sources) (today : Calendar.Date)
    (player : Player) : List Char :=
  let family := Template.select player.model player.firmware.toList
  match compiler.templates.render family.name (compiler.subject sources today player).table with
  | .ok document => document
  | .error _ => []

/-- Compile and publish the index of a player, and tell its path. -/
def compile (compiler : Compiler) (outages : Outages) (sources : Content.Sources)
    (now : Calendar.Clock) (player : Player) : Files.Work (List Char) := do
  match indexPath compiler.directory player with
  | .error error => throw error
  | .ok path =>
    let _ ← publish outages now.moment path (compiler.document sources now.date player)
    return path

end Compiler
end Signage.Index
