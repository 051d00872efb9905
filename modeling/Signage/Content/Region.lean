import Signage.Content.Placeholder
import Signage.Player.Identifier
import Signage.Text.Blank

/-!
Markup of a zone: it is wrapped in a repeating sequence, and the regions it names are told apart
from those of other zones by the number of the zone.
-/
namespace Signage.Content

def regionOpening : List Char := ['r', 'e', 'g', 'i', 'o', 'n', '=', '"']

/-- The region named by an attribute at the front of the text. -/
def readRegion? (s : List Char) : Option (List Char) := do
  let rest ← Text.dropLiteral? regionOpening s
  let name := rest.takeWhile (· != '"')
  if name.length < rest.length then some name else none

def regionAttribute (name : List Char) : List Char := regionOpening ++ name ++ ['"']

/-- A region attribute and the blank before it. -/
structure RegionReference where
  blank : Char
  name : List Char

/-- The rule that finds region attributes after a blank. -/
def regionRule : Text.TokenRule RegionReference
  | [] => none
  | c :: rest =>
    if Text.isBlank c then
      (readRegion? rest).map fun name => (⟨c, name⟩, (regionAttribute name).length + 1)
    else none

/-- A piece of markup with the zone number put behind the name of a region. -/
def renamePiece (zone : ZoneId) : Text.Piece RegionReference → Markup
  | .character c => [c]
  | .token reference _ => reference.blank :: regionAttribute (reference.name ++ zone.numeral)

/-- Rename the regions in the text after its start. -/
def renameInside (zone : ZoneId) (markup : Markup) : Markup :=
  (Text.pieces regionRule markup).flatMap (renamePiece zone)

/-- Put the zone number behind the name of every region; an attribute counts at the very start
of the text and after a blank. -/
def renameRegions (zone : ZoneId) (markup : Markup) : Markup :=
  match readRegion? markup with
  | some name =>
    regionAttribute (name ++ zone.numeral) ++
      renameInside zone (markup.drop (regionAttribute name).length)
  | none => renameInside zone markup

/-- The regions named in the text, in order. -/
def regionNames (markup : Markup) : List (List Char) :=
  let inside (s : Markup) := (Text.pieces regionRule s).filterMap fun piece =>
    piece.value?.map RegionReference.name
  match readRegion? markup with
  | some name => name :: inside (markup.drop (regionAttribute name).length)
  | none => inside markup

def indent : List Char := ['\t', '\t', '\t']

/-- The identifier that the sequences of all playlists begin with. -/
def mediaId : List Char := ['m', 'e', 'd', 'i', 'a']

def sequenceOpening (id : List Char) : Markup :=
  indent ++ "<seq id=\"".toList ++ id ++ "\" repeatCount=\"indefinite\">\n".toList

def sequenceClosing : Markup := indent ++ "</seq>\n".toList

/-- The markup inside a sequence that repeats for ever. -/
def wrapSequence (id : List Char) (markup : Markup) : Markup :=
  sequenceOpening id ++ markup ++ sequenceClosing

/-- The items of a playlist that has the screen for itself. -/
def wrapItems (markup : Markup) : Markup := wrapSequence mediaId markup

def zoneItems (zone : ZoneId) (markup : Markup) : Markup :=
  wrapSequence (mediaId ++ zone.numeral) (renameRegions zone markup)

/-- The exclusive markup of a zone, which is not wrapped. -/
def zoneExclusive (zone : ZoneId) (markup : Markup) : Markup := renameRegions zone markup

/-- A zone without exclusive markup adds none. -/
theorem zoneExclusive_nil (zone : ZoneId) : zoneExclusive zone [] = [] := rfl

end Signage.Content
