/-!
Sections of an index: lists of rows that fill the places of a template. A row gives a text for
each of its keys.
-/
namespace Signage.Section

/-- The texts of a row under their keys. -/
abbrev Row := List (String × List Char)

/-- The rows of all sections under the names of the sections. -/
abbrev Table := List (String × List Row)

/-- The sections that are prepared for an index. -/
inductive Kind where
  | metadata
  | layout
  | playlist
  | screenTimes
  | subscriptions
  deriving DecidableEq, Repr

namespace Kind

/-- All sections, in the order in which they are prepared. -/
def all : List Kind := [metadata, layout, playlist, screenTimes, subscriptions]

/-- The name by which templates refer to a section. -/
def name : Kind → String
  | metadata => "meta"
  | layout => "layout"
  | playlist => "playlist"
  | screenTimes => "screen_times"
  | subscriptions => "subscriptions"

end Kind
end Signage.Section
