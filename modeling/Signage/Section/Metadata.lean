import Signage.Player.Basic
import Signage.Section.Escape
import Signage.Section.Row

/-! The title of an index and the interval in which it is polled. -/
namespace Signage.Section

def title (player : Player) : List Char :=
  player.name.toList ++ [' ', '-', ' '] ++ player.playlistName.toList

def metadataRows (player : Player) : List Row :=
  [[("title", escape (title player)), ("refresh", Text.numeral player.refresh.toNat)]]

end Signage.Section
