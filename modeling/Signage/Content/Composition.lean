import Signage.Content.Region
import Signage.Content.Resolve
import Signage.Player.Basic

/-! The markup of one index, composed from the playlist or the zones a player is assigned. -/
namespace Signage.Content

/-- The fragments that are embedded in an index. -/
structure Composition where
  items : Markup
  prefetch : Markup
  exclusive : Markup
  deriving DecidableEq

def Composition.empty : Composition := ⟨[], [], []⟩

/-- A rule that gives the resolved fragments of playlists. -/
abbrev Resolver := Fragment → PlaylistId → Markup

/-- The resolved fragments of stored playlists. -/
def resolver (limits : Limits) (sources : Sources) : Resolver := fun fragment id =>
  (resolve limits sources fragment id).markup

/-- One playlist that fills the screen. -/
def composeSingle (resolve : Resolver) (playlist : PlaylistId) : Composition where
  items := wrapItems (resolve .items playlist)
  prefetch := resolve .prefetch playlist
  exclusive := resolve .exclusive playlist

/-- Several zones; each adds its own part to items and exclusive markup. -/
def composeZones (resolve : Resolver) (zones : List (ZoneId × PlaylistId)) : Composition where
  items := zones.flatMap fun (zone, playlist) => zoneItems zone (resolve .items playlist)
  prefetch := ['\n'].intercalate (zones.map fun (_, playlist) => resolve .prefetch playlist)
  exclusive := zones.flatMap fun (zone, playlist) =>
    zoneExclusive zone (resolve .exclusive playlist)

/-- The zones a multizone player plays, with the playlist of each. -/
def playedZones (player : Player) : List (ZoneId × PlaylistId) :=
  match player.zones with
  | some layout => layout.numbered.map fun (zone, settings) => (zone, settings.playlist)
  | none => []

/-- Compose what the player is assigned. -/
def compose (resolve : Resolver) (player : Player) : Composition :=
  if player.isMultizone then composeZones resolve (playedZones player)
  else composeSingle resolve player.playlistId

/-- The playlists whose fragments are resolved for the player. -/
def resolvedPlaylists (player : Player) : List PlaylistId :=
  if player.isMultizone then (playedZones player).map (·.2) else [player.playlistId]

/-- All fragments, in the order in which they are resolved for a playlist. -/
def allFragments : List Fragment := [.items, .prefetch, .exclusive]

/-- The resolutions made for the player. -/
def resolutions (limits : Limits) (sources : Sources) (player : Player) : List Resolution :=
  (resolvedPlaylists player).flatMap fun id =>
    allFragments.map fun fragment => resolve limits sources fragment id

end Signage.Content
