import Mathlib.Tactic.Basic
import Signage.Store.Players

/-!
What is done to the store from outside polls. The operations on players set one column of one row;
those on playlists leave all players as they are.
-/
namespace Signage.Store
variable {tables : Tables} {uuid other : String}

/-- What a player can be given. -/
inductive Setting where
  | status (status : Status)
  | playlist (id : PlaylistId)
  | refresh (seconds : UInt64)
  | commands (commands : List String)
  | reports (reports : Reports)
  | screenTimes (days : List ScreenDay)

namespace Setting

/-- Give a stored player what is set. -/
def give : Setting → Tables → String → Except Error Tables
  | .status s => setStatus s
  | .playlist id => assignPlaylist id
  | .refresh n => setRefresh n
  | .commands tasks => setCommands tasks
  | .reports r => setReports r
  | .screenTimes days => setScreenTimes days

def column : Setting → PlayerColumn
  | .status _ => .status
  | .playlist _ => .playlist
  | .refresh _ => .refresh
  | .commands _ => .commands
  | .reports _ => .reports
  | .screenTimes _ => .screenTimes

def cell : Setting → Cell
  | .status s => .integer s.code
  | .playlist id => .integer id.value
  | .refresh n => .integer (Number.asSigned n)
  | .commands tasks => .text (Json.strings tasks).toText
  | .reports r => .text r.toJson.toText
  | .screenTimes days => .text (Json.array (days.map ScreenDay.toJson)).toText

/-- What is given to a player goes into the column of the setting. -/
theorem give_eq (setting : Setting) (tables : Tables) (uuid : String) :
    setting.give tables uuid = setColumn setting.column setting.cell tables uuid := by
  cases setting <;> rfl

end Setting

/-- What is done to the store by those who run the hub. -/
inductive Operation where
  | give (uuid : String) (setting : Setting)
  | create (name : String) (mode : Mode) (duration : UInt64)
  | setContent (id : PlaylistId) (columns : Content.Columns)
  | setLayout (id : PlaylistId) (layout : Layout)

/-- The tables after an operation; one that fails leaves them as they are. -/
def Operation.apply (tables : Tables) : Operation → Tables
  | .give uuid setting => (setting.give tables uuid).toOption.getD tables
  | .create name mode duration =>
    ((createPlaylist tables name mode duration).map Prod.snd).toOption.getD tables
  | .setContent id columns => (Store.setContent tables id columns).toOption.getD tables
  | .setLayout id layout => (Store.setLayout tables id layout).toOption.getD tables

/-- No two rows are of one player. -/
def Tables.Distinct (tables : Tables) : Prop :=
  tables.players.Pairwise fun a b => a.get .uuid ≠ b.get .uuid

/-- What a setting does to one row: it changes that of its player. -/
def Setting.on (setting : Setting) (uuid : String) (row : PlayerRow) : PlayerRow :=
  if Tables.isPlayer uuid row then row.set setting.column setting.cell else row

/-- A row is a player's if it has the uuid as a text. -/
theorem Tables.isPlayer_iff {row : PlayerRow} : isPlayer uuid row = true ↔ row.get .uuid = .text uuid := by
  simp [isPlayer]

/-- A player is not found exactly if no row has its uuid. -/
theorem Tables.player?_eq_none_iff :
    tables.player? uuid = none ↔ ∀ row ∈ tables.players, row.get .uuid ≠ .text uuid := by
  simp [player?, List.find?_eq_none, isPlayer]

/-- Nothing is changed for a player that is not stored. -/
theorem Tables.updatePlayer_eq_self (h : tables.player? uuid = none)
    (change : PlayerRow → PlayerRow) : tables.updatePlayer uuid change = tables := by
  have hsame : ∀ row ∈ tables.players, (if isPlayer uuid row then change row else row) = row := by
    intro row hrow
    rw [if_neg (mt isPlayer_iff.mp (player?_eq_none_iff.mp h row hrow))]
  rw [updatePlayer, (List.map_congr_left hsame).trans (List.map_id' _)]

/-- A setting changes the rows with the uuid, and leaves their number and order. -/
theorem players_apply_give (tables : Tables) (uuid : String) (setting : Setting) :
    ((Operation.give uuid setting).apply tables).players = tables.players.map (setting.on uuid) := by
  simp only [Operation.apply, Setting.give_eq, setColumn]
  cases h : tables.player? uuid with
  | some row => rfl
  | none =>
    have hsame := Tables.updatePlayer_eq_self h fun row => row.set setting.column setting.cell
    exact (congrArg Tables.players hsame).symm

end Signage.Store
