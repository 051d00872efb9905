import Signage.Store.Tables

/-!
Edits of single columns, past the operations of the hub. A value is changed as the column prefers
it; an edit that breaks a rule of the tables is refused.
-/
namespace Signage.Store

/-- Whether two names agree up to the case of ASCII letters. -/
def sameLabel (a b : String) : Bool := a.map Char.toLower == b.map Char.toLower

/-- A column that can be edited. -/
inductive EditTarget (κ : Type) where
  /-- A column of the table. -/
  | column (column : κ)
  /-- The identifier of a playlist. -/
  | key
  /-- A column that does not matter. -/
  | ignored (isNullable : Bool)

/-- The names that the number of a row goes by in every table. -/
def numberLabels : List String := ["rowid", "oid", "_rowid_"]

/-- Whether the name is one for the number of a row. -/
def isNumberLabel (label : String) : Bool := numberLabels.any (sameLabel label)

/-- The column of a player by its name. -/
def playerTarget? (label : String) : Option (EditTarget PlayerColumn) :=
  match PlayerColumn.all.find? fun column => sameLabel column.label label with
  | some column => some (.column column)
  | none =>
    if isNumberLabel label then some (.column .number)
    else if sameLabel label "created_at" then some (.ignored false)
    else if sameLabel label "last_access" then some (.ignored true)
    else none

/-- The column of a playlist by its name. -/
def playlistTarget? (label : String) : Option (EditTarget PlaylistColumn) :=
  match PlaylistColumn.all.find? fun column => sameLabel column.label label with
  | some column => some (.column column)
  | none =>
    if sameLabel label "playlist_id" || isNumberLabel label then some .key
    else if sameLabel label "updated_at" then some (.ignored false)
    else none

/-- Whether no two players may agree in the column. -/
def PlayerColumn.isUnique : PlayerColumn → Bool
  | number | uuid => true
  | _ => false

/-- Whether a column of a player may hold a value: none is empty, and rows have whole numbers. -/
def PlayerColumn.admits (column : PlayerColumn) (cell : Cell) : Bool :=
  cell != .null && (column != .number || cell.integer?.isSome)

/-- Whether a player other than that of the row has the value in a column where no two may agree. -/
def isTaken (tables : Tables) (row : PlayerRow) (column : PlayerColumn) (cell : Cell) : Bool :=
  column.isUnique && row.get column != cell &&
    tables.players.any fun other => other.get column == cell

/-- Put a value into a column of a player, and count the rows changed. -/
def editPlayer (tables : Tables) (uuid label : String) (value : Cell) : Option (Nat × Tables) :=
  match playerTarget? label, tables.player? uuid with
  | none, _ => none
  | some _, none => some (0, tables)
  | some (.column column), some row =>
    let cell := column.affinity.apply value
    if !column.admits cell || isTaken tables row column cell then none
    else some (1, tables.updatePlayer uuid fun row => row.set column cell)
  | some .key, some _ => none
  | some (.ignored isNullable), some _ =>
    if value == .null && !isNullable then none else some (1, tables)

/-- Give a playlist another identifier, which no other playlist may have. -/
def renumber (tables : Tables) (id : PlaylistId) (value : Cell) : Option (Nat × Tables) :=
  match Affinity.integer.apply value with
  | .integer n =>
    if n ≠ id.value ∧ (tables.playlist? ⟨n⟩).isSome then none
    else
      some (1, { tables with playlists := tables.playlists.map fun entry =>
                  if entry.1 = id then (⟨n⟩, entry.2) else entry })
  | _ => none

/-- Put a value into a column of a playlist, and count the rows changed. -/
def editPlaylist (tables : Tables) (id : PlaylistId) (label : String) (value : Cell) :
    Option (Nat × Tables) :=
  match playlistTarget? label, tables.playlist? id with
  | none, _ => none
  | some _, none => some (0, tables)
  | some (.column column), some _ =>
    let cell := column.affinity.apply value
    if cell == .null && !column.isNullable then none
    else some (1, tables.updatePlaylist id fun row => row.set column cell)
  | some .key, some _ => renumber tables id value
  | some (.ignored isNullable), some _ =>
    if value == .null && !isNullable then none else some (1, tables)

end Signage.Store
