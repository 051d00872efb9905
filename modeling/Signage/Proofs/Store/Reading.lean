import Signage.Proofs.Json.Documents
import Signage.Proofs.Store.Registry
import Signage.Proofs.Store.Reporting

/-!
Tables that hold what a registry remembers are read as the registry. A document in a column counts by
what it is read as and not by how it is written, since a new row is written by hand.
-/
namespace Signage.Number

/-- The word of a number is worth as much. -/
theorem toInt_of_int64? {n : Int} {word : Int64} (h : int64? n = some word) : word.toInt = n := by
  rw [int64?] at h
  split at h
  · next hrange =>
    rw [← Option.some.inj h]
    have hlow : Int64.minValue.toInt = -2 ^ 63 := rfl
    have hhigh : Int64.maxValue.toInt = 2 ^ 63 - 1 := rfl
    exact Int64.toInt_ofInt_of_le (by omega) (by omega)
  · cases h

end Signage.Number

namespace Signage.Store
variable {registry : Registry} {tables : Tables}


/-- The row of a playlist. -/
def PlaylistEntry.row (entry : PlaylistEntry) : PlaylistRow where
  get
    | .name => .text entry.name
    | .mode => .text entry.mode.name
    | .duration => .integer (Number.asSigned entry.duration)
    | .items => .text entry.columns.items
    | .prefetch => .text entry.columns.prefetch
    | .exclusive => .text entry.columns.exclusive
    | .layout => entry.layout.elim .null fun layout => .text layout.toJson.toText

/-- The cell holds a document of the value. -/
def Cell.Writes {α : Type} (decode : Json → Option α) (a : α) (cell : Cell) : Prop :=
  ∃ text, cell = .text text ∧ (Json.ofText? text).bind decode = some a

/-- What can be read back from its document is stored by it. -/
theorem writes_toText {α : Type} {decode : Json → Option α} {a : α} {json : Json}
    (hplain : json.Plain) (h : decode json = some a) : Cell.Writes decode a (.text json.toText) :=
  ⟨_, rfl, by rw [Json.ofText?_toText hplain, Option.bind_some, h]⟩

/-- The cell holds what is remembered of a player in a column. The number of a row means nothing. -/
def PlayerEntry.Stores (entry : PlayerEntry) (uuid : String) : PlayerColumn → Cell → Prop
  | .number, _ => True
  | .uuid, cell => cell = .text uuid
  | .name, cell => cell = .text entry.name
  | .firmware, cell => cell = .text entry.firmware
  | .model, cell => cell = .text entry.model.name
  | .status, cell => cell = .integer entry.status.code
  | .playlist, cell => cell = .integer entry.playlist.value
  | .refresh, cell => cell = .integer (Number.asSigned entry.refresh)
  | .commands, cell => cell.Writes (Json.toList? Json.toString?) entry.commands
  | .reports, cell => cell.Writes Reports.ofJson? entry.reports
  | .screenTimes, cell => cell.Writes (Json.toList? ScreenDay.ofJson?) entry.screenTimes
  | .width, cell => cell = .integer 1920
  | .height, cell => cell = .integer 1080

/-- The row holds what is remembered of a player. -/
def PlayerEntry.IsIn (entry : PlayerEntry) (uuid : String) (row : PlayerRow) : Prop :=
  ∀ column, entry.Stores uuid column (row.get column)

/-- The tables hold what the registry remembers, and no playlist has a number that is still to be
given. -/
structure Registry.IsIn (registry : Registry) (tables : Tables) : Prop where
  lastId : tables.lastId.value.toInt = registry.count
  numbers : ∀ entry ∈ tables.playlists, entry.1.value.toInt ≤ registry.count
  playlist : ∀ id, tables.playlist? id = (registry.playlists id).map PlaylistEntry.row
  player : ∀ uuid, Option.Rel (·.IsIn uuid ·) (registry.players uuid) (tables.player? uuid)

/-- The sign bit is lost with all that goes with it. -/
theorem clampedUnsigned_asSigned (n : UInt64) :
    Number.clampedUnsigned (Number.asSigned n) = recalled n := by
  have hsign : n.toInt64 < 0 ↔ ¬ n.toNat < Nat.pow 2 63 := by
    rw [Int64.lt_iff_toInt_lt, ← Int64.toInt_toBitVec, UInt64.toBitVec_toInt64, Int64.toInt_zero,
      BitVec.toInt_neg_iff, UInt64.toNat_toBitVec]
    simp only [Nat.pow_eq]
    omega
  simp only [Number.clampedUnsigned, Number.asSigned, recalled, hsign, ite_not,
    UInt64.toUInt64_toInt64]

private theorem readMode_name (mode : Mode) : readMode mode.name = .ok mode := by
  have hlower : mode.name.map Char.toLower = mode.name := by
    rw [← String.toList_inj, String.toList_map]
    cases mode <;> decide
  rw [readMode, Mode.ofNameAnyCase?, hlower, Mode.ofName?_name]

/-- A playlist is read from the tables as it is remembered. -/
theorem getPlaylist_eq (h : registry.IsIn tables) (id : PlaylistId) :
    getPlaylist tables id = .ok (registry.playlist? id) := by
  rw [getPlaylist, h.playlist, Registry.playlist?]
  cases registry.playlists id with
  | none => rfl
  | some entry =>
    have hread : readPlaylist id entry.row = (do
        let mode ← readMode entry.mode.name
        return ⟨id, entry.name, mode, Number.clampedUnsigned (Number.asSigned entry.duration)⟩) := rfl
    rw [Option.map_some]
    dsimp only
    rw [hread, readMode_name, clampedUnsigned_asSigned]
    rfl

/-- The content of a playlist is read from the tables as it is remembered. -/
theorem getContent_eq (h : registry.IsIn tables) (id : PlaylistId) :
    getContent tables id = .ok (registry.content? id) := by
  rw [getContent, h.playlist, Registry.content?]
  cases registry.playlists id <;> rfl

private theorem readLayout_toText (uuid : String) (layout : Layout) :
    readLayout uuid (some layout.toJson.toText) = .ok (some layout) := by
  have hread := Json.ofText?_toText layout.plain_toJson
  have hne : layout.toJson.toText ≠ "" := by
    intro hempty
    rw [hempty] at hread
    cases hread
  rw [readLayout, if_neg hne, readDocument, hread, Option.bind_some, Layout.ofJson?_toJson]
  rfl

/-- What the columns of the assigned playlist hold; if there is none, they are empty. -/
theorem joined_eq (playlist : Option PlaylistEntry) :
    let row := playlist.map PlaylistEntry.row
    (PlaylistColumn.name.joinedAt 12 row).optional Column.text = .ok (playlist.map PlaylistEntry.name) ∧
    (PlaylistColumn.mode.joinedAt 13 row).optional Column.text =
      .ok (playlist.map fun entry => entry.mode.name) ∧
    (PlaylistColumn.duration.joinedAt 14 row).optional Column.integer =
      .ok (playlist.map fun entry => Number.asSigned entry.duration) ∧
    (PlaylistColumn.layout.joinedAt 15 row).optional Column.text =
      .ok ((playlist.bind PlaylistEntry.layout).map fun layout => layout.toJson.toText) := by
  cases playlist with
  | none => exact ⟨rfl, rfl, rfl, rfl⟩
  | some entry =>
    refine ⟨rfl, rfl, rfl, ?_⟩
    obtain ⟨_, _, _, _, _ | layout⟩ := entry <;> rfl

private theorem readMode_joined (playlist : Option PlaylistEntry) :
    (playlist.map fun entry => entry.mode.name).elim (.ok .master) readMode =
      .ok ((playlist.map PlaylistEntry.mode).getD .master) := by
  cases playlist with
  | none => rfl
  | some entry => exact readMode_name entry.mode

private theorem readLayout_joined (uuid : String) (layout : Option Layout) :
    readLayout uuid (layout.map fun layout => layout.toJson.toText) = .ok layout := by
  cases layout with
  | none => rfl
  | some layout => exact readLayout_toText uuid layout

private theorem clampedUnsigned_joined (playlist : Option PlaylistEntry) :
    Number.clampedUnsigned ((playlist.map fun entry => Number.asSigned entry.duration).getD 0) =
      recalled ((playlist.map PlaylistEntry.duration).getD 0) := by
  cases playlist with
  | none => rfl
  | some entry => exact clampedUnsigned_asSigned entry.duration

private theorem word_eq {column : Column} {n : UInt32} (h : column.cell = .integer (.ofNat n.toNat))
    (hn : (Int64.ofNat n.toNat).toInt = n.toNat) : column.word = .ok n := by
  have hfits : Number.uint32? (Int64.ofNat n.toNat).toInt = some n := by
    rw [hn, Number.uint32?_toNat]
  simp only [Column.word, Column.integer, h, bind, Except.bind, hfits]

/-- Every column of a player is read, and those of its playlist beside it. -/
theorem readPlayerColumns_eq {entry : PlayerEntry} {row : PlayerRow} {uuid : String}
    (hrow : entry.IsIn uuid row) (playlist : Option PlaylistEntry) :
    ∃ commands reports screenTimes : String,
      (Json.ofText? commands).bind (Json.toList? Json.toString?) = some entry.commands ∧
      (Json.ofText? reports).bind Reports.ofJson? = some entry.reports ∧
      (Json.ofText? screenTimes).bind (Json.toList? ScreenDay.ofJson?) = some entry.screenTimes ∧
      readPlayerColumns row (playlist.map PlaylistEntry.row) = .ok {
        uuid
        name := entry.name
        firmware := entry.firmware
        model := entry.model.name
        status := entry.status.code
        playlist := entry.playlist.value
        refresh := Number.asSigned entry.refresh
        commands
        reports
        screenTimes
        width := 1920
        height := 1080
        playlistName := playlist.map PlaylistEntry.name
        playlistMode := playlist.map fun entry => entry.mode.name
        duration := playlist.map fun entry => Number.asSigned entry.duration
        layout := (playlist.bind PlaylistEntry.layout).map fun layout => layout.toJson.toText } := by
  obtain ⟨commands, hcommands, hreadCommands⟩ := hrow .commands
  obtain ⟨reports, hreports, hreadReports⟩ := hrow .reports
  obtain ⟨screenTimes, hscreenTimes, hreadScreenTimes⟩ := hrow .screenTimes
  refine ⟨commands, reports, screenTimes, hreadCommands, hreadReports, hreadScreenTimes, ?_⟩
  have htext {column : PlayerColumn} {text : String} (index : Nat)
      (hcell : row.get column = .text text) : (column.at index row).text = .ok text := by
    rw [PlayerColumn.at, Column.text, hcell]
  have hinteger {column : PlayerColumn} {n : Int64} (index : Nat)
      (hcell : row.get column = .integer n) : (column.at index row).integer = .ok n := by
    rw [PlayerColumn.at, Column.integer, hcell]
  have hwidth : (PlayerColumn.width.at 10 row).word = .ok 1920 := word_eq (hrow .width) (by decide)
  have hheight : (PlayerColumn.height.at 11 row).word = .ok 1080 := word_eq (hrow .height) (by decide)
  obtain ⟨hname, hmode, hduration, hlayout⟩ := joined_eq playlist
  simp only [readPlayerColumns, htext 0 (hrow .uuid), htext 1 (hrow .name), htext 2 (hrow .firmware),
    htext 3 (hrow .model), hinteger 4 (hrow .status), hinteger 5 (hrow .playlist),
    hinteger 6 (hrow .refresh), htext 7 hcommands, htext 8 hreports, htext 9 hscreenTimes, hwidth,
    hheight, hname, hmode, hduration, hlayout]
  rfl

private theorem readDocument_eq {α : Type} {decode : Json → Option α} {text : String} {a : α}
    (h : (Json.ofText? text).bind decode = some a) (column uuid : String) :
    readDocument decode column uuid text = .ok a := by
  rw [readDocument, h]

/-- What is read of a row is the player that is remembered. -/
theorem readPlayer_eq {entry : PlayerEntry} {row : PlayerRow} {uuid : String}
    (h : registry.IsIn tables) (hrow : entry.IsIn uuid row) :
    readPlayer tables row = .ok (registry.playerOf uuid entry) := by
  have hassigned : tables.assigned? row =
      (registry.playlists entry.playlist).map PlaylistEntry.row := by
    rw [Tables.assigned?, hrow .playlist]
    exact h.playlist entry.playlist
  obtain ⟨commands, reports, screenTimes, hcommands, hreports, hscreenTimes, hcolumns⟩ :=
    readPlayerColumns_eq hrow (registry.playlists entry.playlist)
  rw [readPlayer, hassigned, hcolumns]
  show PlayerColumns.player _ = _
  simp only [PlayerColumns.player, readDocument_eq hcommands, readDocument_eq hreports,
    readDocument_eq hscreenTimes, readLayout_joined, readMode_joined, clampedUnsigned_joined,
    clampedUnsigned_asSigned, Model.ofName?_name]
  rfl

/-- A player is read from the tables as it is remembered. -/
theorem getPlayer_eq (h : registry.IsIn tables) (uuid : String) :
    getPlayer tables uuid = .ok (registry.player? uuid) := by
  have hplayer := h.player uuid
  rw [getPlayer, Registry.player?]
  generalize registry.players uuid = entry, tables.player? uuid = row at hplayer ⊢
  cases hplayer with
  | none => rfl
  | some hrow =>
    dsimp only
    rw [readPlayer_eq h hrow]
    rfl

end Signage.Store
