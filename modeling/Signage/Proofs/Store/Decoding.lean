import Signage.Proofs.Poll.Repetition
import Signage.Proofs.Store.Reading
import Signage.Proofs.Text.Encodings

/-!
A stored player is read as a whole or not at all. Whatever lies in its columns and in those of its
playlist, what is read is determined by the cells one by one, and the first condition that does not
hold is reported: first of all those on the classes of cells, then of those on the documents in them.
-/
namespace Signage.Store
variable {α β : Type} {tables : Tables} {row : PlayerRow} {playlist : Option PlaylistRow}
  {columns : PlayerColumns} {player : Player} {uuid : String}

/-- A condition on what is stored, and what is reported where it does not hold. -/
structure Check where
  holds : Prop
  fault : StorageFault

/-- The fault is that of the first condition that does not hold. -/
def FirstFault (checks : List Check) (fault : StorageFault) : Prop :=
  ∃ front check behind, checks = front ++ check :: behind ∧ (∀ earlier ∈ front, earlier.holds) ∧
    ¬ check.holds ∧ check.fault = fault

private theorem not_firstFault_nil (fault : StorageFault) : ¬ FirstFault [] fault := by
  rintro ⟨front, check, behind, h, -⟩
  exact List.cons_ne_nil _ _ (List.append_eq_nil_iff.mp h.symm).2

private theorem firstFault_cons_iff {check : Check} {checks : List Check} {fault : StorageFault} :
    FirstFault (check :: checks) fault ↔
      ¬ check.holds ∧ check.fault = fault ∨ check.holds ∧ FirstFault checks fault := by
  constructor
  · rintro ⟨front, failed, behind, h, hfront, hfailed, hfault⟩
    cases front with
    | nil =>
      obtain ⟨rfl, -⟩ := List.cons.inj h
      exact .inl ⟨hfailed, hfault⟩
    | cons first front =>
      obtain ⟨rfl, rfl⟩ := List.cons.inj h
      obtain ⟨hfirst, hfront⟩ := List.forall_mem_cons.mp hfront
      exact .inr ⟨hfirst, front, failed, behind, rfl, hfront, hfailed, hfault⟩
  · rintro (⟨hfailed, hfault⟩ | ⟨hholds, front, failed, behind, rfl, hfront, hfailed, hfault⟩)
    · exact ⟨[], check, checks, rfl, fun _ h => (List.not_mem_nil h).elim, hfailed, hfault⟩
    · exact ⟨check :: front, failed, behind, rfl, List.forall_mem_cons.mpr ⟨hholds, hfront⟩, hfailed,
        hfault⟩

private theorem firstFault_append_iff {checks checks' : List Check} {fault : StorageFault} :
    FirstFault (checks ++ checks') fault ↔
      FirstFault checks fault ∨ (∀ check ∈ checks, check.holds) ∧ FirstFault checks' fault := by
  induction checks with
  | nil => simp [not_firstFault_nil]
  | cons check checks ih =>
    rw [List.cons_append, firstFault_cons_iff, firstFault_cons_iff, ih, List.forall_mem_cons]
    tauto

/-- The answer is given if all conditions hold, and is the first fault otherwise. -/
structure Judges (checks : List Check) (answer : Except StorageFault α) : Prop where
  succeeds : (∃ a, answer = .ok a) ↔ ∀ check ∈ checks, check.holds
  fails : ∀ fault, answer = .error fault ↔ FirstFault checks fault

private theorem judges_ok (a : α) : Judges [] (.ok a : Except StorageFault α) :=
  ⟨by simp, fun fault => by simp [not_firstFault_nil]⟩

private theorem judges_of_holds (check : Check) (h : check.holds) (a : α) :
    Judges [check] (.ok a : Except StorageFault α) :=
  ⟨by simp [h], fun fault => by simp [firstFault_cons_iff, not_firstFault_nil, h]⟩

private theorem judges_of_fault (check : Check) (h : ¬ check.holds) :
    Judges [check] (.error check.fault : Except StorageFault α) :=
  ⟨by simp [h], fun fault => by simp [firstFault_cons_iff, h]⟩

private theorem Judges.bind {checks checks' : List Check} {first : Except StorageFault α}
    {next : α → Except StorageFault β} (hfirst : Judges checks first)
    (hnext : ∀ a, first = .ok a → Judges checks' (next a)) :
    Judges (checks ++ checks') (first >>= next) := by
  -- The first fault lies among the first checks just if the first step fails.
  cases first with
  | error reported =>
    have hreported := (hfirst.fails reported).mp rfl
    have hnot : ¬ ∀ check ∈ checks, check.holds := fun h => by
      obtain ⟨a, ha⟩ := hfirst.succeeds.mpr h
      cases ha
    refine ⟨?_, fun fault => ?_⟩
    · rw [List.forall_mem_append]
      exact ⟨fun ⟨a, ha⟩ => (nomatch ha), fun h => (hnot h.1).elim⟩
    · rw [firstFault_append_iff, ← hfirst.fails]
      exact ⟨fun h => .inl (by cases h; rfl), fun h => h.elim (fun h => by cases h; rfl)
        fun h => (hnot h.1).elim⟩
  | ok a =>
    have hall := hfirst.succeeds.mp ⟨a, rfl⟩
    obtain ⟨hsucceeds, hfails⟩ := hnext a rfl
    refine ⟨?_, fun fault => ?_⟩
    · rw [List.forall_mem_append]
      exact hsucceeds.trans ⟨fun h => ⟨hall, h⟩, And.right⟩
    · rw [firstFault_append_iff, ← hfirst.fails]
      exact (hfails fault).trans ⟨fun h => .inr ⟨hall, h⟩, fun h => h.elim (fun h => nomatch h) And.right⟩

/-- The bytes of a text as they lie in a column. -/
def Cell.textBytes? : Cell → Option (List UInt8)
  | .text s => some s.toUTF8.data.toList
  | .garbled bytes => some bytes.bytes
  | _ => none

/-- Any bytes may lie in a column as a text, and no two cells hold the same ones. -/
theorem existsUnique_textBytes? (bytes : List UInt8) :
    ∃! cell : Cell, cell.textBytes? = some bytes := by
  cases hflaw : Text.flaw? bytes with
  | none =>
    obtain ⟨s, hs⟩ := Text.flaw?_eq_none_iff.mp hflaw
    refine ⟨.text s, congrArg some hs, fun cell hcell => ?_⟩
    cases cell with
    | text other =>
      have hbytes := (Option.some.inj hcell).trans hs.symm
      exact congrArg Cell.text (String.toByteArray_inj.mp (ByteArray.ext (Array.ext' hbytes)))
    | garbled other =>
      have hsome := other.isSome_flaw?
      rw [Option.some.inj hcell, hflaw] at hsome
      cases hsome
    | null | integer _ | real | blob => cases hcell
  | some flaw =>
    refine ⟨.garbled ⟨bytes, hflaw ▸ rfl⟩, rfl, fun cell hcell => ?_⟩
    cases cell with
    | text s =>
      rw [Text.flaw?_eq_none_iff.mpr ⟨s, Option.some.inj hcell⟩] at hflaw
      cases hflaw
    | garbled other =>
      obtain ⟨other, hother⟩ := other
      cases Option.some.inj hcell
      rfl
    | null | integer _ | real | blob => cases hcell

/-- What a column of an answer is read as. -/
inductive Form where
  | text
  | integer
  | word

namespace Form

/-- The cell holds what the column is read as. -/
def Fits : Form → Cell → Prop
  | text, cell => ∃ s, cell = .text s
  | integer, cell => ∃ n, cell = .integer n
  | word, cell => ∃ n, cell = .integer n ∧ 0 ≤ n.toInt ∧ n.toInt < 2 ^ 32

/-- What is reported of a column that holds something else. -/
def fault : Form → Column → StorageFault
  | text, ⟨index, _, .garbled bytes⟩ => .undecodable bytes.flaw index
  | word, ⟨index, _, .integer n⟩ => .outOfRange n index
  | _, column => .columnType column.cell.storageClass column.index column.label

def check (form : Form) (column : Column) : Check := ⟨form.Fits column.cell, form.fault column⟩

/-- The condition on a column that may be empty. -/
def checkNullable (form : Form) (column : Column) : Check :=
  ⟨column.cell = .null ∨ form.Fits column.cell, form.fault column⟩

end Form

/-- What a column of the assigned playlist holds; it is empty if there is no playlist. -/
def joined (column : PlaylistColumn) (playlist : Option PlaylistRow) : Cell :=
  playlist.elim .null fun row => row.get column

/-- The conditions on the classes of the cells, in the order of the answer. -/
def columnChecks (row : PlayerRow) (playlist : Option PlaylistRow) : List Check :=
  [Form.text.check (PlayerColumn.uuid.at 0 row), Form.text.check (PlayerColumn.name.at 1 row),
    Form.text.check (PlayerColumn.firmware.at 2 row), Form.text.check (PlayerColumn.model.at 3 row),
    Form.integer.check (PlayerColumn.status.at 4 row),
    Form.integer.check (PlayerColumn.playlist.at 5 row),
    Form.integer.check (PlayerColumn.refresh.at 6 row),
    Form.text.check (PlayerColumn.commands.at 7 row),
    Form.text.check (PlayerColumn.reports.at 8 row),
    Form.text.check (PlayerColumn.screenTimes.at 9 row),
    Form.word.check (PlayerColumn.width.at 10 row), Form.word.check (PlayerColumn.height.at 11 row),
    Form.text.checkNullable (PlaylistColumn.name.joinedAt 12 playlist),
    Form.text.checkNullable (PlaylistColumn.mode.joinedAt 13 playlist),
    Form.integer.checkNullable (PlaylistColumn.duration.joinedAt 14 playlist),
    Form.text.checkNullable (PlaylistColumn.layout.joinedAt 15 playlist)]

/-- The condition on a column that holds a document. -/
def documentCheck (decode : Json → Option α) (column uuid : String) (cell : Cell) : Check :=
  ⟨∃ a, cell.Writes decode a, .malformed column uuid⟩

/-- The conditions on the layout of the playlist: none if it is empty or an empty text. -/
def layoutChecks (uuid : String) (cell : Cell) : List Check :=
  if cell = .null ∨ cell = .text "" then []
  else [documentCheck Layout.ofJson? "multizone" uuid cell]

/-- The conditions on the mode of the playlist: none if it is empty. Letter case does not matter. -/
def modeChecks : Cell → List Check
  | .text text =>
    [⟨∃ mode : Mode, mode.name = text.map Char.toLower, .other (Mode.unknownName text)⟩]
  | _ => []

/-- The conditions on the texts of the cells. -/
def documentChecks (uuid : String) (row : PlayerRow) (playlist : Option PlaylistRow) : List Check :=
  [documentCheck (Json.toList? Json.toString?) "commands" uuid (row.get .commands),
    documentCheck Reports.ofJson? "reports" uuid (row.get .reports),
    documentCheck (Json.toList? ScreenDay.ofJson?) "screen_times" uuid (row.get .screenTimes)] ++
    layoutChecks uuid (joined .layout playlist) ++ modeChecks (joined .mode playlist)

/-- Everything that is required of the row of a player and of that of its playlist. -/
def playerChecks (uuid : String) (row : PlayerRow) (playlist : Option PlaylistRow) : List Check :=
  columnChecks row playlist ++ documentChecks uuid row playlist

section Columns
variable {column : Column}

private theorem text_eq_ok_iff {s : String} : column.text = .ok s ↔ column.cell = .text s := by
  unfold Column.text
  cases column.cell <;> simp

private theorem integer_eq_ok_iff {n : Int64} :
    column.integer = .ok n ↔ column.cell = .integer n := by
  unfold Column.integer
  cases column.cell <;> simp

private theorem uint32?_eq_some_iff {n : Int} {w : UInt32} :
    Number.uint32? n = some w ↔ n = w.toNat := by
  constructor
  · intro h
    unfold Number.uint32? at h
    split at h
    · next hrange =>
      obtain ⟨hlow, hhigh⟩ := hrange
      cases h
      have hsize : UInt32.size = 2 ^ 32 := rfl
      rw [hsize] at hhigh
      rw [UInt32.toNat_ofNat']
      omega
    · cases h
  · rintro rfl
    exact Number.uint32?_toNat w

private theorem word_eq_ok_iff {w : UInt32} :
    column.word = .ok w ↔ ∃ n, column.cell = .integer n ∧ n.toInt = w.toNat := by
  unfold Column.word
  rw [bind_eq_ok_iff]
  refine exists_congr fun n => and_congr integer_eq_ok_iff ?_
  rw [← uint32?_eq_some_iff]
  cases Number.uint32? n.toInt <;> simp

private theorem optional_eq_ok_iff {read : Column → Except StorageFault α} {found : Option α} :
    column.optional read = .ok found ↔
      column.cell = .null ∧ found = none ∨
        column.cell ≠ .null ∧ ∃ a, read column = .ok a ∧ found = some a := by
  unfold Column.optional
  split
  · next h => simp [h, eq_comm]
  · next h =>
    have hne : column.cell ≠ .null := h
    cases read column <;> simp [hne, Except.map, eq_comm (a := found)]

private theorem judges_text (column : Column) : Judges [Form.text.check column] column.text := by
  obtain ⟨index, label, cell⟩ := column
  cases cell with
  | text s => exact judges_of_holds (Form.text.check ⟨index, label, .text s⟩) ⟨s, rfl⟩ s
  | garbled _ | null | integer _ | real | blob =>
    refine judges_of_fault (Form.text.check ⟨index, label, _⟩) ?_
    rintro ⟨_, h⟩
    cases h

example : Column.text ⟨3, "model", .garbled ⟨[0x61, 0xE2, 0x82, 0x28], rfl⟩⟩ =
    .error (.undecodable ⟨1, some 2⟩ 3) := rfl

private theorem judges_integer (column : Column) :
    Judges [Form.integer.check column] column.integer := by
  obtain ⟨index, label, cell⟩ := column
  cases cell with
  | integer n =>
    exact judges_of_holds (Form.integer.check ⟨index, label, .integer n⟩) ⟨n, rfl⟩ n
  | _ =>
    exact judges_of_fault (Form.integer.check ⟨index, label, _⟩) fun ⟨_, h⟩ => nomatch h

private theorem judges_word (column : Column) : Judges [Form.word.check column] column.word := by
  obtain ⟨index, label, cell⟩ := column
  cases cell with
  | integer n =>
    cases hw : Number.uint32? n.toInt with
    | some w =>
      have hread : (Column.word ⟨index, label, .integer n⟩) = .ok w :=
        word_eq_ok_iff.mpr ⟨n, rfl, uint32?_eq_some_iff.mp hw⟩
      have hrange := w.toNat_lt
      have hn := uint32?_eq_some_iff.mp hw
      rw [hread]
      exact judges_of_holds (Form.word.check ⟨index, label, .integer n⟩) ⟨n, rfl, by omega, by omega⟩ w
    | none =>
      have hread : (Column.word ⟨index, label, .integer n⟩) = .error (.outOfRange n index) := by
        simp only [Column.word, Column.integer, bind, Except.bind, hw]
      rw [hread]
      refine judges_of_fault (Form.word.check ⟨index, label, .integer n⟩) ?_
      rintro ⟨m, hm, hlow, hhigh⟩
      cases hm
      rw [Number.uint32?, if_pos ⟨hlow, hhigh⟩] at hw
      cases hw
  | _ =>
    refine judges_of_fault (Form.word.check ⟨index, label, _⟩) ?_
    rintro ⟨_, h, _⟩
    cases h

private theorem Judges.optional {form : Form} {read : Column → Except StorageFault α}
    (h : Judges [form.check column] (read column)) :
    Judges [form.checkNullable column] (column.optional read) := by
  unfold Column.optional
  split
  · next hnull => exact judges_of_holds (form.checkNullable column) (.inl hnull) _
  · next hnull =>
    cases hread : read column with
    | ok a =>
      have hfits := h.succeeds.mp ⟨a, hread⟩ _ List.mem_cons_self
      exact judges_of_holds (form.checkNullable column) (.inr hfits) _
    | error fault =>
      obtain ⟨hnot, rfl⟩ | ⟨-, hnil⟩ := firstFault_cons_iff.mp ((h.fails fault).mp hread)
      · exact judges_of_fault (form.checkNullable column) fun hfits => hfits.elim hnull hnot
      · exact (not_firstFault_nil _ hnil).elim

end Columns

private theorem judges_readPlayerColumns (row : PlayerRow) (playlist : Option PlaylistRow) :
    Judges (columnChecks row playlist) (readPlayerColumns row playlist) := by
  unfold readPlayerColumns
  refine (judges_text _).bind fun _ _ => ?_
  refine (judges_text _).bind fun _ _ => ?_
  refine (judges_text _).bind fun _ _ => ?_
  refine (judges_text _).bind fun _ _ => ?_
  refine (judges_integer _).bind fun _ _ => ?_
  refine (judges_integer _).bind fun _ _ => ?_
  refine (judges_integer _).bind fun _ _ => ?_
  refine (judges_text _).bind fun _ _ => ?_
  refine (judges_text _).bind fun _ _ => ?_
  refine (judges_text _).bind fun _ _ => ?_
  refine (judges_word _).bind fun _ _ => ?_
  refine (judges_word _).bind fun _ _ => ?_
  refine (judges_text _).optional.bind fun _ _ => ?_
  refine (judges_text _).optional.bind fun _ _ => ?_
  refine (judges_integer _).optional.bind fun _ _ => ?_
  refine (judges_text _).optional.bind fun _ _ => ?_
  exact judges_ok _

/-- The cells hold what was read of them. -/
structure PlayerColumns.AreIn (columns : PlayerColumns) (row : PlayerRow)
    (playlist : Option PlaylistRow) : Prop where
  uuid : row.get .uuid = .text columns.uuid
  name : row.get .name = .text columns.name
  firmware : row.get .firmware = .text columns.firmware
  model : row.get .model = .text columns.model
  status : row.get .status = .integer columns.status
  id : row.get .playlist = .integer columns.playlist
  refresh : row.get .refresh = .integer columns.refresh
  commands : row.get .commands = .text columns.commands
  reports : row.get .reports = .text columns.reports
  screenTimes : row.get .screenTimes = .text columns.screenTimes
  width : ∃ n, row.get .width = .integer n ∧ n.toInt = columns.width.toNat
  height : ∃ n, row.get .height = .integer n ∧ n.toInt = columns.height.toNat
  playlistName : joined .name playlist = columns.playlistName.elim .null .text
  playlistMode : joined .mode playlist = columns.playlistMode.elim .null .text
  duration : joined .duration playlist = columns.duration.elim .null .integer
  layout : joined .layout playlist = columns.layout.elim .null .text

/-- A column that may be empty holds what is read of it. -/
theorem optional_eq_ok_iff_elim {column : Column} {read : Column → Except StorageFault α}
    {put : α → Cell} (hread : ∀ a, read column = .ok a ↔ column.cell = put a)
    (hput : ∀ a, put a ≠ .null) {found : Option α} :
    column.optional read = .ok found ↔ column.cell = found.elim .null put := by
  rw [optional_eq_ok_iff]
  cases found with
  | none => simp
  | some a =>
    simp only [hread, Option.some.injEq, reduceCtorEq, and_false, false_or, Option.elim_some,
      exists_eq_right']
    exact ⟨And.right, fun h => ⟨h ▸ hput a, h⟩⟩

private theorem optional_text_eq_ok_iff {column : Column} {found : Option String} :
    column.optional Column.text = .ok found ↔ column.cell = found.elim .null .text :=
  optional_eq_ok_iff_elim (fun _ => text_eq_ok_iff) fun _ => Cell.noConfusion

private theorem optional_integer_eq_ok_iff {column : Column} {found : Option Int64} :
    column.optional Column.integer = .ok found ↔ column.cell = found.elim .null .integer :=
  optional_eq_ok_iff_elim (fun _ => integer_eq_ok_iff) fun _ => Cell.noConfusion

private theorem readPlayerColumns_eq_ok_iff :
    readPlayerColumns row playlist = .ok columns ↔ columns.AreIn row playlist := by
  simp only [readPlayerColumns, bind_eq_ok_iff, text_eq_ok_iff, integer_eq_ok_iff, word_eq_ok_iff,
    optional_text_eq_ok_iff, optional_integer_eq_ok_iff]
  constructor
  · rintro ⟨uuid, huuid, name, hname, firmware, hfirmware, model, hmodel, status, hstatus, id, hid,
      refresh, hrefresh, commands, hcommands, reports, hreports, screenTimes, hscreenTimes, width,
      hwidth, height, hheight, playlistName, hplaylistName, mode, hmode, duration, hduration, layout,
      hlayout, hcolumns⟩
    cases hcolumns
    exact ⟨huuid, hname, hfirmware, hmodel, hstatus, hid, hrefresh, hcommands, hreports, hscreenTimes,
      hwidth, hheight, hplaylistName, hmode, hduration, hlayout⟩
  · intro h
    exact ⟨_, h.uuid, _, h.name, _, h.firmware, _, h.model, _, h.status, _, h.id, _, h.refresh,
      _, h.commands, _, h.reports, _, h.screenTimes, _, h.width, _, h.height, _, h.playlistName, _,
      h.playlistMode, _, h.duration, _, h.layout, rfl⟩

section Documents
variable {cell : Cell}

private theorem judges_readDocument {decode : Json → Option α} {text : String}
    (h : cell = .text text)
    (column uuid : String) :
    Judges [documentCheck decode column uuid cell] (readDocument decode column uuid text) := by
  unfold readDocument
  split
  · next a hread => exact judges_of_holds (documentCheck decode column uuid cell) ⟨a, text, h, hread⟩ a
  · next hread =>
    refine judges_of_fault (documentCheck decode column uuid cell) ?_
    rintro ⟨a, other, hother, hdecoded⟩
    cases h.symm.trans hother
    rw [hread] at hdecoded
    cases hdecoded

private theorem Judges.map {checks : List Check} {answer : Except StorageFault α}
    (h : Judges checks answer)
    (f : α → β) : Judges checks (answer.map f) := by
  have hbind := h.bind fun a _ => judges_ok (f a)
  rw [List.append_nil] at hbind
  exact hbind

private theorem judges_readLayout {found : Option String} (h : cell = found.elim .null .text)
    (uuid : String) : Judges (layoutChecks uuid cell) (readLayout uuid found) := by
  unfold layoutChecks
  cases found with
  | none =>
    rw [if_pos (.inl h)]
    exact judges_ok none
  | some text =>
    rw [Option.elim_some] at h
    by_cases hempty : text = ""
    · rw [readLayout, if_pos hempty, if_pos (.inr (hempty ▸ h))]
      exact judges_ok none
    · rw [readLayout, if_neg hempty, if_neg (by simp [h, hempty])]
      exact (judges_readDocument h "multizone" uuid).map some

private theorem ofNameAnyCase?_eq_some_iff {text : String} {mode : Mode} :
    Mode.ofNameAnyCase? text = some mode ↔ mode.name = text.map Char.toLower := by
  unfold Mode.ofNameAnyCase?
  constructor
  · intro h
    have hname := List.find?_some h
    exact beq_iff_eq.mp hname
  · intro h
    rw [← h, Mode.ofName?_name]

private theorem readMode_eq_ok_iff {text : String} {mode : Mode} :
    readMode text = .ok mode ↔ mode.name = text.map Char.toLower := by
  rw [← ofNameAnyCase?_eq_some_iff, readMode]
  cases Mode.ofNameAnyCase? text <;> simp

private theorem judges_readMode {found : Option String} (h : cell = found.elim .null .text) :
    Judges (modeChecks cell) (found.elim (.ok .master) readMode) := by
  rw [h]
  cases found with
  | none => exact judges_ok Mode.master
  | some text =>
    rw [Option.elim_some, Option.elim_some, modeChecks, readMode]
    let check : Check :=
      ⟨∃ mode : Mode, mode.name = text.map Char.toLower, .other (Mode.unknownName text)⟩
    cases hmode : Mode.ofNameAnyCase? text with
    | some mode => exact judges_of_holds check ⟨mode, ofNameAnyCase?_eq_some_iff.mp hmode⟩ mode
    | none =>
      refine judges_of_fault check ?_
      rintro ⟨mode, hname⟩
      cases hmode.symm.trans (ofNameAnyCase?_eq_some_iff.mpr hname)

end Documents

private theorem judges_player (h : columns.AreIn row playlist) :
    Judges (documentChecks columns.uuid row playlist) columns.player := by
  unfold PlayerColumns.player documentChecks
  refine (judges_readDocument h.commands _ _).bind fun _ _ => ?_
  refine (judges_readDocument h.reports _ _).bind fun _ _ => ?_
  refine (judges_readDocument h.screenTimes _ _).bind fun _ _ => ?_
  refine (judges_readLayout h.layout _).bind fun _ _ => ?_
  exact (judges_readMode h.playlistMode).map _

/-- The player is what the cells hold. A cell that may be empty and is, or a count below zero, is read
as what is assumed for it; a name that no family of devices has is read as an unknown one. -/
structure IsStored (player : Player) (row : PlayerRow) (playlist : Option PlaylistRow) : Prop where
  uuid : row.get .uuid = .text player.uuid
  name : row.get .name = .text player.name
  firmware : row.get .firmware = .text player.firmware
  model : ∃ text, row.get .model = .text text ∧
    (player.model.name = text ∨ (∀ model : Model, model.name ≠ text) ∧ player.model = .unknown)
  status : ∃ code, row.get .status = .integer code ∧ player.status = .ofCode code
  id : row.get .playlist = .integer player.playlistId.value
  playlistName : joined .name playlist = .text player.playlistName ∨
    joined .name playlist = .null ∧ player.playlistName = ""
  mode : (∃ text, joined .mode playlist = .text text ∧ player.mode.name = text.map Char.toLower) ∨
    joined .mode playlist = .null ∧ player.mode = .master
  zones : (∃ layout, (joined .layout playlist).Writes Layout.ofJson? layout ∧
      player.zones = some layout) ∨
    (joined .layout playlist = .null ∨ joined .layout playlist = .text "") ∧ player.zones = none
  duration : (∃ n, joined .duration playlist = .integer n ∧
      player.duration.toNat = n.toInt.toNat) ∨
    joined .duration playlist = .null ∧ player.duration = 0
  refresh : ∃ n, row.get .refresh = .integer n ∧ player.refresh.toNat = n.toInt.toNat
  commands : (row.get .commands).Writes (Json.toList? Json.toString?) player.commands
  reports : (row.get .reports).Writes Reports.ofJson? player.reports
  screenTimes : (row.get .screenTimes).Writes (Json.toList? ScreenDay.ofJson?) player.screenTimes
  width : ∃ n, row.get .width = .integer n ∧ n.toInt = player.canvas.width.toNat
  height : ∃ n, row.get .height = .integer n ∧ n.toInt = player.canvas.height.toNat

private theorem toNat_clampedUnsigned (n : Int64) :
    (Number.clampedUnsigned n).toNat = n.toInt.toNat := by
  unfold Number.clampedUnsigned
  split
  · next h =>
    have hneg : n.toInt < 0 := Int64.lt_iff_toInt_lt.mp h
    rw [Int.toNat_of_nonpos hneg.le]
    rfl
  · next h => exact Int64.toNat_toUInt64_of_le (Int64.not_lt.mp h)

private theorem clampedUnsigned_eq_iff {n : Int64} {count : UInt64} :
    count = Number.clampedUnsigned n ↔ count.toNat = n.toInt.toNat := by
  rw [← toNat_clampedUnsigned, UInt64.toNat_inj]

private theorem model_eq_iff {text : String} {model : Model} :
    model = (Model.ofName? text).getD .unknown ↔
      model.name = text ∨ (∀ other : Model, other.name ≠ text) ∧ model = .unknown := by
  cases h : Model.ofName? text with
  | some found =>
    have hfound := List.find?_some h
    have hname : found.name = text := beq_iff_eq.mp hfound
    rw [Option.getD_some]
    constructor
    · rintro rfl
      exact .inl hname
    · rintro (hmodel | ⟨hnone, -⟩)
      · rw [← hmodel, Model.ofName?_name] at h
        exact Option.some.inj h
      · exact (hnone found hname).elim
  | none =>
    have hnone (other : Model) : other.name ≠ text := by
      rintro rfl
      rw [Model.ofName?_name] at h
      cases h
    rw [Option.getD_none]
    exact ⟨fun hmodel => .inr ⟨hnone, hmodel⟩, fun hmodel =>
      hmodel.elim (fun hname => (hnone _ hname).elim) And.right⟩

/-- What is read of a cell that may be empty, told by the cell alone. -/
theorem exists_elim_iff {cell : Cell} {put : α → Cell} {of : Option α → Prop} :
    (∃ found : Option α, cell = found.elim .null put ∧ of found) ↔
      (∃ a, cell = put a ∧ of (some a)) ∨ cell = .null ∧ of none := by
  rw [Option.exists, or_comm]
  rfl

private theorem readDocument_eq_ok_iff {decode : Json → Option α} {text : String} {a : α}
    (column uuid : String) :
    readDocument decode column uuid text = .ok a ↔ (Json.ofText? text).bind decode = some a := by
  unfold readDocument
  cases (Json.ofText? text).bind decode <;> simp

private theorem readLayout_some_eq_ok_iff {text uuid : String} {zones : Option Layout} :
    readLayout uuid (some text) = .ok zones ↔
      (∃ layout, (Json.ofText? text).bind Layout.ofJson? = some layout ∧ zones = some layout) ∨
        text = "" ∧ zones = none := by
  rw [readLayout]
  split
  · next hempty =>
    subst hempty
    have hread : Json.ofText? "" = none := by decide
    simp [hread, eq_comm]
  · next hne =>
    simp only [hne, false_and, or_false, ← readDocument_eq_ok_iff "multizone" uuid]
    cases readDocument Layout.ofJson? "multizone" uuid text <;> simp [Except.map, eq_comm]

private theorem zones_iff {cell : Cell} {zones : Option Layout} (uuid : String) :
    (∃ found : Option String, cell = found.elim .null .text ∧ readLayout uuid found = .ok zones) ↔
      (∃ layout, cell.Writes Layout.ofJson? layout ∧ zones = some layout) ∨
        (cell = .null ∨ cell = .text "") ∧ zones = none := by
  rw [exists_elim_iff]
  simp only [readLayout_some_eq_ok_iff]
  have hnone : readLayout uuid none = .ok zones ↔ zones = none := by
    simp [readLayout, eq_comm]
  rw [hnone]
  constructor
  · rintro (⟨text, hcell, ⟨layout, hread, hzones⟩ | ⟨rfl, hzones⟩⟩ | ⟨hcell, hzones⟩)
    · exact .inl ⟨layout, ⟨text, hcell, hread⟩, hzones⟩
    · exact .inr ⟨.inr hcell, hzones⟩
    · exact .inr ⟨.inl hcell, hzones⟩
  · rintro (⟨layout, ⟨text, hcell, hread⟩, hzones⟩ | ⟨hcell | hcell, hzones⟩)
    · exact .inl ⟨text, hcell, .inl ⟨layout, hread, hzones⟩⟩
    · exact .inr ⟨hcell, hzones⟩
    · exact .inl ⟨"", hcell, .inr ⟨rfl, hzones⟩⟩

private theorem mode_iff {cell : Cell} {mode : Mode} :
    (∃ found : Option String, cell = found.elim .null .text ∧
        found.elim (.ok .master) readMode = .ok mode) ↔
      (∃ text, cell = .text text ∧ mode.name = text.map Char.toLower) ∨
        cell = .null ∧ mode = .master := by
  rw [exists_elim_iff]
  simp only [Option.elim_some, Option.elim_none, readMode_eq_ok_iff, Except.ok.injEq,
    eq_comm (a := Mode.master)]

private theorem duration_iff {cell : Cell} {duration : UInt64} :
    (∃ found : Option Int64, cell = found.elim .null .integer ∧
        duration = Number.clampedUnsigned (found.getD 0)) ↔
      (∃ n, cell = .integer n ∧ duration.toNat = n.toInt.toNat) ∨ cell = .null ∧ duration = 0 := by
  rw [exists_elim_iff]
  simp only [Option.getD_some, Option.getD_none, clampedUnsigned_eq_iff]
  have hzero : duration.toNat = (0 : Int64).toInt.toNat ↔ duration = 0 :=
    UInt64.toNat_inj (b := 0)
  rw [hzero]

private theorem playlistName_iff {cell : Cell} {name : String} :
    (∃ found : Option String, cell = found.elim .null .text ∧ name = found.getD "") ↔
      cell = .text name ∨ cell = .null ∧ name = "" := by
  rw [exists_elim_iff]
  simp only [Option.getD_some, Option.getD_none, exists_eq_right']

/-- A player is read of a row exactly if it is what the cells hold. -/
theorem readPlayer_eq_ok_iff :
    readPlayer tables row = .ok player ↔ IsStored player row (tables.assigned? row) := by
  have hread : readPlayer tables row = .ok player ↔
      ∃ columns : PlayerColumns, columns.AreIn row (tables.assigned? row) ∧
        columns.player = .ok player :=
    bind_eq_ok_iff.trans (exists_congr fun _ => and_congr_left' readPlayerColumns_eq_ok_iff)
  rw [hread]
  simp only [PlayerColumns.player, bind_eq_ok_iff, readDocument_eq_ok_iff]
  constructor
  · rintro ⟨columns, h, commands, hcommands, reports, hreports, screenTimes, hscreenTimes, zones,
      hzones, mode, hmode, hplayer⟩
    cases hplayer
    exact {
      uuid := h.uuid
      name := h.name
      firmware := h.firmware
      model := ⟨_, h.model, model_eq_iff.mp rfl⟩
      status := ⟨_, h.status, rfl⟩
      id := h.id
      playlistName := playlistName_iff.mp ⟨_, h.playlistName, rfl⟩
      mode := mode_iff.mp ⟨_, h.playlistMode, hmode⟩
      zones := (zones_iff columns.uuid).mp ⟨_, h.layout, hzones⟩
      duration := duration_iff.mp ⟨_, h.duration, rfl⟩
      refresh := ⟨_, h.refresh, clampedUnsigned_eq_iff.mp rfl⟩
      commands := ⟨_, h.commands, hcommands⟩
      reports := ⟨_, h.reports, hreports⟩
      screenTimes := ⟨_, h.screenTimes, hscreenTimes⟩
      width := h.width
      height := h.height }
  · intro h
    obtain ⟨model, hmodel, hmodelRead⟩ := h.model
    obtain ⟨status, hstatus, hstatusRead⟩ := h.status
    obtain ⟨refresh, hrefresh, hrefreshRead⟩ := h.refresh
    obtain ⟨playlistName, hplaylistName, hplaylistNameRead⟩ := playlistName_iff.mpr h.playlistName
    obtain ⟨mode, hmode, hmodeRead⟩ := mode_iff.mpr h.mode
    obtain ⟨layout, hlayout, hlayoutRead⟩ := (zones_iff player.uuid).mpr h.zones
    obtain ⟨duration, hduration, hdurationRead⟩ := duration_iff.mpr h.duration
    obtain ⟨commands, hcommands, hcommandsRead⟩ := h.commands
    obtain ⟨reports, hreports, hreportsRead⟩ := h.reports
    obtain ⟨screenTimes, hscreenTimes, hscreenTimesRead⟩ := h.screenTimes
    refine ⟨⟨player.uuid, player.name, player.firmware, model, status, player.playlistId.value, refresh,
      commands, reports, screenTimes, player.canvas.width, player.canvas.height, playlistName, mode,
      duration, layout⟩, ⟨h.uuid, h.name, h.firmware, hmodel, hstatus, h.id, hrefresh, hcommands,
      hreports, hscreenTimes, h.width, h.height, hplaylistName, hmode, hduration, hlayout⟩, _,
      hcommandsRead, _, hreportsRead, _, hscreenTimesRead, _, hlayoutRead, _, hmodeRead, ?_⟩
    dsimp only
    rw [← model_eq_iff.mpr hmodelRead, ← hstatusRead, ← hplaylistNameRead, ← hdurationRead,
      ← clampedUnsigned_eq_iff.mpr hrefreshRead]
    rfl

private theorem judges_readPlayer (hrow : row.get .uuid = .text uuid) :
    Judges (playerChecks uuid row (tables.assigned? row)) (readPlayer tables row) := by
  refine (judges_readPlayerColumns row _).bind fun columns hcolumns => ?_
  have h := readPlayerColumns_eq_ok_iff.mp hcolumns
  have huuid : columns.uuid = uuid := Cell.text.inj (h.uuid.symm.trans hrow)
  exact huuid ▸ judges_player h

private theorem getPlayer_of_row (h : tables.player? uuid = some row) :
    getPlayer tables uuid = failed ((readPlayer tables row).map some) := by
  rw [getPlayer, h]

private theorem failed_map_eq_ok_iff {answer : Except StorageFault α} {found : Option α} :
    failed (answer.map some) = .ok found ↔ ∃ a, answer = .ok a ∧ found = some a := by
  cases answer <;> simp [failed, Except.map, eq_comm]

private theorem failed_map_eq_error_iff {answer : Except StorageFault α} {error : Error} :
    failed (answer.map some) = .error error ↔ ∃ fault, answer = .error fault ∧ error = .database fault := by
  cases answer <;> simp [failed, Except.map, eq_comm]

/-- A poll that finds a row that cannot be read makes no call but the one that found it. -/
theorem dispatch_of_unreadable {error : Error} {repository : Poll.Repository Tables}
    {request : Poll.Request} (hfind : repository.find = Store.repository.find)
    (hdevice : ¬ Poll.Unidentified (Identity.ofUserAgent request.userAgent))
    (huuid : (Identity.ofUserAgent request.userAgent).uuid = uuid)
    (h : getPlayer tables uuid = .error error) (dispatcher : Poll.Dispatcher)
    (sources : Content.Sources) (now : Calendar.Clock) (fs : Files.FileSystem) :
    dispatcher.dispatch repository sources now request tables fs = (.fallback, tables, fs) := by
  have hreply : repository.find (Identity.ofUserAgent request.userAgent).uuid tables = .fails error := by
    rw [hfind, huuid]
    show replyOf (getPlayer tables uuid) = _
    rw [h]
    rfl
  exact (Poll.Ends.lost hdevice (.find (.inl ⟨error, hreply⟩))).eq

/-- The player of a row is read if all that is required of the row and of that of its playlist holds;
if not, the first requirement that fails is reported, and polls leave the row as it is. -/
theorem player_read_or_first_fault (h : tables.player? uuid = some row) :
    let playlist := tables.assigned? row
    let checks := playerChecks uuid row playlist
    (∀ found, getPlayer tables uuid = .ok found ↔
        ∃ player, found = some player ∧ IsStored player row playlist) ∧
      ((∃ player, getPlayer tables uuid = .ok (some player)) ↔ ∀ check ∈ checks, check.holds) ∧
      (∀ error, getPlayer tables uuid = .error error ↔
        ∃ fault, FirstFault checks fault ∧ error = .database fault) ∧
      ∀ (repository : Poll.Repository Tables) (request : Poll.Request),
        repository.find = Store.repository.find →
        (Identity.ofUserAgent request.userAgent).uuid = uuid →
        ¬ Poll.Unidentified (Identity.ofUserAgent request.userAgent) →
        ¬ (∀ check ∈ checks, check.holds) →
        ∀ dispatcher sources now fs, Poll.Dispatcher.dispatch dispatcher repository sources now
          request tables fs = (.fallback, tables, fs) := by
  have hrow : row.get .uuid = .text uuid := Tables.isPlayer_iff.mp (List.find?_some h)
  have hjudges : Judges (playerChecks uuid row (tables.assigned? row)) (readPlayer tables row) :=
    judges_readPlayer hrow
  have hsucceeds : (∃ player, getPlayer tables uuid = .ok (some player)) ↔
      ∀ check ∈ playerChecks uuid row (tables.assigned? row), check.holds := by
    rw [← hjudges.succeeds, getPlayer_of_row h]
    simp [failed_map_eq_ok_iff]
  refine ⟨fun found => ?_, hsucceeds, fun error => ?_, ?_⟩
  · rw [getPlayer_of_row h, failed_map_eq_ok_iff]
    exact exists_congr fun player => by rw [readPlayer_eq_ok_iff, and_comm]
  · rw [getPlayer_of_row h, failed_map_eq_error_iff]
    exact exists_congr fun fault => and_congr_left' (hjudges.fails fault)
  · intro repository request hfind huuid hdevice hchecks dispatcher sources now fs
    cases hget : getPlayer tables uuid with
    | error error => exact dispatch_of_unreadable hfind hdevice huuid hget dispatcher sources now fs
    | ok found =>
      obtain ⟨player, -, rfl⟩ := failed_map_eq_ok_iff.mp ((getPlayer_of_row h).symm.trans hget)
      exact (hchecks (hsucceeds.mp ⟨player, hget⟩)).elim

/-- A row with commands that are no document and a width below zero. -/
def garbledRow : PlayerRow :=
  ((newPlayerRow 1 "dev-1" "Lobby" "v0.5" .garlic).set .commands (.text "reboot")).set .width
    (.integer (-1))

def garbled : Tables := ⟨[garbledRow], [], .none⟩

theorem player_read_or_first_fault_of_garbled :
    getPlayer garbled "dev-1" = .error (.database (.outOfRange (-1) 10)) ∧
      Poll.bareHub.dispatch repository (sources garbled fun _ => .error (.external ""))
        (.ofSeconds 300) Poll.updatedLobby garbled .empty = (.fallback, garbled, .empty) := by
  obtain ⟨-, hsucceeds, hfails, hpoll⟩ := player_read_or_first_fault
    (show garbled.player? "dev-1" = some garbledRow from rfl)
  have hget : getPlayer garbled "dev-1" = .error (.database (.outOfRange (-1) 10)) := by
    refine (hfails _).mpr ⟨_, ⟨(columnChecks garbledRow none).take 10,
      Form.word.check (PlayerColumn.width.at 10 garbledRow), _, rfl, ?_, ?_, rfl⟩, rfl⟩
    · simp [columnChecks, Form.check, Form.Fits, PlayerColumn.at, garbledRow, newPlayerRow]
    · rintro ⟨n, hn, hlow, -⟩
      cases hn
      exact absurd hlow (by decide)
  have hknown : (Identity.ofUserAgent Poll.updatedLobby.userAgent).isKnown = true := by decide +kernel
  refine ⟨hget, hpoll repository Poll.updatedLobby rfl (by decide +kernel)
    (Poll.isKnown_iff.mp hknown) ?_ _ _ _ _⟩
  rw [← hsucceeds, hget]
  rintro ⟨player, hplayer⟩
  cases hplayer

end Signage.Store
