import Signage.Proofs.Outcomes
import Signage.Proofs.Store.Administration

/-!
What a device reports is stored so that it is read back, with all else about its player as it was.
-/
namespace Signage.Store
variable {tables tables' : Tables} {row : PlayerRow} {playlist : Option PlaylistRow}
  {columns : PlayerColumns} {player : Player} {uuid name firmware : String} {model : Model}

/-- A row is found after a change that leaves its uuid. -/
theorem Tables.player?_updatePlayer {change : PlayerRow → PlayerRow}
    (h : ∀ row, (change row).get .uuid = row.get .uuid) (tables : Tables) (uuid other : String) :
    (tables.updatePlayer uuid change).player? other =
      if other = uuid then (tables.player? uuid).map change else tables.player? other := by
  have hsame : (isPlayer other ∘ fun row => if isPlayer uuid row then change row else row) =
      isPlayer other := by
    funext row
    rw [Function.comp_apply]
    split
    · rw [isPlayer, h, ← isPlayer]
    · rfl
  rw [player?, updatePlayer, List.find?_map, hsame]
  split
  · next heq =>
    subst heq
    refine Option.map_congr fun row hrow => ?_
    rw [if_pos (List.find?_some hrow)]
  · next hne =>
    rw [player?]
    cases hfind : tables.players.find? (isPlayer other) with
    | none => rfl
    | some row =>
      have hrow : row.get .uuid = .text other := isPlayer_iff.mp (List.find?_some hfind)
      have hnot : ¬ isPlayer uuid row = true := by
        rw [isPlayer_iff, hrow]
        intro htext
        exact hne (Cell.text.inj htext)
      rw [Option.map_some, if_neg hnot]

/-- The row as it reports itself. -/
def reported (firmware : String) (model : Model) (row : PlayerRow) : PlayerRow :=
  (row.set .firmware (.text firmware)).set .model (.text model.name)

private theorem readPlayerColumns_reported (h : readPlayerColumns row playlist = .ok columns) :
    readPlayerColumns (reported firmware model row) playlist =
      .ok { columns with firmware := firmware, model := model.name } := by
  simp only [readPlayerColumns, bind_eq_ok_iff] at h
  obtain ⟨uuid, huuid, name, hname, _, -, _, -, status, hstatus, id, hid, refresh, hrefresh, commands,
    hcommands, reports, hreports, screenTimes, hscreenTimes, width, hwidth, height, hheight,
    playlistName, hplaylistName, mode, hmode, duration, hduration, layout, hlayout, hcolumns⟩ := h
  cases hcolumns
  have hcell {column : PlayerColumn} {index : Nat} (hf : column ≠ .firmware) (hm : column ≠ .model) :
      column.at index (reported firmware model row) = column.at index row := by
    simp [PlayerColumn.at, reported, hf, hm]
  have hfirmware : (PlayerColumn.firmware.at 2 (reported firmware model row)).text = .ok firmware := by
    simp [PlayerColumn.at, reported, Column.text]
  have hmodel : (PlayerColumn.model.at 3 (reported firmware model row)).text = .ok model.name := by
    simp [PlayerColumn.at, reported, Column.text]
  simp only [readPlayerColumns, hfirmware, hmodel]
  simp only [hcell, ne_eq, reduceCtorEq, not_false_eq_true, huuid, hname, hstatus, hid, hrefresh,
    hcommands, hreports, hscreenTimes, hwidth, hheight, hplaylistName, hmode, hduration, hlayout]
  rfl

private theorem player_reported (h : columns.player = .ok player) :
    ({ columns with firmware := firmware, model := model.name } : PlayerColumns).player =
      .ok { player with firmware := firmware, model := model } := by
  simp only [PlayerColumns.player, bind_eq_ok_iff] at h
  obtain ⟨commands, hcommands, reports, hreports, screenTimes, hscreenTimes, zones, hzones, mode,
    hmode, hplayer⟩ := h
  cases hplayer
  simp only [PlayerColumns.player, hcommands, hreports, hscreenTimes, hzones, hmode,
    Model.ofName?_name]
  rfl

/-- What is read of a row that reports itself is what was read before, as it reports itself. -/
theorem readPlayer_reported (h : readPlayer tables row = .ok player)
    (hplaylists : tables'.playlists = tables.playlists) :
    readPlayer tables' (reported firmware model row) =
      .ok { player with firmware := firmware, model := model } := by
  obtain ⟨columns, hcolumns, hplayer⟩ := bind_eq_ok_iff.mp h
  have hassigned : tables'.assigned? (reported firmware model row) = tables.assigned? row := by
    simp [Tables.assigned?, Tables.playlist?, reported, hplaylists]
  rw [readPlayer, hassigned, readPlayerColumns_reported hcolumns]
  exact player_reported hplayer

/-- The player of a uuid is read from the first row of the uuid. -/
theorem getPlayer_eq_some_iff : getPlayer tables uuid = .ok (some player) ↔
    ∃ row, tables.player? uuid = some row ∧ readPlayer tables row = .ok player := by
  unfold getPlayer
  cases tables.player? uuid with
  | none => simp
  | some row => cases hread : readPlayer tables row <;> simp [failed, hread, Except.map]

/-- A player that a device reports of is read as the device reports it. -/
theorem getPlayer_touchPlayer (h : getPlayer tables uuid = .ok (some player)) (firmware : String)
    (model : Model) :
    getPlayer (touchPlayer tables uuid firmware model) uuid =
      .ok (some { player with firmware := firmware, model := model }) := by
  obtain ⟨row, hfind, hread⟩ := getPlayer_eq_some_iff.mp h
  have huuid (row : PlayerRow) : (reported firmware model row).get .uuid = row.get .uuid := by
    simp [reported]
  refine getPlayer_eq_some_iff.mpr ⟨reported firmware model row, ?_, readPlayer_reported hread rfl⟩
  rw [← Option.map_some, ← hfind]
  exact (Tables.player?_updatePlayer huuid tables uuid uuid).trans (if_pos rfl)

/-- A uuid that no row has gets a new row, behind the others. -/
theorem addPlayer_eq (h : tables.player? uuid = none) (name firmware : String) (model : Model) :
    addPlayer tables uuid name firmware model = { tables with
      players := tables.players ++ [newPlayerRow tables.nextNumber uuid name firmware model] } := by
  rw [addPlayer, h]

/-- A player that is not stored has a row once it is added, and no other player has it. -/
theorem player?_addPlayer (h : tables.player? uuid = none) (name firmware : String) (model : Model)
    (other : String) :
    (addPlayer tables uuid name firmware model).player? other =
      if other = uuid then some (newPlayerRow tables.nextNumber uuid name firmware model)
      else tables.player? other := by
  rw [addPlayer_eq h]
  unfold Tables.player? at h ⊢
  rw [List.find?_append]
  split
  · next heq =>
    subst heq
    simp [h, Tables.isPlayer, newPlayerRow]
  · next hne =>
    have hnew : Tables.isPlayer other (newPlayerRow tables.nextNumber uuid name firmware model) =
        false := by
      simp [Tables.isPlayer, newPlayerRow, Ne.symm hne]
    simp [hnew]

private theorem getPlayer_eq_none_iff :
    getPlayer tables uuid = .ok none ↔ tables.player? uuid = none := by
  unfold getPlayer
  cases tables.player? uuid with
  | none => simp
  | some row => cases hread : readPlayer tables row <;> simp [failed, hread, Except.map]

/-- A new row holds what its device reports. -/
theorem report_of_newPlayerRow {number : Int64}
    (h : readPlayer tables (newPlayerRow number uuid name firmware model) = .ok player) :
    player.firmware = firmware ∧ player.model = model := by
  have hsame : reported firmware model (newPlayerRow number uuid name firmware model) =
      newPlayerRow number uuid name firmware model := by
    ext column
    cases column <;> rfl
  have hread : readPlayer tables (reported firmware model _) = _ := readPlayer_reported h rfl
  rw [hsame, h] at hread
  exact ⟨congrArg Player.firmware (Except.ok.inj hread), congrArg Player.model (Except.ok.inj hread)⟩

/-- A player that is not stored is registered as what is read of it then, or as nothing that could
be read. -/
theorem registerPlayer_cases (h : getPlayer tables uuid = .ok none) (name firmware : String)
    (model : Model) :
    let added := addPlayer tables uuid name firmware model
    (∃ player, registerPlayer tables uuid name firmware model = (.ok player, added) ∧
      getPlayer added uuid = .ok (some player) ∧ player.firmware = firmware ∧
        player.model = model) ∨
      ∃ error, registerPlayer tables uuid name firmware model = (.error error, added) ∧
        getPlayer added uuid = .error error := by
  have hrow := player?_addPlayer (getPlayer_eq_none_iff.mp h) name firmware model uuid
  rw [if_pos rfl] at hrow
  dsimp only
  unfold registerPlayer
  cases hread : readPlayer (addPlayer tables uuid name firmware model)
    (newPlayerRow tables.nextNumber uuid name firmware model) with
  | ok player =>
    have hget : getPlayer (addPlayer tables uuid name firmware model) uuid = .ok (some player) :=
      getPlayer_eq_some_iff.mpr ⟨_, hrow, hread⟩
    dsimp only
    rw [hget]
    exact .inl ⟨player, rfl, rfl, report_of_newPlayerRow hread⟩
  | error fault =>
    have hget : getPlayer (addPlayer tables uuid name firmware model) uuid =
        .error (.database fault) := by
      rw [getPlayer, hrow]
      dsimp only
      rw [hread]
      rfl
    dsimp only
    rw [hget]
    exact .inr ⟨.database fault, rfl, rfl⟩

end Signage.Store
