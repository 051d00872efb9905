import Mathlib.Data.List.Basic
import Signage.Proofs.Store.Reading

/-!
Every request answers as it is meant to and leaves tables that hold what is meant to be remembered
then. So whatever is read after any number of requests is what the registry says.
-/
namespace Signage.Store
variable {registry : Registry} {tables : Tables} {uuid : String} {id : PlaylistId}

/-! ### Playlists -/

private theorem lookup_cons_eq (entry : PlaylistId × PlaylistRow)
    (entries : List (PlaylistId × PlaylistRow)) (id : PlaylistId) :
    (entry :: entries).lookup id = if id = entry.1 then some entry.2 else entries.lookup id := by
  obtain ⟨key, row⟩ := entry
  by_cases h : id = key
  · simp [h]
  · have hbeq : (id == key) = false := beq_false_of_ne h
    simp [List.lookup_cons, hbeq, h]

private theorem Tables.playlist?_updatePlaylist (tables : Tables) (id other : PlaylistId)
    (change : PlaylistRow → PlaylistRow) :
    (tables.updatePlaylist id change).playlist? other =
      if other = id then (tables.playlist? id).map change else tables.playlist? other := by
  rw [playlist?, updatePlaylist, playlist?, playlist?]
  dsimp only
  induction tables.playlists with
  | nil => simp
  | cons entry entries ih =>
    have hentry : (if entry.1 = id then (id, change entry.2) else entry) =
        (entry.1, if entry.1 = id then change entry.2 else entry.2) := by
      split
      · next heq => rw [heq]
      · rfl
    rw [List.map_cons, hentry, lookup_cons_eq, lookup_cons_eq, lookup_cons_eq, ih]
    by_cases hid : other = id
    · subst hid
      by_cases hkey : other = entry.1
      · simp [← hkey]
      · simp [hkey]
    · by_cases hkey : other = entry.1
      · simp [hid, ← hkey]
      · simp [hid, hkey]

private theorem foldl_max_eq {ids : List Int} {bound : Int} (h : ∀ id ∈ ids, id ≤ bound) :
    ids.foldl max bound = bound := by
  induction ids with
  | nil => rfl
  | cons id ids ih =>
    rw [List.foldl_cons, max_eq_left (h id List.mem_cons_self)]
    exact ih fun other hother => h other (List.mem_cons_of_mem _ hother)

/-- Playlists are numbered in the order in which they were created. -/
theorem Registry.IsIn.greatestId (h : registry.IsIn tables) : tables.greatestId = registry.count := by
  rw [Tables.greatestId, h.lastId]
  refine foldl_max_eq fun id hid => ?_
  obtain ⟨entry, hentry, rfl⟩ := List.mem_map.mp hid
  exact h.numbers entry hentry

private theorem newPlaylistRow_eq (name : String) (mode : Mode) (duration : UInt64) :
    newPlaylistRow name mode duration = (PlaylistEntry.created name mode duration).row := by
  ext column
  cases column <;> rfl

/-- A playlist under the next number is one more that is remembered. -/
theorem Registry.IsIn.create (h : registry.IsIn tables) {number : Int64}
    (hnumber : number.toInt = registry.count + 1) (entry : PlaylistEntry) :
    ({ registry.putPlaylist ⟨number⟩ entry with count := registry.count + 1 } : Registry).IsIn
      { tables with playlists := tables.playlists ++ [(⟨number⟩, entry.row)], lastId := ⟨number⟩ } where
  lastId := hnumber
  numbers := by
    intro stored hstored
    rcases List.mem_append.mp hstored with hold | hnew
    · have hle := h.numbers stored hold
      dsimp only
      omega
    · rw [List.mem_singleton.mp hnew]
      exact hnumber.le
  playlist := by
    intro id
    have hold := h.playlist id
    rw [Tables.playlist?] at hold ⊢
    rw [List.lookup_append, hold]
    refine Eq.trans ?_ (congrArg _ (registry.playlists_putPlaylist ⟨number⟩ id entry).symm)
    split
    · next hid =>
      subst hid
      have hnone : tables.playlists.lookup ⟨number⟩ = none := by
        refine List.lookup_eq_none_iff.mpr fun stored hstored => ?_
        have hle := h.numbers stored hstored
        rw [bne_iff_ne]
        intro heq
        rw [← heq] at hle
        dsimp only at hle
        omega
      rw [← hold, hnone, lookup_cons_eq, if_pos rfl]
      rfl
    · next hid =>
      rw [lookup_cons_eq, if_neg hid]
      exact Option.or_none
  player := h.player

/-- A change to the row of a playlist is a change to its entry. -/
theorem Registry.IsIn.updatePlaylist (h : registry.IsIn tables) {entry : PlaylistEntry}
    (hentry : registry.playlists id = some entry) {changeRow : PlaylistRow → PlaylistRow}
    {change : PlaylistEntry → PlaylistEntry}
    (hrow : ∀ entry, changeRow entry.row = (change entry).row) :
    (registry.putPlaylist id (change entry)).IsIn (tables.updatePlaylist id changeRow) where
  lastId := h.lastId
  numbers := by
    intro stored hstored
    obtain ⟨old, hold, rfl⟩ := List.mem_map.mp hstored
    split
    · next heq => exact heq ▸ h.numbers old hold
    · exact h.numbers old hold
  playlist := by
    intro other
    rw [Tables.playlist?_updatePlaylist, h.playlist, hentry, h.playlist, playlists_putPlaylist]
    split
    · rw [Option.map_some, Option.map_some, Option.map_some, hrow]
    · rfl
  player := h.player

private theorem setContent_row (columns : Content.Columns) (entry : PlaylistEntry) :
    ((entry.row.set .items (.text columns.items)).set .prefetch (.text columns.prefetch)).set .exclusive
      (.text columns.exclusive) = { entry with columns : PlaylistEntry }.row := by
  ext column
  cases column <;> rfl

private theorem setLayout_row (layout : Layout) (entry : PlaylistEntry) :
    entry.row.set .layout (.text layout.toJson.toText) =
      { entry with layout := some layout : PlaylistEntry }.row := by
  ext column
  cases column <;> rfl

/-! ### Players -/

private theorem PlayerEntry.isIn_newPlayerRow (number : Int64) (uuid name firmware : String)
    (model : Model) :
    (PlayerEntry.registered name firmware model).IsIn uuid
      (newPlayerRow number uuid name firmware model) := by
  intro column
  -- A new row holds documents that nothing wrote; they are read as they stand.
  cases column
  case number => trivial
  case commands => exact ⟨"[]", rfl, rfl⟩
  case reports => exact ⟨"\x7b\x7d", rfl, rfl⟩
  case screenTimes => exact ⟨"[]", rfl, rfl⟩
  all_goals rfl

private theorem PlayerEntry.IsIn.reported {entry : PlayerEntry} {row : PlayerRow}
    (h : entry.IsIn uuid row)
    (firmware : String) (model : Model) :
    { entry with firmware, model : PlayerEntry }.IsIn uuid (Store.reported firmware model row) := by
  intro column
  have hcolumn := h column
  cases column
  case firmware => rfl
  case model => rfl
  all_goals exact hcolumn

private theorem Setting.stores_cell (setting : Setting) (entry : PlayerEntry) (uuid : String) :
    (entry.given setting).Stores uuid setting.column setting.cell := by
  cases setting with
  | status status => exact rfl
  | playlist id => exact rfl
  | refresh seconds => exact rfl
  | commands commands => exact writes_toText (Json.plain_strings commands) (Json.toList?_strings commands)
  | reports reports => exact writes_toText reports.plain_toJson reports.ofJson?_toJson
  | screenTimes days =>
    exact writes_toText (.map ScreenDay.plain_toJson days) (Json.toList?_map ScreenDay.ofJson?_toJson days)

/-- A setting leaves what is remembered in the other columns. -/
theorem Setting.stores_of_ne {setting : Setting} {column : PlayerColumn} (hne : column ≠ setting.column)
    {entry : PlayerEntry} {cell : Cell} (h : entry.Stores uuid column cell) :
    (entry.given setting).Stores uuid column cell := by
  cases setting <;> cases column <;> first | exact h | exact absurd rfl hne

private theorem PlayerEntry.IsIn.given {entry : PlayerEntry} {row : PlayerRow}
    (h : entry.IsIn uuid row)
    (setting : Setting) : (entry.given setting).IsIn uuid (row.set setting.column setting.cell) := by
  intro column
  by_cases hcolumn : column = setting.column
  · subst hcolumn
    rw [Record.get_set_same]
    exact setting.stores_cell entry uuid
  · rw [Record.get_set_of_ne _ _ hcolumn]
    exact Setting.stores_of_ne hcolumn (h column)

/-- A change to the row of a player is a change to its entry. -/
theorem Registry.IsIn.updatePlayer (h : registry.IsIn tables) {entry changed : PlayerEntry}
    (hentry : registry.players uuid = some entry) {change : PlayerRow → PlayerRow}
    (huuid : ∀ row, (change row).get .uuid = row.get .uuid)
    (hrow : ∀ row, entry.IsIn uuid row → changed.IsIn uuid (change row)) :
    (registry.putPlayer uuid changed).IsIn (tables.updatePlayer uuid change) where
  lastId := h.lastId
  numbers := h.numbers
  playlist := h.playlist
  player := by
    intro other
    rw [Tables.player?_updatePlayer huuid, players_putPlayer]
    split
    · next heq =>
      subst heq
      have hplayer := h.player other
      rw [hentry] at hplayer
      generalize tables.player? other = stored at hplayer ⊢
      cases hplayer with
      | some hin => exact .some (hrow _ hin)
    · exact h.player other

private theorem Registry.IsIn.player?_eq_none_iff (h : registry.IsIn tables) (uuid : String) :
    tables.player? uuid = none ↔ registry.players uuid = none := by
  have hplayer := h.player uuid
  generalize registry.players uuid = entry, tables.player? uuid = row at hplayer ⊢
  cases hplayer <;> simp

private theorem Registry.IsIn.exists_row (h : registry.IsIn tables) {entry : PlayerEntry}
    (hentry : registry.players uuid = some entry) : ∃ row, tables.player? uuid = some row := by
  refine Option.ne_none_iff_exists'.mp ?_
  rw [ne_eq, h.player?_eq_none_iff, hentry]
  exact Option.some_ne_none entry

/-- A player is added as it was just registered, unless it is remembered. -/
theorem Registry.IsIn.addPlayer (h : registry.IsIn tables) (uuid name firmware : String)
    (model : Model) :
    (registry.putPlayer uuid
      ((registry.players uuid).getD (.registered name firmware model))).IsIn
      (Store.addPlayer tables uuid name firmware model) := by
  cases hentry : registry.players uuid with
  | some entry =>
    obtain ⟨row, hrow⟩ := h.exists_row hentry
    rw [Option.getD_some, putPlayer_eq_self hentry, Store.addPlayer, hrow]
    exact h
  | none =>
    have hnone := (h.player?_eq_none_iff uuid).mpr hentry
    have hplayer := player?_addPlayer hnone name firmware model
    rw [addPlayer_eq hnone] at hplayer ⊢
    refine { lastId := h.lastId, numbers := h.numbers, playlist := h.playlist, player := ?_ }
    intro other
    rw [Option.getD_none, players_putPlayer, hplayer]
    split
    · next heq =>
      rw [heq]
      exact .some (PlayerEntry.isIn_newPlayerRow _ uuid name firmware model)
    · exact h.player other

/-! ### Requests -/

/-- What was done is what was meant: the answer is the same, and the tables hold what is remembered. -/
structure Agrees (done : Except Error Answer × Tables) (meant : Except Error Answer × Registry) : Prop where
  answer : done.1 = meant.1
  isIn : meant.2.IsIn done.2

/-- A playlist is created as it is meant to be. -/
theorem agrees_create (h : registry.IsIn tables) (name : String) (mode : Mode) (duration : UInt64) :
    Agrees ((Request.create name mode duration).perform tables) (registry.create name mode duration) := by
  rw [Request.perform, createPlaylist, h.greatestId, Registry.create, newPlaylistRow_eq]
  cases hnumber : Number.int64? (registry.count + 1) with
  | none => exact ⟨rfl, h⟩
  | some number => exact ⟨rfl, h.create (Number.toInt_of_int64? hnumber) _⟩

private theorem agrees_changePlaylist (h : registry.IsIn tables)
    {changeRow : PlaylistRow → PlaylistRow} {change : PlaylistEntry → PlaylistEntry}
    (hrow : ∀ entry, changeRow entry.row = (change entry).row) (id : PlaylistId) :
    Agrees (Request.settled tables (changePlaylist tables id changeRow))
      (registry.changePlaylist id change) := by
  have hfind := h.playlist id
  rw [changePlaylist, Registry.changePlaylist]
  cases hentry : registry.playlists id with
  | none =>
    rw [hentry] at hfind
    rw [hfind]
    exact ⟨rfl, h⟩
  | some entry =>
    rw [hentry] at hfind
    rw [hfind]
    exact ⟨rfl, h.updatePlaylist hentry hrow⟩

private theorem agrees_register (h : registry.IsIn tables) (uuid name firmware : String)
    (model : Model) :
    Agrees ((Request.register uuid name firmware model).perform tables)
      (registry.register uuid name firmware model) := by
  have hadded := h.addPlayer uuid name firmware model
  refine ⟨?_, hadded⟩
  rw [Request.perform, registerPlayer, getPlayer_eq hadded, Registry.player?, Registry.players_putPlayer,
    if_pos rfl]
  rfl

private theorem agrees_touch (h : registry.IsIn tables) (uuid firmware : String) (model : Model) :
    Agrees ((Request.touch uuid firmware model).perform tables) (registry.touch uuid firmware model) := by
  rw [Request.perform, Registry.touch]
  cases hentry : registry.players uuid with
  | none =>
    rw [touchPlayer, Tables.updatePlayer_eq_self ((h.player?_eq_none_iff uuid).mpr hentry)]
    exact ⟨rfl, h⟩
  | some entry =>
    have huuid (row : PlayerRow) : (reported firmware model row).get .uuid = row.get .uuid := rfl
    exact ⟨rfl, h.updatePlayer hentry huuid fun _ hrow => hrow.reported firmware model⟩

/-- A player is given a setting as it is meant to be. -/
theorem agrees_give (h : registry.IsIn tables) (uuid : String) (setting : Setting) :
    Agrees ((Request.give uuid setting).perform tables) (registry.give uuid setting) := by
  rw [Request.perform, Setting.give_eq, setColumn, Registry.give]
  cases hentry : registry.players uuid with
  | none =>
    rw [(h.player?_eq_none_iff uuid).mpr hentry]
    exact ⟨rfl, h⟩
  | some entry =>
    obtain ⟨row, hrow⟩ := h.exists_row hentry
    have huuid (row : PlayerRow) :
        (row.set setting.column setting.cell).get .uuid = row.get .uuid := by
      cases setting <;> rfl
    rw [hrow]
    exact ⟨rfl, h.updatePlayer hentry huuid fun _ hrow => hrow.given setting⟩

private theorem agrees_perform (h : registry.IsIn tables) (request : Request) :
    Agrees (request.perform tables) (request.meant registry) := by
  cases request with
  | create name mode duration => exact agrees_create h name mode duration
  | setContent id columns => exact agrees_changePlaylist h (setContent_row columns) id
  | setLayout id layout => exact agrees_changePlaylist h (setLayout_row layout) id
  | register uuid name firmware model => exact agrees_register h uuid name firmware model
  | touch uuid firmware model => exact agrees_touch h uuid firmware model
  | give uuid setting => exact agrees_give h uuid setting

/-- Requests answer as they are meant to one after the other, and what is remembered after them is in
the tables. -/
theorem run_agrees (h : registry.IsIn tables) (requests : List Request) :
    (Request.run Request.perform tables requests).1 = (Request.run Request.meant registry requests).1 ∧
      (Request.run Request.meant registry requests).2.IsIn
        (Request.run Request.perform tables requests).2 := by
  -- Each request leaves tables and registry in agreement again, so the rest starts as the first did.
  induction requests generalizing registry tables with
  | nil => exact ⟨rfl, h⟩
  | cons request requests ih =>
    have hfirst := agrees_perform h request
    obtain ⟨hanswers, hafter⟩ := ih hfirst.isIn
    exact ⟨congrArg₂ List.cons hfirst.answer hanswers, hafter⟩

/-- Empty tables hold an empty registry. -/
theorem empty_isIn : Registry.empty.IsIn Tables.empty where
  lastId := rfl
  numbers := fun _ h => absurd h List.not_mem_nil
  playlist := fun _ => rfl
  player := fun _ => .none

/-- A new store is one registry to whoever asks it: after any requests, all of them were answered as
they are meant to be, and every player, every playlist and all markup is read as it is remembered. -/
theorem store_refines_registry (requests : List Request) :
    let done := Request.run Request.perform Tables.empty requests
    let meant := Request.run Request.meant Registry.empty requests
    done.1 = meant.1 ∧
    (∀ uuid, getPlayer done.2 uuid = .ok (meant.2.player? uuid)) ∧
    (∀ id, getPlaylist done.2 id = .ok (meant.2.playlist? id)) ∧
    ∀ id, getContent done.2 id = .ok (meant.2.content? id) := by
  obtain ⟨hanswers, hafter⟩ := run_agrees empty_isIn requests
  exact ⟨hanswers, getPlayer_eq hafter, getPlaylist_eq hafter, getContent_eq hafter⟩

end Signage.Store
