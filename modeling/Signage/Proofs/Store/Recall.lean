import Signage.Proofs.Store.Refinement

/-!
What is created or set is what is read later, whatever else is asked for in between. Only a number of
seconds that a signed column has no room for is not recalled.
-/
namespace Signage.Store
variable {registry : Registry} {tables changed : Tables} {uuid : String}
  {playlist : Content.Playlist}

/-! ### Playlists -/

/-- The playlist is remembered under its identifier, which is one of those that were given. -/
structure Registry.Remembers (registry : Registry) (playlist : Content.Playlist) : Prop where
  given : playlist.id.value.toInt ≤ registry.count
  entry : ∃ entry, registry.playlists playlist.id = some entry ∧
    playlist = ⟨playlist.id, entry.name, entry.mode, entry.duration⟩

/-- A new playlist has a number of its own. -/
theorem Registry.Remembers.create (h : registry.Remembers playlist) (name : String) (mode : Mode)
    (duration : UInt64) : (registry.create name mode duration).2.Remembers playlist := by
  rw [Registry.create]
  cases hnumber : Number.int64? (registry.count + 1) with
  | none => exact h
  | some number =>
    have hgiven := h.given
    have hnew := Number.toInt_of_int64? hnumber
    have hother : playlist.id ≠ ⟨number⟩ := by
      intro hid
      rw [hid] at hgiven
      dsimp only at hgiven
      omega
    refine ⟨?_, ?_⟩
    · dsimp only
      omega
    · dsimp only
      rw [Registry.playlists_putPlaylist, if_neg hother]
      exact h.entry

/-- Nothing that changes a playlist changes its name, its mode or its duration. -/
theorem Registry.Remembers.changePlaylist (h : registry.Remembers playlist) (id : PlaylistId)
    {change : PlaylistEntry → PlaylistEntry}
    (hchange : ∀ entry, (change entry).name = entry.name ∧ (change entry).mode = entry.mode ∧
      (change entry).duration = entry.duration) :
    (registry.changePlaylist id change).2.Remembers playlist := by
  obtain ⟨entry, hentry, hplaylist⟩ := h.entry
  rw [Registry.changePlaylist]
  cases hfound : registry.playlists id with
  | none => exact h
  | some found =>
    refine ⟨h.given, ?_⟩
    dsimp only
    rw [Registry.playlists_putPlaylist]
    split
    · next hid =>
      subst hid
      rw [hentry] at hfound
      cases hfound
      obtain ⟨hname, hmode, hduration⟩ := hchange entry
      exact ⟨change entry, rfl, by rw [hname, hmode, hduration]; exact hplaylist⟩
    · exact ⟨entry, hentry, hplaylist⟩

private theorem Registry.Remembers.meant (h : registry.Remembers playlist) (request : Request) :
    (request.meant registry).2.Remembers playlist := by
  cases request with
  | create name mode duration => exact h.create name mode duration
  | setContent id columns => exact h.changePlaylist id fun _ => ⟨rfl, rfl, rfl⟩
  | setLayout id layout => exact h.changePlaylist id fun _ => ⟨rfl, rfl, rfl⟩
  | register uuid name firmware model => exact ⟨h.given, h.entry⟩
  | touch uuid firmware model =>
    rw [Request.meant, Registry.touch]
    split <;> exact ⟨h.given, h.entry⟩
  | give uuid setting =>
    rw [Request.meant, Registry.give]
    split <;> exact ⟨h.given, h.entry⟩

private theorem Registry.Remembers.run (h : registry.Remembers playlist) (requests : List Request) :
    (Request.run Request.meant registry requests).2.Remembers playlist := by
  induction requests generalizing registry with
  | nil => exact h
  | cons request requests ih => exact ih (h.meant request)

/-- What is read of a remembered playlist. -/
theorem Registry.Remembers.playlist?_eq (h : registry.Remembers playlist) :
    registry.playlist? playlist.id =
      some { playlist with duration := recalled playlist.duration } := by
  obtain ⟨entry, hentry, hplaylist⟩ := h.entry
  rw [Registry.playlist?, hentry, hplaylist]
  rfl

/-- What is read of a player that a remembered playlist is assigned to. -/
theorem Registry.Remembers.of_player (h : registry.Remembers playlist) {player : Player}
    (hplayer : registry.player? uuid = some player) (hassigned : player.playlistId = playlist.id) :
    player.playlistName = playlist.name ∧ player.mode = playlist.mode ∧
      player.duration = recalled playlist.duration := by
  obtain ⟨entry, hentry, hplaylist⟩ := h.entry
  obtain ⟨stored, -, rfl⟩ := Option.map_eq_some_iff.mp hplayer
  have hid : stored.playlist = playlist.id := hassigned
  rw [hplaylist]
  simp only [Registry.playerOf, hid, hentry]
  exact ⟨rfl, rfl, rfl⟩

/-- A playlist is answered as it was asked for, and remembered so. -/
theorem Registry.IsIn.created (h : registry.IsIn tables) {name : String} {mode : Mode}
    {duration : UInt64} (hcreate : createPlaylist tables name mode duration = .ok (playlist, changed)) :
    playlist = ⟨playlist.id, name, mode, duration⟩ ∧
      (registry.create name mode duration).2.IsIn changed ∧
      (registry.create name mode duration).2.Remembers playlist := by
  have hagrees := agrees_create h name mode duration
  rw [Request.perform, hcreate] at hagrees
  obtain ⟨hanswer, hin⟩ := hagrees
  rw [Registry.create] at hanswer hin ⊢
  cases hnumber : Number.int64? (registry.count + 1) with
  | none =>
    rw [hnumber] at hanswer
    cases hanswer
  | some number =>
    rw [hnumber] at hanswer hin
    cases hanswer
    refine ⟨rfl, hin, (Number.toInt_of_int64? hnumber).le, .created name mode duration, ?_, rfl⟩
    exact (registry.playlists_putPlaylist ⟨number⟩ ⟨number⟩ _).trans (if_pos rfl)

/-- A playlist can be created until the greatest identifier is given. -/
theorem Registry.IsIn.exists_created (h : registry.IsIn tables)
    (hlast : tables.lastId.value ≠ Int64.maxValue) (name : String) (mode : Mode) (duration : UInt64) :
    ∃ playlist changed, createPlaylist tables name mode duration = .ok (playlist, changed) := by
  have hlow := tables.lastId.value.minValue_le_toInt
  have hhigh := tables.lastId.value.toInt_le
  have hne : tables.lastId.value.toInt ≠ Int64.maxValue.toInt := fun heq =>
    hlast (Int64.toInt_inj.mp heq)
  have hnumber : Number.int64? (tables.greatestId + 1) = some (.ofInt (tables.greatestId + 1)) := by
    rw [h.greatestId, ← h.lastId]
    exact if_pos ⟨by omega, by omega⟩
  rw [createPlaylist, hnumber]
  exact ⟨_, _, rfl⟩

/-! ### Players -/

/-- A player is remembered, with something that holds of its entry. -/
def Registry.Knows (registry : Registry) (uuid : String) (holds : PlayerEntry → Prop) : Prop :=
  ∃ entry, registry.players uuid = some entry ∧ holds entry

private theorem Registry.Knows.putPlayer {registry : Registry} {holds : PlayerEntry → Prop}
    (h : registry.Knows uuid holds) {other : String} {changed : PlayerEntry}
    (hchanged : other = uuid → holds changed) : (registry.putPlayer other changed).Knows uuid holds := by
  obtain ⟨entry, hentry, hholds⟩ := h
  rw [Knows, Registry.players_putPlayer]
  split
  · next heq => exact ⟨changed, rfl, hchanged heq.symm⟩
  · exact ⟨entry, hentry, hholds⟩

/-- What holds of a player goes on to hold unless a report or a setting of that player ends it. -/
theorem Registry.Knows.meant {holds : PlayerEntry → Prop} (h : registry.Knows uuid holds)
    (hreport : ∀ entry firmware model, holds entry → holds { entry with firmware, model })
    {request : Request}
    (hgive : ∀ setting entry, request = .give uuid setting → holds entry → holds (entry.given setting)) :
    (request.meant registry).2.Knows uuid holds := by
  cases request with
  | create name mode duration =>
    rw [Request.meant, Registry.create]
    split <;> exact h
  | setContent id columns =>
    rw [Request.meant, Registry.changePlaylist]
    split <;> exact h
  | setLayout id layout =>
    rw [Request.meant, Registry.changePlaylist]
    split <;> exact h
  | register other name firmware model =>
    refine h.putPlayer fun heq => ?_
    obtain ⟨entry, hentry, hholds⟩ := h
    rw [heq, hentry]
    exact hholds
  | touch other firmware model =>
    rw [Request.meant, Registry.touch]
    split
    · next found hfound =>
      refine h.putPlayer fun heq => hreport found firmware model ?_
      obtain ⟨entry, hentry, hholds⟩ := h
      rw [heq, hentry] at hfound
      cases hfound
      exact hholds
    · exact h
  | give other setting =>
    rw [Request.meant, Registry.give]
    split
    · next found hfound =>
      refine h.putPlayer fun heq => hgive setting found (by rw [heq]) ?_
      obtain ⟨entry, hentry, hholds⟩ := h
      rw [heq, hentry] at hfound
      cases hfound
      exact hholds
    · exact h

/-- A poll interval is remembered until another one is set. -/
theorem Registry.Knows.refresh_run {seconds : UInt64}
    (h : registry.Knows uuid fun entry => entry.refresh = seconds) {requests : List Request}
    (hnot : ∀ other, .give uuid (.refresh other) ∉ requests) :
    (Request.run Request.meant registry requests).2.Knows uuid fun entry => entry.refresh = seconds := by
  induction requests generalizing registry with
  | nil => exact h
  | cons request requests ih =>
    have hrest : ∀ other, .give uuid (.refresh other) ∉ requests := fun other hmem =>
      hnot other (List.mem_cons_of_mem _ hmem)
    refine ih (h.meant (fun _ _ _ hsame => hsame) fun setting entry heq hsame => ?_) hrest
    cases setting with
    | refresh other => exact absurd (heq ▸ List.mem_cons_self) (hnot other)
    | status | playlist | commands | reports | screenTimes => exact hsame

/-- A poll interval that was set is remembered. -/
theorem Registry.IsIn.refreshed (h : registry.IsIn tables) {seconds : UInt64}
    (hset : setRefresh seconds tables uuid = .ok changed) :
    ∃ registry' : Registry, registry'.IsIn changed ∧
      registry'.Knows uuid fun entry => entry.refresh = seconds := by
  have hagrees := agrees_give h uuid (.refresh seconds)
  have hdone : (Request.give uuid (.refresh seconds)).perform tables = (.ok .done, changed) := by
    rw [Request.perform, Setting.give, hset]
    rfl
  rw [hdone] at hagrees
  obtain ⟨hanswer, hin⟩ := hagrees
  refine ⟨_, hin, ?_⟩
  rw [Registry.give] at hanswer ⊢
  cases hentry : registry.players uuid with
  | none =>
    rw [hentry] at hanswer
    cases hanswer
  | some entry =>
    exact ⟨_, (registry.players_putPlayer uuid uuid _).trans (if_pos rfl), rfl⟩

private theorem recalled_eq_self_iff (seconds : UInt64) :
    recalled seconds = seconds ↔ seconds.toNat < 2 ^ 63 := by
  rw [recalled, Nat.pow_eq]
  split
  · next hfits => simp [hfits]
  · next hgreat =>
    refine ⟨fun hzero => ?_, fun hfits => absurd hfits hgreat⟩
    rw [← hzero]
    decide

/-- What is created is read as it was answered, and what is set as it was set, after whatever other
requests. All that is lost is a number of seconds above those of a signed column, which is read as
zero. -/
theorem created_and_set_recalled (requests : List Request) :
    let tables := (Request.run Request.perform Tables.empty requests).2
    (∀ name mode duration, tables.lastId.value ≠ Int64.maxValue →
      ∃ playlist changed, createPlaylist tables name mode duration = .ok (playlist, changed)) ∧
    (∀ name mode duration playlist changed,
      createPlaylist tables name mode duration = .ok (playlist, changed) →
      playlist = ⟨playlist.id, name, mode, duration⟩ ∧
      ∀ later : List Request,
        let after := (Request.run Request.perform changed later).2
        getPlaylist after playlist.id = .ok (some { playlist with duration := recalled duration }) ∧
        ∀ uuid, ∃ found, getPlayer after uuid = .ok found ∧
          ∀ player ∈ found, player.playlistId = playlist.id →
            player.playlistName = name ∧ player.mode = mode ∧ player.duration = recalled duration) ∧
    (∀ uuid seconds changed, setRefresh seconds tables uuid = .ok changed →
      ∀ later : List Request, (∀ other, .give uuid (.refresh other) ∉ later) →
        ∃ player, getPlayer (Request.run Request.perform changed later).2 uuid = .ok (some player) ∧
          player.refresh = recalled seconds) ∧
    ∀ seconds, recalled seconds = seconds ↔ seconds.toNat < 2 ^ 63 := by
  have hin := (run_agrees empty_isIn requests).2
  refine ⟨fun name mode duration hlast => hin.exists_created hlast name mode duration, ?_, ?_,
    recalled_eq_self_iff⟩
  · intro name mode duration playlist changed hcreate
    obtain ⟨hplaylist, hchanged, hremembers⟩ := hin.created hcreate
    refine ⟨hplaylist, fun later => ?_⟩
    have hafter := (run_agrees hchanged later).2
    have hlater := hremembers.run later
    have hduration : playlist.duration = duration := congrArg Content.Playlist.duration hplaylist
    refine ⟨?_, fun uuid => ⟨_, getPlayer_eq hafter uuid, fun player hplayer hid => ?_⟩⟩
    · rw [getPlaylist_eq hafter, hlater.playlist?_eq, hduration]
    · obtain ⟨hname, hmode, hplayed⟩ := hlater.of_player hplayer hid
      rw [hname, hmode, hplayed, hduration]
      exact ⟨congrArg Content.Playlist.name hplaylist, congrArg Content.Playlist.mode hplaylist, rfl⟩
  · intro uuid seconds changed hset later hnot
    obtain ⟨registry, hchanged, hknows⟩ := hin.refreshed hset
    obtain ⟨entry, hentry, hrefresh⟩ := hknows.refresh_run hnot
    have hplayer := getPlayer_eq (run_agrees hchanged later).2 uuid
    rw [Registry.player?, hentry] at hplayer
    exact ⟨_, hplayer, congrArg recalled hrefresh⟩

/-- A player is known and a playlist is created that plays as long as a signed column can tell. -/
theorem created_and_set_recalled_lobby :
    let tables := (Request.run Request.perform Tables.empty
      [.register "dev-1" "Lobby" "1.0.0.745" .garlic]).2
    let playlist : Content.Playlist := ⟨⟨1⟩, "Lobby", .master, 9223372036854775807⟩
    tables.lastId.value ≠ Int64.maxValue ∧
    (∃ changed, createPlaylist tables "Lobby" .master 9223372036854775807 = .ok (playlist, changed) ∧
      getPlaylist changed playlist.id = .ok (some playlist)) ∧
    ∃ changed player, setRefresh 300 tables "dev-1" = .ok changed ∧
      getPlayer (touchPlayer changed "dev-1" "1.0.0.746" .garlic) "dev-1" = .ok (some player) ∧
      player.refresh = 300 := by
  obtain ⟨-, hcreated, hset, -⟩ :=
    created_and_set_recalled [.register "dev-1" "Lobby" "1.0.0.745" .garlic]
  refine ⟨by decide, ⟨_, rfl, (hcreated _ _ _ _ _ rfl).2 [] |>.1⟩, ?_⟩
  obtain ⟨player, hplayer, hrefresh⟩ := hset "dev-1" 300 _ rfl [.touch "dev-1" "1.0.0.746" .garlic]
    (by simp)
  exact ⟨_, player, rfl, hplayer, hrefresh⟩

/-- A playlist that plays for longer than a signed column can tell is not read as it was answered. -/
theorem created_not_recalled_of_long_duration :
    let playlist : Content.Playlist := ⟨⟨1⟩, "Lobby", .master, 9223372036854775808⟩
    ∃ changed, createPlaylist Tables.empty "Lobby" .master 9223372036854775808 = .ok (playlist, changed) ∧
      getPlaylist changed playlist.id = .ok (some { playlist with duration := 0 }) ∧
      getPlaylist changed playlist.id ≠ .ok (some playlist) := by
  have hcreate : createPlaylist Tables.empty "Lobby" .master 9223372036854775808 =
      .ok (⟨⟨1⟩, "Lobby", .master, 9223372036854775808⟩, _) := rfl
  obtain ⟨-, hchanged, hremembers⟩ := empty_isIn.created hcreate
  have hread := getPlaylist_eq hchanged ⟨1⟩
  rw [hremembers.playlist?_eq] at hread
  refine ⟨_, hcreate, hread, fun h => ?_⟩
  rw [hread] at h
  cases h

end Signage.Store
