import Mathlib.Data.List.Induction
import Signage.Poll.Dispatch
import Signage.Proofs.Store.Administration
import Signage.Store.Hub

/-!
Polls of many devices and the operations of those who run the hub, in any order. A poll is two
steps, between which anything may happen; it never undoes what was given to a player meanwhile.
-/
namespace Signage.Poll
open Identity Store

/-- One step of a poll or an operation. -/
inductive Action where
  /-- A poll begins, and asks for the player of its device. -/
  | find (userAgent : String)
  /-- The poll at a place among those that wait goes on with what it was told. -/
  | settle (index : Nat)
  | give (uuid : String) (setting : Setting)

/-- The store, and the polls that have asked it once. -/
structure Traffic where
  tables : Tables
  /-- The devices that wait, and the player that was found for each. -/
  waiting : List (Device × Option Player)

namespace Traffic

def next (traffic : Traffic) : Action → Traffic
  | .find userAgent =>
    let device := ofUserAgent userAgent
    if device.isKnown then
      match Store.repository.find device.uuid traffic.tables with
      | .works found => { traffic with waiting := traffic.waiting ++ [(device, found)] }
      | .fails _ | .hangs => traffic
    else traffic
  | .settle index =>
    match traffic.waiting[index]? with
    | some (device, found) =>
      ⟨(settle Store.repository device found traffic.tables).2, traffic.waiting.eraseIdx index⟩
    | none => traffic
  | .give uuid setting => { traffic with tables := (Operation.give uuid setting).apply traffic.tables }

/-- What has come of some actions on a store that no poll had asked before. -/
def run (tables : Tables) (actions : List Action) : Traffic := actions.foldl next ⟨tables, []⟩

private theorem run_append (tables : Tables) (actions more : List Action) :
    run tables (actions ++ more) = more.foldl next (run tables actions) := by
  simp [run]

end Traffic

/-- The operations alone. -/
def administer (tables : Tables) : Action → Tables
  | .give uuid setting => (Operation.give uuid setting).apply tables
  | .find _ | .settle _ => tables

/-- What the operations alone make of a row. -/
def Replays (actions : List Action) (first last : PlayerRow) : Prop :=
  (actions.foldl administer ⟨[first], [], .none⟩).players = [last]

/-- What a device reports of itself. -/
def Reports (row : PlayerRow) (device : Device) : Prop :=
  row.get .uuid = .text device.uuid ∧ row.get .firmware = .text device.firmware ∧
    row.get .model = .text device.model.name

/-- A row was there when the actions began, or a poll has put it in; the actions after that. -/
inductive Origin (tables : Tables) (actions : List Action) : PlayerRow → List Action → Prop
  | stored {first : PlayerRow} (h : first ∈ tables.players) : Origin tables actions first actions
  | registered {before later : List Action} {index : Nat} {device : Device}
      (hsplit : actions = before ++ .settle index :: later)
      (hwaiting : (Traffic.run tables before).waiting[index]? = some (device, none))
      (hnew : (Traffic.run tables before).tables.player? device.uuid = none) :
      Origin tables actions
        (newPlayerRow (Traffic.run tables before).tables.nextNumber device.uuid device.name
          device.firmware device.model) later

/-- The columns that only operations change. -/
def administered : List PlayerColumn :=
  [.status, .playlist, .refresh, .commands, .reports, .screenTimes]

/-- How a row has come from the row that was first put in. -/
structure Descends (tables : Tables) (actions : List Action) (row first : PlayerRow) : Prop where
  uuid : row.get .uuid = first.get .uuid
  name : row.get .name = first.get .name
  administered : ∃ later last, Origin tables actions first later ∧ Replays later first last ∧
    ∀ column ∈ .uuid :: administered, row.get column = last.get column
  reported : (∃ userAgent, .find userAgent ∈ actions ∧ (ofUserAgent userAgent).isKnown ∧
      Reports row (ofUserAgent userAgent)) ∨
    first ∈ tables.players ∧ row.get .firmware = first.get .firmware ∧
      row.get .model = first.get .model

/-- What a report of a device does to one row: it changes that of its player. -/
def note (device : Device) (row : PlayerRow) : PlayerRow :=
  if Tables.isPlayer device.uuid row then
    (row.set .firmware (.text device.firmware)).set .model (.text device.model.name)
  else row

section
variable {tables : Tables} {device : Device} {found : Option Player}

/-- Settling a poll changes nothing, or notes what the device reports, or adds a row for a device
that has none. -/
theorem settle_players (device : Device) (found : Option Player) (tables : Tables) :
    (settle Store.repository device found tables).2.players = tables.players ∨
      (settle Store.repository device found tables).2.players = tables.players.map (note device) ∨
        found = none ∧ tables.player? device.uuid = none ∧
          (settle Store.repository device found tables).2.players = tables.players ++
            [newPlayerRow tables.nextNumber device.uuid device.name device.firmware device.model] := by
  cases found with
  | some player =>
    unfold settle
    dsimp only
    split
    · exact .inl rfl
    · exact .inr (.inl rfl)
  | none =>
    cases h : tables.player? device.uuid with
    | some row =>
      left
      simp [settle, Store.repository, registerPlayer, addPlayer, h]
    | none =>
      refine .inr (.inr ⟨rfl, rfl, ?_⟩)
      simp [settle, Store.repository, registerPlayer, addPlayer, h]

/-- Registering a device that has a row changes nothing. -/
theorem settle_none_of_stored {row : PlayerRow} (h : tables.player? device.uuid = some row) :
    (settle Store.repository device none tables).2 = tables := by
  simp [settle, Store.repository, registerPlayer, addPlayer, h]

end

section
variable {tables : Tables} {actions : List Action} {action : Action} {row first last : PlayerRow}
  {later : List Action} {uuid : String} {setting : Setting} {column : PlayerColumn}
  {device : Device}

private theorem column_mem_administered (setting : Setting) : setting.column ∈ administered := by
  cases setting <;> simp [Setting.column, administered]

private theorem on_get (h : column ∉ administered) :
    (setting.on uuid row).get column = row.get column := by
  unfold Setting.on
  split
  · apply Record.get_set_of_ne
    rintro rfl
    exact h (column_mem_administered setting)
  · rfl

private theorem note_get (h : column ∈ administered ∨ column = .uuid ∨ column = .name) :
    (note device row).get column = row.get column := by
  unfold note
  split
  · rw [Record.get_set_of_ne, Record.get_set_of_ne]
    · rintro rfl
      simp [administered] at h
    · rintro rfl
      simp [administered] at h
  · rfl

/-- A setting does the same to rows of one player. -/
theorem on_congr (huuid : row.get .uuid = last.get .uuid) (h : row.get column = last.get column) :
    (setting.on uuid row).get column = (setting.on uuid last).get column := by
  have hplayer : Tables.isPlayer uuid row = Tables.isPlayer uuid last := by
    simp [Tables.isPlayer, huuid]
  unfold Setting.on
  rw [hplayer]
  split
  · by_cases hc : column = setting.column
    · rw [hc, Record.get_set_same, Record.get_set_same]
    · rw [Record.get_set_of_ne _ _ hc, Record.get_set_of_ne _ _ hc, h]
  · exact h

private theorem replays_nil : Replays [] first first := rfl

private theorem Replays.skip (h : Replays actions first last)
    (ha : ∀ uuid setting, action ≠ .give uuid setting) : Replays (actions ++ [action]) first last := by
  unfold Replays at h ⊢
  rw [List.foldl_append]
  cases action with
  | find userAgent => exact h
  | settle index => exact h
  | give uuid setting => exact absurd rfl (ha uuid setting)

private theorem Replays.give (h : Replays actions first last) :
    Replays (actions ++ [.give uuid setting]) first (setting.on uuid last) := by
  unfold Replays at h ⊢
  rw [List.foldl_append]
  change ((Operation.give uuid setting).apply (actions.foldl administer _)).players = _
  rw [players_apply_give, h]
  rfl

/-- What is added to a row after its origin. -/
theorem Origin.append (h : Origin tables actions first later) (more : List Action) :
    Origin tables (actions ++ more) first (later ++ more) := by
  cases h with
  | stored h => exact .stored h
  | registered hsplit hwaiting hnew =>
    exact .registered (by simp [hsplit]) hwaiting hnew

private theorem Descends.skip (h : Descends tables actions row first)
    (ha : ∀ uuid setting, action ≠ .give uuid setting) :
    Descends tables (actions ++ [action]) row first := by
  obtain ⟨later, last, horigin, hreplays, hcolumns⟩ := h.administered
  refine ⟨h.uuid, h.name, ⟨_, last, horigin.append _, hreplays.skip ha, hcolumns⟩, ?_⟩
  rcases h.reported with ⟨userAgent, hfind, hreports⟩ | hstored
  · exact .inl ⟨userAgent, List.mem_append_left _ hfind, hreports⟩
  · exact .inr hstored

private theorem Descends.give (h : Descends tables actions row first) :
    Descends tables (actions ++ [.give uuid setting]) (setting.on uuid row) first := by
  obtain ⟨later, last, horigin, hreplays, hcolumns⟩ := h.administered
  have huuid : (setting.on uuid row).get .uuid = row.get .uuid := on_get (by decide)
  have hfirmware : (setting.on uuid row).get .firmware = row.get .firmware := on_get (by decide)
  have hmodel : (setting.on uuid row).get .model = row.get .model := on_get (by decide)
  refine ⟨huuid.trans h.uuid, (on_get (by decide)).trans h.name, ?_, ?_⟩
  · refine ⟨_, _, horigin.append _, hreplays.give, fun column hcolumn => ?_⟩
    exact on_congr (hcolumns .uuid List.mem_cons_self) (hcolumns column hcolumn)
  · rcases h.reported with ⟨userAgent, hfind, hknown, hreports⟩ | ⟨hstored, hreports⟩
    · refine .inl ⟨userAgent, List.mem_append_left _ hfind, hknown, ?_⟩
      exact ⟨huuid.trans hreports.1, hfirmware.trans hreports.2.1, hmodel.trans hreports.2.2⟩
    · exact .inr ⟨hstored, hfirmware.trans hreports.1, hmodel.trans hreports.2⟩

/-- A device notes what it reports in its row. -/
theorem Descends.note (h : Descends tables actions row first) {userAgent : String}
    (hfind : .find userAgent ∈ actions) (hknown : (ofUserAgent userAgent).isKnown) :
    Descends tables actions (note (ofUserAgent userAgent) row) first := by
  obtain ⟨later, last, horigin, hreplays, hcolumns⟩ := h.administered
  have huuid : (Poll.note (ofUserAgent userAgent) row).get .uuid = row.get .uuid :=
    note_get (.inr (.inl rfl))
  refine ⟨huuid.trans h.uuid, (note_get (.inr (.inr rfl))).trans h.name, ?_, ?_⟩
  · refine ⟨later, last, horigin, hreplays, fun column hcolumn => ?_⟩
    rw [note_get ((List.mem_cons.mp hcolumn).symm.imp_right .inl), hcolumns column hcolumn]
  · by_cases hplayer : Tables.isPlayer (ofUserAgent userAgent).uuid row
    · refine .inl ⟨userAgent, hfind, hknown, ?_⟩
      refine ⟨huuid.trans (Tables.isPlayer_iff.mp hplayer), ?_, ?_⟩
      · simp [Poll.note, hplayer]
      · simp [Poll.note, hplayer]
    · rw [Poll.note, if_neg hplayer]
      exact h.reported

end

namespace Traffic
variable {tables : Tables} {actions : List Action}

/-- Devices that wait have begun a poll. -/
theorem waiting_reported {device : Device} {found : Option Player}
    (h : (device, found) ∈ (run tables actions).waiting) :
    ∃ userAgent, .find userAgent ∈ actions ∧ (ofUserAgent userAgent).isKnown ∧
      device = ofUserAgent userAgent := by
  induction actions using List.reverseRecOn with
  | nil => cases h
  | append_singleton actions action ih =>
    have hold (h : (device, found) ∈ (run tables actions).waiting) :
        ∃ userAgent, .find userAgent ∈ actions ++ [action] ∧ (ofUserAgent userAgent).isKnown ∧
          device = ofUserAgent userAgent := by
      obtain ⟨userAgent, hfind, hknown⟩ := ih h
      exact ⟨userAgent, List.mem_append_left _ hfind, hknown⟩
    rw [run_append] at h
    cases action with
    | find userAgent =>
      simp only [List.foldl_cons, List.foldl_nil, next] at h
      split at h
      · next hknown =>
        split at h
        · rcases List.mem_append.mp h with h | h
          · exact hold h
          · rw [List.mem_singleton] at h
            cases h
            exact ⟨userAgent, by simp, hknown, rfl⟩
        · exact hold h
        · exact hold h
      · exact hold h
    | settle index =>
      simp only [List.foldl_cons, List.foldl_nil, next] at h
      split at h
      · exact hold (List.mem_of_mem_eraseIdx h)
      · exact hold h
    | give uuid setting => exact hold h

/-- A step changes rows in place, or adds one for a waiting device that has none. -/
theorem next_players (traffic : Traffic) (action : Action) :
    (traffic.next action).tables.players = traffic.tables.players ∧
        (∀ uuid setting, action ≠ .give uuid setting) ∨
      (∃ index device found, action = .settle index ∧ (device, found) ∈ traffic.waiting ∧
        (traffic.next action).tables.players = traffic.tables.players.map (note device)) ∨
      (∃ index device, action = .settle index ∧ traffic.waiting[index]? = some (device, none) ∧
        traffic.tables.player? device.uuid = none ∧
          (traffic.next action).tables.players = traffic.tables.players ++
            [newPlayerRow traffic.tables.nextNumber device.uuid device.name device.firmware
              device.model]) ∨
      ∃ uuid setting, action = .give uuid setting ∧
        (traffic.next action).tables.players = traffic.tables.players.map (setting.on uuid) := by
  cases action with
  | find userAgent =>
    refine .inl ⟨?_, by simp⟩
    simp only [next]
    split
    · split <;> rfl
    · rfl
  | settle index =>
    cases hw : traffic.waiting[index]? with
    | none => exact .inl ⟨by simp [next, hw], by simp⟩
    | some poll =>
      obtain ⟨device, found⟩ := poll
      have hnext : (traffic.next (.settle index)).tables =
          (settle Store.repository device found traffic.tables).2 := by simp [next, hw]
      rw [hnext]
      rcases settle_players device found traffic.tables with h | h | ⟨rfl, hnew, h⟩
      · exact .inl ⟨h, by simp⟩
      · exact .inr (.inl ⟨index, device, found, rfl, List.mem_of_getElem? hw, h⟩)
      · exact .inr (.inr (.inl ⟨index, device, rfl, hw, hnew, h⟩))
  | give uuid setting =>
    exact .inr (.inr (.inr ⟨uuid, setting, rfl, players_apply_give _ _ _⟩))

/-- The row of a player stays, whatever becomes of it. -/
theorem next_keeps (traffic : Traffic) (action : Action) {row : PlayerRow}
    (h : row ∈ traffic.tables.players) :
    ∃ row' ∈ (traffic.next action).tables.players, row'.get .uuid = row.get .uuid := by
  rcases next_players traffic action with ⟨hsame, -⟩ | ⟨_, device, _, -, -, hnote⟩ |
    ⟨_, _, -, -, -, hnew⟩ | ⟨uuid, setting, -, hgive⟩
  · exact ⟨row, hsame ▸ h, rfl⟩
  · rw [hnote]
    exact ⟨note device row, List.mem_map_of_mem h, note_get (.inr (.inl rfl))⟩
  · rw [hnew]
    exact ⟨row, List.mem_append_left _ h, rfl⟩
  · rw [hgive]
    exact ⟨setting.on uuid row, List.mem_map_of_mem h, on_get (by decide)⟩

private theorem foldl_keeps (traffic : Traffic) (actions : List Action) {row : PlayerRow}
    (h : row ∈ traffic.tables.players) :
    ∃ row' ∈ (actions.foldl next traffic).tables.players, row'.get .uuid = row.get .uuid := by
  induction actions generalizing traffic row with
  | nil => exact ⟨row, h, rfl⟩
  | cons action actions ih =>
    obtain ⟨middle, hmiddle, hu⟩ := next_keeps traffic action h
    obtain ⟨row', hrow', hu'⟩ := ih (traffic.next action) hmiddle
    exact ⟨row', hrow', hu'.trans hu⟩

private theorem next_distinct (traffic : Traffic) (action : Action) (h : traffic.tables.Distinct) :
    (traffic.next action).tables.Distinct := by
  have hmap (change : PlayerRow → PlayerRow)
      (huuid : ∀ row, (change row).get .uuid = row.get .uuid) :
      (traffic.tables.players.map change).Pairwise fun a b => a.get .uuid ≠ b.get .uuid := by
    rw [List.pairwise_map]
    simp only [huuid]
    exact h
  unfold Tables.Distinct
  rcases next_players traffic action with ⟨hsame, -⟩ | ⟨_, device, _, -, -, hnote⟩ |
    ⟨_, device, -, -, hnone, hnew⟩ | ⟨uuid, setting, -, hgive⟩
  · rw [hsame]
    exact h
  · rw [hnote]
    exact hmap _ fun row => note_get (.inr (.inl rfl))
  · rw [hnew, List.pairwise_append]
    refine ⟨h, List.pairwise_singleton _ _, fun row hrow new hn => ?_⟩
    rw [List.mem_singleton.mp hn]
    exact Tables.player?_eq_none_iff.mp hnone row hrow
  · rw [hgive]
    exact hmap _ fun row => on_get (by decide)

/-- Every row has come from one that was there or was put in by a poll. -/
theorem exists_descends (tables : Tables) (actions : List Action) {row : PlayerRow}
    (h : row ∈ (run tables actions).tables.players) : ∃ first, Descends tables actions row first := by
  induction actions using List.reverseRecOn generalizing row with
  | nil =>
    refine ⟨row, rfl, rfl, ⟨_, row, .stored h, replays_nil, fun _ _ => rfl⟩, ?_⟩
    exact .inr ⟨h, rfl, rfl⟩
  | append_singleton actions action ih =>
    rw [run_append] at h
    change row ∈ ((run tables actions).next action).tables.players at h
    rcases next_players (run tables actions) action with ⟨hsame, ha⟩ |
      ⟨index, device, found, rfl, hwaiting, hnote⟩ | ⟨index, device, rfl, hwaiting, hnone, hnew⟩ |
      ⟨uuid, setting, rfl, hgive⟩
    · obtain ⟨first, hfirst⟩ := ih (hsame ▸ h)
      exact ⟨first, hfirst.skip ha⟩
    · rw [hnote] at h
      obtain ⟨old, hold, rfl⟩ := List.mem_map.mp h
      obtain ⟨first, hfirst⟩ := ih hold
      obtain ⟨userAgent, hfind, hknown, rfl⟩ := waiting_reported hwaiting
      exact ⟨first, (hfirst.note hfind hknown).skip (by simp)⟩
    · rw [hnew] at h
      rcases List.mem_append.mp h with hold | h
      · obtain ⟨first, hfirst⟩ := ih hold
        exact ⟨first, hfirst.skip (by simp)⟩
      · obtain rfl := List.mem_singleton.mp h
        obtain ⟨userAgent, hfind, hknown, rfl⟩ :=
          waiting_reported (List.mem_of_getElem? hwaiting)
        refine ⟨_, rfl, rfl, ⟨[], _, .registered rfl hwaiting hnone, replays_nil, fun _ _ => rfl⟩, ?_⟩
        exact .inl ⟨userAgent, List.mem_append_left _ hfind, hknown, rfl, rfl, rfl⟩
    · rw [hgive] at h
      obtain ⟨old, hold, rfl⟩ := List.mem_map.mp h
      obtain ⟨first, hfirst⟩ := ih hold
      exact ⟨first, hfirst.give⟩

/-- In any order of polls and operations, players keep their rows, each row holds what the
operations alone make of the row that was first put in, under its first name and with what one poll
reported, and registering a player that is stored changes nothing. -/
theorem rows_survive (tables : Tables) (h : tables.Distinct) (actions : List Action) :
    let traffic := run tables actions
    traffic.tables.Distinct ∧
      (∀ before after, actions = before ++ after → ∀ row ∈ (run tables before).tables.players,
        ∃ row' ∈ traffic.tables.players, row'.get .uuid = row.get .uuid) ∧
      (∀ row ∈ traffic.tables.players, ∃ first, Descends tables actions row first) ∧
      ∀ index device row, traffic.waiting[index]? = some (device, none) →
        traffic.tables.player? device.uuid = some row →
          (traffic.next (.settle index)).tables = traffic.tables := by
  refine ⟨?_, ?_, fun row hrow => exists_descends tables actions hrow, ?_⟩
  · induction actions using List.reverseRecOn with
    | nil => exact h
    | append_singleton actions action ih =>
      rw [run_append]
      exact next_distinct _ action ih
  · rintro before after rfl row hrow
    rw [run_append]
    exact foldl_keeps _ after hrow
  · intro index device row hwaiting hrow
    simp only [next, hwaiting]
    exact settle_none_of_stored hrow

/-- Two polls of a new device begin before either goes on, and the player is released between. -/
def twoFirstPolls : List Action :=
  let userAgent := "GAPI/1.0 (UUID:dev-1; NAME:Lobby) garlic-linux/v0.6.0.745 (MODEL:Garlic)"
  [.find userAgent, .find userAgent, .settle 0, .give "dev-1" (.status .released), .settle 0]

theorem rows_survive_two_first_polls :
    Tables.empty.Distinct ∧
      (run .empty twoFirstPolls).tables.players.map (fun row => (row.get .uuid, row.get .status)) =
        [(.text "dev-1", .integer 2)] ∧
      ∀ row ∈ (run .empty twoFirstPolls).tables.players,
        ∃ first, Descends .empty twoFirstPolls row first := by
  have hempty : Tables.empty.Distinct := List.Pairwise.nil
  refine ⟨hempty, by decide +kernel, ?_⟩
  exact (rows_survive .empty hempty twoFirstPolls).2.2.1

end Traffic

end Signage.Poll
