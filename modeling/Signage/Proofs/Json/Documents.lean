import Mathlib.Data.List.Nodup
import Signage.Player.Basic
import Signage.Proofs.Json.RoundTrip

/-!
What is stored as a document is read back: a record field by field, in the order in which the fields
are written, and a list item by item.
-/
namespace Signage.Json

/-- An object with plain members is plain. -/
theorem Plain.record {fields : List (String × Json)} (h : ∀ field ∈ fields, Plain field.2) :
    Plain (.record fields) := by
  refine .object (fun member hmember => ?_) fun member hmember => ?_
  · obtain ⟨field, -, rfl⟩ := List.mem_map.mp hmember
    rfl
  · obtain ⟨field, hfield, rfl⟩ := List.mem_map.mp hmember
    exact h field hfield

private theorem Plain.zip {names : List String} {values : List Json}
    (h : ∀ value ∈ values, Plain value) :
    Plain (.record (names.zip values)) :=
  .record fun _ hfield => h _ (List.of_mem_zip hfield).2

/-- A list with plain items is plain. -/
theorem Plain.map {α : Type} {toJson : α → Json} (h : ∀ a, Plain (toJson a)) (items : List α) :
    Plain (.array (items.map toJson)) := by
  refine .array fun item hitem => ?_
  obtain ⟨a, -, rfl⟩ := List.mem_map.mp hitem
  exact h a

/-- A list of texts is plain. -/
theorem plain_strings (items : List String) : Plain (strings items) := .map .string items

private theorem map_fst_zip_sublist (names : List String) (values : List Json) :
    ((names.zip values).map Prod.fst).Sublist names := by
  induction names generalizing values with
  | nil => exact .slnil
  | cons name names ih =>
    cases values with
    | nil => exact List.nil_sublist _
    | cons value values => exact (ih values).cons_cons name

private theorem namesOnce_zip {names : List String} (hn : names.Nodup) (values : List Json) :
    namesOnce names ((names.zip values).map fun (name, value) => (some name, value)) = true := by
  rw [namesOnce, List.all_eq_true]
  intro name _
  have hfst : (((names.zip values).map fun (name, value) => (some name, value)).map Prod.fst).Sublist
      (names.map some) := by
    have hmap : ((names.zip values).map fun (name, value) => (some name, value)).map Prod.fst =
        ((names.zip values).map Prod.fst).map some := by
      simp
    rw [hmap]
    exact (map_fst_zip_sublist names values).map some
  have hcount := List.nodup_iff_count_le_one.mp
    ((hn.map (Option.some_injective _)).sublist hfst) (some name)
  rw [List.count, List.countP_map] at hcount
  rw [decide_eq_true_eq, ← List.countP_eq_length_filter]
  exact hcount

private theorem map_lookup_zip {names : List String} {values : List Json} (hn : names.Nodup)
    (hl : values.length ≤ names.length) :
    (names.map fun name =>
      ((names.zip values).map fun (name, value) => (some name, value)).lookup (some name)) =
      values.map some ++ List.replicate (names.length - values.length) none := by
  induction names generalizing values with
  | nil =>
    cases List.length_eq_zero_iff.mp (Nat.le_zero.mp hl)
    rfl
  | cons name names ih =>
    obtain ⟨hnot, hn⟩ := List.nodup_cons.mp hn
    cases values with
    | nil => simp [List.replicate_succ, ← List.map_const']
    | cons value values =>
      have hrest := ih hn (Nat.succ_le_succ_iff.mp hl)
      rw [List.length_cons, List.length_cons, Nat.succ_sub_succ, List.map_cons, List.map_cons,
        List.cons_append, ← hrest]
      congr 1
      · simp
      · refine List.map_congr_left fun other hother => ?_
        have hne : (some other == some name) = false := by
          refine beq_eq_false_iff_ne.mpr fun h => hnot ?_
          rwa [← Option.some.inj h]
        simp [List.lookup_cons, hne]

/-- A record is read from its fields in order as it is read from the array of them. -/
theorem fields?_record_eq_array {names : List String} {values : List Json} (hn : names.Nodup)
    (hl : values.length ≤ names.length) :
    fields? names (.record (names.zip values)) = fields? names (.array values) := by
  have hall : (((names.zip values).map fun (name, value) => (some name, value)).all
      fun member => member.1.isSome) = true := by
    simp
  simp only [fields?, record, hall, namesOnce_zip hn values, Bool.and_self, if_true,
    map_lookup_zip hn hl, hl]

/-- A record is read field by field, in the order in which it was written. -/
theorem fields?_record {names : List String} {values : List Json} (hn : names.Nodup)
    (hl : names.length = values.length) :
    fields? names (.record (names.zip values)) = some (values.map some) := by
  rw [fields?_record_eq_array hn hl.ge]
  simp [fields?, hl]

/-- What is written for a list is read back, if each item is. -/
theorem toList?_map {α : Type} {toJson : α → Json} {ofJson? : Json → Option α}
    (h : ∀ a, ofJson? (toJson a) = some a) (items : List α) :
    toList? ofJson? (.array (items.map toJson)) = some items := by
  rw [toList?]
  induction items with
  | nil => rfl
  | cons a items ih => simp [h, ih]

/-- What is written for a list of texts is read back. -/
theorem toList?_strings (items : List String) : toList? toString? (strings items) = some items := by
  have hread (s : String) : toString? (.string s) = some s := rfl
  exact toList?_map hread items

private theorem defaulted_some {α : Type} (value : α) (decode : Json → Option α) (json : Json) :
    defaulted value decode (some json) = decode json := by
  rw [defaulted]

private theorem defaulted_string (value s : String) :
    defaulted value toString? (some (.string s)) = some s :=
  rfl

private theorem toWord?_integer {α : Type} (fits : Int → Option α) (n : Int) :
    toWord? fits (.integer n) = fits n := by
  rw [toWord?, toInt?, Option.bind_some]

private theorem required_some {α : Type} (decode : Json → Option α) (json : Json) :
    required decode (some json) = decode json := by
  rw [required, Option.bind_some]

private theorem required_uint8 (n : UInt8) :
    required (toWord? Number.uint8?) (some (.integer n.toNat)) = some n := by
  rw [required_some, toWord?_integer, Number.uint8?_toNat]

private theorem required_uint32 (n : UInt32) :
    required (toWord? Number.uint32?) (some (.integer n.toNat)) = some n := by
  rw [required_some, toWord?_integer, Number.uint32?_toNat]

private theorem defaulted_int32 (value n : Int32) :
    defaulted value (toWord? Number.int32?) (some (.integer n.toInt)) = some n := by
  rw [defaulted_some, toWord?_integer, Number.int32?_toInt]

private theorem nullable_elim {α : Type} {decode : Json → Option α} {toJson : α → Json}
    (h : ∀ a, decode (toJson a) = some a) (hne : ∀ a, toJson a ≠ .null) (found : Option α) :
    nullable decode (some (found.elim .null toJson)) = some found := by
  cases found with
  | none => rfl
  | some a =>
    rw [Option.elim_some]
    unfold nullable
    split
    · contradiction
    · next hnull => exact absurd (Option.some.inj hnull) (hne a)
    · next hsome =>
      cases hsome
      rw [h, Option.map_some]

private theorem required_playlistId (id : PlaylistId) :
    required PlaylistId.ofJson? (some id.toJson) = some id :=
  PlaylistId.ofJson?_toJson id

end Signage.Json

namespace Signage
open Json

/-- What is written for the reports is read back. -/
theorem Reports.ofJson?_toJson (reports : Reports) : ofJson? reports.toJson = some reports := by
  rw [ofJson?, toJson, fields?_record (by simp [fieldNames]) rfl]
  rfl

private theorem ScreenPeriod.ofJson?_toJson (period : ScreenPeriod) :
    ofJson? period.toJson = some period := by
  rw [ofJson?, toJson, fields?_record (by simp [fieldNames]) rfl]
  rfl

/-- What is written for a day of the screen is read back. -/
theorem ScreenDay.ofJson?_toJson (entry : ScreenDay) : ofJson? entry.toJson = some entry := by
  have hperiods := toList?_map ScreenPeriod.ofJson?_toJson entry.periods
  rw [ofJson?, toJson, fields?_record (by simp [fieldNames]) rfl, Option.bind_eq_bind,
    Option.bind_some]
  simp only [List.map_cons, List.map_nil, required_uint8, defaulted_some, hperiods]
  rfl

/-- What is written for a zone is read back. -/
theorem Zone.ofJson?_toJson (zone : Zone) : ofJson? zone.toJson = some zone := by
  rw [ofJson?, toJson, fields?_record (by simp [fieldNames]) rfl, Option.bind_eq_bind,
    Option.bind_some]
  simp only [List.map_cons, List.map_nil, required_uint32, defaulted_int32, defaulted_string,
    required_playlistId]
  rfl

/-- What is written for a layout is read back. -/
theorem Layout.ofJson?_toJson (layout : Layout) : ofJson? layout.toJson = some layout := by
  have hunit := ExportUnit.ofJson?_toJson layout.exportUnit
  have hzones := toList?_map Zone.ofJson?_toJson layout.zones
  rw [ofJson?, toJson, fields?_record (by simp [fieldNames]) rfl, Option.bind_eq_bind,
    Option.bind_some]
  simp only [List.map_cons, List.map_nil, required_uint32, defaulted_some, hunit, hzones]
  rfl

private theorem Canvas.ofJson?_toJson (canvas : Canvas) : ofJson? canvas.toJson = some canvas := by
  rw [ofJson?, toJson, fields?_record (by simp [fieldNames]) rfl, Option.bind_eq_bind,
    Option.bind_some]
  simp only [List.map_cons, List.map_nil, required_uint32]
  rfl

/-- What is written for a player is read back. -/
theorem Player.ofJson?_toJson (player : Player) : ofJson? player.toJson = some player := by
  have hzones := nullable_elim Layout.ofJson?_toJson (fun _ => Json.noConfusion) player.zones
  have hscreenTimes := toList?_map ScreenDay.ofJson?_toJson player.screenTimes
  rw [ofJson?, toJson, fields?_record (by simp [fieldNames]) rfl, Option.bind_eq_bind,
    Option.bind_some]
  simp only [List.map_cons, List.map_nil, hzones, required_some, toWord?_integer, Number.uint64?_toNat,
    Model.ofJson?_toJson, Status.ofJson?_toJson, PlaylistId.ofJson?_toJson, Mode.ofJson?_toJson,
    toList?_strings, Reports.ofJson?_toJson, hscreenTimes, Canvas.ofJson?_toJson]
  rfl

/-- Reports are written as a plain value. -/
theorem Reports.plain_toJson (reports : Reports) : Plain reports.toJson :=
  .zip (by simp [Plain.boolean])

private theorem ScreenPeriod.plain_toJson (period : ScreenPeriod) : Plain period.toJson :=
  .zip (by simp [Plain.string])

/-- A day of the screen is written as a plain value. -/
theorem ScreenDay.plain_toJson (entry : ScreenDay) : Plain entry.toJson :=
  .zip (by simp [Plain.integer, Plain.map ScreenPeriod.plain_toJson])

/-- A zone is written as a plain value. -/
theorem Zone.plain_toJson (zone : Zone) : Plain zone.toJson :=
  .zip (by simp [Plain.integer, Plain.string, PlaylistId.toJson])

/-- A layout is written as a plain value. -/
theorem Layout.plain_toJson (layout : Layout) : Plain layout.toJson :=
  .zip (by simp [Plain.integer, ExportUnit.toJson, Plain.string, Plain.map Zone.plain_toJson])

private theorem Canvas.plain_toJson (canvas : Canvas) : Plain canvas.toJson :=
  .zip (by simp [Plain.integer])

private theorem Status.plain_toJson (status : Status) : Plain status.toJson := by
  cases status with
  | unknown code => exact .record (by simp [Plain.integer])
  | _ => exact .string _

/-- A player is written as a plain value. -/
theorem Player.plain_toJson (player : Player) : Plain player.toJson := by
  have hzones : Plain (player.zones.elim .null Layout.toJson) := by
    cases player.zones with
    | none => exact .null
    | some layout => exact layout.plain_toJson
  have hscreenTimes := Plain.map ScreenDay.plain_toJson player.screenTimes
  refine .zip ?_
  simp [Plain.integer, Plain.string, Model.toJson, Status.plain_toJson, PlaylistId.toJson, Mode.toJson,
    hzones, plain_strings, Reports.plain_toJson, hscreenTimes, Canvas.plain_toJson]

end Signage
