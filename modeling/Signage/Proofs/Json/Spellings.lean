import Mathlib.Logic.Relation
import Signage.Proofs.Json.Documents

/-!
The ways in which a document can be written. A record may have its members in any order and beside
unknown ones, leave out what has a standard value, or be an array of its fields; whichever way is
chosen, wherever in the document, the same is read.
-/
namespace Signage.Json
variable {α : Type}

/-- A field of a record, and what it is taken for where it is left out. -/
structure FieldOf (shape : Type) where
  name : String
  shape : shape
  standard : Option Json

/-- How a document is built, as far as it can be written in several ways. -/
inductive Shape where
  /-- What is written in one way. -/
  | value
  /-- What is known by its name. -/
  | named
  | list (item : Shape)
  /-- What may be null. -/
  | nullable (present : Shape)
  /-- A record of fields in declaration order. -/
  | record (fields : List (FieldOf Shape))

abbrev Field := FieldOf Shape

/-- A field that has to be written. -/
def FieldOf.needed (name : String) (shape : Shape) : Field := ⟨name, shape, none⟩

/-- A field that is left out where it has a standard value. -/
def FieldOf.withStandard (name : String) (shape : Shape) (standard : Json) : Field :=
  ⟨name, shape, some standard⟩

/-- Members of an object; a name that spells no text is `none`. -/
abbrev Members := List (Option String × Json)

/-- One change in how a document is written. -/
inductive Step : Shape → Json → Json → Prop
  /-- A name becomes an object that maps it to null. -/
  | named {name : String} : Step .named (.string name) (.object [(some name, .null)])
  | item {shape : Shape} {a b : Json} {before after : List Json} (h : Step shape a b) :
      Step (.list shape) (.array (before ++ a :: after)) (.array (before ++ b :: after))
  | present {shape : Shape} {a b : Json} (h : Step shape a b) : Step (.nullable shape) a b
  /-- Members change places. -/
  | order {fields : List Field} {members members' : Members} (h : members.Perm members') :
      Step (.record fields) (.object members) (.object members')
  /-- A member is added that is no field. -/
  | unknown {fields : List Field} {members : Members} {name : String} {value : Json}
      (h : name ∉ fields.map FieldOf.name) :
      Step (.record fields) (.object members) (.object ((some name, value) :: members))
  /-- A field with its standard value is left out. -/
  | leftOut {fields : List Field} {members : Members} {field : Field} {value : Json}
      (hfield : field ∈ fields) (hvalue : field.standard = some value)
      (hnew : some field.name ∉ members.map Prod.fst) :
      Step (.record fields) (.object ((some field.name, value) :: members)) (.object members)
  | field {fields : List Field} {members : Members} {field : Field} {a b : Json}
      (hfield : field ∈ fields) (h : Step field.shape a b) :
      Step (.record fields) (.object ((some field.name, a) :: members))
        (.object ((some field.name, b) :: members))
  /-- An object of fields in order becomes an array; either ends with the last that is written. -/
  | array {fields : List Field} {values : List Json} (h : values.length ≤ fields.length) :
      Step (.record fields) (.record ((fields.map FieldOf.name).zip values)) (.array values)

/-- Two ways of writing one document. -/
def Alike (shape : Shape) : Json → Json → Prop := Relation.EqvGen (Step shape)

/-- What is read does not change with how it is written. -/
def Steady (shape : Shape) (decode : Json → Option α) : Prop :=
  ∀ ⦃a b : Json⦄, Step shape a b → decode a = decode b

variable {shape : Shape} {decode : Json → Option α} {a b : Json}

private theorem Steady.eq_of_alike (hdecode : Steady shape decode) (h : Alike shape a b) :
    decode a = decode b := by
  induction h with
  | rel a b h => exact hdecode h
  | refl a => rfl
  | symm a b _ ih => exact ih.symm
  | trans a b c _ _ ih ih' => exact ih.trans ih'

private theorem steady_value (decode : Json → Option α) :
    Steady .value decode := fun _ _ h => nomatch h

private theorem steady_named (ofName? : String → Option α) : Steady .named (toNamed? ofName?) := by
  intro a b h
  cases h
  rfl

private theorem Steady.list (hdecode : Steady shape decode) :
    Steady (.list shape) (toList? decode) := by
  intro a b h
  cases h with
  | item h => simp only [toList?, List.mapM_append, List.mapM_cons, hdecode h]

/-! The fields of a record, before and after a change. -/

/-- What becomes of a field. -/
inductive FieldChange (field : Field) : Option Json → Option Json → Prop
  | same {found : Option Json} : FieldChange field found found
  | written {a b : Json} (h : Step field.shape a b) : FieldChange field (some a) (some b)
  | leftOut {value : Json} (h : field.standard = some value) : FieldChange field (some value) none

/-- What becomes of the fields of a record. -/
inductive Changes : List Field → List (Option Json) → List (Option Json) → Prop
  | done : Changes [] [] []
  | step {field : Field} {fields : List Field} {found found' : Option Json}
      {rest rest' : List (Option Json)} (h : FieldChange field found found')
      (hrest : Changes fields rest rest') : Changes (field :: fields) (found :: rest) (found' :: rest')

private theorem changes_map {fields : List Field} {found found' : Field → Option Json}
    (h : ∀ field ∈ fields, FieldChange field (found field) (found' field)) :
    Changes fields (fields.map found) (fields.map found') := by
  induction fields with
  | nil => exact .done
  | cons field fields ih =>
    obtain ⟨hfield, hfields⟩ := List.forall_mem_cons.mp h
    exact .step hfield (ih hfields)

private theorem namesOnce_eq (names : List String) (members : Members) :
    namesOnce names members =
      names.all fun name => (members.map Prod.fst).count (some name) ≤ 1 := by
  unfold namesOnce
  congr 1
  funext name
  rw [List.count, List.countP_map, List.countP_eq_length_filter]
  rfl

private theorem lookup_cons_eq {name other : Option String} (value : Json) (members : Members) :
    ((other, value) :: members).lookup name =
      if name = other then some value else members.lookup name := by
  by_cases h : name = other
  · simp [h]
  · simp [List.lookup_cons, beq_false_of_ne h, h]

/-- A name that stands once is found in any order. -/
private theorem lookup_eq_of_perm {members members' : Members} (h : members.Perm members')
    {name : Option String} (hcount : (members.map Prod.fst).count name ≤ 1) :
    members.lookup name = members'.lookup name := by
  induction h with
  | nil => rfl
  | cons member _ ih =>
    rw [List.map_cons, List.count_cons] at hcount
    rw [lookup_cons_eq, lookup_cons_eq, ih (by omega)]
  | swap first second members =>
    simp only [List.map_cons, List.count_cons] at hcount
    obtain ⟨one, value⟩ := first
    obtain ⟨two, value'⟩ := second
    simp only [lookup_cons_eq]
    split
    · next hsecond =>
      split
      · next hfirst => simp [← hfirst, ← hsecond] at hcount
      · rfl
    · rfl
  | trans h _ ih ih' => rw [ih hcount, ih' ((h.map Prod.fst).count_eq name ▸ hcount)]

/-- What is read of an object is the same if no field is read otherwise. -/
private theorem bind_fields?_object {fields : List Field} {members members' : Members}
    {build : List (Option Json) → Option α}
    (hbuild : ∀ {found found'}, Changes fields found found' → build found = build found')
    (hsome : (members.all fun member => member.1.isSome) = members'.all fun member => member.1.isSome)
    (honce : namesOnce (fields.map FieldOf.name) members =
      namesOnce (fields.map FieldOf.name) members')
    (hfields : namesOnce (fields.map FieldOf.name) members = true → ∀ field ∈ fields,
      FieldChange field (members.lookup (some field.name)) (members'.lookup (some field.name))) :
    (fields? (fields.map FieldOf.name) (.object members)).bind build =
      (fields? (fields.map FieldOf.name) (.object members')).bind build := by
  unfold fields?
  simp only [← hsome, ← honce, List.map_map]
  split
  · next h =>
    exact hbuild (changes_map (hfields (Bool.and_eq_true_iff.mp h).2))
  · rfl

/-- What is read of a record is the same if it is the same whatever one of its fields becomes. -/
theorem Steady.record {fields : List Field} {build : List (Option Json) → Option α}
    (hn : (fields.map FieldOf.name).Nodup)
    (hbuild : ∀ {found found'}, Changes fields found found' → build found = build found') :
    Steady (.record fields) fun json => (json.fields? (fields.map FieldOf.name)).bind build := by
  -- A member belongs to one field, so a change of it leaves what is found of every other field.
  have hsame {f g : Field} (hf : f ∈ fields) (hg : g ∈ fields) (h : f.name = g.name) : f = g :=
    List.inj_on_of_nodup_map hn hf hg h
  intro a b h
  cases h with
  | @order _ members members' h =>
    refine bind_fields?_object hbuild ?_ ?_ fun honce field hfield => ?_
    · rw [Bool.eq_iff_iff]
      simp [h.mem_iff]
    · simp only [namesOnce_eq, (h.map Prod.fst).count_eq]
    · have hcount := List.all_eq_true.mp (namesOnce_eq _ members ▸ honce) field.name
        (List.mem_map_of_mem hfield)
      rw [lookup_eq_of_perm h (of_decide_eq_true hcount)]
      exact .same
  | @unknown _ members name value h =>
    have hne : ∀ other ∈ fields.map FieldOf.name, other ≠ name :=
      fun other hother he => h (he ▸ hother)
    refine bind_fields?_object hbuild (by simp) ?_ fun _ field hfield => ?_
    · rw [namesOnce_eq, namesOnce_eq, Bool.eq_iff_iff, List.all_eq_true, List.all_eq_true]
      refine forall₂_congr fun other hother => ?_
      rw [List.map_cons, List.count_cons_of_ne (by simpa using (hne other hother).symm)]
    · have hne := hne field.name (List.mem_map_of_mem hfield)
      rw [lookup_cons_eq, if_neg (by simpa using hne)]
      exact .same
  | @leftOut _ members field value hfield hvalue hnew =>
    refine bind_fields?_object hbuild (by simp) ?_ fun _ other hother => ?_
    · rw [namesOnce_eq, namesOnce_eq, Bool.eq_iff_iff, List.all_eq_true, List.all_eq_true]
      refine forall₂_congr fun other hother => ?_
      rw [List.map_cons, List.count_cons]
      split
      · next hname =>
        have hzero : (members.map Prod.fst).count (some other) = 0 :=
          List.count_eq_zero.mpr (beq_iff_eq.mp hname ▸ hnew)
        simp [hzero]
      · rfl
    · rw [lookup_cons_eq]
      split
      · next hname =>
        obtain rfl := hsame hother hfield (Option.some.inj hname)
        have hnone : members.lookup (some other.name) = none := by
          refine List.lookup_eq_none_iff.mpr fun member hmember => ?_
          have hne : some other.name ≠ member.1 := fun he => hnew (he ▸ List.mem_map_of_mem hmember)
          exact bne_iff_ne.mpr hne
        rw [hnone]
        exact .leftOut hvalue
      · exact .same
  | field hfield h =>
    refine bind_fields?_object hbuild (by simp) (by simp [namesOnce_eq]) fun _ other hother => ?_
    rw [lookup_cons_eq, lookup_cons_eq]
    split
    · next hname =>
      obtain rfl := hsame hother hfield (Option.some.inj hname)
      exact .written h
    · exact .same
  | array h =>
    dsimp only
    rw [fields?_record_eq_array hn (by rwa [List.length_map])]

section
variable {name : String} {found found' : Option Json}

private theorem required_eq (hdecode : Steady shape decode)
    (h : FieldChange (.needed name shape) found found') :
    required decode found = required decode found' := by
  cases h with
  | same => rfl
  | written h => exact hdecode h
  | leftOut h => cases h

private theorem required_value (h : FieldChange (.needed name .value) found found')
    (decode : Json → Option α) : required decode found = required decode found' :=
  required_eq (steady_value decode) h

private theorem defaulted_eq (value : α) {standard : Json} (hdecode : Steady shape decode)
    (h : FieldChange (.withStandard name shape standard) found found')
    (hvalue : decode standard = some value) :
    defaulted value decode found = defaulted value decode found' := by
  cases h with
  | same => rfl
  | written h => exact hdecode h
  | leftOut h =>
    cases h
    exact hvalue

private theorem Step.ne_null (h : Step shape a b) : a ≠ .null ∧ b ≠ .null := by
  induction h with
  | present _ ih => exact ih
  | _ => exact ⟨Json.noConfusion, Json.noConfusion⟩

private theorem nullable_of_ne_null {json : Json} (h : json ≠ .null) :
    nullable decode (some json) = (decode json).map some := by
  unfold nullable
  split
  · contradiction
  · next he => exact absurd (Option.some.inj he) h
  · next he =>
    cases he
    rfl

private theorem nullable_eq (hdecode : Steady shape decode)
    (h : FieldChange (.withStandard name (.nullable shape) .null) found found') :
    nullable decode found = nullable decode found' := by
  cases h with
  | same => rfl
  | written h =>
    obtain ⟨ha, hb⟩ := h.ne_null
    cases h with
    | present h => rw [nullable_of_ne_null ha, nullable_of_ne_null hb, hdecode h]
  | leftOut h =>
    cases h
    rfl

end

end Signage.Json

namespace Signage
open Json

/-! The documents of the hub. -/

def Canvas.shape : Shape := .record [.needed "width" .value, .needed "height" .value]

private theorem Canvas.steady : Steady shape ofJson? := by
  refine Steady.record (by decide) fun h => ?_
  obtain _ | ⟨hwidth, _ | ⟨hheight, _ | _⟩⟩ := h
  simp only [required_value hwidth, required_value hheight]

def ScreenPeriod.shape : Shape := .record [.needed "start" .value, .needed "end" .value]

private theorem ScreenPeriod.steady : Steady shape ofJson? := by
  refine Steady.record (by decide) fun h => ?_
  obtain _ | ⟨hbegins, _ | ⟨hends, _ | _⟩⟩ := h
  simp only [required_value hbegins, required_value hends]

def ScreenDay.shape : Shape :=
  .record [.needed "day" .value, .withStandard "periods" (.list ScreenPeriod.shape) (.array [])]

private theorem ScreenDay.steady : Steady shape ofJson? := by
  refine Steady.record (by decide) fun h => ?_
  obtain _ | ⟨hday, _ | ⟨hperiods, _ | _⟩⟩ := h
  have hread := defaulted_eq [] ScreenPeriod.steady.list hperiods rfl
  simp only [required_value hday, hread]

def Reports.shape : Shape :=
  .record [.withStandard "inventory" .value (.boolean false),
    .withStandard "played_durations" .value (.boolean false),
    .withStandard "event_logs" .value (.boolean false),
    .withStandard "configuration" .value (.boolean false),
    .withStandard "executions" .value (.boolean false)]

private theorem Reports.steady : Steady shape ofJson? := by
  have hflag {name : String} {found found' : Option Json}
      (h : FieldChange (.withStandard name .value (.boolean false)) found found') :
      defaulted false toBool? found = defaulted false toBool? found' :=
    defaulted_eq false (steady_value toBool?) h rfl
  refine Steady.record (by decide) fun h => ?_
  obtain _ | ⟨hinventory, _ | ⟨hdurations, _ | ⟨hlogs, _ | ⟨hconfiguration,
    _ | ⟨hexecutions, _ | _⟩⟩⟩⟩⟩ := h
  simp only [hflag hinventory, hflag hdurations, hflag hlogs, hflag hconfiguration, hflag hexecutions]

def Zone.shape : Shape :=
  .record [.withStandard "zone_name" .value (.string ""), .needed "zone_left" .value,
    .needed "zone_top" .value, .needed "zone_width" .value, .needed "zone_height" .value,
    .withStandard "zone_z_index" .value (.integer 0),
    .withStandard "zone_bgcolor" .value (.string "transparent"), .needed "zone_playlist_id" .value]

private theorem Zone.steady : Steady shape ofJson? := by
  refine Steady.record (by decide) fun h => ?_
  obtain _ | ⟨hname, _ | ⟨hleft, _ | ⟨htop, _ | ⟨hwidth, _ | ⟨hheight, _ | ⟨hzIndex,
    _ | ⟨hbackground, _ | ⟨hplaylist, _ | _⟩⟩⟩⟩⟩⟩⟩⟩ := h
  have hname := defaulted_eq "" (steady_value toString?) hname rfl
  have hzIndex := defaulted_eq 0 (steady_value (toWord? Number.int32?)) hzIndex rfl
  have hbackground := defaulted_eq "transparent" (steady_value toString?) hbackground rfl
  simp only [hname, required_value hleft, required_value htop, required_value hwidth,
    required_value hheight, hzIndex, hbackground, required_value hplaylist]

def Layout.shape : Shape :=
  .record [.withStandard "export_unit" .named (.string "percent"), .needed "screen_width" .value,
    .needed "screen_height" .value, .withStandard "zones" (.list Zone.shape) (.array [])]

private theorem ExportUnit.steady : Steady .named ofJson? := steady_named ofName?

private theorem Layout.steady : Steady shape ofJson? := by
  refine Steady.record (by decide) fun h => ?_
  obtain _ | ⟨hunit, _ | ⟨hwidth, _ | ⟨hheight, _ | ⟨hzones, _ | _⟩⟩⟩⟩ := h
  have hunit := defaulted_eq .percent ExportUnit.steady hunit (by decide)
  have hzones := defaulted_eq [] Zone.steady.list hzones rfl
  simp only [hunit, required_value hwidth, required_value hheight, hzones]

private theorem Model.steady : Steady .named ofJson? := steady_named ofName?

private theorem Mode.steady : Steady .named ofJson? := steady_named ofName?

/-- The object for a code without a name has another value than null. -/
theorem Status.steady : Steady .named ofJson? := by
  intro a b h
  cases h with
  | @named name =>
    by_cases hname : name = "unknown"
    · subst hname
      decide
    · unfold ofJson?
      split
      · next h => cases h
      · split
        · next h =>
          cases h
          contradiction
        · rfl

def Player.shape : Shape :=
  .record [.needed "uuid" .value, .needed "name" .value, .needed "firmware" .value,
    .needed "model" .named, .needed "status" .named, .needed "playlist_id" .value,
    .needed "playlist_name" .value, .needed "playlist_mode" .named,
    .withStandard "zones" (.nullable Layout.shape) .null, .needed "duration" .value,
    .needed "refresh" .value, .needed "commands" (.list .value), .needed "reports" Reports.shape,
    .needed "screen_times" (.list ScreenDay.shape), .needed "properties" Canvas.shape]

private theorem Player.steady : Steady shape ofJson? := by
  refine Steady.record (by decide) fun h => ?_
  obtain _ | ⟨huuid, _ | ⟨hname, _ | ⟨hfirmware, _ | ⟨hmodel, _ | ⟨hstatus, _ | ⟨hplaylistId,
    _ | ⟨hplaylistName, _ | ⟨hmode, _ | ⟨hzones, _ | ⟨hduration, _ | ⟨hrefresh, _ | ⟨hcommands,
    _ | ⟨hreports, _ | ⟨hscreenTimes, _ | ⟨hcanvas, _ | _⟩⟩⟩⟩⟩⟩⟩⟩⟩⟩⟩⟩⟩⟩⟩ := h
  simp only [required_value huuid, required_value hname, required_value hfirmware,
    required_eq Model.steady hmodel, required_eq Status.steady hstatus, required_value hplaylistId,
    required_value hplaylistName, required_eq Mode.steady hmode, nullable_eq Layout.steady hzones,
    required_value hduration, required_value hrefresh,
    required_eq (steady_value toString?).list hcommands, required_eq Reports.steady hreports,
    required_eq ScreenDay.steady.list hscreenTimes, required_eq Canvas.steady hcanvas]

/-- What is written is read back from its text, and what is read from a text does not change with how
the document is written in it. -/
structure Faithful {α : Type} (shape : Shape) (encode : α → Json) (decode : Json → Option α) :
    Prop where
  returns : ∀ a, (ofText? (encode a).toText).bind decode = some a
  steady : ∀ {text text' : String} {json json' : Json}, ofText? text = some json →
    ofText? text' = some json' → Alike shape json json' →
      (ofText? text).bind decode = (ofText? text').bind decode

private theorem faithful {α : Type} {shape : Shape} {encode : α → Json} {decode : Json → Option α}
    (hplain : ∀ a, Plain (encode a)) (hreturns : ∀ a, decode (encode a) = some a)
    (hsteady : Steady shape decode) : Faithful shape encode decode where
  returns a := by rw [ofText?_toText (hplain a), Option.bind_some, hreturns]
  steady hjson hjson' h := by
    rw [hjson, hjson', Option.bind_some, Option.bind_some, hsteady.eq_of_alike h]

/-- What is stored and exchanged as a document is read back as it was written, and the same from every
way of writing it. -/
theorem documents_faithful :
    Faithful Player.shape Player.toJson Player.ofJson? ∧
    Faithful Layout.shape Layout.toJson Layout.ofJson? ∧
    Faithful Zone.shape Zone.toJson Zone.ofJson? ∧
    Faithful (.list ScreenDay.shape) (fun days => .array (days.map ScreenDay.toJson))
      (toList? ScreenDay.ofJson?) ∧
    Faithful Reports.shape Reports.toJson Reports.ofJson? ∧
    Faithful (.list .value) strings (toList? toString?) :=
  ⟨faithful Player.plain_toJson Player.ofJson?_toJson Player.steady,
    faithful Layout.plain_toJson Layout.ofJson?_toJson Layout.steady,
    faithful Zone.plain_toJson Zone.ofJson?_toJson Zone.steady,
    faithful (.map ScreenDay.plain_toJson) (toList?_map ScreenDay.ofJson?_toJson) ScreenDay.steady.list,
    faithful Reports.plain_toJson Reports.ofJson?_toJson Reports.steady,
    faithful plain_strings toList?_strings (steady_value _).list⟩

/-- A layout with its members out of order, one of them unknown and two fields left out. -/
def looseLayout : Json :=
  .record [("screen_height", .integer 2), ("note", .null), ("screen_width", .integer 1)]

/-- The same layout as an array that ends before its zones. -/
def tightLayout : Json := .array [.string "percent", .integer 1, .integer 2]

private theorem alike_looseLayout : Alike Layout.shape looseLayout tightLayout := by
  let width : Option String × Json := (some "screen_width", .integer 1)
  let height : Option String × Json := (some "screen_height", .integer 2)
  let note : Option String × Json := (some "note", .null)
  have horder : Step Layout.shape looseLayout (.object [note, width, height]) :=
    .order (@List.perm_append_comm _ [height] [note, width])
  have hunknown : Step Layout.shape (.object [width, height]) (.object [note, width, height]) :=
    .unknown (by decide)
  have hunit : Step Layout.shape (.object [(some "export_unit", .string "percent"), width, height])
      (.object [width, height]) :=
    .leftOut (List.mem_cons_self) rfl (by decide)
  have harray : Step Layout.shape (.object [(some "export_unit", .string "percent"), width, height])
      tightLayout :=
    @Step.array _ [.string "percent", .integer 1, .integer 2] (by decide)
  exact .trans _ _ _ (.rel _ _ horder) (.trans _ _ _ (.symm _ _ (.rel _ _ hunknown))
    (.trans _ _ _ (.symm _ _ (.rel _ _ hunit)) (.rel _ _ harray)))

/-- Either is read as the layout that it writes. -/
theorem documents_faithful_layout :
    (ofText? looseLayout.toText).bind Layout.ofJson? = (ofText? tightLayout.toText).bind Layout.ofJson? ∧
      (ofText? tightLayout.toText).bind Layout.ofJson? = some ⟨.percent, 1, 2, []⟩ := by
  have hloose : Plain looseLayout := .record (by simp [Plain.integer, Plain.null])
  have htight : Plain tightLayout := .array (by simp [Plain.integer, Plain.string])
  refine ⟨?_, ?_⟩
  · exact documents_faithful.2.1.steady (ofText?_toText hloose) (ofText?_toText htight) alike_looseLayout
  · rw [ofText?_toText htight]
    rfl

end Signage
