import Signage.Identity.UserAgent
import Signage.Proofs.Text.PercentCodes
import Signage.Proofs.Text.Runs

/-!
The forms of user agents, told by what a device prints. The readers accept exactly these, no text is
of two forms, and so a device is taken for what it says of itself.
-/
namespace Signage.Identity
open Text

/-- The forms of user agents. -/
inductive Form where
  | gapi
  | adapi
  | nameless
  deriving DecidableEq

/-- Whether the form has a place for a name. -/
def Form.hasName : Form → Bool
  | nameless => false
  | gapi | adapi => true

/-- Not empty, and all of one class. -/
def IsRun (belongs : Char → Bool) (s : List Char) : Prop := s ≠ [] ∧ ∀ c ∈ s, belongs c = true

def IsVersion (s : List Char) : Prop := IsRun (fun c => isDecimalDigit c || c == '.') s

/-- What stands before the fields in each form. -/
inductive Form.Head : Form → List Char → Prop
  | gapi : Head .gapi "GAPI/1.0 ".toList
  | adapi {version : List Char} (h : IsVersion version) :
      Head .adapi ("ADAPI/".toList ++ (version ++ [' ']))
  | nameless {version : List Char} (h : IsVersion version) :
      Head .nameless ("ADAPI/".toList ++ (version ++ [' ']))

/-- What stands before a field. -/
def uuidMark : List Char := "(UUID:".toList

@[inherit_doc uuidMark]
def nameMark : List Char := "; NAME:".toList

@[inherit_doc uuidMark]
def platformMark : List Char := ") ".toList

@[inherit_doc uuidMark]
def modelMark : List Char := " (MODEL:".toList

/-- The place for the name, if there is one. -/
def nameText : Option (List Char) → List Char
  | some name => nameMark ++ name
  | none => []

/-- What is said of the device itself. -/
def deviceText (platform firmware model : List Char) : List Char :=
  platformMark ++ (platform ++ ('/' :: (firmware ++ (modelMark ++ (model ++ [')'])))))

/-- The fields as they are written behind the head of a form. -/
def Fields.text (fields : Fields) : List Char :=
  uuidMark ++ (fields.uuid ++ (nameText fields.name ++
    deviceText fields.platform fields.firmware fields.model))

/-- No field runs past the character that ends it. -/
structure Fields.Legal (fields : Fields) : Prop where
  uuid : IsRun (fun c => c != ';' && c != ')') fields.uuid
  name : ∀ name ∈ fields.name, ∀ c ∈ name, (c != ')') = true
  platform : IsRun (fun c => c != '/' && !isBlank c) fields.platform
  firmware : IsRun (fun c => !isBlank c) fields.firmware
  model : IsRun (· != ')') fields.model

/-- The text begins with a user agent of the form. -/
def Form.Announces (form : Form) (s : List Char) (fields : Fields) : Prop :=
  ∃ head after, form.Head head ∧ fields.Legal ∧ fields.name.isSome = form.hasName ∧
    s = head ++ (fields.text ++ after)

private theorem deviceText_append (platform firmware model after : List Char) :
    deviceText platform firmware model ++ after = platformMark ++ (platform ++ (['/'] ++
      (firmware ++ (modelMark ++ (model ++ ([')'] ++ after)))))) := by
  simp [deviceText]

section Readers
variable {belongs : Char → Bool} {run s rest : List Char}

private theorem readSome?_eq_some_iff :
    readSome? belongs s = some (run, rest) ↔ IsRun belongs run ∧ Stops belongs rest ∧ s = run ++ rest := by
  rw [readSome?, nonempty_run_eq_some_iff, ← and_assoc, IsRun]

private theorem readUuid?_eq_some_iff {uuid : List Char} :
    readUuid? s = some (uuid, rest) ↔ IsRun (fun c => c != ';' && c != ')') uuid ∧
      Stops (fun c => c != ';' && c != ')') rest ∧ s = uuidMark ++ (uuid ++ rest) := by
  simp only [readUuid?, Option.bind_eq_bind, Option.bind_eq_some_iff, dropLiteral?_eq_some_iff,
    readSome?_eq_some_iff]
  constructor
  · rintro ⟨r, rfl, huuid, hrest, rfl⟩
    exact ⟨huuid, hrest, rfl⟩
  · rintro ⟨huuid, hrest, rfl⟩
    exact ⟨_, rfl, huuid, hrest, rfl⟩

private theorem readName?_eq_some_iff {name : List Char} :
    readName? s = some (name, rest) ↔ (∀ c ∈ name, (c != ')') = true) ∧ Stops (· != ')') rest ∧
      s = nameMark ++ (name ++ rest) := by
  simp only [readName?, Option.bind_eq_bind, Option.bind_eq_some_iff, dropLiteral?_eq_some_iff,
    Option.pure_def, Option.some_inj, Prod.mk.injEq, takeWhile_dropWhile_eq_iff]
  constructor
  · rintro ⟨r, rfl, hname, hrest, rfl⟩
    exact ⟨hname, hrest, rfl⟩
  · rintro ⟨hname, hrest, rfl⟩
    exact ⟨_, rfl, hname, hrest, rfl⟩

private theorem readDevice?_eq_some_iff {platform firmware model : List Char} :
    readDevice? s = some (platform, firmware, model) ↔
      IsRun (fun c => c != '/' && !isBlank c) platform ∧ IsRun (fun c => !isBlank c) firmware ∧
        IsRun (· != ')') model ∧ ∃ after, s = deviceText platform firmware model ++ after := by
  simp only [readDevice?, Option.bind_eq_bind, Option.bind_eq_some_iff, dropLiteral?_eq_some_iff,
    Option.pure_def, Option.some_inj, Prod.mk.injEq, Prod.exists, readSome?_eq_some_iff]
  constructor
  · rintro ⟨r, rfl, p, r1, ⟨hp, -, rfl⟩, r2, rfl, f, r3, ⟨hf, -, rfl⟩, r4, rfl, m, r5,
      ⟨hm, -, rfl⟩, after, rfl, rfl, rfl, rfl⟩
    exact ⟨hp, hf, hm, after, (deviceText_append p f m after).symm⟩
  · rintro ⟨hp, hf, hm, after, rfl⟩
    exact ⟨_, deviceText_append platform firmware model after, platform, _,
      ⟨hp, stops_cons.mpr (by decide), rfl⟩, _, rfl, firmware, _, ⟨hf, stops_cons.mpr (by decide), rfl⟩,
      _, rfl, model, _, ⟨hm, stops_cons.mpr (by decide), rfl⟩, after, rfl, rfl, rfl, rfl⟩

/-- The text after the version, in each form. -/
def Form.afterHead? : Form → List Char → Option (List Char)
  | gapi => afterGapi?
  | adapi | nameless => afterAdapi?

private theorem afterAdapi?_eq_some_iff : afterAdapi? s = some rest ↔
    ∃ version, IsVersion version ∧ s = "ADAPI/".toList ++ (version ++ [' ']) ++ rest := by
  simp only [afterAdapi?, Option.bind_eq_bind, Option.bind_eq_some_iff, dropLiteral?_eq_some_iff,
    readSome?_eq_some_iff, Prod.exists]
  constructor
  · rintro ⟨r, rfl, version, r1, ⟨hversion, -, rfl⟩, rfl⟩
    exact ⟨version, hversion, by simp⟩
  · rintro ⟨version, hversion, rfl⟩
    refine ⟨version ++ ([' '] ++ rest), by simp, version, _, ⟨hversion, ?_, rfl⟩, rfl⟩
    exact stops_cons.mpr (by decide)

private theorem Form.afterHead?_eq_some_iff {form : Form} :
    form.afterHead? s = some rest ↔ ∃ head, form.Head head ∧ s = head ++ rest := by
  cases form with
  | gapi =>
    rw [afterHead?, afterGapi?, dropLiteral?_eq_some_iff]
    constructor
    · exact fun hs => ⟨_, .gapi, hs⟩
    · rintro ⟨head, hhead, hs⟩
      cases hhead
      exact hs
  | adapi =>
    rw [afterHead?, afterAdapi?_eq_some_iff]
    constructor
    · rintro ⟨version, hversion, hs⟩
      exact ⟨_, .adapi hversion, hs⟩
    · rintro ⟨head, hhead, hs⟩
      cases hhead with
      | adapi hversion => exact ⟨_, hversion, hs⟩
  | nameless =>
    rw [afterHead?, afterAdapi?_eq_some_iff]
    constructor
    · rintro ⟨version, hversion, hs⟩
      exact ⟨_, .nameless hversion, hs⟩
    · rintro ⟨head, hhead, hs⟩
      cases hhead with
      | nameless hversion => exact ⟨_, hversion, hs⟩

end Readers

def Form.read? : Form → List Char → Option Fields
  | gapi => readNamed? afterGapi?
  | adapi => readNamed? afterAdapi?
  | nameless => readNameless?

section
variable {form form' : Form} {s : List Char} {fields fields' : Fields}

private theorem Form.announces_iff : form.Announces s fields ↔
    ∃ rest after, form.afterHead? s = some rest ∧ fields.Legal ∧
      fields.name.isSome = form.hasName ∧ rest = fields.text ++ after := by
  simp only [Announces, afterHead?_eq_some_iff]
  constructor
  · rintro ⟨head, after, hhead, hlegal, hname, hs⟩
    exact ⟨_, after, ⟨head, hhead, hs⟩, hlegal, hname, rfl⟩
  · rintro ⟨rest, after, ⟨head, hhead, hs⟩, hlegal, hname, rfl⟩
    exact ⟨head, after, hhead, hlegal, hname, hs⟩

/-- A field that may have no bracket ends where the device is told of. -/
theorem stops_deviceText {belongs : Char → Bool} (h : belongs ')' = false)
    (platform firmware model after : List Char) :
    Stops belongs (deviceText platform firmware model ++ after) := by
  have hfront : platformMark = [')', ' '] := rfl
  rw [deviceText, hfront]
  exact stops_cons.mpr h

private theorem stops_nameMark {belongs : Char → Bool} (h : belongs ';' = false)
    (rest : List Char) :
    Stops belongs (nameMark ++ rest) := by
  have hfront : nameMark = [';', ' ', 'N', 'A', 'M', 'E', ':'] := rfl
  rw [hfront]
  exact stops_cons.mpr h

/-- A form that has a place for a name is read with it. -/
theorem Form.announces_named_iff (form : Form) (hform : form.hasName = true) :
    readNamed? form.afterHead? s = some fields ↔ form.Announces s fields := by
  simp only [announces_iff, readNamed?, Option.bind_eq_bind, Option.bind_eq_some_iff, Option.pure_def,
    Option.some_inj, Prod.exists, readUuid?_eq_some_iff, readName?_eq_some_iff,
    readDevice?_eq_some_iff]
  constructor
  · rintro ⟨rest, hrest, uuid, r1, ⟨huuid, -, rfl⟩, name, r2, ⟨hname, -, rfl⟩, platform, firmware, model,
      ⟨hp, hf, hm, after, rfl⟩, rfl⟩
    refine ⟨_, after, hrest, ⟨huuid, ?_, hp, hf, hm⟩, hform.symm, ?_⟩
    · intro given hgiven
      rwa [← Option.some_inj.mp hgiven]
    · simp only [Fields.text, nameText, List.append_assoc]
  · rintro ⟨rest, after, hrest, hlegal, hisSome, rfl⟩
    obtain ⟨uuid, name?, platform, firmware, model⟩ := fields
    obtain ⟨name, rfl⟩ := Option.isSome_iff_exists.mp (hisSome.trans hform)
    refine ⟨_, hrest, uuid, nameMark ++ (name ++ (deviceText platform firmware model ++ after)),
      ⟨hlegal.uuid, stops_nameMark (by decide) _, ?_⟩, name, deviceText platform firmware model ++ after,
      ⟨hlegal.name name rfl, stops_deviceText (by decide) _ _ _ _, rfl⟩, platform, firmware, model,
      ⟨hlegal.platform, hlegal.firmware, hlegal.model, after, rfl⟩, rfl⟩
    simp only [Fields.text, nameText, List.append_assoc]

private theorem announces_nameless_iff :
    readNameless? s = some fields ↔ Form.nameless.Announces s fields := by
  simp only [Form.announces_iff, readNameless?, Option.bind_eq_bind, Option.bind_eq_some_iff,
    Option.pure_def, Option.some_inj, Prod.exists, readUuid?_eq_some_iff, readDevice?_eq_some_iff]
  constructor
  · rintro ⟨rest, hrest, uuid, r1, ⟨huuid, -, rfl⟩, platform, firmware, model,
      ⟨hp, hf, hm, after, rfl⟩, rfl⟩
    refine ⟨_, after, hrest, ⟨huuid, (fun _ h => nomatch h), hp, hf, hm⟩, rfl, ?_⟩
    simp only [Fields.text, nameText, List.append_assoc, List.nil_append]
  · rintro ⟨rest, after, hrest, hlegal, hisSome, rfl⟩
    obtain ⟨uuid, name?, platform, firmware, model⟩ := fields
    obtain rfl := Option.isNone_iff_eq_none.mp (Option.isSome_eq_false_iff.mp hisSome)
    refine ⟨_, hrest, uuid, deviceText platform firmware model ++ after,
      ⟨hlegal.uuid, stops_deviceText (by decide) _ _ _ _, ?_⟩, platform, firmware, model,
      ⟨hlegal.platform, hlegal.firmware, hlegal.model, after, rfl⟩, rfl⟩
    simp only [Fields.text, nameText, List.append_assoc, List.nil_append]

private theorem Form.read?_eq_some_iff : form.read? s = some fields ↔ form.Announces s fields := by
  cases form with
  | gapi => exact announces_named_iff .gapi rfl
  | adapi => exact announces_named_iff .adapi rfl
  | nameless => exact announces_nameless_iff

/-- The first form is told from the others by its first character. -/
theorem not_announces_of_gapi (h : Form.gapi.Announces s fields) (hform : form ≠ .gapi) :
    ¬ form.Announces s fields' := by
  intro h'
  obtain ⟨head, after, hhead, -, -, rfl⟩ := h
  obtain ⟨head', after', hhead', -, -, hs⟩ := h'
  have hgapi : "GAPI/1.0 ".toList = 'G' :: "API/1.0 ".toList := rfl
  have hadapi : "ADAPI/".toList = 'A' :: "DAPI/".toList := rfl
  cases hhead
  cases hhead' with
  | gapi => exact hform rfl
  | adapi | nameless =>
    rw [hgapi, hadapi] at hs
    exact absurd (List.cons.inj hs).1 (by decide)

/-- The form without a name is told from the others by what stands behind the uuid. -/
theorem not_announces_of_adapi (h : Form.adapi.Announces s fields) :
    ¬ Form.nameless.Announces s fields' := by
  intro h'
  obtain ⟨rest, after, hrest, hlegal, hname, htext⟩ := Form.announces_iff.mp h
  obtain ⟨rest', after', hrest', hlegal', hname', htext'⟩ := Form.announces_iff.mp h'
  obtain ⟨name, hname⟩ := Option.isSome_iff_exists.mp hname
  have hname' := Option.isNone_iff_eq_none.mp (Option.isSome_eq_false_iff.mp hname')
  -- The uuid ends at the same place in both, where one of two characters stands.
  have hread := readUuid?_eq_some_iff.mpr ⟨hlegal.uuid, stops_nameMark (by decide) _,
    htext.trans (by rw [Fields.text, hname, nameText, List.append_assoc, List.append_assoc,
      List.append_assoc, List.append_assoc])⟩
  have hread' := readUuid?_eq_some_iff.mpr ⟨hlegal'.uuid, stops_deviceText (by decide) _ _ _ _,
    htext'.trans (by rw [Fields.text, hname', nameText, List.nil_append, List.append_assoc,
      List.append_assoc])⟩
  have hsame : rest = rest' := Option.some_inj.mp (hrest.symm.trans hrest')
  rw [hsame, hread'] at hread
  have hbehind := (Prod.mk.inj (Option.some_inj.mp hread)).2
  have hnameFront : nameMark = ';' :: " NAME:".toList := rfl
  have hplatformFront : platformMark = ')' :: " ".toList := rfl
  rw [deviceText, hnameFront, hplatformFront] at hbehind
  exact absurd (List.cons.inj hbehind).1 (by decide)

/-- A text is of one form and has its fields in one way. -/
theorem Form.announces_unique (h : form.Announces s fields) (h' : form'.Announces s fields') :
    form = form' ∧ fields = fields' := by
  have hform : form = form' := by
    by_contra hne
    cases form with
    | gapi => exact not_announces_of_gapi h (Ne.symm hne) h'
    | adapi =>
      cases form' with
      | gapi => exact not_announces_of_gapi h' hne h
      | adapi => exact hne rfl
      | nameless => exact not_announces_of_adapi h h'
    | nameless =>
      cases form' with
      | gapi => exact not_announces_of_gapi h' hne h
      | adapi => exact not_announces_of_adapi h' h
      | nameless => exact hne rfl
  subst hform
  rw [← read?_eq_some_iff] at h h'
  exact ⟨rfl, Option.some_inj.mp (h.symm.trans h')⟩

private theorem Form.read?_eq_none (h : form.Announces s fields) (hne : form' ≠ form) :
    form'.read? s = none := by
  cases hread : form'.read? s with
  | none => rfl
  | some fields' => exact absurd (announces_unique (read?_eq_some_iff.mp hread) h).1 hne

/-- The fields of a user agent are found whatever its form is, so that it does not matter in which order
the forms are tried. -/
theorem readFields?_eq_some_iff : readFields? s = some fields ↔ ∃ form : Form, form.Announces s fields := by
  change (Form.gapi.read? s).or ((Form.adapi.read? s).or (Form.nameless.read? s)) = some fields ↔ _
  constructor
  · intro h
    rcases Option.or_eq_some_iff.mp h with h | ⟨-, h⟩
    · exact ⟨_, Form.read?_eq_some_iff.mp h⟩
    · rcases Option.or_eq_some_iff.mp h with h | ⟨-, h⟩
      · exact ⟨_, Form.read?_eq_some_iff.mp h⟩
      · exact ⟨_, Form.read?_eq_some_iff.mp h⟩
  · rintro ⟨form, h⟩
    have hread := Form.read?_eq_some_iff.mpr h
    cases form with
    | gapi => rw [hread, Option.some_or]
    | adapi => rw [Form.read?_eq_none h (by decide), Option.none_or, hread, Option.some_or]
    | nameless =>
      rw [Form.read?_eq_none h (by decide), Form.read?_eq_none h (by decide), Option.none_or,
        Option.none_or, hread]

end
end Signage.Identity
