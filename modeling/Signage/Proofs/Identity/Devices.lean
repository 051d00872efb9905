import Signage.Proofs.Identity.UserAgents
import Signage.Proofs.Text.PercentCodes

/-!
What a device says of itself is understood as it was meant, and only devices that say it in one of the
forms are known.
-/
namespace Signage.Identity
open Text

section Printing
variable {form : Form} {head before : List Char} {fields : Fields}

private theorem Form.Head.front (h : form.Head head) :
    ∃ c rest, head = c :: rest ∧ isBlank c = false := by
  have hgapi : "GAPI/1.0 ".toList = 'G' :: "API/1.0 ".toList := rfl
  have hadapi : "ADAPI/".toList = 'A' :: "DAPI/".toList := rfl
  cases h with
  | gapi => exact ⟨'G', _, hgapi, by decide⟩
  | adapi => exact ⟨'A', _, by rw [hadapi]; rfl, by decide⟩
  | nameless => exact ⟨'A', _, by rw [hadapi]; rfl, by decide⟩

private theorem Fields.text_back (fields : Fields) : ∃ front, fields.text = front ++ [')'] :=
  ⟨_, by simp only [Fields.text, deviceText, ← List.append_assoc, ← List.cons_append]; rfl⟩

/-- A user agent is recognised among blanks and whatever follows it. -/
theorem Form.announces_printed (hhead : form.Head head) (hlegal : fields.Legal)
    (hname : fields.name.isSome = form.hasName) (hbefore : AreBlanks before) (after : List Char) :
    form.Announces (trim (before ++ ((head ++ fields.text) ++ after))) fields := by
  obtain ⟨c, rest, hfront, hc⟩ := hhead.front
  obtain ⟨front, hback⟩ := fields.text_back
  refine ⟨head, trimRight after, hhead, hlegal, hname, ?_⟩
  rw [trim_append_of_stops hbefore, List.append_assoc]
  · simp [hfront]
  · rw [hfront]
    exact stops_cons.mpr hc
  · rw [hback, ← List.append_assoc, List.reverse_append]
    exact stops_cons.mpr (by decide)

private theorem ofUserAgent_of_announces {s : List Char} (h : form.Announces (trim s) fields) :
    ofUserAgent (.ofList s) = ofFields fields := by
  rw [ofUserAgent, String.toList_ofList, readFields?_eq_some_iff.mpr ⟨form, h⟩]

end Printing

/-- What a device has to say of itself, apart from its name. -/
structure Announcement where
  uuid : List Char
  platform : List Char
  firmware : List Char
  model : List Char
  uuid_run : IsRun (fun c => c != ';' && c != ')') uuid
  uuid_bare : trim uuid = uuid
  platform_run : IsRun (fun c => c != '/' && !isBlank c) platform
  firmware_run : IsRun (fun c => !isBlank c) firmware
  model_run : IsRun (· != ')') model
  model_bare : trim model = model

namespace Announcement

/-- The fields, with the name as it is written. -/
def fields (said : Announcement) (written : Option (List Char)) : Fields :=
  ⟨said.uuid, written, said.platform, said.firmware, said.model⟩

/-- The device that is meant. -/
def device (said : Announcement) (name : String) : Device :=
  ⟨.ofList said.uuid, name, .ofList said.platform, .ofList said.firmware, .ofList said.model,
    modelOfToken said.model⟩

variable (said : Announcement) {written : Option (List Char)}

private theorem legal (hwritten : ∀ name ∈ written, ∀ c ∈ name, (c != ')') = true) :
    (said.fields written).Legal :=
  ⟨said.uuid_run, hwritten, said.platform_run, said.firmware_run, said.model_run⟩

private theorem fieldText_uuid : fieldText said.uuid = .ofList said.uuid :=
  congrArg String.ofList said.uuid_bare

/-- All fields but the name are read as they are written. -/
theorem ofFields_fields (written : Option (List Char)) :
    ofFields (said.fields written) = said.device (nameOf (said.fields written)) := by
  have hplatform : trim said.platform = said.platform := trim_of_all_bare fun c hc => by
    have hclass := said.platform_run.2 c hc
    rw [Bool.and_eq_true, Bool.not_eq_true'] at hclass
    exact hclass.2
  have hfirmware : trim said.firmware = said.firmware := trim_of_all_bare fun c hc =>
    (Bool.not_eq_true' _).mp (said.firmware_run.2 c hc)
  simp only [ofFields, fields, device, fieldText, said.uuid_bare, hplatform, hfirmware, said.model_bare]

/-- A name is read as it was before it was encoded. -/
theorem nameOf_percentEncode {name : String} (h : name ≠ "") :
    nameOf (said.fields (some (percentEncode name))) = name := by
  have htrim : fieldText (percentEncode name) = .ofList (percentEncode name) :=
    congrArg String.ofList (trim_of_all_bare fun c hc => (plain_of_mem_percentEncode hc).2.2)
  simp only [nameOf, fields]
  rw [htrim, if_neg (mt String.ofList_eq_empty_iff.mp (percentEncode_ne_nil h)),
    percentDecode_percentEncode]

/-- A device that gives no name, or an empty one, is named by its uuid. -/
theorem nameOf_none : nameOf (said.fields none) = .ofList said.uuid := said.fieldText_uuid

private theorem nameOf_empty :
    nameOf (said.fields (some [])) = .ofList said.uuid := said.fieldText_uuid

/-- The user agent with the fields behind a head, among blanks and whatever follows it. -/
def userAgent (head : List Char) (written : Option (List Char)) (before after : List Char) : String :=
  .ofList (before ++ ((head ++ (said.fields written).text) ++ after))

private theorem ofUserAgent_userAgent (written : Option (List Char)) {form : Form}
    {head before : List Char}
    (hhead : form.Head head) (hform : written.isSome = form.hasName)
    (hwritten : ∀ name ∈ written, ∀ c ∈ name, (c != ')') = true) (hbefore : AreBlanks before)
    (after : List Char) :
    ofUserAgent (said.userAgent head written before after) =
      said.device (nameOf (said.fields written)) := by
  rw [← said.ofFields_fields]
  exact ofUserAgent_of_announces
    (Form.announces_printed hhead (said.legal hwritten) hform hbefore after)

end Announcement

/-- At most one family has a beginning of the token. -/
theorem modelPrefixes_pairwise :
    modelPrefixes.Pairwise fun a b => ¬ a.1 <+: b.1 ∧ ¬ b.1 <+: a.1 := by decide

private theorem length_matching_le_one (token : List Char) :
    (modelPrefixes.filter fun entry => entry.1.isPrefixOf token).length ≤ 1 := by
  have hpairwise := modelPrefixes_pairwise.sublist
    (List.filter_sublist (p := fun entry => entry.1.isPrefixOf token))
  have hmem (entry : List Char × Model)
      (h : entry ∈ modelPrefixes.filter fun entry => entry.1.isPrefixOf token) : entry.1 <+: token :=
    List.isPrefixOf_iff_prefix.mp (List.mem_filter.mp h).2
  generalize modelPrefixes.filter (fun entry => entry.1.isPrefixOf token) = matching at hpairwise hmem
  match matching with
  | [] => exact Nat.zero_le 1
  | [_] => exact Nat.le_refl 1
  | a :: b :: _ =>
    have hab := List.rel_of_pairwise_cons hpairwise List.mem_cons_self
    rcases List.prefix_or_prefix_of_prefix (hmem a (by simp)) (hmem b (by simp)) with h | h
    · exact absurd h hab.1
    · exact absurd h hab.2

/-- The family of a model is the one that it begins like. -/
theorem modelOfToken_eq {token : List Char} {entry : List Char × Model} (hentry : entry ∈ modelPrefixes)
    (hbegins : entry.1 <+: (trim token).map Char.toLower) : modelOfToken token = entry.2 := by
  unfold modelOfToken
  dsimp only
  have hlength := length_matching_le_one ((trim token).map Char.toLower)
  have hmem : entry ∈ modelPrefixes.filter fun entry =>
      entry.1.isPrefixOf ((trim token).map Char.toLower) :=
    List.mem_filter.mpr ⟨hentry, List.isPrefixOf_iff_prefix.mpr hbegins⟩
  rw [← List.head?_filter]
  generalize modelPrefixes.filter (fun entry =>
    entry.1.isPrefixOf ((trim token).map Char.toLower)) = matching at hlength hmem
  match matching with
  | [] => cases hmem
  | [other] => rw [List.mem_singleton.mp hmem]; rfl
  | _ :: _ :: _ => simp at hlength

private theorem exists_prefix_of_modelOfToken {token : List Char}
    (h : modelOfToken token ≠ .unknown) :
    ∃ entry ∈ modelPrefixes, entry.1 <+: (trim token).map Char.toLower := by
  unfold modelOfToken at h
  dsimp only at h
  split at h
  · next beginning family hfind =>
    have hbegins := List.find?_some hfind
    exact ⟨(beginning, family), List.mem_of_find?_eq_some hfind,
      List.isPrefixOf_iff_prefix.mp hbegins⟩
  · exact absurd rfl h

/-- What is known of a device it has said in one of the forms. -/
theorem announces_of_isKnown {userAgent : String} (h : (ofUserAgent userAgent).isKnown = true) :
    ∃ (form : Form) (fields : Fields), form.Announces (trim userAgent.toList) fields ∧
      trim fields.uuid ≠ [] ∧
      ∃ entry ∈ modelPrefixes, entry.1 <+: (trim fields.model).map Char.toLower := by
  unfold ofUserAgent at h
  split at h
  · next fields hfields =>
    obtain ⟨form, hform⟩ := readFields?_eq_some_iff.mp hfields
    simp only [Device.isKnown, ofFields, Bool.and_eq_true, bne_iff_ne, fieldText] at h
    refine ⟨form, fields, hform, mt String.ofList_eq_empty_iff.mpr h.2, ?_⟩
    simpa using exists_prefix_of_modelOfToken h.1
  · exact absurd h (by decide)

/-- A device is taken for what it says of itself in any of the forms. No text is of two forms or has
other fields in one of them, no model begins like two families, and nothing is known of a device that
does not say who it is and what it is. -/
theorem userAgent_read_back (said : Announcement) {name : String} {before : List Char}
    (hname : name ≠ "") (hbefore : AreBlanks before) :
    (∀ (form : Form) head after, form.Head head → form.hasName = true →
      ofUserAgent (said.userAgent head (some (percentEncode name)) before after) =
          said.device name ∧
        ofUserAgent (said.userAgent head (some []) before after) =
          said.device (.ofList said.uuid)) ∧
    (∀ head after, Form.nameless.Head head →
      ofUserAgent (said.userAgent head none before after) = said.device (.ofList said.uuid)) ∧
    (∀ (form form' : Form) s fields fields', form.Announces s fields → form'.Announces s fields' →
      form = form' ∧ fields = fields') ∧
    (∀ token : List Char, (modelPrefixes.filter fun entry =>
      entry.1.isPrefixOf (token.map Char.toLower)).length ≤ 1) ∧
    (∀ (token : List Char), ∀ entry ∈ modelPrefixes,
      entry.1 <+: (trim token).map Char.toLower → modelOfToken token = entry.2) ∧
    ∀ userAgent, (ofUserAgent userAgent).isKnown = true →
      ∃ (form : Form) (fields : Fields), form.Announces (trim userAgent.toList) fields ∧
        trim fields.uuid ≠ [] ∧
        ∃ entry ∈ modelPrefixes, entry.1 <+: (trim fields.model).map Char.toLower := by
  refine ⟨fun form head after hhead hform => ⟨?_, ?_⟩, fun head after hhead => ?_,
    fun _ _ _ _ _ => Form.announces_unique, fun token => length_matching_le_one _,
    fun _ _ => modelOfToken_eq, fun _ => announces_of_isKnown⟩
  · have hplain : ∀ written ∈ some (percentEncode name), ∀ c ∈ written, (c != ')') = true := by
      rintro _ ⟨⟩ c hc
      simpa using (plain_of_mem_percentEncode hc).2.1
    rw [said.ofUserAgent_userAgent (some (percentEncode name)) hhead hform.symm hplain hbefore,
      said.nameOf_percentEncode hname]
  · have hplain : ∀ written ∈ some ([] : List Char), ∀ c ∈ written, (c != ')') = true := by
      rintro _ ⟨⟩ c ⟨⟩
    rw [said.ofUserAgent_userAgent (some []) hhead hform.symm hplain hbefore, said.nameOf_empty]
  · rw [said.ofUserAgent_userAgent none hhead rfl (fun _ h => nomatch h) hbefore, said.nameOf_none]

/-- A device with a blank in its uuid and a version of its own in its firmware. -/
def lobby : Announcement where
  uuid := ['a', ' ', 'b']
  platform := ['o', 's']
  firmware := ['v', '/', '1']
  model := ['X', 'M', 'P', '-', '3', '3', '0']
  uuid_run := ⟨by decide, List.all_eq_true.mp rfl⟩
  uuid_bare := by decide
  platform_run := ⟨by decide, List.all_eq_true.mp rfl⟩
  firmware_run := ⟨by decide, List.all_eq_true.mp rfl⟩
  model_run := ⟨by decide, List.all_eq_true.mp rfl⟩
  model_bare := by decide

theorem userAgent_read_back_lobby :
    "Bü)ro" ≠ "" ∧ AreBlanks [' ', '\t'] ∧
      ofUserAgent " \tGAPI/1.0 (UUID:a b; NAME:B%C3%BC%29ro) os/v/1 (MODEL:XMP-330)) " =
        ⟨"a b", "Bü)ro", "os", "v/1", "XMP-330", .xmp3x0⟩ := by
  have hname : "Bü)ro" ≠ "" := by decide
  have hbefore : AreBlanks [' ', '\t'] := by decide
  have hread := ((userAgent_read_back lobby hname hbefore).1 .gapi _ [')', ' '] .gapi rfl).1
  have hprinted : lobby.userAgent "GAPI/1.0 ".toList (some (percentEncode "Bü)ro")) [' ', '\t']
      [')', ' '] = " \tGAPI/1.0 (UUID:a b; NAME:B%C3%BC%29ro) os/v/1 (MODEL:XMP-330)) " := by
    decide +kernel
  rw [hprinted] at hread
  exact ⟨hname, hbefore, hread⟩

end Signage.Identity
