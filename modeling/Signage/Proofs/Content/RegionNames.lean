import Mathlib.Data.List.Induction
import Mathlib.Data.List.TakeWhile
import Signage.Content.Region
import Signage.Proofs.Text.Blanks
import Signage.Proofs.Text.Numerals
import Signage.Proofs.Text.Tokens

/-!
The regions that markup refers to: what a scan finds, against every place where an attribute stands,
and what is left of both when regions are renamed and sequences are wrapped around them.
-/
namespace Signage.Content
variable {zone : ZoneId} {markup s t rest name : List Char} {b c : Char}

/-- A region attribute with this name stands behind a blank. -/
def RefersInside (s : Markup) (name : List Char) : Prop :=
  '"' ∉ name ∧ ∃ front b rest, Text.isBlank b = true ∧ s = front ++ b :: (regionAttribute name ++ rest)

/-- A region attribute with this name stands at the start or behind a blank. -/
def Refers (markup : Markup) (name : List Char) : Prop :=
  ('"' ∉ name ∧ ∃ rest, markup = regionAttribute name ++ rest) ∨ RefersInside markup name

/-- The names that a scan finds behind blanks. -/
def namesInside (s : Markup) : List (List Char) :=
  (Text.pieces regionRule s).filterMap fun piece => piece.value?.map RegionReference.name

/-- A region attribute is its opening, the name, and the quote that closes it. -/
theorem regionAttribute_append (name rest : List Char) :
    regionAttribute name ++ rest = regionOpening ++ (name ++ '"' :: rest) := by
  simp [regionAttribute]

private theorem takeWhile_ne_quote (h : '"' ∉ name) (rest : List Char) :
    (name ++ '"' :: rest).takeWhile (· != '"') = name := by
  have hall : ∀ c ∈ name, (c != '"') = true := fun c hc => bne_iff_ne.mpr fun he => h (he ▸ hc)
  rw [List.takeWhile_append_of_pos hall]
  simp

/-- A region attribute is read exactly where it stands, with a name up to the first quote. -/
theorem readRegion?_eq_some_iff :
    readRegion? s = some name ↔ '"' ∉ name ∧ ∃ rest, s = regionAttribute name ++ rest := by
  constructor
  · intro h
    obtain ⟨body, hbody, h⟩ := Option.bind_eq_some_iff.mp h
    rw [Text.dropLiteral?_eq_some_iff] at hbody
    obtain ⟨hlen, hname⟩ := Option.ite_none_right_eq_some.mp h
    have hquote : '"' ∈ body := by
      by_contra hno
      have hall : ∀ c ∈ body, (c != '"') = true := fun c hc =>
        bne_iff_ne.mpr fun he => hno (he ▸ hc)
      rw [List.takeWhile_eq_self_iff.mpr hall] at hlen
      exact absurd hlen (Nat.lt_irrefl _)
    obtain ⟨found, rest, rfl, hplain⟩ := List.eq_append_cons_of_mem hquote
    rw [takeWhile_ne_quote hplain] at hname
    cases hname
    exact ⟨hplain, rest, by rw [regionAttribute_append, hbody]⟩
  · rintro ⟨hplain, rest, rfl⟩
    have hbody : Text.dropLiteral? regionOpening (regionAttribute name ++ rest) =
        some (name ++ '"' :: rest) :=
      Text.dropLiteral?_eq_some_iff.mpr (regionAttribute_append name rest)
    simp [readRegion?, hbody, takeWhile_ne_quote hplain]

@[simp] theorem readRegion?_regionAttribute (h : '"' ∉ name) (rest : List Char) :
    readRegion? (regionAttribute name ++ rest) = some name :=
  readRegion?_eq_some_iff.mpr ⟨h, rest, rfl⟩

/-- No attribute is read exactly when no quote closes what the text opens. -/
theorem readRegion?_eq_none_iff :
    readRegion? s = none ↔ ∀ rest, s = regionOpening ++ rest → '"' ∉ rest := by
  constructor
  · rintro h rest rfl hq
    obtain ⟨name, tail, rfl, hplain⟩ := List.eq_append_cons_of_mem hq
    rw [← regionAttribute_append, readRegion?_regionAttribute hplain] at h
    cases h
  · intro h
    cases hr : readRegion? s with
    | none => rfl
    | some name =>
      obtain ⟨-, rest, rfl⟩ := readRegion?_eq_some_iff.mp hr
      exact absurd (by simp) (h _ (regionAttribute_append name rest))

/-- What stands in front of a text is one region attribute at most. -/
theorem regionAttribute_append_inj {other rest' : List Char} (h : '"' ∉ name) (h' : '"' ∉ other)
    (he : regionAttribute name ++ rest = regionAttribute other ++ rest') :
    name = other ∧ rest = rest' := by
  have hread := readRegion?_regionAttribute h rest
  rw [he, readRegion?_regionAttribute h'] at hread
  cases hread
  exact ⟨rfl, List.append_cancel_left he⟩

/-- No attribute is looked for but behind a blank. -/
theorem regionRule_of_not_blank (h : Text.isBlank c = false) :
    regionRule (c :: rest) = none := by
  simp [regionRule, h]

private theorem regionRule_of_blank (h : Text.isBlank c = true) :
    regionRule (c :: rest) =
      (readRegion? rest).map fun name => (⟨c, name⟩, (regionAttribute name).length + 1) := by
  simp [regionRule, h]

/-- Nothing is found at a character that is no blank, or that no attribute stands behind. -/
theorem regionRule_eq_none_iff :
    regionRule (c :: rest) = none ↔ (Text.isBlank c = true → readRegion? rest = none) := by
  cases hc : Text.isBlank c with
  | false => simp [regionRule_of_not_blank hc]
  | true => simp [regionRule_of_blank hc]

private theorem exists_of_regionRule {found : RegionReference × Nat}
    (h : regionRule (c :: rest) = some found) :
    Text.isBlank c = true ∧ ∃ name, readRegion? rest = some name := by
  cases hc : Text.isBlank c with
  | false =>
    rw [regionRule_of_not_blank hc] at h
    cases h
  | true =>
    rw [regionRule_of_blank hc] at h
    obtain ⟨name, hname, -⟩ := Option.map_eq_some_iff.mp h
    exact ⟨rfl, name, hname⟩

/-- How a scan goes over a text. -/
inductive Scans : Markup → Prop
  | nil : Scans []
  | character {c : Char} {rest : Markup} (h : regionRule (c :: rest) = none) (hs : Scans rest) :
      Scans (c :: rest)
  | reference {b : Char} {name rest : Markup} (hb : Text.isBlank b = true) (hn : '"' ∉ name)
      (hs : Scans rest) : Scans (b :: (regionAttribute name ++ rest))

private theorem scans (s : Markup) : Scans s := by
  induction hn : s.length using Nat.strongRecOn generalizing s with
  | _ n ih =>
    cases s with
    | nil => exact .nil
    | cons c rest =>
      have hrest : rest.length < n := by
        rw [← hn]
        exact Nat.lt_succ_self _
      cases hr : regionRule (c :: rest) with
      | none => exact .character hr (ih _ hrest rest rfl)
      | some found =>
        obtain ⟨hc, name, hname⟩ := exists_of_regionRule hr
        obtain ⟨hplain, rest', rfl⟩ := readRegion?_eq_some_iff.mp hname
        rw [List.length_append] at hrest
        exact .reference hc hplain (ih _ (Nat.lt_of_le_of_lt (Nat.le_add_left _ _) hrest) rest' rfl)

private theorem pieces_reference (hb : Text.isBlank b = true) (hn : '"' ∉ name) (rest : Markup) :
    Text.pieces regionRule (b :: (regionAttribute name ++ rest)) =
      .token ⟨b, name⟩ (b :: regionAttribute name) :: Text.pieces regionRule rest := by
  refine Text.pieces_append_of_some (List.cons_ne_nil b (regionAttribute name)) ?_
  rw [List.cons_append, regionRule_of_blank hb, readRegion?_regionAttribute hn]
  rfl

@[simp] theorem namesInside_nil : namesInside [] = [] := rfl

/-- A character at which nothing is found is passed over. -/
theorem namesInside_cons_of_none (h : regionRule (c :: rest) = none) :
    namesInside (c :: rest) = namesInside rest := by
  rw [namesInside, Text.pieces_cons_of_none h]
  rfl

private theorem namesInside_reference (hb : Text.isBlank b = true) (hn : '"' ∉ name)
    (rest : Markup) :
    namesInside (b :: (regionAttribute name ++ rest)) = name :: namesInside rest := by
  rw [namesInside, pieces_reference hb hn]
  rfl

@[simp] theorem renameInside_nil (zone : ZoneId) : renameInside zone [] = [] := rfl

/-- A character at which nothing is found stays as it is. -/
theorem renameInside_cons_of_none (h : regionRule (c :: rest) = none) :
    renameInside zone (c :: rest) = c :: renameInside zone rest := by
  rw [renameInside, Text.pieces_cons_of_none h]
  rfl

/-- An attribute behind a blank gets the number of the zone. -/
theorem renameInside_reference (hb : Text.isBlank b = true) (hn : '"' ∉ name) (rest : Markup) :
    renameInside zone (b :: (regionAttribute name ++ rest)) =
      b :: (regionAttribute (name ++ zone.numeral) ++ renameInside zone rest) := by
  rw [renameInside, pieces_reference hb hn]
  rfl

/-- Where no attribute stands at the start, all names are found behind blanks. -/
theorem regionNames_of_none (h : readRegion? s = none) : regionNames s = namesInside s := by
  rw [regionNames, h]
  rfl

/-- The name of an attribute at the start comes first. -/
theorem regionNames_regionAttribute (h : '"' ∉ name) (rest : Markup) :
    regionNames (regionAttribute name ++ rest) = name :: namesInside rest := by
  rw [regionNames, readRegion?_regionAttribute h]
  simp [namesInside]

/-- Where no attribute stands at the start, only those behind blanks are renamed. -/
theorem renameRegions_of_none (h : readRegion? s = none) :
    renameRegions zone s = renameInside zone s := by
  rw [renameRegions, h]

/-- An attribute at the start gets the number of the zone as well. -/
theorem renameRegions_regionAttribute (h : '"' ∉ name) (rest : Markup) :
    renameRegions zone (regionAttribute name ++ rest) =
      regionAttribute (name ++ zone.numeral) ++ renameInside zone rest := by
  rw [renameRegions, readRegion?_regionAttribute h]
  simp

/-- A text begins with an attribute or is scanned as it is. -/
private theorem readRegion?_cases (markup : Markup) :
    readRegion? markup = none ∨
      ∃ name rest, '"' ∉ name ∧ markup = regionAttribute name ++ rest := by
  cases h : readRegion? markup with
  | none => exact .inl rfl
  | some name =>
    obtain ⟨hplain, rest, rfl⟩ := readRegion?_eq_some_iff.mp h
    exact .inr ⟨name, rest, hplain, rfl⟩

section Names

private theorem refersInside_cons (c : Char) (h : RefersInside s name) :
    RefersInside (c :: s) name := by
  obtain ⟨hplain, front, b, rest, hb, rfl⟩ := h
  exact ⟨hplain, c :: front, b, rest, hb, rfl⟩

private theorem refersInside_append (t : Markup) (h : RefersInside s name) :
    RefersInside (t ++ s) name := by
  obtain ⟨hplain, front, b, rest, hb, rfl⟩ := h
  exact ⟨hplain, t ++ front, b, rest, hb, by rw [List.append_assoc]⟩

private theorem refersInside_of_mem_namesInside (h : name ∈ namesInside s) :
    RefersInside s name := by
  induction scans s with
  | nil => cases h
  | character hr _ ih =>
    rw [namesInside_cons_of_none hr] at h
    exact refersInside_cons _ (ih h)
  | @reference b found rest hb hn _ ih =>
    rw [namesInside_reference hb hn] at h
    rcases List.mem_cons.mp h with rfl | h
    · exact ⟨hn, [], b, rest, hb, rfl⟩
    · exact refersInside_append (b :: regionAttribute found) (ih h)

private theorem not_blank_of_mem_regionAttribute (h : ∀ c ∈ name, Text.isBlank c = false)
    (hc : c ∈ regionAttribute name) : Text.isBlank c = false := by
  have hopening : ∀ c ∈ regionOpening, Text.isBlank c = false :=
    Text.not_blank_of_all (by decide)
  rw [regionAttribute, List.mem_append, List.mem_append, List.mem_singleton] at hc
  rcases hc with (hc | hc) | rfl
  · exact hopening c hc
  · exact h c hc
  · decide

/-- No blank stands in an attribute whose name has none, so what stands behind a blank stands behind
the attribute. -/
private theorem refersInside_of_append {found : List Char}
    (hfound : ∀ c ∈ found, Text.isBlank c = false)
    (h : RefersInside (regionAttribute found ++ s) name) : RefersInside s name := by
  obtain ⟨hplain, front, b, rest, hb, he⟩ := h
  rcases List.append_eq_append_iff.mp he with ⟨front', rfl, rfl⟩ | ⟨overlap, ho, he⟩
  · exact ⟨hplain, front', b, rest, hb, rfl⟩
  · cases overlap with
    | nil => exact ⟨hplain, [], b, rest, hb, he.symm⟩
    | cons d overlap =>
      obtain ⟨rfl, -⟩ := List.cons.inj he
      have hmem : b ∈ regionAttribute found := by simp [ho]
      rw [not_blank_of_mem_regionAttribute hfound hmem] at hb
      cases hb

private theorem mem_namesInside_of_refersInside
    (hnames : ∀ found ∈ namesInside s, ∀ c ∈ found, Text.isBlank c = false)
    (h : RefersInside s name) : name ∈ namesInside s := by
  induction scans s with
  | nil =>
    obtain ⟨-, front, b, rest, -, he⟩ := h
    simp at he
  | @character c rest hr _ ih =>
    rw [namesInside_cons_of_none hr] at hnames ⊢
    obtain ⟨hplain, front, b, tail, hb, he⟩ := h
    cases front with
    | nil =>
      obtain ⟨rfl, rfl⟩ := List.cons.inj he
      have hread := regionRule_eq_none_iff.mp hr hb
      rw [readRegion?_regionAttribute hplain] at hread
      cases hread
    | cons d front =>
      obtain ⟨rfl, rfl⟩ := List.cons.inj he
      exact ih hnames ⟨hplain, front, b, tail, hb, rfl⟩
  | @reference d found rest hd hn _ ih =>
    rw [namesInside_reference hd hn] at hnames ⊢
    obtain ⟨hfound, hnames⟩ := List.forall_mem_cons.mp hnames
    obtain ⟨hplain, front, b, tail, hb, he⟩ := h
    cases front with
    | nil =>
      obtain ⟨-, he⟩ := List.cons.inj he
      obtain ⟨rfl, -⟩ := regionAttribute_append_inj hn hplain he
      exact List.mem_cons_self
    | cons e front =>
      obtain ⟨-, he⟩ := List.cons.inj he
      have hrest : RefersInside rest name :=
        refersInside_of_append hfound ⟨hplain, front, b, tail, hb, he⟩
      exact List.mem_cons_of_mem _ (ih hnames hrest)

/-- Every name that a scan finds is one that the markup refers to. -/
theorem refers_of_mem_regionNames (h : name ∈ regionNames markup) : Refers markup name := by
  rcases readRegion?_cases markup with hn | ⟨found, rest, hplain, rfl⟩
  · rw [regionNames_of_none hn] at h
    exact .inr (refersInside_of_mem_namesInside h)
  · rw [regionNames_regionAttribute hplain] at h
    rcases List.mem_cons.mp h with rfl | h
    · exact .inl ⟨hplain, rest, rfl⟩
    · exact .inr (refersInside_append _ (refersInside_of_mem_namesInside h))

/-- Attributes may overlap, and then a scan finds the first of them. Where no name has a blank in it
they cannot, and the scan finds them all. -/
theorem mem_regionNames_iff
    (hnames : ∀ found ∈ regionNames markup, ∀ c ∈ found, Text.isBlank c = false) :
    name ∈ regionNames markup ↔ Refers markup name := by
  refine ⟨refers_of_mem_regionNames, fun h => ?_⟩
  rcases readRegion?_cases markup with hn | ⟨found, rest, hplain, rfl⟩
  · rw [regionNames_of_none hn] at hnames ⊢
    rcases h with ⟨hq, rest, rfl⟩ | h
    · rw [readRegion?_regionAttribute hq] at hn
      cases hn
    · exact mem_namesInside_of_refersInside hnames h
  · rw [regionNames_regionAttribute hplain] at hnames ⊢
    obtain ⟨hfound, hnames⟩ := List.forall_mem_cons.mp hnames
    rcases h with ⟨hq, rest', he⟩ | h
    · obtain ⟨rfl, -⟩ := regionAttribute_append_inj hplain hq he
      exact List.mem_cons_self
    · have hrest : RefersInside rest name := refersInside_of_append hfound h
      exact List.mem_cons_of_mem _ (mem_namesInside_of_refersInside hnames hrest)

example : regionNames "region=\"a region=\"b\"".toList = ["a region=".toList] := by decide

end Names

section Renaming

private theorem quote_not_mem_numeral (zone : ZoneId) : '"' ∉ zone.numeral := fun h =>
  absurd (Text.isDigit_of_mem_numeral h) (by decide)

/-- The number of a zone adds no quote. -/
theorem quote_not_mem_renamed (h : '"' ∉ name) : '"' ∉ name ++ zone.numeral := by
  simp [h, quote_not_mem_numeral]

private theorem quote_mem_of_mem_renameInside (h : '"' ∈ renameInside zone s) : '"' ∈ s := by
  induction scans s with
  | nil => exact h
  | @character c rest hr _ ih =>
    rw [renameInside_cons_of_none hr] at h
    rcases List.mem_cons.mp h with rfl | h
    · exact List.mem_cons_self
    · exact List.mem_cons_of_mem _ (ih h)
  | reference hb hn _ ih => simp [regionAttribute]

private theorem renameInside_eq_cons (hc : Text.isBlank c = false)
    (h : renameInside zone s = c :: t) : ∃ s', s = c :: s' ∧ t = renameInside zone s' := by
  cases scans s with
  | nil => cases h
  | character hr _ =>
    rw [renameInside_cons_of_none hr] at h
    obtain ⟨rfl, rfl⟩ := List.cons.inj h
    exact ⟨_, rfl, rfl⟩
  | reference hb hn _ =>
    rw [renameInside_reference hb hn] at h
    obtain ⟨rfl, -⟩ := List.cons.inj h
    rw [hb] at hc
    cases hc

/-- Renaming writes no text without blanks that was not there. -/
private theorem renameInside_eq_append {word : List Char}
    (hw : ∀ c ∈ word, Text.isBlank c = false) (h : renameInside zone s = word ++ t) :
    ∃ s', s = word ++ s' ∧ t = renameInside zone s' := by
  induction word generalizing s with
  | nil => exact ⟨s, rfl, h.symm⟩
  | cons c word ih =>
    obtain ⟨hc, hw⟩ := List.forall_mem_cons.mp hw
    obtain ⟨s', rfl, hs'⟩ := renameInside_eq_cons hc h
    obtain ⟨s'', rfl, ht⟩ := ih hw hs'.symm
    exact ⟨s'', rfl, ht⟩

/-- Renaming makes no attribute at the start where none was. -/
theorem readRegion?_renameInside (h : readRegion? s = none) :
    readRegion? (renameInside zone s) = none := by
  rw [readRegion?_eq_none_iff] at h ⊢
  intro t ht hq
  have hopening : ∀ c ∈ regionOpening, Text.isBlank c = false :=
    Text.not_blank_of_all (by decide)
  obtain ⟨s', rfl, rfl⟩ := renameInside_eq_append hopening ht
  exact h s' rfl (quote_mem_of_mem_renameInside hq)

private theorem namesInside_renameInside (zone : ZoneId) (s : Markup) :
    namesInside (renameInside zone s) = (namesInside s).map (· ++ zone.numeral) := by
  induction scans s with
  | nil => rfl
  | @character c rest hr _ ih =>
    have hr' : regionRule (c :: renameInside zone rest) = none := by
      rw [regionRule_eq_none_iff] at hr ⊢
      exact fun hc => readRegion?_renameInside (hr hc)
    rw [renameInside_cons_of_none hr, namesInside_cons_of_none hr', namesInside_cons_of_none hr, ih]
  | reference hb hn _ ih =>
    rw [renameInside_reference hb hn, namesInside_reference hb (quote_not_mem_renamed hn),
      namesInside_reference hb hn, ih]
    rfl

/-- A second scan finds the regions that the first one found, each with the number of the zone. -/
theorem regionNames_renameRegions (zone : ZoneId) (markup : Markup) :
    regionNames (renameRegions zone markup) =
      (regionNames markup).map (· ++ zone.numeral) := by
  rcases readRegion?_cases markup with hn | ⟨name, rest, hplain, rfl⟩
  · rw [renameRegions_of_none hn, regionNames_of_none (readRegion?_renameInside hn),
      regionNames_of_none hn, namesInside_renameInside]
  · rw [renameRegions_regionAttribute hplain,
      regionNames_regionAttribute (quote_not_mem_renamed hplain),
      regionNames_regionAttribute hplain, namesInside_renameInside]
    rfl

end Renaming

section Wrapping

/-- A text without quotes closes no attribute. -/
private theorem readRegion?_append (ht : '"' ∉ t) (s : Markup) :
    readRegion? (s ++ t) = readRegion? s := by
  rcases readRegion?_cases s with hn | ⟨name, rest, hplain, rfl⟩
  · rw [hn, readRegion?_eq_none_iff]
    intro rest he hq
    rcases List.append_eq_append_iff.mp he with ⟨overlap, ho, rfl⟩ | ⟨rest', rfl, rfl⟩
    · cases overlap using List.reverseRecOn with
      | nil => exact ht hq
      | append_singleton overlap c =>
        have hc : c = '"' := by
          have hlast := congrArg List.getLast? ho
          simpa [regionOpening] using hlast.symm
        exact ht (by simp [hc])
    · rcases List.mem_append.mp hq with hq | hq
      · exact readRegion?_eq_none_iff.mp hn rest' rfl hq
      · exact ht hq
  · rw [List.append_assoc, readRegion?_regionAttribute hplain, readRegion?_regionAttribute hplain]

private theorem namesInside_append (ht : '"' ∉ t) (s : Markup) :
    namesInside (s ++ t) = namesInside s := by
  induction scans s with
  | nil =>
    induction t with
    | nil => rfl
    | cons c t ih =>
      rw [List.mem_cons, not_or] at ht
      have hread : readRegion? t = none :=
        readRegion?_eq_none_iff.mpr fun rest he hq => ht.2 (by simp [he, hq])
      rw [List.nil_append, namesInside_cons_of_none (regionRule_eq_none_iff.mpr fun _ => hread)]
      exact ih ht.2
  | @character c rest hr _ ih =>
    have hr' : regionRule (c :: (rest ++ t)) = none := by
      rw [regionRule_eq_none_iff, readRegion?_append ht]
      exact regionRule_eq_none_iff.mp hr
    rw [List.cons_append, namesInside_cons_of_none hr', namesInside_cons_of_none hr, ih]
  | reference hb hn _ ih =>
    rw [List.cons_append, List.append_assoc, namesInside_reference hb hn,
      namesInside_reference hb hn, ih]

private theorem regionNames_append (ht : '"' ∉ t) (s : Markup) :
    regionNames (s ++ t) = regionNames s := by
  rcases readRegion?_cases s with hn | ⟨name, rest, hplain, rfl⟩
  · have hn' : readRegion? (s ++ t) = none := by rw [readRegion?_append ht, hn]
    rw [regionNames_of_none hn', regionNames_of_none hn, namesInside_append ht]
  · rw [List.append_assoc, regionNames_regionAttribute hplain, regionNames_regionAttribute hplain,
      namesInside_append ht]

/-- After a blank a text is scanned as from its start. -/
theorem namesInside_cons_of_blank (hb : Text.isBlank b = true) (s : Markup) :
    namesInside (b :: s) = regionNames s := by
  rcases readRegion?_cases s with hn | ⟨name, rest, hplain, rfl⟩
  · rw [namesInside_cons_of_none (regionRule_eq_none_iff.mpr fun _ => hn), regionNames_of_none hn]
  · rw [namesInside_reference hb hplain, regionNames_regionAttribute hplain]

private theorem namesInside_append_of_plain (h : ∀ c ∈ t, Text.isBlank c = false) (s : Markup) :
    namesInside (t ++ s) = namesInside s := by
  induction t with
  | nil => rfl
  | cons c t ih =>
    obtain ⟨hc, h⟩ := List.forall_mem_cons.mp h
    rw [List.cons_append, namesInside_cons_of_none (regionRule_of_not_blank hc), ih h]

/-- A word that begins no attribute is passed over, with the blank behind it. -/
private theorem regionNames_word {word : List Char} (hb : Text.isBlank b = true)
    (hw : ∀ c ∈ word, Text.isBlank c = false) (hn : readRegion? (word ++ b :: s) = none) :
    regionNames (word ++ b :: s) = regionNames s := by
  rw [regionNames_of_none hn, namesInside_append_of_plain hw, namesInside_cons_of_blank hb]

/-- What opens and closes a sequence refers to no region. -/
theorem regionNames_wrapSequence {id : List Char} (hid : ∀ c ∈ id, Text.isBlank c = false)
    (markup : Markup) : regionNames (wrapSequence id markup) = regionNames markup := by
  have hclosing : '"' ∉ sequenceClosing := by decide
  have hopening : sequenceOpening id ++ markup =
      [] ++ '\t' :: ([] ++ '\t' :: ([] ++ '\t' :: ("<seq".toList ++ ' ' ::
        (("id=\"".toList ++ id ++ ['"']) ++ ' ' ::
          ("repeatCount=\"indefinite\">".toList ++ '\n' :: markup))))) := by
    simp [sequenceOpening, indent]
  have hnil : ∀ c ∈ ([] : List Char), Text.isBlank c = false := by simp
  have hname : ∀ c ∈ "<seq".toList, Text.isBlank c = false := Text.not_blank_of_all (by decide)
  have hword : ∀ c ∈ "id=\"".toList ++ id ++ ['"'], Text.isBlank c = false := by
    simp only [List.forall_mem_append]
    exact ⟨⟨Text.not_blank_of_all (by decide), hid⟩, Text.not_blank_of_all (by decide)⟩
  have hrepeat : ∀ c ∈ "repeatCount=\"indefinite\">".toList, Text.isBlank c = false :=
    Text.not_blank_of_all (by decide)
  rw [wrapSequence, regionNames_append hclosing, hopening, regionNames_word rfl hnil rfl,
    regionNames_word rfl hnil rfl, regionNames_word rfl hnil rfl, regionNames_word rfl hname rfl,
    regionNames_word rfl hword rfl, regionNames_word rfl hrepeat rfl]

/-- The sequence around the items of a zone neither adds nor hides a region. -/
theorem regionNames_zoneItems (zone : ZoneId) (markup : Markup) :
    regionNames (zoneItems zone markup) = (regionNames markup).map (· ++ zone.numeral) := by
  have hid : ∀ c ∈ mediaId ++ zone.numeral, Text.isBlank c = false := by
    rw [List.forall_mem_append]
    exact ⟨Text.not_blank_of_all (by decide),
      fun c hc => Text.isBlank_eq_false_of_isDigit (Text.isDigit_of_mem_numeral hc)⟩
  rw [zoneItems, regionNames_wrapSequence hid, regionNames_renameRegions]

end Wrapping
end Signage.Content
