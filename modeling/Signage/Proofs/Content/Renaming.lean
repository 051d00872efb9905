import Mathlib.Data.List.Infix
import Signage.Proofs.Content.RegionNames

/-!
Renaming regions, told by a cut of the text: from left to right into region attributes and characters
that belong to none. A renamed text is cut in the same places, so that names can be told apart from what
was put behind them.
-/
namespace Signage.Content
variable {zone : ZoneId} {first : Bool} {s t rest front name value suffix : List Char} {c : Char}

/-- A part of markup: a region attribute, or a character that belongs to none. -/
inductive RegionPart where
  | reference (name : List Char)
  | character (c : Char)

namespace RegionPart

def text : RegionPart → Markup
  | reference name => regionAttribute name
  | character c => [c]

def name? : RegionPart → Option (List Char)
  | reference name => some name
  | character _ => none

/-- The part with something put right before the quote that closes it, if it is an attribute. -/
def renamed (suffix : List Char) : RegionPart → RegionPart
  | reference name => reference (name ++ suffix)
  | character c => character c

end RegionPart

/-- The text that is cut into the parts. -/
def textOf (parts : List RegionPart) : Markup := parts.flatMap RegionPart.text

/-- The regions that the parts refer to, in order. -/
def namesOf (parts : List RegionPart) : List (List Char) := parts.filterMap RegionPart.name?

/-- The parts with every region renamed. -/
def renamedParts (suffix : List Char) (parts : List RegionPart) : List RegionPart :=
  parts.map (RegionPart.renamed suffix)

/-- Markup that is cut from left to right. An attribute counts only where one may be `first`, which is
at the start of a text and behind a blank, and a character is passed only where no attribute counts. -/
inductive IsCut : Bool → Markup → List RegionPart → Prop
  | nil {first : Bool} : IsCut first [] []
  | reference {name rest : Markup} {parts : List RegionPart} (hname : '"' ∉ name)
      (hrest : IsCut false rest parts) :
      IsCut true (regionAttribute name ++ rest) (.reference name :: parts)
  | character {first : Bool} {c : Char} {rest : Markup} {parts : List RegionPart}
      (hnone : first = true → ∀ name tail, '"' ∉ name → c :: rest ≠ regionAttribute name ++ tail)
      (hrest : IsCut (Text.isBlank c) rest parts) : IsCut first (c :: rest) (.character c :: parts)

variable {parts other : List RegionPart}

/-! ### Cuts -/

@[simp] theorem textOf_cons (part : RegionPart) (parts : List RegionPart) :
    textOf (part :: parts) = part.text ++ textOf parts := List.flatMap_cons

@[simp] theorem renamedParts_cons (suffix : List Char) (part : RegionPart) (parts : List RegionPart) :
    renamedParts suffix (part :: parts) = part.renamed suffix :: renamedParts suffix parts := List.map_cons

private theorem renamedParts_renamedParts (suffix more : List Char) (parts : List RegionPart) :
    renamedParts more (renamedParts suffix parts) = renamedParts (suffix ++ more) parts := by
  rw [renamedParts, renamedParts, renamedParts, List.map_map]
  refine List.map_congr_left fun part _ => ?_
  cases part with
  | reference name => exact congrArg RegionPart.reference (List.append_assoc name suffix more)
  | character c => rfl

private theorem renamedParts_injective (suffix : List Char) :
    Function.Injective (renamedParts suffix) := by
  refine List.map_injective_iff.mpr fun part part' h => ?_
  cases part with
  | reference name =>
    cases part' with
    | reference name' =>
      have hnames : name ++ suffix = name' ++ suffix := RegionPart.reference.inj h
      rw [List.append_cancel_right hnames]
    | character c => cases h
  | character c =>
    cases part' with
    | reference name' => cases h
    | character d => exact h

private theorem IsCut.textOf_eq (h : IsCut first s parts) : textOf parts = s := by
  induction h with
  | nil => rfl
  | reference _ _ ih => rw [textOf_cons, ih, RegionPart.text]
  | character _ _ ih => rw [textOf_cons, ih, RegionPart.text, List.singleton_append]

private theorem readRegion?_eq_none_iff_ne :
    readRegion? s = none ↔ ∀ name tail, '"' ∉ name → s ≠ regionAttribute name ++ tail := by
  simp only [Option.eq_none_iff_forall_ne_some, ne_eq, readRegion?_eq_some_iff]
  grind

private theorem IsCut.unique (h : IsCut first s parts) (h' : IsCut first s other) :
    parts = other := by
  induction h generalizing other with
  -- The text of the other cut is put together in another way, so it is generalised in each case.
  | nil => cases h'; rfl
  | reference hname _ ih =>
    rename_i name rest parts _
    generalize hs : regionAttribute name ++ rest = s, hfirst : true = first at h'
    cases h' with
    | nil => cases hs
    | reference hname' hrest' =>
      obtain ⟨rfl, rfl⟩ := regionAttribute_append_inj hname hname' hs
      rw [ih hrest']
    | character hnone' => exact absurd hs.symm (hnone' hfirst.symm _ _ hname)
  | character hnone _ ih =>
    rename_i first c rest parts _
    generalize hs : c :: rest = s at h'
    cases h' with
    | nil => cases hs
    | reference hname' => exact absurd hs (hnone rfl _ _ hname')
    | character _ hrest' =>
      obtain ⟨rfl, rfl⟩ := List.cons.inj hs
      rw [ih hrest']

private theorem exists_isCut (first : Bool) (s : Markup) : ∃ parts, IsCut first s parts := by
  induction hn : s.length using Nat.strongRecOn generalizing first s with
  | ind n ih =>
    by_cases hreference : first = true ∧ ∃ name rest, '"' ∉ name ∧ s = regionAttribute name ++ rest
    · obtain ⟨rfl, name, rest, hname, rfl⟩ := hreference
      have hshorter : rest.length < n := by
        rw [← hn, List.length_append, regionAttribute]
        simp [regionOpening]
      obtain ⟨parts, hrest⟩ := ih _ hshorter false rest rfl
      exact ⟨_, .reference hname hrest⟩
    · cases s with
      | nil => exact ⟨[], .nil⟩
      | cons c rest =>
        have hshorter : rest.length < n := by
          rw [← hn]
          exact Nat.lt_succ_self _
        obtain ⟨parts, hrest⟩ := ih _ hshorter (Text.isBlank c) rest rfl
        refine ⟨_, .character (fun hfirst name tail hname hs => ?_) hrest⟩
        exact hreference ⟨hfirst, name, tail, hname, hs⟩

/-! ### Renaming -/

private theorem renameInside_cons (zone : ZoneId) (c : Char) (rest : Markup) :
    renameInside zone (c :: rest) =
      c :: if Text.isBlank c then renameRegions zone rest else renameInside zone rest := by
  split
  · next hc =>
    cases hread : readRegion? rest with
    | none =>
      rw [renameInside_cons_of_none (regionRule_eq_none_iff.mpr fun _ => hread),
        renameRegions_of_none hread]
    | some name =>
      obtain ⟨hname, tail, rfl⟩ := readRegion?_eq_some_iff.mp hread
      rw [renameInside_reference hc hname, renameRegions_regionAttribute hname]
  · next hc =>
    rw [renameInside_cons_of_none (regionRule_of_not_blank (by simpa using hc))]

private theorem namesInside_cons (c : Char) (rest : Markup) :
    namesInside (c :: rest) = if Text.isBlank c then regionNames rest else namesInside rest := by
  split
  · next hc => exact namesInside_cons_of_blank hc rest
  · next hc => exact namesInside_cons_of_none (regionRule_of_not_blank (by simpa using hc))

/-- What is renamed is the text with the number put into every attribute of the cut. -/
theorem IsCut.rename_eq (h : IsCut first s parts) (zone : ZoneId) :
    textOf (renamedParts zone.numeral parts) =
      if first then renameRegions zone s else renameInside zone s := by
  induction h with
  | nil => split <;> rfl
  | reference hname _ ih =>
    rw [renamedParts_cons, textOf_cons, ih, if_neg Bool.false_ne_true, if_pos rfl,
      renameRegions_regionAttribute hname]
    rfl
  | @character first c rest parts hnone _ ih =>
    have hinside : (if first then renameRegions zone (c :: rest) else renameInside zone (c :: rest)) =
        renameInside zone (c :: rest) := by
      split
      · next hfirst => exact renameRegions_of_none (readRegion?_eq_none_iff_ne.mpr (hnone hfirst))
      · rfl
    rw [renamedParts_cons, textOf_cons, ih, hinside, renameInside_cons]
    rfl

private theorem IsCut.names_eq (h : IsCut first s parts) :
    namesOf parts = if first then regionNames s else namesInside s := by
  induction h with
  | nil => split <;> rfl
  | reference hname _ ih =>
    rw [if_neg Bool.false_ne_true] at ih
    rw [if_pos rfl, regionNames_regionAttribute hname, ← ih]
    rfl
  | @character first c rest parts hnone _ ih =>
    have hinside : (if first then regionNames (c :: rest) else namesInside (c :: rest)) =
        namesInside (c :: rest) := by
      split
      · next hfirst => exact regionNames_of_none (readRegion?_eq_none_iff_ne.mpr (hnone hfirst))
      · rfl
    rw [hinside, namesInside_cons, ← ih]
    rfl

/-- A renamed text is cut where the text was cut. -/
theorem IsCut.renamed (h : IsCut first s parts) (zone : ZoneId) :
    IsCut first (textOf (renamedParts zone.numeral parts)) (renamedParts zone.numeral parts) := by
  induction h with
  | nil => exact .nil
  | reference hname _ ih => exact .reference (quote_not_mem_renamed hname) ih
  | @character first c rest parts hnone hrest ih =>
    refine .character (fun hfirst => readRegion?_eq_none_iff_ne.mp ?_) ih
    have hread := readRegion?_eq_none_iff_ne.mpr (hnone hfirst)
    have hwhole := (IsCut.character hnone hrest).rename_eq zone
    rw [hfirst, if_pos rfl, renameRegions_of_none hread] at hwhole
    change readRegion? (textOf (renamedParts zone.numeral (.character c :: parts))) = none
    rw [hwhole]
    exact readRegion?_renameInside hread

/-! ### Other attributes -/

/-- What opens a region attribute, without the quote. -/
def regionStem : List Char := ['r', 'e', 'g', 'i', 'o', 'n', '=']

private theorem regionAttribute_eq (name : List Char) :
    regionAttribute name = regionStem ++ '"' :: (name ++ ['"']) := rfl

/-- Texts up to the first quote. -/
private theorem quote_inj {before after : List Char} (hs : '"' ∉ before) (ht : '"' ∉ after)
    (h : before ++ '"' :: s = after ++ '"' :: t) : before = after ∧ s = t := by
  refine regionAttribute_append_inj hs ht ?_
  rw [regionAttribute_append, regionAttribute_append, h]

/-- Without a blank no attribute begins. -/
private theorem IsCut.skip {word : List Char} (hword : ∀ c ∈ word, Text.isBlank c = false)
    (h : IsCut false (word ++ s) parts) :
    ∃ parts', parts = word.map .character ++ parts' ∧ IsCut false s parts' := by
  induction word generalizing parts with
  | nil => exact ⟨parts, rfl, h⟩
  | cons c word ih =>
    obtain ⟨hc, hword⟩ := List.forall_mem_cons.mp hword
    cases h with
    | character _ hrest =>
      rw [hc] at hrest
      obtain ⟨parts', rfl, hrest'⟩ := ih hword hrest
      exact ⟨parts', rfl, hrest'⟩

/-- Nothing is put into a text before its first quote, nor right before that. -/
private theorem IsCut.keeps_quoted (h : IsCut first (value ++ '"' :: s) parts)
    (hvalue : '"' ∉ value)
    (suffix : List Char) : ∃ rest, textOf (renamedParts suffix parts) = value ++ '"' :: rest := by
  induction value generalizing first parts with
  | nil =>
    cases h with
    | character _ hrest => exact ⟨_, rfl⟩
  | cons c value ih =>
    generalize hs : c :: value ++ '"' :: s = t at h
    cases h with
    | nil => cases hs
    | @reference name rest parts hname hrest =>
      -- The first quote is the one that opens the attribute.
      rw [regionAttribute_eq, List.append_assoc, List.cons_append] at hs
      obtain ⟨hstem, -⟩ := quote_inj hvalue (by decide) hs
      refine ⟨name ++ suffix ++ ['"'] ++ textOf (renamedParts suffix parts), ?_⟩
      rw [hstem, renamedParts_cons, textOf_cons]
      simp [RegionPart.renamed, RegionPart.text, regionAttribute_eq]
    | character _ hrest =>
      obtain ⟨rfl, rfl⟩ := List.cons.inj hs
      obtain ⟨rest, hrest'⟩ := ih hrest fun hmem => hvalue (List.mem_cons_of_mem _ hmem)
      refine ⟨rest, ?_⟩
      rw [renamedParts_cons, textOf_cons, hrest']
      rfl

/-- An attribute that begins right behind other characters is kept where no attribute may begin. -/
private theorem IsCut.keeps_attribute (h : IsCut false (regionAttribute value ++ s) parts)
    (hvalue : '"' ∉ value) (suffix : List Char) :
    ∃ rest, textOf (renamedParts suffix parts) = regionStem ++ '"' :: (value ++ '"' :: rest) := by
  rw [regionAttribute_append] at h
  obtain ⟨parts', rfl, hrest⟩ := h.skip (Text.not_blank_of_all (by decide))
  obtain ⟨rest, hkept⟩ := hrest.keeps_quoted hvalue suffix
  exact ⟨rest, congrArg (regionOpening ++ ·) hkept⟩

/-- A region attribute of the cut ends where the beginning of the text does. -/
def ReferenceEnds (parts : List RegionPart) (beginning : Markup) : Prop :=
  ∃ before name after, parts = before ++ .reference name :: after ∧
    textOf before ++ regionAttribute name = beginning

private theorem ReferenceEnds.cons {beginning : Markup} (h : ReferenceEnds parts beginning)
    (part : RegionPart) : ReferenceEnds (part :: parts) (part.text ++ beginning) := by
  obtain ⟨before, name, after, rfl, rfl⟩ := h
  exact ⟨part :: before, name, after, rfl, by rw [textOf_cons, List.append_assoc]⟩

/-- What is left of an attribute with a longer name: its value between its quotes, and its name right
before it, unless its first quote was the last one of a region attribute. -/
def Keeps (parts : List RegionPart) (suffix front : List Char) (c : Char) (value : List Char) : Prop :=
  ∃ before after, textOf (renamedParts suffix parts) = before ++ '"' :: (value ++ '"' :: after) ∧
    ((∃ front', before = front' ++ c :: regionStem) ∨ ReferenceEnds parts (front ++ c :: regionOpening))

private theorem Keeps.cons (h : Keeps parts suffix front c value) (part : RegionPart) :
    Keeps (part :: parts) suffix (part.text ++ front) c value := by
  obtain ⟨before, after, htext, hname⟩ := h
  refine ⟨(part.renamed suffix).text ++ before, after, ?_, ?_⟩
  · rw [renamedParts_cons, textOf_cons, htext, List.append_assoc]
  · rcases hname with ⟨front', rfl⟩ | hends
    · exact .inl ⟨(part.renamed suffix).text ++ front', by rw [List.append_assoc]⟩
    · exact .inr (List.append_assoc _ _ _ ▸ hends.cons part)

/-- What opens an attribute leaves no room for the name of another one before its quote. -/
private theorem ne_of_opening {behind : List Char} (hname : '"' ∉ name) :
    regionOpening ++ name ≠ front ++ c :: (regionStem ++ '"' :: behind) := by
  intro h
  have hwhole : regionStem ++ '"' :: name = (front ++ c :: regionStem) ++ '"' :: behind := by
    simpa [regionOpening, regionStem] using h
  obtain ⟨hshort, -, -⟩ := (List.append_cons_inj_of_notMem (by decide) hname).mp hwhole
  have hlength := congrArg List.length hshort
  rw [List.length_append, List.length_cons] at hlength
  omega

/-- What a region attribute and the text behind it leave of an attribute that begins within the first. -/
private theorem keeps_of_reference {tail : List Char} (hname : '"' ∉ name)
    (hrest : IsCut false rest parts) (hvalue : '"' ∉ value)
    (hsplit : regionAttribute name = front ++ c :: tail)
    (htail : regionAttribute value ++ s = tail ++ rest) :
    Keeps (.reference name :: parts) suffix front c value := by
  have hlast : regionAttribute name = (regionOpening ++ name) ++ ['"'] := rfl
  rw [regionAttribute_append] at htail
  rcases List.eq_nil_or_concat tail with rfl | ⟨inner, d, rfl⟩
  · -- The attribute begins right behind the last quote.
    rw [hlast] at hsplit
    obtain ⟨hfront, hquote⟩ := List.append_inj' hsplit rfl
    obtain ⟨rfl, -⟩ := List.cons.inj hquote
    have hcut : IsCut false (regionAttribute value ++ s) parts := by
      rw [regionAttribute_append, htail]
      exact hrest
    obtain ⟨after, hkept⟩ := hcut.keeps_attribute hvalue suffix
    refine ⟨regionOpening ++ (name ++ suffix) ++ '"' :: regionStem, after, ?_,
      .inl ⟨regionOpening ++ (name ++ suffix), rfl⟩⟩
    rw [renamedParts_cons, textOf_cons, hkept]
    simp [RegionPart.renamed, RegionPart.text, regionAttribute]
  · rw [List.concat_eq_append, ← List.cons_append, ← List.append_assoc, hlast] at hsplit
    obtain ⟨hfront, hquote⟩ := List.append_inj' hsplit rfl
    obtain ⟨rfl, -⟩ := List.cons.inj hquote
    have hstem : regionStem ++ '"' :: (value ++ '"' :: s) = inner ++ '"' :: rest := by
      simpa [regionOpening, regionStem] using htail
    by_cases hinner : '"' ∈ inner
    · obtain ⟨before, behind, rfl, hbefore⟩ := List.eq_append_cons_of_mem hinner
      rw [List.append_assoc, List.cons_append] at hstem
      obtain ⟨rfl, -⟩ := quote_inj (by decide) hbefore hstem
      exact absurd hfront (ne_of_opening hname)
    · obtain ⟨rfl, rfl⟩ := quote_inj (by decide) hinner hstem
      obtain ⟨after, hkept⟩ := hrest.keeps_quoted hvalue suffix
      refine ⟨regionOpening ++ (name ++ suffix), after, ?_, .inr ⟨[], name, parts, rfl, ?_⟩⟩
      · rw [renamedParts_cons, textOf_cons, hkept]
        simp [RegionPart.renamed, RegionPart.text, regionAttribute]
      · rw [hlast, hfront]
        simp [textOf, regionOpening, regionStem]

/-- An attribute with a longer name keeps its value, whatever is renamed before it. -/
theorem IsCut.keeps (h : IsCut first s parts) (hc : Text.isBlank c = false) (hvalue : '"' ∉ value)
    (hs : s = front ++ c :: (regionAttribute value ++ rest)) (suffix : List Char) :
    Keeps parts suffix front c value := by
  induction h generalizing front with
  | nil => simp at hs
  | @reference name rest' parts hname hrest ih =>
    rcases List.append_eq_append_iff.mp hs with ⟨front', rfl, hrest'⟩ | ⟨tail, hsplit, htail⟩
    · exact (ih hrest').cons (.reference name)
    · cases tail with
      | nil =>
        rw [List.append_nil] at hsplit
        have hfirst : Keeps parts suffix [] c value := ih htail.symm
        have hkeeps := hfirst.cons (.reference name)
        rw [List.append_nil] at hkeeps
        exact hsplit ▸ hkeeps
      | cons d tail =>
        obtain ⟨rfl, hbehind⟩ := List.cons.inj htail
        exact keeps_of_reference hname hrest hvalue hsplit hbehind
  | @character first d rest' parts _ hrest ih =>
    cases front with
    | nil =>
      obtain ⟨rfl, rfl⟩ := List.cons.inj hs
      rw [hc] at hrest
      obtain ⟨after, hkept⟩ := hrest.keeps_attribute hvalue suffix
      refine ⟨d :: regionStem, after, ?_, .inl ⟨[], rfl⟩⟩
      rw [renamedParts_cons, textOf_cons, hkept]
      rfl
    | cons e front =>
      obtain ⟨rfl, hrest'⟩ := List.cons.inj hs
      exact (ih hrest').cons (.character d)

/-! ### Zones -/

/-- How a zone renames the regions of markup that is cut into the parts. -/
structure RenamedByCut (zone : ZoneId) (markup : Markup) (parts : List RegionPart) : Prop where
  text_eq : textOf parts = markup
  cut : IsCut true markup parts
  only_cut : ∀ other, IsCut true markup other → other = parts
  names : regionNames markup = namesOf parts
  exclusive : zoneExclusive zone markup = textOf (renamedParts zone.numeral parts)
  exclusive_cut : IsCut true (zoneExclusive zone markup) (renamedParts zone.numeral parts)
  exclusive_names : regionNames (zoneExclusive zone markup) = (regionNames markup).map (· ++ zone.numeral)
  exclusive_twice : ∀ second, zoneExclusive second (zoneExclusive zone markup) =
    textOf (renamedParts (zone.numeral ++ second.numeral) parts)
  exclusive_inj : ∀ other, zoneExclusive zone other = zoneExclusive zone markup → other = markup
  items : zoneItems zone markup = wrapSequence (mediaId ++ zone.numeral) (zoneExclusive zone markup)
  items_names : regionNames (zoneItems zone markup) = (regionNames markup).map (· ++ zone.numeral)
  items_inj : ∀ other, zoneItems zone other = zoneItems zone markup → other = markup
  keeps : ∀ front c value rest, Text.isBlank c = false → '"' ∉ value →
    markup = front ++ c :: (regionAttribute value ++ rest) → Keeps parts zone.numeral front c value

private theorem zoneExclusive_eq (h : IsCut true markup parts) (zone : ZoneId) :
    zoneExclusive zone markup = textOf (renamedParts zone.numeral parts) := by
  rw [h.rename_eq, if_pos rfl]
  rfl

private theorem isCut_zoneExclusive (h : IsCut true markup parts) (zone : ZoneId) :
    IsCut true (zoneExclusive zone markup) (renamedParts zone.numeral parts) := by
  rw [zoneExclusive_eq h]
  exact h.renamed zone

/-- The renamed text shows where it was cut, and what was put in is known. -/
theorem zoneExclusive_injective (zone : ZoneId) : Function.Injective (zoneExclusive zone) := by
  intro markup other h
  obtain ⟨parts, hcut⟩ := exists_isCut true markup
  obtain ⟨parts', hcut'⟩ := exists_isCut true other
  have hrenamed := isCut_zoneExclusive hcut zone
  rw [h] at hrenamed
  have hsame := renamedParts_injective _ (hrenamed.unique (isCut_zoneExclusive hcut' zone))
  rw [← hcut.textOf_eq, ← hcut'.textOf_eq, hsame]

private theorem zoneItems_injective (zone : ZoneId) : Function.Injective (zoneItems zone) := by
  intro markup other h
  rw [zoneItems, zoneItems, wrapSequence, wrapSequence] at h
  exact zoneExclusive_injective zone (List.append_cancel_left (List.append_cancel_right h))

/-- The number of the zone is put right before the last quote of each region attribute that a scan
finds, and into no other place, so that a scan finds the same attributes again. -/
theorem zone_renames_by_cut (zone : ZoneId) (markup : Markup) :
    ∃ parts, RenamedByCut zone markup parts := by
  obtain ⟨parts, hcut⟩ := exists_isCut true markup
  refine ⟨parts, ?_⟩
  exact {
    text_eq := hcut.textOf_eq
    cut := hcut
    only_cut := fun _ hother => hother.unique hcut
    names := by rw [hcut.names_eq, if_pos rfl]
    exclusive := zoneExclusive_eq hcut zone
    exclusive_cut := isCut_zoneExclusive hcut zone
    exclusive_names := regionNames_renameRegions zone markup
    exclusive_twice := fun second => by
      rw [zoneExclusive_eq (isCut_zoneExclusive hcut zone), renamedParts_renamedParts]
    exclusive_inj := fun _ h => zoneExclusive_injective zone h
    items := rfl
    items_names := regionNames_zoneItems zone markup
    items_inj := fun _ h => zoneItems_injective zone h
    keeps := fun _ _ _ _ hc hvalue hs => hcut.keeps hc hvalue hs zone.numeral }

example : zoneExclusive ⟨4⟩ "<ref subregion=\"left\" data-region=\"x\"\tregion=\"screen\"/>".toList =
    "<ref subregion=\"left\" data-region=\"x\"\tregion=\"screen4\"/>".toList := by decide

/-- An attribute with a longer name is not kept as it is where a region attribute ends with the quote
that opens its value. -/
theorem longer_name_split_by_zone :
    ¬ ∀ (zone : ZoneId) (front : Markup) (c : Char) (value rest : List Char), Text.isBlank c = false →
      '"' ∉ value →
        c :: regionAttribute value <:+: zoneExclusive zone (front ++ c :: (regionAttribute value ++ rest)) := by
  intro h
  have htext : "<ref alt=\" region=\" data".toList ++ '-' :: (regionAttribute ['x'] ++ "/>".toList) =
      "<ref alt=\" region=\" data-region=\"x\"/>".toList := by decide
  have hsplit : zoneExclusive ⟨4⟩ "<ref alt=\" region=\" data-region=\"x\"/>".toList =
      "<ref alt=\" region=\" data-region=4\"x\"/>".toList := by decide
  have hkept := h ⟨4⟩ "<ref alt=\" region=\" data".toList '-' ['x'] "/>".toList (by decide) (by decide)
  rw [htext, hsplit] at hkept
  revert hkept
  decide

end Signage.Content
