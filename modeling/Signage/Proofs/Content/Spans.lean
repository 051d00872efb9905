import Signage.Proofs.Content.Placeholders
import Signage.Proofs.Content.Resolution
import Signage.Proofs.Text.Numerals

/-!
Where placeholders are found. They are told by the bytes at which they begin and end, which always
lie between characters, so that markup can be cut there and put together again.
-/
namespace Signage.Content
variable {s t rest : Markup} {n : Nat}

/-! Cutting markup at bytes. -/

def byteSize (s : Markup) : Nat := (String.ofList s).utf8ByteSize

@[simp] theorem byteSize_nil : byteSize [] = 0 := rfl

@[simp] theorem byteSize_append (s t : Markup) : byteSize (s ++ t) = byteSize s + byteSize t := by
  rw [byteSize, String.ofList_append, String.utf8ByteSize_append, byteSize, byteSize]

@[simp] theorem byteSize_cons (c : Char) (s : Markup) : byteSize (c :: s) = c.utf8Size + byteSize s := by
  rw [byteSize, String.ofList_cons, String.utf8ByteSize_append, String.utf8ByteSize_singleton, byteSize]

private theorem byteSize_eq_zero_iff : byteSize s = 0 ↔ s = [] := by
  cases s with
  | nil => simp
  | cons c s => simp [c.utf8Size_pos.ne']

/-- The text before and after a number of bytes, if a character ends there. -/
def splitBytes? : Nat → Markup → Option (Markup × Markup)
  | 0, s => some ([], s)
  | _ + 1, [] => none
  | n + 1, c :: s =>
    if c.utf8Size ≤ n + 1 then
      (splitBytes? (n + 1 - c.utf8Size) s).map fun (front, rest) => (c :: front, rest)
    else none

private theorem splitBytes?_eq_some_iff :
    splitBytes? n s = some (t, rest) ↔ s = t ++ rest ∧ byteSize t = n := by
  induction s generalizing n t rest with
  | nil =>
    cases n with
    | zero =>
      rw [splitBytes?, byteSize_eq_zero_iff]
      simp [and_comm, eq_comm (a := ([] : Markup))]
    | succ n =>
      simp only [splitBytes?, reduceCtorEq, false_iff, not_and]
      intro h
      simp [(List.append_eq_nil_iff.mp h.symm).1]
  | cons c s ih =>
    cases n with
    | zero =>
      rw [splitBytes?, byteSize_eq_zero_iff]
      constructor
      · intro h
        cases h
        exact ⟨rfl, rfl⟩
      · rintro ⟨h, rfl⟩
        rw [h, List.nil_append]
    | succ n =>
      rw [splitBytes?]
      split
      · next hle =>
        simp only [Option.map_eq_some_iff, Prod.exists, Prod.mk.injEq, ih]
        constructor
        · rintro ⟨front, _, ⟨rfl, hsize⟩, rfl, rfl⟩
          exact ⟨rfl, by rw [byteSize_cons]; omega⟩
        · rintro ⟨h, hsize⟩
          cases t with
          | nil => simp at hsize
          | cons d front =>
            obtain ⟨rfl, rfl⟩ := List.cons.inj h
            rw [byteSize_cons] at hsize
            exact ⟨front, rest, ⟨rfl, by omega⟩, rfl, rfl⟩
      · next hle =>
        simp only [reduceCtorEq, false_iff, not_and]
        intro h hsize
        cases t with
        | nil => simp at hsize
        | cons d front =>
          obtain ⟨rfl, -⟩ := List.cons.inj h
          rw [byteSize_cons] at hsize
          omega

/-- The text from one byte to another, if both lie between characters. -/
def slice? (s : Markup) (start stop : Nat) : Option Markup :=
  if start ≤ stop then
    (splitBytes? start s).bind fun (_, rest) => (splitBytes? (stop - start) rest).map Prod.fst
  else none

private theorem slice?_eq_some_iff {start stop : Nat} :
    slice? s start stop = some t ↔ ∃ before after, s = before ++ (t ++ after) ∧
      byteSize before = start ∧ start + byteSize t = stop := by
  unfold slice?
  split
  · next hle =>
    simp only [Option.bind_eq_some_iff, Option.map_eq_some_iff, Prod.exists, splitBytes?_eq_some_iff]
    constructor
    · rintro ⟨before, _, ⟨rfl, hbefore⟩, _, after, ⟨rfl, hsize⟩, rfl⟩
      exact ⟨before, after, rfl, hbefore, by omega⟩
    · rintro ⟨before, after, rfl, hbefore, hsize⟩
      exact ⟨before, _, ⟨rfl, hbefore⟩, t, after, ⟨rfl, by omega⟩, rfl⟩
  · next hle =>
    simp only [reduceCtorEq, false_iff, not_exists, not_and]
    intro before after _ _ hsize
    omega

/-! What is found. -/

/-- A placeholder that is found in markup, by its first byte and the one behind its last. -/
structure Found where
  start : Nat
  stop : Nat
  id : PlaylistId
  url : Option (List Char)
  deriving DecidableEq

/-- What is found among pieces that begin at a byte. -/
def Fragment.findFrom (fragment : Fragment) :
    Nat → List (Text.Piece Placeholder) → Except Error (List Found)
  | _, [] => .ok []
  | start, .character c :: pieces => fragment.findFrom (start + byteSize [c]) pieces
  | start, .token p spelling :: pieces =>
    let stop := start + byteSize spelling
    if fragment.follows p then do
      let id ← p.number
      let found ← fragment.findFrom stop pieces
      return ⟨start, stop, id, p.url⟩ :: found
    else fragment.findFrom stop pieces

/-- The placeholders in markup that a kind of fragment follows. -/
def Fragment.find (fragment : Fragment) (markup : Markup) : Except Error (List Found) :=
  fragment.findFrom 0 (Text.pieces placeholderRule markup)

/-- Markup with something in the place of each placeholder that was found, from a byte on. -/
def splice? (markup : Markup) (fill : Found → Option Markup) : Nat → List Found → Option Markup
  | last, [] => slice? markup last (byteSize markup)
  | last, f :: found => do
    let text ← slice? markup last f.start
    let inner ← fill f
    let rest ← splice? markup fill f.stop found
    return text ++ (inner ++ rest)

/-- What takes the place of a placeholder. -/
def Found.part (f : Found) : Part := f.url.elim (.playlist f.id) .page

/-- The parts between which markup is cut, from a byte on. -/
def cutParts? (markup : Markup) : Nat → List Found → Option (List Part)
  | last, [] => (slice? markup last (byteSize markup)).map fun text => [.text text]
  | last, f :: found => do
    let text ← slice? markup last f.start
    let rest ← cutParts? markup f.stop found
    return .text text :: f.part :: rest

/-! Markup cut at the placeholders that are followed. -/

/-- Texts, each up to a placeholder, and the text after the last one. -/
structure Cuts where
  cuts : List (Markup × Placeholder)
  tail : Markup

/-- The text of cuts, with a tail behind them. -/
def cutText (cuts : List (Markup × Placeholder)) (tail : Markup) : Markup :=
  cuts.flatMap (fun cut => cut.1 ++ cut.2.spelling) ++ tail

def Cuts.markup (c : Cuts) : Markup := cutText c.cuts c.tail

private theorem cutText_cons (text : Markup) (p : Placeholder) (cuts : List (Markup × Placeholder))
    (tail : Markup) : cutText ((text, p) :: cuts) tail = text ++ (p.spelling ++ cutText cuts tail) := by
  simp [cutText]

def Cuts.prepend (text : Markup) : Cuts → Cuts
  | ⟨[], tail⟩ => ⟨[], text ++ tail⟩
  | ⟨(first, p) :: cuts, tail⟩ => ⟨(text ++ first, p) :: cuts, tail⟩

/-- The cuts of markup that was scanned. -/
def Fragment.cuts (fragment : Fragment) : List (Text.Piece Placeholder) → Cuts
  | [] => ⟨[], []⟩
  | .character c :: pieces => (fragment.cuts pieces).prepend [c]
  | .token p spelling :: pieces =>
    if fragment.follows p then ⟨([], p) :: (fragment.cuts pieces).cuts, (fragment.cuts pieces).tail⟩
    else (fragment.cuts pieces).prepend spelling

/-- What is found at the cuts, counted from a byte. -/
def foundAt : Nat → List (Markup × Placeholder) → Except Error (List Found)
  | _, [] => .ok []
  | start, (text, p) :: cuts => do
    let id ← p.number
    let stop := start + byteSize text + byteSize p.spelling
    let found ← foundAt stop cuts
    return ⟨start + byteSize text, stop, id, p.url⟩ :: found

variable {fragment : Fragment} {pieces : List (Text.Piece Placeholder)} {start : Nat}

private theorem Cuts.markup_prepend (text : Markup) (c : Cuts) :
    (c.prepend text).markup = text ++ c.markup := by
  obtain ⟨_ | ⟨⟨first, p⟩, cuts⟩, tail⟩ := c
  · rfl
  · simp [prepend, markup, cutText]

private theorem foundAt_prepend (text : Markup) (c : Cuts) :
    foundAt start (c.prepend text).cuts = foundAt (start + byteSize text) c.cuts := by
  obtain ⟨_ | ⟨⟨first, p⟩, cuts⟩, tail⟩ := c
  · rfl
  · simp [Cuts.prepend, foundAt, Nat.add_assoc]

private theorem Cuts.placeholders_prepend (text : Markup) (c : Cuts) :
    (c.prepend text).cuts.map Prod.snd = c.cuts.map Prod.snd := by
  obtain ⟨_ | ⟨⟨first, p⟩, cuts⟩, tail⟩ := c
  · rfl
  · rfl

private theorem Fragment.placeholders_cuts (fragment : Fragment)
    (pieces : List (Text.Piece Placeholder)) :
    (fragment.cuts pieces).cuts.map Prod.snd = fragment.followed pieces := by
  induction pieces with
  | nil => rfl
  | cons piece pieces ih =>
    cases piece with
    | character c => rw [cuts, Cuts.placeholders_prepend, ih]; rfl
    | token p spelling =>
      rw [cuts]
      split
      · next h => rw [followed_token h, ← ih, List.map_cons]
      · next h => rw [followed_skipped h, Cuts.placeholders_prepend, ih]

private theorem Scanned.isProper_of_mem {p : Placeholder} {spelling : Markup} (h : Scanned s pieces)
    (hp : .token p spelling ∈ pieces) : p.IsProper := by
  induction h with
  | nil => cases hp
  | character _ _ ih =>
    cases hp with
    | tail _ hp => exact ih hp
  | token hproper _ ih =>
    cases hp with
    | head => exact hproper
    | tail _ hp => exact ih hp

private theorem Scanned.isProper_of_followed {p : Placeholder} (h : Scanned s pieces)
    (hp : p ∈ fragment.followed pieces) : p.IsProper ∧ fragment.follows p = true := by
  obtain ⟨hmem, hfollows⟩ := List.mem_filter.mp hp
  obtain ⟨piece, hpiece, hvalue⟩ := List.mem_filterMap.mp hmem
  cases piece with
  | character c => cases hvalue
  | token q spelling =>
    cases hvalue
    exact ⟨h.isProper_of_mem hpiece, hfollows⟩

private theorem Scanned.markup_cuts (h : Scanned s pieces) : (fragment.cuts pieces).markup = s := by
  induction h with
  | nil => rfl
  | character hread hrest ih => rw [Fragment.cuts, Cuts.markup_prepend, ih, List.singleton_append]
  | token hp hrest ih =>
    rw [Fragment.cuts]
    split
    · rw [Cuts.markup, cutText_cons, List.nil_append]
      exact congrArg (_ ++ ·) ih
    · rw [Cuts.markup_prepend, ih]

private theorem Scanned.findFrom_eq (h : Scanned s pieces) :
    fragment.findFrom start pieces = foundAt start (fragment.cuts pieces).cuts := by
  induction h generalizing start with
  | nil => rfl
  | character hread hrest ih => rw [Fragment.findFrom, Fragment.cuts, foundAt_prepend, ih]
  | token hp hrest ih =>
    rw [Fragment.findFrom, Fragment.cuts]
    split
    · next hfollows => simp [foundAt, ih]
    · rw [foundAt_prepend, ih]

/-- Placeholders are found unless one has no proper identifier. -/
theorem exists_foundAt_iff {cuts : List (Markup × Placeholder)} :
    (∃ found, foundAt start cuts = .ok found) ↔ ∀ p ∈ cuts.map Prod.snd, p.id?.isSome := by
  induction cuts generalizing start with
  | nil => simp [foundAt]
  | cons cut cuts ih =>
    obtain ⟨text, p⟩ := cut
    have hrest := @ih (start + byteSize text + byteSize p.spelling)
    rw [List.map_cons, List.forall_mem_cons, ← hrest, foundAt, Option.isSome_iff_exists]
    simp only [bind_eq_ok_iff, Placeholder.number_eq_ok_iff]
    constructor
    · rintro ⟨_, id, hid, found, hfound, -⟩
      exact ⟨⟨id, hid⟩, found, hfound⟩
    · rintro ⟨⟨id, hid⟩, found, hfound⟩
      exact ⟨_, id, hid, found, hfound, rfl⟩

/-! Cutting at what was found. -/

/-- A placeholder is found where its text stands. -/
structure Found.Covers (f : Found) (fragment : Fragment) (markup : Markup) (p : Placeholder) : Prop where
  isProper : p.IsProper
  follows : fragment.follows p = true
  id : p.id? = some f.id
  url : p.url = f.url
  slice : slice? markup f.start f.stop = some p.spelling

/-- What is found stands in order and apart in the markup. -/
structure AreSpans (fragment : Fragment) (markup : Markup) (found : List Found) : Prop where
  inside : ∀ f ∈ found, f.start < f.stop ∧ f.stop ≤ byteSize markup
  apart : found.Pairwise fun f g => f.stop ≤ g.start
  covers : ∀ f ∈ found, ∃ p, f.Covers fragment markup p

/-- What is found at cuts that begin at a byte. -/
inductive Placed : Nat → List (Markup × Placeholder) → List Found → Prop
  | nil {start : Nat} : Placed start [] []
  | cons {start : Nat} {text : Markup} {p : Placeholder} {cuts : List (Markup × Placeholder)}
      {id : PlaylistId} {found : List Found} (hid : p.id? = some id)
      (rest : Placed (start + byteSize text + byteSize p.spelling) cuts found) :
      Placed start ((text, p) :: cuts)
        (⟨start + byteSize text, start + byteSize text + byteSize p.spelling, id, p.url⟩ :: found)

private theorem placed_of_foundAt {cuts : List (Markup × Placeholder)} {found : List Found}
    (h : foundAt start cuts = .ok found) : Placed start cuts found := by
  induction cuts generalizing start found with
  | nil =>
    cases h
    exact .nil
  | cons cut cuts ih =>
    obtain ⟨text, p⟩ := cut
    rw [foundAt] at h
    simp only [bind_eq_ok_iff, Placeholder.number_eq_ok_iff] at h
    obtain ⟨id, hid, found, hfound, h⟩ := h
    cases h
    exact .cons hid (ih hfound)

section
variable {cuts : List (Markup × Placeholder)} {found : List Found} {markup before tail : Markup}

private theorem slice?_eq {text after : Markup} (hmarkup : markup = before ++ (text ++ after)) :
    slice? markup (byteSize before) (byteSize before + byteSize text) = some text :=
  slice?_eq_some_iff.mpr ⟨before, after, hmarkup, rfl, rfl⟩

private theorem slice?_tail (hmarkup : markup = before ++ tail) :
    slice? markup (byteSize before) (byteSize markup) = some tail := by
  have hwhole : markup = before ++ (tail ++ []) := by rwa [List.append_nil]
  have h := slice?_eq hwhole
  rwa [← byteSize_append, ← hmarkup] at h

/-- Before and behind a placeholder that is cut at, as counted in bytes. -/
private theorem slices_of_cut {text : Markup} {p : Placeholder}
    (hmarkup : markup = before ++ cutText ((text, p) :: cuts) tail) :
    slice? markup (byteSize before) (byteSize before + byteSize text) = some text ∧
      slice? markup (byteSize before + byteSize text)
        (byteSize before + byteSize text + byteSize p.spelling) = some p.spelling ∧
      markup = (before ++ text ++ p.spelling) ++ cutText cuts tail := by
  rw [cutText_cons] at hmarkup
  have hwhole : markup = (before ++ text) ++ (p.spelling ++ cutText cuts tail) := by
    rw [hmarkup, List.append_assoc]
  refine ⟨slice?_eq hmarkup, ?_, by rw [hwhole, List.append_assoc _ p.spelling]⟩
  have h := slice?_eq hwhole
  rwa [byteSize_append] at h

private theorem Placed.areSpans (h : Placed start cuts found)
    (hmarkup : markup = before ++ cutText cuts tail)
    (hbefore : byteSize before = start)
    (hproper : ∀ p ∈ cuts.map Prod.snd, p.IsProper ∧ fragment.follows p = true) :
    AreSpans fragment markup found ∧ ∀ f ∈ found, start ≤ f.start := by
  induction h generalizing before with
  | nil => exact ⟨⟨by simp, .nil, by simp⟩, by simp⟩
  | @cons start text p cuts id found hid rest ih =>
    subst hbefore
    obtain ⟨-, hslice, hrest⟩ := slices_of_cut hmarkup
    obtain ⟨hp, hcuts⟩ := List.forall_mem_cons.mp hproper
    obtain ⟨hspans, hstart⟩ := ih hrest (by simp [Nat.add_assoc]) hcuts
    have hsize : byteSize markup =
        byteSize before + byteSize text + byteSize p.spelling + byteSize (cutText cuts tail) := by
      rw [hrest]
      simp [Nat.add_assoc]
    have hpos : 0 < byteSize p.spelling :=
      Nat.pos_of_ne_zero (byteSize_eq_zero_iff.not.mpr p.spelling_ne_nil)
    refine ⟨⟨?_, .cons hstart hspans.apart, ?_⟩, ?_⟩
    · exact List.forall_mem_cons.mpr ⟨⟨by simp only; omega, by simp only; omega⟩, hspans.inside⟩
    · exact List.forall_mem_cons.mpr ⟨⟨p, hp.1, hp.2, hid, rfl, hslice⟩, hspans.covers⟩
    · exact List.forall_mem_cons.mpr ⟨by simp only; omega, fun f hf => by have := hstart f hf; omega⟩

/-- Each placeholder put in its own place gives the markup again. -/
theorem Placed.splice?_own (h : Placed start cuts found)
    (hmarkup : markup = before ++ cutText cuts tail) (hbefore : byteSize before = start) :
    splice? markup (fun f => slice? markup f.start f.stop) start found = some (cutText cuts tail) := by
  induction h generalizing before with
  | nil =>
    subst hbefore
    exact slice?_tail hmarkup
  | cons hid rest ih =>
    subst hbefore
    obtain ⟨htext, hslice, hrest⟩ := slices_of_cut hmarkup
    simp only [splice?, htext, hslice, ih hrest (by simp [Nat.add_assoc]), cutText_cons]
    rfl

/-- The parts that come of cuts: the texts, and what the placeholders refer to. -/
def partsOf : List (Markup × Placeholder) → Markup → Except Error (List Part)
  | [], tail => .ok [.text tail]
  | (text, p) :: cuts, tail => do
    let part ← p.reference
    let parts ← partsOf cuts tail
    return .text text :: part :: parts

/-- To find the placeholders and cut the markup there never fails but for an identifier. -/
theorem map_cutParts? (hmarkup : markup = before ++ cutText cuts tail) :
    (foundAt (byteSize before) cuts).map (cutParts? markup (byteSize before)) =
      (partsOf cuts tail).map some := by
  induction cuts generalizing before with
  | nil =>
    have h : slice? markup (byteSize before) (byteSize markup) = some tail := slice?_tail hmarkup
    simp [foundAt, partsOf, Except.map, cutParts?, h]
  | cons cut cuts ih =>
    obtain ⟨text, p⟩ := cut
    obtain ⟨htext, -, hrest⟩ := slices_of_cut hmarkup
    have hstop : byteSize (before ++ text ++ p.spelling) =
        byteSize before + byteSize text + byteSize p.spelling := by
      simp [Nat.add_assoc]
    have ih := ih hrest
    rw [hstop] at ih
    rw [foundAt, partsOf, Placeholder.reference]
    cases p.number with
    | error error => rfl
    | ok id =>
      -- The rest fails on both sides or on neither.
      cases hfound : foundAt (byteSize before + byteSize text + byteSize p.spelling) cuts with
      | error error =>
        cases hparts : partsOf cuts tail with
        | error error' =>
          rw [hfound, hparts] at ih
          cases ih
          simp only [hfound]
          rfl
        | ok parts => rw [hfound, hparts] at ih; cases ih
      | ok found =>
        cases hparts : partsOf cuts tail with
        | error error => rw [hfound, hparts] at ih; cases ih
        | ok parts =>
          rw [hfound, hparts] at ih
          have hcut := Except.ok.inj ih
          have hcons (f : Found) (hf : f.start = byteSize before + byteSize text)
              (hstop : f.stop = byteSize before + byteSize text + byteSize p.spelling) :
              cutParts? markup (byteSize before) (f :: found) =
                some (.text text :: f.part :: parts) := by
            simp [cutParts?, hf, hstop, htext, hcut]
          simp only [hfound]
          exact congrArg Except.ok (hcons _ rfl rfl)

end

/-! The parts between which markup is cut, and the pieces of which it is expanded. -/

/-- The same comes of both: the same error, or parts that expand alike. -/
inductive Tantamount : Except Error (List Part) → Except Error (List Part) → Prop
  | failed {error : Error} : Tantamount (.error error) (.error error)
  | expanded {parts parts' : List Part}
      (h : ∀ limits sources descend,
        expand limits sources descend parts = expand limits sources descend parts') :
      Tantamount (.ok parts) (.ok parts')

private theorem expand_text_append (limits : Limits) (sources : Sources)
    (descend : PlaylistId → Walk Markup)
    (text text' : Markup) (parts : List Part) :
    expand limits sources descend (.text text :: .text text' :: parts) =
      expand limits sources descend (.text (text ++ text') :: parts) := by
  simp [expand]

private theorem expand_text_nil (limits : Limits) (sources : Sources)
    (descend : PlaylistId → Walk Markup)
    (parts : List Part) :
    expand limits sources descend (.text [] :: parts) = expand limits sources descend parts := by
  simp [expand]

private theorem expand_cons_congr {limits : Limits} {sources : Sources}
    {descend : PlaylistId → Walk Markup}
    {parts parts' : List Part} (part : Part)
    (h : expand limits sources descend parts = expand limits sources descend parts') :
    expand limits sources descend (part :: parts) = expand limits sources descend (part :: parts') := by
  cases part <;> simp only [expand, h]

/-- Text in front goes into the first of the parts. -/
theorem tantamount_prepend (text : Markup) (c : Cuts) {answer : Except Error (List Part)}
    (h : Tantamount answer (partsOf c.cuts c.tail)) :
    Tantamount (answer.map (.text text :: ·)) (partsOf (c.prepend text).cuts (c.prepend text).tail) := by
  have hfront {parts rest : List Part} {first : Markup}
      (h : ∀ limits sources descend, expand limits sources descend parts =
        expand limits sources descend (.text first :: rest)) :
      Tantamount (.ok (.text text :: parts)) (.ok (.text (text ++ first) :: rest)) :=
    .expanded fun limits sources descend =>
      (expand_cons_congr _ (h limits sources descend)).trans (expand_text_append ..)
  -- Without a placeholder there is no reference to fail; with one, it fails ahead of all that follow it.
  obtain ⟨_ | ⟨⟨first, p⟩, cuts⟩, tail⟩ := c
  · cases h with
    | expanded h => exact hfront h
  · simp only [Cuts.prepend, partsOf] at h ⊢
    generalize p.reference = reference at h ⊢
    generalize partsOf cuts tail = rest at h ⊢
    cases reference with
    | error error =>
      cases h
      exact .failed
    | ok part =>
      cases rest with
      | error error =>
        cases h
        exact .failed
      | ok rest =>
        cases h with
        | expanded h => exact hfront h

private theorem mapM_cons_text (text : Markup) {piece : Text.Piece Placeholder}
    (h : fragment.part piece = .ok (.text text)) :
    (piece :: pieces).mapM fragment.part = (pieces.mapM fragment.part).map (.text text :: ·) := by
  rw [List.mapM_cons, h]
  rfl

/-- What is expanded piece by piece comes to the same as what is expanded from cut to cut. -/
theorem Scanned.tantamount (h : Scanned s pieces) :
    Tantamount (pieces.mapM fragment.part)
      (partsOf (fragment.cuts pieces).cuts (fragment.cuts pieces).tail) := by
  induction h with
  | nil => exact .expanded fun limits sources descend => (expand_text_nil ..).symm
  | @character c rest pieces hread hrest ih =>
    rw [mapM_cons_text [c] rfl]
    exact tantamount_prepend [c] _ ih
  | @token p rest pieces hp hrest ih =>
    rw [Fragment.cuts]
    split
    · next hfollows =>
      rw [List.mapM_cons, Fragment.part, if_pos hfollows, partsOf]
      cases p.reference with
      | error error => exact .failed
      | ok part =>
        revert ih
        generalize pieces.mapM fragment.part = answer
        generalize partsOf (fragment.cuts pieces).cuts (fragment.cuts pieces).tail = answer'
        rintro (_ | h)
        · exact .failed
        · exact .expanded fun limits sources descend =>
            (expand_cons_congr part (h limits sources descend)).trans (expand_text_nil ..).symm
    · next hskipped =>
      have hpart : fragment.part (.token p p.spelling) = .ok (.text p.spelling) := if_neg hskipped
      rw [mapM_cons_text p.spelling hpart]
      exact tantamount_prepend p.spelling _ ih

/-- To find the placeholders, cut the markup there and expand the parts comes to the same as to expand
the markup piece by piece, and no cut falls within a character. -/
theorem Fragment.exists_cut_parts (fragment : Fragment) (markup : Markup) :
    ∃ answer, (fragment.find markup).map (cutParts? markup 0) = answer.map some ∧
      Tantamount (fragment.parts markup) answer := by
  have h := scanned_pieces markup
  refine ⟨_, ?_, h.tantamount⟩
  have hcut : markup = [] ++ (fragment.cuts (Text.pieces placeholderRule markup)).markup := by
    rw [h.markup_cuts, List.nil_append]
  rw [find, h.findFrom_eq]
  exact map_cutParts? hcut

/-! Placeholders that are written are found. -/

/-- A placeholder as it is written, with zeros in front of its number. -/
structure Written where
  tag : Tag
  zeros : Nat
  number : Nat
  url : Option (List Char)
  number_le : number ≤ greatestId
  isAddress : ∀ address ∈ url, address ≠ [] ∧ '\x7d' ∉ address

namespace Written

def placeholder (w : Written) : Placeholder :=
  ⟨w.tag, List.replicate w.zeros '0' ++ Text.numeral w.number, w.url⟩

/-- Whether markup of a kind is about the placeholder: its tag is the one of the kind, and it names no
address where no pages are spliced in. -/
def Concerns (w : Written) (fragment : Fragment) : Prop :=
  w.tag = fragment.tag ∧ (fragment = .prefetch → w.url = none)

instance (w : Written) (fragment : Fragment) : Decidable (w.Concerns fragment) :=
  inferInstanceAs (Decidable (_ ∧ _))

variable (w : Written)

private theorem digits_placeholder : w.placeholder.digits =
    Text.paddedNumeral (w.zeros + (Text.numeral w.number).length) w.number := by
  rw [Text.paddedNumeral, Nat.add_sub_cancel]
  rfl

private theorem isDecimalDigit_of_isDigit {c : Char} (h : c.isDigit = true) :
    Text.isDecimalDigit c = true := by
  have hle : c.toNat ≤ 57 := by
    simp only [Char.isDigit, Bool.and_eq_true, decide_eq_true_eq] at h
    exact h.2
  rw [Text.isDecimalDigit, if_pos (by omega), h]

private theorem isProper_placeholder : w.placeholder.IsProper where
  digits_ne_nil := by simp [placeholder, Text.numeral, Nat.toDigits_ne_nil]
  digits c hc := by
    rw [digits_placeholder] at hc
    exact isDecimalDigit_of_isDigit (Text.isDigit_of_mem_paddedNumeral hc)
  url := w.isAddress

private theorem number_placeholder : w.placeholder.number = .ok ⟨.ofNat w.number⟩ := by
  rw [Placeholder.number, digits_placeholder, Text.readNumeral_padded w.number_le]

private theorem follows_placeholder_iff :
    fragment.follows w.placeholder = true ↔ w.Concerns fragment := by
  unfold Fragment.follows Concerns
  cases fragment <;> simp [Fragment.allowsPages, placeholder]

end Written

/-- Texts, each before a placeholder, and a text after the last. -/
def writtenText (parts : List (Markup × Written)) (tail : Markup) : Markup :=
  cutText (parts.map fun part => (part.1, part.2.placeholder)) tail

/-- Where the placeholders stand that a kind is about, when the first text begins at a byte. -/
def writtenFrom (fragment : Fragment) : Nat → List (Markup × Written) → List Found
  | _, [] => []
  | start, (text, w) :: parts =>
    let stop := start + byteSize text + byteSize w.placeholder.spelling
    if w.Concerns fragment then
      ⟨start + byteSize text, stop, ⟨.ofNat w.number⟩, w.url⟩ :: writtenFrom fragment stop parts
    else writtenFrom fragment stop parts

/-- No brace opens in the text. -/
def IsLiteral (text : Markup) : Prop := '\x7b' ∉ text

private theorem pieces_literal {text : Markup} (h : IsLiteral text) (rest : Markup) :
    Text.pieces placeholderRule (text ++ rest) =
      text.map .character ++ Text.pieces placeholderRule rest := by
  induction text with
  | nil => rfl
  | cons c text ih =>
    obtain ⟨hc, htext⟩ : '\x7b' ≠ c ∧ IsLiteral text := by simpa [IsLiteral] using h
    have hread : readPlaceholder? (c :: (text ++ rest)) = none := by
      cases hread : readPlaceholder? (c :: (text ++ rest)) with
      | none => rfl
      | some p =>
        obtain ⟨tail, htail⟩ := readPlaceholder?_eq_some hread
        exact absurd (List.cons.inj htail).1.symm hc
    rw [List.cons_append, pieces_of_none hread, ih htext, List.map_cons, List.cons_append]

private theorem findFrom_literal (text : Markup) (pieces : List (Text.Piece Placeholder)) :
    fragment.findFrom start (text.map .character ++ pieces) =
      fragment.findFrom (start + byteSize text) pieces := by
  induction text generalizing start with
  | nil => rfl
  | cons c text ih =>
    rw [List.map_cons, List.cons_append, Fragment.findFrom, ih]
    simp [Nat.add_assoc]

private theorem findFrom_writtenText {parts : List (Markup × Written)} {tail : Markup}
    (hparts : ∀ part ∈ parts, IsLiteral part.1) (htail : IsLiteral tail) :
    fragment.findFrom start (Text.pieces placeholderRule (writtenText parts tail)) =
      .ok (writtenFrom fragment start parts) := by
  induction parts generalizing start with
  | nil =>
    have h : Text.pieces placeholderRule tail = tail.map .character ++ [] := by
      simpa using pieces_literal htail []
    rw [writtenText, List.map_nil, cutText, List.flatMap_nil, List.nil_append, h, findFrom_literal]
    rfl
  | cons part parts ih =>
    obtain ⟨text, w⟩ := part
    obtain ⟨htext, hparts⟩ := List.forall_mem_cons.mp hparts
    have hcons : writtenText ((text, w) :: parts) tail =
        text ++ (w.placeholder.spelling ++ writtenText parts tail) := cutText_cons ..
    rw [hcons, pieces_literal htext, findFrom_literal, pieces_spelling w.isProper_placeholder,
      Fragment.findFrom, writtenFrom, ih hparts]
    by_cases hconcerns : w.Concerns fragment
    · rw [if_pos hconcerns, if_pos (w.follows_placeholder_iff.mpr hconcerns), w.number_placeholder]
      rfl
    · rw [if_neg hconcerns, if_neg (w.follows_placeholder_iff.not.mpr hconcerns)]

/-- What is written is found, as far as the kind of fragment is about it. -/
theorem find_writtenText {parts : List (Markup × Written)} {tail : Markup}
    (hparts : ∀ part ∈ parts, IsLiteral part.1) (htail : IsLiteral tail) :
    fragment.find (writtenText parts tail) = .ok (writtenFrom fragment 0 parts) :=
  findFrom_writtenText hparts htail

/-- The digits of the placeholder are ASCII and write an identifier that is not too great. -/
def Placeholder.IsNumbered (p : Placeholder) : Prop :=
  (∀ c ∈ p.digits, c.isDigit = true) ∧ Nat.ofDigitChars 10 p.digits 0 ≤ greatestId

private theorem Placeholder.IsProper.isSome_id?_iff {p : Placeholder} (hp : p.IsProper) :
    p.id?.isSome ↔ p.IsNumbered := by
  have hid : p.id?.isSome ↔ ∃ n, Text.readNumeral greatestId p.digits = .ok n := by
    unfold id? number
    cases Text.readNumeral greatestId p.digits <;> simp [Except.toOption]
  rw [hid]
  constructor
  · rintro ⟨n, hn⟩
    have hdigits := Text.isDigit_of_readNumeral hn
    refine ⟨hdigits, ?_⟩
    by_contra hgreat
    rw [Text.readNumeral_of_digits hp.digits_ne_nil hdigits, if_neg hgreat] at hn
    cases hn
  · rintro ⟨hdigits, hle⟩
    exact ⟨_, (Text.readNumeral_of_digits hp.digits_ne_nil hdigits _).trans (if_pos hle)⟩

/-- Placeholders are found unless one that is followed has no proper identifier. -/
theorem find_eq_error_iff (fragment : Fragment) (markup : Markup) :
    (∃ error, fragment.find markup = .error error) ↔
      ∃ p ∈ fragment.followed (Text.pieces placeholderRule markup), ¬ p.IsNumbered := by
  have h := scanned_pieces markup
  have hok : (∃ found, fragment.find markup = .ok found) ↔
      ∀ p ∈ fragment.followed (Text.pieces placeholderRule markup), p.IsNumbered := by
    rw [Fragment.find, h.findFrom_eq, exists_foundAt_iff, fragment.placeholders_cuts]
    exact forall₂_congr fun p hp => (h.isProper_of_followed hp).1.isSome_id?_iff
  have hfails : (∃ error, fragment.find markup = .error error) ↔
      ¬ ∃ found, fragment.find markup = .ok found := by
    cases fragment.find markup <;> simp
  rw [hfails, hok]
  simp

/-- What is found stands in order, each placeholder where its text is; with all of them put in their own
places the markup is as it was. -/
theorem find_areSpans {markup : Markup} {found : List Found} (h : fragment.find markup = .ok found) :
    AreSpans fragment markup found ∧
      splice? markup (fun f => slice? markup f.start f.stop) 0 found = some markup := by
  have hscanned := scanned_pieces markup
  rw [Fragment.find, hscanned.findFrom_eq] at h
  have hplaced := placed_of_foundAt h
  have hcut : markup = [] ++ (fragment.cuts (Text.pieces placeholderRule markup)).markup := by
    rw [hscanned.markup_cuts, List.nil_append]
  have hproper : ∀ p ∈ (fragment.cuts (Text.pieces placeholderRule markup)).cuts.map Prod.snd,
      p.IsProper ∧ fragment.follows p = true := by
    rw [fragment.placeholders_cuts]
    exact fun p hp => hscanned.isProper_of_followed hp
  refine ⟨(hplaced.areSpans hcut rfl hproper).1, ?_⟩
  rw [hplaced.splice?_own hcut rfl]
  exact congrArg some hscanned.markup_cuts

/-- Placeholders that are written between texts are found, with their spans. In any markup they are found
unless one that is followed has no proper identifier; they lie in order, apart and between characters, and
the markup cut there is expanded as it is piece by piece. -/
theorem placeholders_found (fragment : Fragment) :
    (∀ (parts : List (Markup × Written)) (tail : Markup), (∀ part ∈ parts, IsLiteral part.1) →
      IsLiteral tail → fragment.find (writtenText parts tail) = .ok (writtenFrom fragment 0 parts)) ∧
    ∀ markup : Markup,
      ((∃ error, fragment.find markup = .error error) ↔
        ∃ p ∈ fragment.followed (Text.pieces placeholderRule markup), ¬ p.IsNumbered) ∧
      (∀ found, fragment.find markup = .ok found → AreSpans fragment markup found ∧
        splice? markup (fun f => slice? markup f.start f.stop) 0 found = some markup) ∧
      ∃ answer, (fragment.find markup).map (cutParts? markup 0) = answer.map some ∧
        Tantamount (fragment.parts markup) answer :=
  ⟨fun _ _ => find_writtenText, fun markup =>
    ⟨find_eq_error_iff fragment markup, fun _ => find_areSpans, fragment.exists_cut_parts markup⟩⟩

/-- A placeholder behind a text of two bytes. -/
def writtenSeven : Written := ⟨.items, 2, 7, none, by decide, nofun⟩

theorem placeholders_found_seven :
    let markup := writtenText [(['\u00e4'], writtenSeven)] []
    Fragment.items.find markup = .ok [⟨2, 13, ⟨7⟩, none⟩] ∧
      AreSpans .items markup [⟨2, 13, ⟨7⟩, none⟩] := by
  have hfind := (placeholders_found .items).1 [(['\u00e4'], writtenSeven)] []
    (by simp [IsLiteral]) (by simp [IsLiteral])
  exact ⟨hfind, (((placeholders_found .items).2 _).2.1 _ hfind).1⟩

end Signage.Content
