import Signage.Proofs.Text.Leftmost
import Signage.Proofs.Text.Runs
import Signage.Template.Tag

/-!
What stands in templates: blocks, from an opening tag to the first closing tag of any name, and
lookups. The readers find exactly these.
-/
namespace Signage.Template
open Text

/-- A name of word characters. -/
def IsName (s : List Char) : Prop := s ≠ [] ∧ ∀ c ∈ s, isWordCharacter c = true

/-- The tag with a name and a mark before it: an opening tag with `#`, a closing tag with `/`, and a
key with no mark. -/
def markedTag (mark name : List Char) : List Char := opening ++ (mark ++ (name ++ closing))

/-- The tag for a key of the first row of a section. -/
def lookupTag (table key : List Char) : List Char :=
  opening ++ (table ++ '.' :: (key ++ closing))

/-- A closing tag is somewhere in the text. -/
def HasClosing (s : List Char) : Prop :=
  ∃ front name rest, IsName name ∧ s = front ++ (markedTag ['/'] name ++ rest)

/-- A key stands at the front of the body of a block. -/
inductive KeyAt : List Char → List Char → List Char → Prop
  | intro {name rest : List Char} (hname : IsName name) :
      KeyAt (markedTag [] name ++ rest) name (markedTag [] name)

/-- What stands in a template: a block with the names in both its tags and the keys of its body, or a
lookup. -/
inductive Mark where
  | block (name other : List Char) (body : List (Piece (List Char)))
  | lookup (table key : List Char)

/-- A block or a lookup stands at the front of a template. The closing tag of a block is the first one
behind its opening tag, whatever the names are. -/
inductive MarkAt : List Char → Mark → List Char → Prop
  | block {name body other rest : List Char} {keys : List (Piece (List Char))} (hname : IsName name)
      (hother : IsName other) (hfirst : ¬ HasClosing body) (hbody : Leftmost KeyAt body keys) :
      MarkAt (markedTag ['#'] name ++ (body ++ (markedTag ['/'] other ++ rest)))
        (.block name other keys) (markedTag ['#'] name ++ (body ++ markedTag ['/'] other))
  | lookup {table key rest : List Char} (htable : IsName table) (hkey : IsName key) :
      MarkAt (lookupTag table key ++ rest) (.lookup table key) (lookupTag table key)

/-- A reader finds what may stand at the front of a text. -/
structure Finds {α β : Type} (read? : List Char → Option (α × List Char)) (f : α → β)
    (stands : List Char → β → List Char → Prop) : Prop where
  stands_of_read : ∀ {s a rest}, read? s = some (a, rest) →
    ∃ spelling, spelling ≠ [] ∧ s = spelling ++ rest ∧ stands s (f a) spelling
  read_of_stands : ∀ {s b spelling}, stands s b spelling →
    ∃ a rest, read? s = some (a, rest) ∧ f a = b ∧ s = spelling ++ rest

/-- The piece with its token replaced. -/
def mapPiece {α β : Type} (f : α → β) : Piece α → Piece β
  | .character c => .character c
  | .token a spelling => .token (f a) spelling

section
variable {α β : Type} {read? : List Char → Option (α × List Char)} {f : α → β}
  {stands : List Char → β → List Char → Prop}

private theorem Finds.unique (h : Finds read? f stands) {s spelling spelling' : List Char}
    {b b' : β}
    (hb : stands s b spelling) (hb' : stands s b' spelling') : b = b' ∧ spelling = spelling' := by
  obtain ⟨a, rest, hread, rfl, hs⟩ := h.read_of_stands hb
  obtain ⟨a', rest', hread', rfl, hs'⟩ := h.read_of_stands hb'
  rw [hread] at hread'
  cases hread'
  exact ⟨rfl, List.append_cancel_right (hs.symm.trans hs')⟩

/-- A text is cut into marks in one way only. -/
theorem Finds.parts_unique (h : Finds read? f stands) {s : List Char} {parts parts' : List (Piece β)}
    (hparts : Leftmost stands s parts) (hparts' : Leftmost stands s parts') : parts = parts' :=
  hparts.unique hparts' fun _ _ _ _ _ hb hb' => h.unique hb hb'

/-- The pieces that a reader finds are those from left to right. -/
theorem Finds.leftmost (h : Finds read? f stands) (s : List Char) :
    Leftmost stands s ((pieces (ruleOf read?) s).map (mapPiece f)) := by
  induction hn : s.length using Nat.strongRecOn generalizing s with
  | ind n ih =>
    cases s with
    | nil => exact .nil
    | cons c rest =>
      cases hread : read? (c :: rest) with
      | none =>
        have hrule : ruleOf read? (c :: rest) = none := by simp [ruleOf, hread]
        rw [pieces_cons_of_none hrule]
        refine .character (fun b spelling hb => ?_)
          (ih rest.length (by rw [← hn]; exact Nat.lt_succ_self _) rest rfl)
        obtain ⟨a, tail, hsome, -, -⟩ := h.read_of_stands hb
        rw [hread] at hsome
        cases hsome
      | some found =>
        obtain ⟨a, tail⟩ := found
        obtain ⟨spelling, hne, hs, hstands⟩ := h.stands_of_read hread
        have hpos := List.length_pos_iff.mpr hne
        rw [hs] at hn hread hstands ⊢
        rw [List.length_append] at hn
        have hrule : ruleOf read? (spelling ++ tail) = some (a, spelling.length) := by
          simp [ruleOf, hread]
        rw [pieces_append_of_some hne hrule]
        exact .token hstands hne (ih tail.length (by omega) tail rfl)

end

variable {mark name s rest : List Char}

private theorem readName?_eq_some_iff :
    readName? s = some (name, rest) ↔ IsName name ∧ Stops isWordCharacter rest ∧ s = name ++ rest := by
  rw [readName?, nonempty_run_eq_some_iff, ← and_assoc, IsName]

/-- Where a name ends. -/
theorem stops_closing (rest : List Char) : Stops isWordCharacter (closing ++ rest) :=
  stops_cons.mpr (by decide)

/-- A marked tag is read exactly where it stands, with a name. -/
theorem readMarked?_eq_some_iff :
    readMarked? mark s = some (name, rest) ↔ IsName name ∧ s = markedTag mark name ++ rest := by
  simp only [readMarked?, Option.bind_eq_bind, Option.bind_eq_some_iff, dropLiteral?_eq_some_iff,
    Option.pure_def, Option.some_inj, Prod.mk.injEq]
  constructor
  · rintro ⟨r1, rfl, ⟨found, r2⟩, hread, r3, hr2, rfl, rfl⟩
    obtain ⟨hname, -, rfl⟩ := readName?_eq_some_iff.mp hread
    change r2 = _ at hr2
    exact ⟨hname, by simp [markedTag, hr2]⟩
  · rintro ⟨hname, rfl⟩
    refine ⟨name ++ (closing ++ rest), by simp [markedTag], (name, closing ++ rest), ?_, rest, rfl, rfl, rfl⟩
    exact readName?_eq_some_iff.mpr ⟨hname, stops_closing rest, rfl⟩

private theorem readLookup?_eq_some_iff {tag : Tag} :
    readLookup? s = some (tag, rest) ↔ ∃ table key, IsName table ∧ IsName key ∧
      tag = .lookup table key ∧ s = lookupTag table key ++ rest := by
  simp only [readLookup?, Option.bind_eq_bind, Option.bind_eq_some_iff, dropLiteral?_eq_some_iff,
    Option.pure_def, Option.some_inj, Prod.mk.injEq]
  constructor
  · rintro ⟨r1, rfl, ⟨table, r2⟩, hfirst, r3, hr2, ⟨key, r4⟩, hsecond, r5, hr4, rfl, rfl⟩
    obtain ⟨htable, -, rfl⟩ := readName?_eq_some_iff.mp hfirst
    obtain ⟨hkey, -, rfl⟩ := readName?_eq_some_iff.mp hsecond
    change r2 = _ at hr2
    change r4 = _ at hr4
    exact ⟨table, key, htable, hkey, rfl, by simp [lookupTag, hr2, hr4]⟩
  · rintro ⟨table, key, htable, hkey, rfl, rfl⟩
    refine ⟨table ++ ('.' :: (key ++ (closing ++ rest))), by simp [lookupTag],
      (table, '.' :: (key ++ (closing ++ rest))), ?_, key ++ (closing ++ rest), rfl,
      (key, closing ++ rest), ?_, rest, rfl, rfl, rfl⟩
    · exact readName?_eq_some_iff.mpr ⟨htable, stops_cons.mpr (by decide), rfl⟩
    · exact readName?_eq_some_iff.mpr ⟨hkey, stops_closing rest, rfl⟩

/-- A tag has no brace behind its beginning, so that no other tag begins within it. -/
theorem eq_nil_of_opening {inner front back after : List Char} (hne : inner ≠ [])
    (hinner : '\x7b' ∉ inner) (hsplit : opening ++ inner = front ++ back) (hback : back ≠ [])
    (h : back ++ rest = opening ++ after) : front = [] := by
  obtain ⟨c, back, rfl⟩ := List.exists_cons_of_ne_nil hback
  cases front with
  | nil => rfl
  | cons d front =>
    -- The other tag would begin at the second brace, or behind both of them.
    exfalso
    simp only [opening, List.cons_append, List.nil_append, List.cons.injEq] at hsplit h
    obtain ⟨rfl, h⟩ := h
    cases front with
    | nil =>
      obtain ⟨e, inner, rfl⟩ := List.exists_cons_of_ne_nil hne
      rw [← (List.cons.inj hsplit.2).2] at h
      exact hinner (by rw [(List.cons.inj h).1]; exact List.mem_cons_self)
    | cons e front =>
      rw [(List.cons.inj hsplit.2).2] at hinner
      exact hinner (List.mem_append_right front List.mem_cons_self)

/-- A tag that begins in a text followed by a tag ends in that text. -/
theorem fits_of_append (inner : List Char) {after : List Char} (hne : inner ≠ []) (hinner : '\x7b' ∉ inner)
    (hs : s ≠ []) (h : s ++ (opening ++ after) = opening ++ inner ++ rest) :
    ∃ tail, s = opening ++ inner ++ tail ∧ rest = tail ++ (opening ++ after) := by
  rcases List.append_eq_append_iff.mp h with ⟨tail, htag, hrest⟩ | hfits
  · by_cases htail : tail = []
    · exact ⟨[], by simp [htag, htail], by simp [hrest, htail]⟩
    · exact absurd (eq_nil_of_opening hne hinner htag htail hrest.symm) hs
  · exact hfits

private theorem IsName.brace_notMem (hname : IsName name) : '\x7b' ∉ name := fun hmem =>
  absurd (hname.2 _ hmem) (by decide)

/-- What stands within a tag is not empty and has no opening brace. -/
theorem marked_inner (hmark : '\x7b' ∉ mark) (hname : IsName name) :
    mark ++ (name ++ closing) ≠ [] ∧ '\x7b' ∉ mark ++ (name ++ closing) :=
  ⟨by simp [closing], by simp [hmark, hname.brace_notMem, closing]⟩

/-- A tag that begins before another one ends before it. -/
theorem markedTag_fits {after : List Char} (hmark : '\x7b' ∉ mark) (hname : IsName name) (hs : s ≠ [])
    (h : s ++ (opening ++ after) = markedTag mark name ++ rest) :
    ∃ tail, s = markedTag mark name ++ tail ∧ rest = tail ++ (opening ++ after) :=
  fits_of_append _ (marked_inner hmark hname).1 (marked_inner hmark hname).2 hs h

/-- A lookup that begins before another tag ends before it. -/
theorem lookupTag_fits {table key after : List Char} (htable : IsName table) (hkey : IsName key)
    (hs : s ≠ []) (h : s ++ (opening ++ after) = lookupTag table key ++ rest) :
    ∃ tail, s = lookupTag table key ++ tail ∧ rest = tail ++ (opening ++ after) := by
  refine fits_of_append (table ++ '.' :: (key ++ closing)) ?_ ?_ hs h
  · simp
  · simp [htable.brace_notMem, hkey.brace_notMem, closing]

/-- A tag with a mark is no lookup. -/
theorem markedTag_ne_lookupTag {table key after : List Char} {c : Char}
    (hc : isWordCharacter c = false) (htable : IsName table) :
    markedTag [c] name ++ rest ≠ lookupTag table key ++ after := by
  obtain ⟨d, table, rfl⟩ := List.exists_cons_of_ne_nil htable.1
  intro h
  simp only [lookupTag, markedTag, opening, List.cons_append, List.nil_append, List.cons.injEq] at h
  rw [h.2.2.1, htable.2 d List.mem_cons_self] at hc
  cases hc

/-- Nothing is closed where there is nothing. -/
theorem not_hasClosing_nil : ¬ HasClosing [] := by
  rintro ⟨front, name, rest, -, h⟩
  have := congrArg List.length h
  simp [markedTag, opening] at this

/-- A closing tag is at the front or behind the first character. -/
theorem hasClosing_cons {c : Char} : HasClosing (c :: s) ↔
    (∃ found, readMarked? ['/'] (c :: s) = some found) ∨ HasClosing s := by
  constructor
  · rintro ⟨front, name, rest, hname, hs⟩
    cases front with
    | nil => exact .inl ⟨(name, rest), readMarked?_eq_some_iff.mpr ⟨hname, hs⟩⟩
    | cons d front => exact .inr ⟨front, name, rest, hname, (List.cons.inj hs).2⟩
  · rintro (⟨⟨name, rest⟩, hread⟩ | ⟨front, name, rest, hname, rfl⟩)
    · obtain ⟨hname, hs⟩ := readMarked?_eq_some_iff.mp hread
      exact ⟨[], name, rest, hname, hs⟩
    · exact ⟨c :: front, name, rest, hname, rfl⟩

/-- A closing tag that is read in a text before another one is in that text. -/
theorem hasClosing_of_read {found : List Char × List Char} {after : List Char} (hs : s ≠ [])
    (h : readMarked? ['/'] (s ++ (opening ++ after)) = some found) : HasClosing s := by
  obtain ⟨hname, hsplit⟩ := readMarked?_eq_some_iff.mp h
  obtain ⟨tail, htail, -⟩ := markedTag_fits (by decide) hname hs hsplit
  exact ⟨[], found.1, tail, hname, htail⟩

/-- The text is split at the first closing tag in it. -/
theorem splitAtClosing?_eq_some_iff {body other : List Char} :
    splitAtClosing? s = some (body, other, rest) ↔ IsName other ∧
      s = body ++ (markedTag ['/'] other ++ rest) ∧ ¬ HasClosing body := by
  induction s generalizing body with
  | nil => simp [splitAtClosing?, markedTag, opening]
  | cons c s ih =>
    rw [splitAtClosing?]
    split
    · next name after hread =>
      constructor
      · intro h
        cases h
        obtain ⟨hname, hs⟩ := readMarked?_eq_some_iff.mp hread
        exact ⟨hname, hs, not_hasClosing_nil⟩
      · rintro ⟨hother, hbody, hfirst⟩
        have hnil : body = [] := by
          by_contra hne
          exact hfirst (hasClosing_of_read hne (hbody ▸ hread))
        rw [hbody, hnil, List.nil_append, readMarked?_eq_some_iff.mpr ⟨hother, rfl⟩] at hread
        cases hread
        rw [hnil]
    · next hread =>
      rw [Option.map_eq_some_iff]
      constructor
      · rintro ⟨⟨front, other, rest⟩, htail, he⟩
        cases he
        obtain ⟨hother, hs, hfirst⟩ := ih.mp htail
        refine ⟨hother, by rw [hs, List.cons_append], fun hclosing => ?_⟩
        rcases hasClosing_cons.mp hclosing with ⟨⟨name, tail⟩, hfront⟩ | hclosing
        · obtain ⟨hname, hfront⟩ := readMarked?_eq_some_iff.mp hfront
          rw [hs, ← List.cons_append, hfront, List.append_assoc,
            readMarked?_eq_some_iff.mpr ⟨hname, rfl⟩] at hread
          cases hread
        · exact hfirst hclosing
      · rintro ⟨hother, hs, hfirst⟩
        cases body with
        | nil =>
          rw [List.nil_append] at hs
          rw [readMarked?_eq_some_iff.mpr ⟨hother, hs⟩] at hread
          cases hread
        | cons d body =>
          obtain ⟨rfl, htail⟩ := List.cons.inj hs
          have hbody : ¬ HasClosing body := mt (fun h => hasClosing_cons.mpr (.inr h)) hfirst
          exact ⟨(body, other, rest), ih.mpr ⟨hother, htail, hbody⟩, rfl⟩

private theorem readBlock?_eq_some_iff {tag : Tag} :
    readBlock? s = some (tag, rest) ↔ ∃ name body other, IsName name ∧ IsName other ∧
      tag = .block name other body ∧ ¬ HasClosing body ∧
      s = markedTag ['#'] name ++ (body ++ (markedTag ['/'] other ++ rest)) := by
  simp only [readBlock?, Option.bind_eq_bind, Option.bind_eq_some_iff, Option.pure_def,
    Option.some_inj, Prod.mk.injEq]
  constructor
  · rintro ⟨⟨name, r1⟩, hopen, ⟨body, other, r2⟩, hclose, rfl, rfl⟩
    obtain ⟨hname, rfl⟩ := readMarked?_eq_some_iff.mp hopen
    obtain ⟨hother, hr1, hfirst⟩ := splitAtClosing?_eq_some_iff.mp hclose
    exact ⟨name, body, other, hname, hother, rfl, hfirst, congrArg _ hr1⟩
  · rintro ⟨name, body, other, hname, hother, rfl, hfirst, rfl⟩
    exact ⟨(name, _), readMarked?_eq_some_iff.mpr ⟨hname, rfl⟩, (body, other, rest),
      splitAtClosing?_eq_some_iff.mpr ⟨hother, rfl, hfirst⟩, rfl, rfl⟩

private theorem finds_key : Finds (readMarked? []) id KeyAt where
  stands_of_read h := by
    obtain ⟨hname, rfl⟩ := readMarked?_eq_some_iff.mp h
    exact ⟨_, by simp [markedTag, opening], rfl, .intro hname⟩
  read_of_stands h := by
    obtain ⟨hname⟩ := h
    exact ⟨_, _, readMarked?_eq_some_iff.mpr ⟨hname, rfl⟩, rfl, rfl⟩

/-- The mark that a tag amounts to, with the keys in the body of a block. -/
def markOf : Tag → Mark
  | .block name other body => .block name other (pieces keyRule body)
  | .lookup table key => .lookup table key

private theorem leftmost_keys (body : List Char) : Leftmost KeyAt body (pieces keyRule body) := by
  have h := finds_key.leftmost body
  have hid : mapPiece (id : List Char → List Char) = id := by
    funext piece
    cases piece <;> rfl
  rwa [hid, List.map_id] at h

/-- A lookup does not begin like a block. -/
theorem readBlock?_lookupTag {table : List Char} (htable : IsName table) (key rest : List Char) :
    readBlock? (lookupTag table key ++ rest) = none := by
  cases h : readBlock? (lookupTag table key ++ rest) with
  | none => rfl
  | some found =>
    obtain ⟨name, body, other, -, -, -, -, hs⟩ := readBlock?_eq_some_iff.mp h
    exact absurd hs.symm (markedTag_ne_lookupTag (by decide) htable)

/-- The tags that are read are the marks that stand in a template. -/
theorem finds_mark : Finds readTag? markOf MarkAt where
  stands_of_read h := by
    unfold readTag? at h
    split at h
    · next found hblock =>
      cases h
      obtain ⟨name, body, other, hname, hother, rfl, hfirst, rfl⟩ := readBlock?_eq_some_iff.mp hblock
      exact ⟨_, by simp [markedTag, opening], by simp, .block hname hother hfirst (leftmost_keys body)⟩
    · obtain ⟨table, key, htable, hkey, rfl, rfl⟩ := readLookup?_eq_some_iff.mp h
      exact ⟨_, by simp [lookupTag, opening], rfl, .lookup htable hkey⟩
  read_of_stands h := by
    cases h with
    | block hname hother hfirst hbody =>
      rename_i name body other rest keys
      have hread : readBlock? (markedTag ['#'] name ++ (body ++ (markedTag ['/'] other ++ rest))) =
          some (.block name other body, rest) :=
        readBlock?_eq_some_iff.mpr ⟨name, body, other, hname, hother, rfl, hfirst, rfl⟩
      have hkeys : pieces keyRule body = keys :=
        finds_key.parts_unique (leftmost_keys body) hbody
      exact ⟨.block name other body, rest, by rw [readTag?, hread], by rw [markOf, hkeys], by simp⟩
    | lookup htable hkey =>
      rename_i table key rest
      have hread : readLookup? (lookupTag table key ++ rest) = some (.lookup table key, rest) :=
        readLookup?_eq_some_iff.mpr ⟨table, key, htable, hkey, rfl, rfl⟩
      exact ⟨.lookup table key, rest, by rw [readTag?, readBlock?_lookupTag htable, hread], rfl, rfl⟩

end Signage.Template
