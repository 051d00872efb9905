import Signage.Proofs.Template.Marks
import Signage.Template.Builtin

/-!
What a template makes of the data. The marks of a template are known before the data is, and each of
them is replaced on its own, so that texts put in are never looked at again.
-/
namespace Signage.Template
open Text
open Section (Row Table)

/-- What a piece of the body of a block becomes for a row. -/
def bodyText (row : Row) : Piece (List Char) → List Char
  | .character c => [c]
  | .token key _ => (row.lookup (.ofList key)).getD []

/-- What a mark is replaced by. -/
def Mark.text (table : Table) : Mark → List Char
  | .block name _ body =>
    match table.lookup (.ofList name) with
    | some rows => rows.flatMap fun row => body.flatMap (bodyText row)
    | none => []
  | .lookup name key =>
    match table.lookup (.ofList name) with
    | some (row :: _) => (row.lookup (.ofList key)).getD []
    | _ => []

/-- What a piece of a template becomes. -/
def partText (table : Table) : Piece Mark → List Char
  | .character c => [c]
  | .token mark _ => mark.text table

/-- What is wrong with a piece of a template: it is a block with two names. -/
def partFault? : Piece Mark → Option Error
  | .token (.block name other _) _ => if name = other then none else some (mismatched name other)
  | _ => none

/-- Some block of a template has two names. -/
def HasMismatch (parts : List (Piece Mark)) : Prop :=
  ∃ name other body spelling, .token (.block name other body) spelling ∈ parts ∧ name ≠ other

section Filling
variable (table : Table)

private theorem fill_bodyParts (row : Row) (body : List Char) :
    (bodyParts body).flatMap (BodyPart.fill row) = (pieces keyRule body).flatMap (bodyText row) := by
  rw [bodyParts, List.flatMap_map]
  congr 1
  funext piece
  cases piece <;> rfl

private theorem fill_block (name other body spelling : List Char) :
    Segment.fill table (.block (.ofList name) (bodyParts body)) =
      partText table (mapPiece markOf (.token (.block name other body) spelling)) := by
  simp only [Segment.fill, rowsOf, fill_bodyParts, mapPiece, markOf, partText, Mark.text]
  cases table.lookup (.ofList name) <;> rfl

private theorem fill_lookup (name key spelling : List Char) :
    Segment.fill table (.lookup (.ofList name) (.ofList key)) =
      partText table (mapPiece markOf (.token (.lookup name key) spelling)) := by
  simp only [Segment.fill, rowsOf, textOf, mapPiece, markOf, partText, Mark.text]
  cases table.lookup (.ofList name) with
  | none => rfl
  | some rows => cases rows <;> rfl

/-- A piece is filled in, unless it is at fault. -/
private theorem segmentOf_cases (piece : Piece Tag) :
    match partFault? (mapPiece markOf piece) with
    | some error => segmentOf piece = .error error
    | none => ∃ segment, segmentOf piece = .ok segment ∧
        segment.fill table = partText table (mapPiece markOf piece) := by
  cases piece with
  | character c => exact ⟨.text [c], rfl, rfl⟩
  | token tag spelling =>
    cases tag with
    | lookup name key => exact ⟨_, rfl, fill_lookup table name key spelling⟩
    | block name other body =>
      by_cases h : name = other
      · simp only [mapPiece, markOf, partFault?, segmentOf, if_pos h]
        exact ⟨_, rfl, fill_block table name other body spelling⟩
      · simp only [mapPiece, markOf, partFault?, segmentOf, if_neg h]

/-- The first piece that is at fault makes all fail, whatever stands before it. -/
private theorem mapM_segmentOf (list : List (Piece Tag)) :
    match (list.map (mapPiece markOf)).findSome? partFault? with
    | some error => list.mapM segmentOf = .error error
    | none => ∃ segments, list.mapM segmentOf = .ok segments ∧
        segments.flatMap (Segment.fill table) =
          (list.map (mapPiece markOf)).flatMap (partText table) := by
  induction list with
  | nil => exact ⟨[], rfl, rfl⟩
  | cons piece list ih =>
    have hpiece := segmentOf_cases table piece
    rw [List.mapM_cons, List.map_cons, List.findSome?_cons]
    split at hpiece
    · next error hfault =>
      rw [hfault, hpiece]
      rfl
    · next hfault =>
      obtain ⟨segment, hsegment, hfill⟩ := hpiece
      rw [hfault, hsegment]
      dsimp only
      split at ih
      · next error hfaults =>
        rw [hfaults, ih]
        rfl
      · next hfaults =>
        obtain ⟨segments, hsegments, hfills⟩ := ih
        rw [hfaults, hsegments]
        exact ⟨segment :: segments, rfl, by rw [List.flatMap_cons, List.flatMap_cons, hfill, hfills]⟩

/-- A template fails with the first of its blocks that has two names, and else every mark of it is
replaced. -/
theorem renderSource_eq {source : List Char} {parts : List (Piece Mark)}
    (h : Leftmost MarkAt source parts) :
    renderSource source table = match parts.findSome? partFault? with
      | some error => .error error
      | none => .ok (parts.flatMap (partText table)) := by
  have hparts : parts = (pieces tagRule source).map (mapPiece markOf) :=
    finds_mark.parts_unique h (finds_mark.leftmost source)
  have hsegments := mapM_segmentOf table (pieces tagRule source)
  rw [← hparts] at hsegments
  rw [renderSource, segments]
  split at hsegments
  · rw [hsegments]
    rfl
  · obtain ⟨segments, hok, hfill⟩ := hsegments
    rw [hok, ← hfill]
    rfl

end Filling

private theorem findSome?_partFault?_eq_none_iff {parts : List (Piece Mark)} :
    parts.findSome? partFault? = none ↔ ¬ HasMismatch parts := by
  rw [List.findSome?_eq_none_iff]
  constructor
  · rintro h ⟨name, other, body, spelling, hmem, hne⟩
    exact hne (by simpa [partFault?] using h _ hmem)
  · intro h piece hmem
    cases piece with
    | character c => rfl
    | token mark spelling =>
      cases mark with
      | lookup table key => rfl
      | block name other body =>
        exact if_pos (by_contra fun hne => h ⟨name, other, body, spelling, hmem, hne⟩)

private theorem partFault?_eq_some {piece : Piece Mark} {error : Error}
    (h : partFault? piece = some error) :
    ∃ message, error = .render message := by
  unfold partFault? at h
  split at h
  · split at h
    · cases h
    · cases h
      exact ⟨_, rfl⟩
  · cases h

section Unclosed
variable {s rest before after : List Char} {mark : Mark} {spelling : List Char}

/-- Whether a mark stands at the front does not depend on what follows it. -/
theorem MarkAt.append_congr (h : MarkAt (spelling ++ rest) mark spelling) (other : List Char) :
    MarkAt (spelling ++ other) mark spelling := by
  generalize hs : spelling ++ rest = s at h
  cases h with
  | block hname hother hfirst hbody =>
    have hblock := @MarkAt.block _ _ _ other _ hname hother hfirst hbody
    simpa using hblock
  | lookup htable hkey => exact .lookup htable hkey

/-- No mark reaches into the text behind an opening tag that is not closed. -/
theorem MarkAt.fits (hs : s ≠ []) (hafter : ¬ HasClosing (opening ++ after))
    (h : MarkAt (s ++ (opening ++ after)) mark spelling) : ∃ tail, s = spelling ++ tail := by
  generalize hwhole : s ++ (opening ++ after) = whole at h
  cases h with
  | lookup htable hkey =>
    obtain ⟨tail, htail, -⟩ := lookupTag_fits htable hkey hs hwhole
    exact ⟨tail, htail⟩
  | block hname hother hfirst hbody =>
    rename_i name body other rest keys
    obtain ⟨behind, rfl, hbehind⟩ := markedTag_fits (by decide) hname hs hwhole
    -- The closing tag begins in `behind`, as there is none in the text after it.
    rcases List.append_eq_append_iff.mp hbehind with ⟨closed, rfl, hclosed⟩ | ⟨lost, -, hlost⟩
    · by_cases hne : closed = []
      · exact absurd ⟨[], other, rest, hother, by simpa [hne] using hclosed.symm⟩ hafter
      · obtain ⟨tail, rfl, -⟩ := markedTag_fits (by decide) hother hne hclosed.symm
        exact ⟨tail, by simp⟩
    · exact absurd ⟨lost, other, rest, hother, hlost⟩ hafter

/-- The text before an opening tag that is not closed is cut as if nothing followed it. -/
theorem leftmost_append_unclosed {parts behind : List (Piece Mark)} (h : Leftmost MarkAt s parts)
    (hafter : ¬ HasClosing (opening ++ after)) (hbehind : Leftmost MarkAt (opening ++ after) behind) :
    Leftmost MarkAt (s ++ (opening ++ after)) (parts ++ behind) := by
  induction h with
  | nil => exact hbehind
  | character hnone _ ih =>
    rename_i c rest parts _
    refine .character (fun mark spelling hmark => ?_) ih
    change MarkAt ((c :: rest) ++ (opening ++ after)) mark spelling at hmark
    obtain ⟨tail, htail⟩ := hmark.fits (List.cons_ne_nil c rest) hafter
    rw [htail, List.append_assoc] at hmark
    exact hnone mark spelling (htail ▸ hmark.append_congr tail)
  | token hstands hne _ ih =>
    rename_i mark spelling rest parts _
    rw [List.append_assoc]
    exact .token (hstands.append_congr _) hne ih

variable {name : List Char}

private theorem MarkAt.opening_front (h : MarkAt s mark spelling) :
    ∃ after, s = opening ++ after := by
  cases h with
  | block => exact ⟨_, by rw [markedTag, List.append_assoc]⟩
  | lookup => exact ⟨_, by rw [lookupTag, List.append_assoc]⟩

/-- An opening tag has no closing tag in it, nor one that begins in it. -/
theorem not_hasClosing_openingTag (hname : IsName name) (hafter : ¬ HasClosing after) :
    ¬ HasClosing (markedTag ['#'] name ++ after) := by
  rintro ⟨front, other, rest, hother, h⟩
  rcases List.append_eq_append_iff.mp h with ⟨lost, -, hlost⟩ | ⟨back, hsplit, hback⟩
  · exact hafter ⟨lost, other, rest, hother, hlost⟩
  · by_cases hne : back = []
    · exact hafter ⟨[], other, rest, hother, by simpa [hne] using hback.symm⟩
    · have hcloses : back ++ after = opening ++ (['/'] ++ (other ++ closing) ++ rest) := hback.symm
      have hfront : front = [] := eq_nil_of_opening (marked_inner (by decide) hname).1
        (marked_inner (by decide) hname).2 hsplit hne hcloses
      rw [hfront] at h
      simp [markedTag, opening] at h

/-- No mark stands within an opening tag that is not closed. -/
theorem not_markAt_openingTag {front back : List Char} (hname : IsName name)
    (hafter : ¬ HasClosing after) (hsplit : markedTag ['#'] name = front ++ back) (hback : back ≠ []) :
    ¬ MarkAt (back ++ after) mark spelling := by
  intro h
  obtain ⟨behind, hbehind⟩ := h.opening_front
  have hfront : front = [] := eq_nil_of_opening (marked_inner (by decide) hname).1
    (marked_inner (by decide) hname).2 hsplit hback hbehind
  rw [hfront, List.nil_append] at hsplit
  rw [← hsplit] at h
  generalize hwhole : markedTag ['#'] name ++ after = whole at h
  cases h with
  | lookup htable => exact markedTag_ne_lookupTag (by decide) htable hwhole
  | block hname' hother =>
    rename_i name' body other rest _ _ _
    have hread := readMarked?_eq_some_iff.mpr ⟨hname, hwhole.symm⟩
    rw [readMarked?_eq_some_iff.mpr ⟨hname', rfl⟩] at hread
    cases hread
    exact hafter ⟨body, other, rest, hother, rfl⟩

/-- An opening tag that is not closed is passed character by character. -/
theorem leftmost_unclosed {parts behind : List (Piece Mark)} (hname : IsName name)
    (hafter : ¬ HasClosing after) (hbefore : Leftmost MarkAt before parts)
    (hbehind : Leftmost MarkAt after behind) :
    Leftmost MarkAt (before ++ (markedTag ['#'] name ++ after))
      (parts ++ ((markedTag ['#'] name).map .character ++ behind)) := by
  have htag : markedTag ['#'] name ++ after = opening ++ ('#' :: (name ++ closing) ++ after) := rfl
  have hclosed := not_hasClosing_openingTag hname hafter
  have hrest := hbehind.characters (markedTag ['#'] name) fun _ _ hsplit hback _ _ =>
    not_markAt_openingTag hname hafter hsplit hback
  rw [htag] at hclosed hrest ⊢
  exact leftmost_append_unclosed hbefore hclosed hrest

end Unclosed

private theorem render_name (sources : Sources) (family : Family) (table : Table) :
    sources.render family.name table = renderSource (sources family) table := by
  rw [Sources.render, Family.ofName?_name]

/-- A template is cut into marks and characters in one way, whatever the data are. It fails if and
only if a block has two names; otherwise the document has each character of the template and, for each
mark, the text that the data has for it. An opening tag that is not closed is passed as it is. -/
theorem render_replaces_marks (sources : Sources) (family : Family) :
    ∃ parts : List (Piece Mark), Leftmost MarkAt (sources family) parts ∧
      (∀ parts', Leftmost MarkAt (sources family) parts' → parts' = parts) ∧
      (∀ table, (∃ message, sources.render family.name table = .error (.render message)) ↔
        HasMismatch parts) ∧
      (∀ table, ¬ HasMismatch parts →
        sources.render family.name table = .ok (parts.flatMap (partText table))) ∧
      ∀ before name after, sources family = before ++ (markedTag ['#'] name ++ after) →
        IsName name → ¬ HasClosing after →
        ∃ front back, Leftmost MarkAt before front ∧ Leftmost MarkAt after back ∧
          parts = front ++ ((markedTag ['#'] name).map .character ++ back) := by
  have hparts := finds_mark.leftmost (sources family)
  have hrender (table : Table) := renderSource_eq table hparts
  generalize (pieces (ruleOf readTag?) (sources family)).map (mapPiece markOf) = parts at hparts hrender
  refine ⟨parts, hparts, fun parts' h => finds_mark.parts_unique h hparts, fun table => ?_,
    fun table hmatched => ?_, fun before name after hs hname hafter => ?_⟩
  · rw [render_name, hrender]
    cases hfault : parts.findSome? partFault? with
    | none => exact iff_of_false (by simp) (findSome?_partFault?_eq_none_iff.mp hfault)
    | some error =>
      obtain ⟨piece, -, hpiece⟩ := List.exists_of_findSome?_eq_some hfault
      obtain ⟨message, rfl⟩ := partFault?_eq_some hpiece
      refine iff_of_true ⟨message, rfl⟩ (by_contra fun hmatched => ?_)
      rw [findSome?_partFault?_eq_none_iff.mpr hmatched] at hfault
      cases hfault
  · rw [render_name, hrender, findSome?_partFault?_eq_none_iff.mpr hmatched]
  · have hfront := finds_mark.leftmost before
    have hback := finds_mark.leftmost after
    refine ⟨_, _, hfront, hback, finds_mark.parts_unique hparts ?_⟩
    rw [hs]
    exact leftmost_unclosed hname hafter hfront hback

/-- A block with a row whose text looks like a key, and an opening tag that is not closed. -/
def unclosedSource : List Char :=
  "\x7b\x7b#a\x7d\x7d-\x7b\x7bk\x7d\x7d\x7b\x7b/a\x7d\x7d\x7b\x7b#b\x7d\x7d".toList

theorem render_replaces_marks_unclosed :
    let sources := builtin.override .generic unclosedSource
    let table : Table := [("a", [[("k", "\x7b\x7bk\x7d\x7d".toList)], []])]
    ∃ parts front : List (Piece Mark), Leftmost MarkAt unclosedSource parts ∧ ¬ HasMismatch parts ∧
      parts = front ++ (markedTag ['#'] ['b']).map .character ∧
      sources.render Family.generic.name table = .ok (parts.flatMap (partText table)) ∧
      parts.flatMap (partText table) = "-\x7b\x7bk\x7d\x7d-\x7b\x7b#b\x7d\x7d".toList := by
  intro sources table
  obtain ⟨parts, hparts, -, hfails, hrender, hunclosed⟩ := render_replaces_marks sources .generic
  have hok : sources.render Family.generic.name table =
      .ok "-\x7b\x7bk\x7d\x7d-\x7b\x7b#b\x7d\x7d".toList := by
    rw [render_name]
    rfl
  have hmatched : ¬ HasMismatch parts := fun h => by
    obtain ⟨message, hmessage⟩ := (hfails table).mpr h
    rw [hok] at hmessage
    cases hmessage
  obtain ⟨front, back, -, hback, heq⟩ :=
    hunclosed (unclosedSource.take 18) ['b'] [] rfl ⟨by decide, List.all_eq_true.mp rfl⟩ not_hasClosing_nil
  rw [finds_mark.parts_unique hback .nil, List.append_nil] at heq
  have hdocument := hrender table hmatched
  exact ⟨parts, front, hparts, hmatched, heq, hdocument, Except.ok.inj (hdocument.symm.trans hok)⟩

end Signage.Template
