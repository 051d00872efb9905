import Signage.Proofs.Content.Placeholders
import Signage.Proofs.Content.Resolution

/-!
Resolved markup that is stored and resolved again. It stays as it is unless texts of different
playlists have come together to a placeholder, and this takes a text that breaks off within one.
-/
namespace Signage.Content
variable {limits : Limits} {sources : Sources} {fragment : Fragment} {id : PlaylistId}
  {pieces : List (Text.Piece Placeholder)} {text markup : Markup} {texts : List Markup}

/-- The text at the front of the pieces, up to the first placeholder that is followed. -/
def Fragment.run (fragment : Fragment) : List (Text.Piece Placeholder) → Markup
  | [] => []
  | .character c :: pieces => c :: fragment.run pieces
  | .token p spelling :: pieces =>
    if fragment.follows p then [] else spelling ++ fragment.run pieces

/-- Wherever a scan of the markup has come to, the text up to the next placeholder that is followed,
or up to the end, does not break off within a placeholder. -/
def Fragment.Closed (fragment : Fragment) (markup : Markup) : Prop :=
  ∀ rest, rest <:+ Text.pieces placeholderRule markup → ¬ Unfinished (fragment.run rest)

/-- The text is scanned for itself, whatever comes behind it, and nothing in it is followed. -/
def Fragment.Settled (fragment : Fragment) (text : Markup) : Prop :=
  ∀ behind, ∃ front, Text.pieces placeholderRule (text ++ behind) =
    front ++ Text.pieces placeholderRule behind ∧ fragment.followed front = []

private theorem Fragment.Settled.followed_eq_nil (h : fragment.Settled text) :
    fragment.followed (Text.pieces placeholderRule text) = [] := by
  obtain ⟨front, hfront, hfollowed⟩ := h []
  rw [List.append_nil, Text.pieces_nil, List.append_nil] at hfront
  rw [hfront, hfollowed]

private theorem settled_nil : fragment.Settled [] := fun _ => ⟨[], rfl, rfl⟩

private theorem Fragment.Settled.append {text' : Markup} (h : fragment.Settled text)
    (h' : fragment.Settled text') : fragment.Settled (text ++ text') := by
  intro behind
  obtain ⟨front, hfront, hfollowed⟩ := h (text' ++ behind)
  obtain ⟨front', hfront', hfollowed'⟩ := h' behind
  refine ⟨front ++ front', ?_, ?_⟩
  · rw [List.append_assoc, hfront, hfront', List.append_assoc]
  · rw [fragment.followed_append, hfollowed, hfollowed', List.append_nil]

private theorem exists_fill_eq (fragment : Fragment) (pieces : List (Text.Piece Placeholder))
    (texts : List Markup) :
    ∃ behind, fragment.fill pieces texts = fragment.run pieces ++ behind := by
  induction pieces generalizing texts with
  | nil => exact ⟨[], rfl⟩
  | cons piece pieces ih =>
    cases piece with
    | character c =>
      obtain ⟨behind, hbehind⟩ := ih texts
      exact ⟨behind, congrArg (c :: ·) hbehind⟩
    | token p spelling =>
      rw [Fragment.fill, Fragment.run]
      split
      · exact ⟨_, rfl⟩
      · obtain ⟨behind, hbehind⟩ := ih texts
        exact ⟨behind, by rw [hbehind, List.append_assoc]⟩

private theorem exists_scanned_eq (fragment : Fragment) (h : Scanned markup pieces) :
    ∃ behind, markup = fragment.run pieces ++ behind := by
  induction h with
  | nil => exact ⟨[], rfl⟩
  | @character c rest pieces _ _ ih =>
    obtain ⟨behind, hbehind⟩ := ih
    exact ⟨behind, congrArg (c :: ·) hbehind⟩
  | token hp _ ih =>
    rw [Fragment.run]
    split
    · exact ⟨_, rfl⟩
    · obtain ⟨behind, hbehind⟩ := ih
      exact ⟨behind, by rw [List.append_assoc, ← hbehind]⟩

/-- Settled texts may take the place of the placeholders in closed markup. -/
theorem settled_fill (h : Scanned markup pieces)
    (hclosed : ∀ rest, rest <:+ pieces → ¬ Unfinished (fragment.run rest))
    (htexts : ∀ text ∈ texts, fragment.Settled text) :
    fragment.Settled (fragment.fill pieces texts) := by
  induction h generalizing texts with
  | nil => exact settled_nil
  | @character c rest pieces hread hrest ih =>
    intro behind
    obtain ⟨front, hfront, hfollowed⟩ :=
      ih (fun back hback => hclosed back (hback.trans (List.suffix_cons _ _))) htexts behind
    obtain ⟨tail, htail⟩ := exists_fill_eq fragment (.character c :: pieces) texts
    obtain ⟨tail', htail'⟩ := exists_scanned_eq fragment (.character hread hrest)
    -- the run decides that the character begins no placeholder, in the markup and in the text
    have hne : fragment.run (.character c :: pieces) ≠ [] := List.cons_ne_nil _ _
    have hrun :
        readPlaceholder? (fragment.run (.character c :: pieces) ++ (tail ++ behind)) = none :=
      readPlaceholder?_eq_none_of_append hne (hclosed _ List.suffix_rfl) (htail' ▸ hread)
    rw [← List.append_assoc, ← htail] at hrun
    refine ⟨.character c :: front, ?_, hfollowed⟩
    rw [Fragment.fill, List.cons_append] at hrun ⊢
    rw [pieces_of_none hrun, hfront, List.cons_append]
  | @token p rest pieces hp hrest ih =>
    have hback : ∀ back, back <:+ pieces → ¬ Unfinished (fragment.run back) :=
      fun back hback => hclosed back (hback.trans (List.suffix_cons _ _))
    rw [Fragment.fill]
    split
    · refine Fragment.Settled.append ?_
        (ih hback fun text htext => htexts text (List.mem_of_mem_tail htext))
      cases texts with
      | nil => exact settled_nil
      | cons text texts => exact htexts text List.mem_cons_self
    · next hskipped =>
      intro behind
      obtain ⟨front, hfront, hfollowed⟩ := ih hback htexts behind
      refine ⟨.token p p.spelling :: front, ?_, ?_⟩
      · rw [List.append_assoc, pieces_spelling hp, hfront, List.cons_append]
      · rw [Fragment.followed_skipped hskipped, hfollowed]

private theorem stored_items_eq_ok_iff {nested : Bool} {kind : Fragment} :
    stored sources nested .items id = .ok (markup, kind) ↔
      sources.column .items id = .ok markup ∧ kind = .items := by
  unfold stored
  cases sources.column .items id with
  | error error => simp
  | ok items =>
    simp only [reduceCtorEq, false_and, if_false, Except.ok.injEq, Prod.mk.injEq]
    exact and_congr_right fun _ => eq_comm

/-- Markup whose items are all stored here, and which does not break off within a placeholder. -/
structure Whole (markup : Markup) : Prop where
  url : ∀ p ∈ Fragment.items.followed (Text.pieces placeholderRule markup), p.url = none
  closed : Fragment.items.Closed markup

/-- Texts that are put together of whole ones are settled. -/
theorem settled_texts {ps : List Placeholder} {forest : Forest}
    (h : forest.Expands sources .items ps) (hps : ∀ p ∈ ps, p.url = none)
    (hwhole : ∀ id markup, .column .items id ∈ forest.reads .items →
      sources.column .items id = .ok markup → Whole markup) :
    ∀ text ∈ forest.texts, Fragment.items.Settled text := by
  generalize hitems : Fragment.items = fragment at h
  induction h with
  | nil =>
    intro text htext
    cases htext
  | page hurl =>
    rw [hps _ List.mem_cons_self] at hurl
    cases hurl
  | @playlist _ kind p ps id markup children next _ _ hstored _ _ ihchildren ihnext =>
    subst hitems
    obtain ⟨hcolumn, rfl⟩ := stored_items_eq_ok_iff.mp hstored
    have hreads : Forest.reads .items (.playlist id .items markup children next) =
        .column .items id :: (children.reads .items ++ next.reads .items) := rfl
    rw [hreads] at hwhole
    have hmarkup : Whole markup := hwhole id markup List.mem_cons_self hcolumn
    have htexts := ihchildren hmarkup.url (fun inner found hread => hwhole inner found
      (List.mem_cons_of_mem _ (List.mem_append_left _ hread))) rfl
    have hrest := ihnext (fun q hq => hps q (List.mem_cons_of_mem _ hq)) (fun inner found hread =>
      hwhole inner found (List.mem_cons_of_mem _ (List.mem_append_right _ hread))) rfl
    intro text htext
    rcases List.mem_cons.mp htext with rfl | htext
    · exact settled_fill (scanned_pieces markup) hmarkup.closed htexts
    · exact hrest text htext

private theorem settled_text {tree : Tree} (h : tree.Expands sources false .items)
    (hwhole : ∀ id markup, .column .items id ∈ tree.reads .items →
      sources.column .items id = .ok markup → Whole markup) :
    Fragment.items.Settled tree.text := by
  obtain ⟨id, kind, markup, children⟩ := tree
  obtain ⟨hcolumn, rfl⟩ := stored_items_eq_ok_iff.mp h.stored
  have hreads : Tree.reads .items ⟨id, .items, markup, children⟩ =
      .column .items id :: children.reads .items := rfl
  rw [hreads] at hwhole
  have hmarkup : Whole markup := hwhole id markup List.mem_cons_self hcolumn
  have htexts := settled_texts h.children hmarkup.url fun inner found hread =>
    hwhole inner found (List.mem_cons_of_mem _ hread)
  exact settled_fill (scanned_pieces markup) hmarkup.closed htexts

/-- Wherever the text is stored, resolving it gives it back and accesses nothing else. -/
def ResolvesToItself (text : Markup) : Prop :=
  ∀ limits sources id, sources.column .items id = .ok text →
    resolve limits sources .items id = ⟨text, [.column .items id], none⟩

private theorem fill_of_followed_eq_nil (h : fragment.followed pieces = []) (texts : List Markup) :
    fragment.fill pieces texts = pieces.flatMap Text.Piece.source := by
  induction pieces with
  | nil => rfl
  | cons piece pieces ih =>
    cases piece with
    | character c => exact congrArg (c :: ·) (ih h)
    | token p spelling =>
      by_cases hp : fragment.follows p
      · rw [Fragment.followed_token hp] at h
        cases h
      · rw [Fragment.followed_skipped hp] at h
        rw [Fragment.fill, if_neg hp, ih h]
        rfl

private theorem length_le_count {ps : List Placeholder} {forest : Forest}
    (h : forest.Expands sources fragment ps) : ps.length ≤ forest.count := by
  induction h with
  | nil => exact Nat.le_refl 0
  | page _ _ _ _ ih =>
    rw [List.length_cons, Forest.count]
    omega
  | playlist _ _ _ _ _ _ ih =>
    rw [List.length_cons, Forest.count]
    omega

private theorem resolvesToItself_iff :
    ResolvesToItself text ↔ Fragment.items.followed (Text.pieces placeholderRule text) = [] := by
  constructor
  · intro h
    -- no reference may be followed under these limits
    have hresolve := h ⟨0, 0⟩ ⟨fun _ _ => .ok text, fun _ => .ok []⟩ .none rfl
    have hok := congrArg Resolution.failure hresolve
    obtain ⟨tree, -, hexpands, hfits⟩ := exists_tree_of_resolve hok
    obtain ⟨hcolumn, hkind⟩ := stored_items_eq_ok_iff.mp hexpands.stored
    cases hcolumn
    have hlength := (length_le_count hexpands.children).trans hfits.expansions
    rw [hkind] at hlength
    exact List.eq_nil_of_length_eq_zero (Nat.le_zero.mp hlength)
  · intro h limits sources id hcolumn
    let tree : Tree := ⟨id, .items, text, .nil⟩
    have hexpands : tree.Expands sources false .items :=
      ⟨stored_items_eq_ok_iff.mpr ⟨hcolumn, rfl⟩, h.symm ▸ Forest.Expands.nil⟩
    have hfits : tree.Fits limits :=
      ⟨⟨List.not_mem_nil, trivial⟩, Nat.zero_le _, Nat.zero_le _⟩
    have htext : tree.text = text :=
      (fill_of_followed_eq_nil h _).trans (Text.source_pieces placeholderRule text)
    have hresolve := resolve_of_fits hexpands hfits
    rw [htext] at hresolve
    exact hresolve

/-- Whether the piece is a brace that opens nothing. -/
def isBrace : Text.Piece Placeholder → Bool
  | .character c => c == '\x7b'
  | .token _ _ => false

/-- A brace opens a placeholder wherever it stands outside of others. -/
def BracesMatch (markup : Markup) : Prop :=
  ∀ piece ∈ Text.pieces placeholderRule markup, isBrace piece = false

instance : DecidablePred BracesMatch := fun markup =>
  inferInstanceAs (Decidable (∀ piece ∈ Text.pieces placeholderRule markup, isBrace piece = false))

private theorem not_unfinished_run (h : Scanned markup pieces)
    (hbrace : ∀ piece ∈ pieces, isBrace piece = false) : ¬ Unfinished (fragment.run pieces) := by
  rintro ⟨hne, q, hq, hprefix, hproper⟩
  cases h with
  | nil => exact hne rfl
  | @character c rest pieces hread hrest =>
    obtain ⟨tail, htail⟩ := hprefix
    have hc : c = '\x7b' := (List.cons.inj htail).1
    have hno := hbrace _ List.mem_cons_self
    rw [hc] at hno
    cases hno
  | @token p rest pieces hp hrest =>
    rw [Fragment.run] at hne hprefix hproper
    split at hprefix
    · next hfollows => exact hne (if_pos hfollows)
    · next hskipped =>
      rw [if_neg hskipped] at hproper
      obtain ⟨tail, htail⟩ := hprefix
      have hread := readPlaceholder?_spelling hp (fragment.run pieces ++ tail)
      rw [← List.append_assoc, htail, ← List.append_nil q.spelling,
        readPlaceholder?_spelling hq] at hread
      cases hread
      rw [List.append_assoc, List.append_right_eq_self] at htail
      exact hproper (by rw [(List.append_eq_nil_iff.mp htail).1, List.append_nil])

private theorem Scanned.of_suffix {rest : List (Text.Piece Placeholder)} (h : Scanned markup pieces)
    (hrest : rest <:+ pieces) : ∃ markup', Scanned markup' rest := by
  induction h with
  | nil => exact ⟨[], List.suffix_nil.mp hrest ▸ .nil⟩
  | character hread htail ih =>
    rcases List.suffix_cons_iff.mp hrest with rfl | hrest
    · exact ⟨_, .character hread htail⟩
    · exact ih hrest
  | token hp htail ih =>
    rcases List.suffix_cons_iff.mp hrest with rfl | hrest
    · exact ⟨_, .token hp htail⟩
    · exact ih hrest

private theorem BracesMatch.closed (h : BracesMatch markup) (fragment : Fragment) :
    fragment.Closed markup := by
  intro rest hrest
  obtain ⟨_, hscanned⟩ := (scanned_pieces markup).of_suffix hrest
  exact not_unfinished_run hscanned fun piece hpiece => h piece (hrest.subset hpiece)

/-- Resolved markup resolves to itself unless it has a placeholder that is followed, and that is
never so when all the items that were accessed are whole. -/
theorem resolve_again (limits : Limits) (sources : Sources) (id : PlaylistId)
    (hpages : ∀ inner markup, sources.column .items inner = .ok markup →
      ∀ p ∈ Fragment.items.followed (Text.pieces placeholderRule markup), p.url = none)
    (hok : (resolve limits sources .items id).failure = none) :
    let resolution := resolve limits sources .items id
    (ResolvesToItself resolution.markup ↔
        Fragment.items.followed (Text.pieces placeholderRule resolution.markup) = []) ∧
      ((∀ inner markup, .column .items inner ∈ resolution.reads →
        sources.column .items inner = .ok markup → Fragment.items.Closed markup) →
          ResolvesToItself resolution.markup) := by
  refine ⟨resolvesToItself_iff, fun hclosed => resolvesToItself_iff.mpr ?_⟩
  obtain ⟨tree, rfl, hexpands, hfits⟩ := exists_tree_of_resolve hok
  rw [resolve_of_fits hexpands hfits] at hclosed ⊢
  refine (settled_text hexpands fun inner markup hread hcolumn => ?_).followed_eq_nil
  exact ⟨hpages inner markup hcolumn, hclosed inner markup hread hcolumn⟩

/-- One playlist between the tags of another. -/
def nestingSources : Sources :=
  ⟨fun _ id => .ok (if id = ⟨1⟩ then "<a>{ITEMS_2}</a>".toList else "<b/>".toList), fun _ => .ok []⟩

theorem resolve_again_of_nesting :
    let resolution := resolve .standard nestingSources .items ⟨1⟩
    resolution.markup = "<a><b/></a>".toList ∧ ResolvesToItself resolution.markup := by
  have hitems {inner : PlaylistId} {markup : Markup}
      (h : nestingSources.column .items inner = .ok markup) :
      markup = "<a>{ITEMS_2}</a>".toList ∨ markup = "<b/>".toList := by
    cases h
    exact ite_eq_or_eq _ _ _
  have hpages : ∀ inner markup, nestingSources.column .items inner = .ok markup →
      ∀ p ∈ Fragment.items.followed (Text.pieces placeholderRule markup), p.url = none := by
    intro inner markup h
    rcases hitems h with rfl | rfl <;> decide +kernel
  have hok : (resolve .standard nestingSources .items ⟨1⟩).failure = none := by decide +kernel
  refine ⟨by decide +kernel, (resolve_again .standard nestingSources ⟨1⟩ hpages hok).2 ?_⟩
  intro inner markup _ h
  apply BracesMatch.closed
  rcases hitems h with rfl | rfl <;> decide +kernel

/-- Two playlists that come together to the placeholder of a third one, and what comes of it. -/
def joiningSources : Sources :=
  ⟨fun _ id => .ok (if id = ⟨1⟩ then "{ITEMS_{ITEMS_2}}".toList else if id = ⟨2⟩ then ['3']
    else if id = ⟨3⟩ then "<x/>".toList else "{ITEMS_3}".toList), fun _ => .ok []⟩

theorem resolve_again_of_joining :
    let resolution := resolve .standard joiningSources .items ⟨1⟩
    (∀ inner markup, joiningSources.column .items inner = .ok markup →
        ∀ p ∈ Fragment.items.followed (Text.pieces placeholderRule markup), p.url = none) ∧
      resolution.failure = none ∧ resolution.markup = "{ITEMS_3}".toList ∧
        (resolve .standard joiningSources .items ⟨9⟩).markup = "<x/>".toList ∧
          ¬ ResolvesToItself resolution.markup := by
  have hmarkup : (resolve .standard joiningSources .items ⟨1⟩).markup = "{ITEMS_3}".toList := by
    decide +kernel
  have hagain : (resolve .standard joiningSources .items ⟨9⟩).markup = "<x/>".toList := by
    decide +kernel
  refine ⟨?_, by decide +kernel, hmarkup, hagain, fun hself => ?_⟩
  · intro inner markup h
    cases h
    split_ifs <;> decide +kernel
  · rw [hmarkup] at hself
    have hresolve := hself .standard joiningSources ⟨9⟩ rfl
    rw [hresolve] at hagain
    revert hagain
    decide +kernel

end Signage.Content
