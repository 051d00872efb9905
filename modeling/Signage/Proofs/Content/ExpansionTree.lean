import Mathlib.Tactic.Basic
import Signage.Content.Resolve

/-!
What stored markup stands for: a tree with a node for each reference that is followed, and the text
that comes of putting the text of each node in place of its reference.
-/
namespace Signage.Content

/-- The playlist that the digits of a placeholder write, unless there can be none. -/
def Placeholder.id? (p : Placeholder) : Option PlaylistId := p.number.toOption

/-- The identifier is proper exactly if there is one. -/
theorem Placeholder.number_eq_ok_iff {p : Placeholder} {id : PlaylistId} :
    p.number = .ok id ↔ p.id? = some id := by
  unfold id?
  cases p.number <;> simp [Except.toOption]

namespace Fragment

/-- The placeholders among pieces that are followed, in order. -/
def followed (fragment : Fragment) (pieces : List (Text.Piece Placeholder)) : List Placeholder :=
  (pieces.filterMap Text.Piece.value?).filter fragment.follows

/-- The placeholders that are followed are found part by part. -/
theorem followed_append (fragment : Fragment) (front back : List (Text.Piece Placeholder)) :
    fragment.followed (front ++ back) = fragment.followed front ++ fragment.followed back := by
  simp [followed]

section
variable {fragment : Fragment} {pieces : List (Text.Piece Placeholder)} {p : Placeholder}
  {spelling : List Char}

@[simp] theorem followed_nil : fragment.followed [] = [] := rfl

/-- A placeholder that is followed is the first one. -/
theorem followed_token (h : fragment.follows p) :
    fragment.followed (.token p spelling :: pieces) = p :: fragment.followed pieces := by
  simp [followed, Text.Piece.value?, h]

/-- A placeholder that is not followed is passed over. -/
theorem followed_skipped (h : ¬ fragment.follows p) :
    fragment.followed (.token p spelling :: pieces) = fragment.followed pieces := by
  simp [followed, Text.Piece.value?, h]

end

/-- The pieces put together, with texts in place of the placeholders that are followed. -/
def fill (fragment : Fragment) : List (Text.Piece Placeholder) → List Markup → Markup
  | [], _ => []
  | .character c :: pieces, texts => c :: fragment.fill pieces texts
  | .token p spelling :: pieces, texts =>
    if fragment.follows p then texts.head?.getD [] ++ fragment.fill pieces texts.tail
    else spelling ++ fragment.fill pieces texts

end Fragment

/-- The markup of a playlist and the kind it is read as. Below the root, a playlist without
exclusive markup stands for its items. -/
def stored (sources : Sources) (nested : Bool) (fragment : Fragment) (id : PlaylistId) :
    Except Error (Markup × Fragment) :=
  match sources.column fragment id with
  | .ok markup =>
    if fragment = .exclusive ∧ nested ∧ Text.trim markup = [] then
      (sources.column .items id).map fun items => (items, .items)
    else .ok (markup, fragment)
  | .error error => .error error

/-- The accesses that give the markup of a playlist and the kind that it is read as. -/
def storedReads (fragment kind : Fragment) (id : PlaylistId) : List Read :=
  .column fragment id :: if kind = fragment then [] else [.column kind id]

/-- A row of expansion trees. A page is a leaf; a playlist has the kind that its markup is read as,
the markup, and a tree for each reference in it. -/
inductive Forest where
  | nil
  | page (url : List Char) (markup : Markup) (next : Forest)
  | playlist (id : PlaylistId) (fragment : Fragment) (markup : Markup) (children next : Forest)

namespace Forest

def texts : Forest → List Markup
  | nil => []
  | page _ markup next => markup :: next.texts
  | playlist _ fragment markup children next =>
    fragment.fill (Text.pieces placeholderRule markup) children.texts :: next.texts

/-- How many levels of playlists there are. -/
def levels : Forest → Nat
  | nil => 0
  | page _ _ next => next.levels
  | playlist _ _ _ children next => max (children.levels + 1) next.levels

/-- How many references are followed. -/
def count : Forest → Nat
  | nil => 0
  | page _ _ next => 1 + next.count
  | playlist _ _ _ children next => 1 + children.count + next.count

/-- The accesses that give the trees, which are read as a kind. -/
def reads (fragment : Fragment) : Forest → List Read
  | nil => []
  | page url _ next => .page url :: next.reads fragment
  | playlist id kind _ children next =>
    storedReads fragment kind id ++ children.reads kind ++ next.reads fragment

/-- No playlist is among the ones above it. -/
def Apart : List PlaylistId → Forest → Prop
  | _, nil => True
  | above, page _ _ next => next.Apart above
  | above, playlist id _ _ children next =>
    id ∉ above ∧ children.Apart (id :: above) ∧ next.Apart above

/-- The trees are those of the placeholders, read in markup of a kind. -/
inductive Expands (sources : Sources) : Fragment → List Placeholder → Forest → Prop
  | nil {fragment : Fragment} : Expands sources fragment [] .nil
  | page {fragment : Fragment} {p : Placeholder} {ps : List Placeholder} {url : List Char}
      {markup : Markup} {next : Forest} (hurl : p.url = some url) (hid : p.id?.isSome)
      (hmarkup : sources.page url = .ok markup) (hnext : Expands sources fragment ps next) :
      Expands sources fragment (p :: ps) (.page url markup next)
  | playlist {fragment kind : Fragment} {p : Placeholder} {ps : List Placeholder}
      {id : PlaylistId} {markup : Markup} {children next : Forest} (hurl : p.url = none)
      (hid : p.id? = some id) (hstored : stored sources true fragment id = .ok (markup, kind))
      (hchildren : Expands sources kind (kind.followed (Text.pieces placeholderRule markup)) children)
      (hnext : Expands sources fragment ps next) :
      Expands sources fragment (p :: ps) (.playlist id kind markup children next)

/-- There is one expansion at most. -/
theorem Expands.unique {sources : Sources} {fragment : Fragment} {ps : List Placeholder}
    {forest other : Forest} (h : Expands sources fragment ps forest)
    (h' : Expands sources fragment ps other) : forest = other := by
  induction h generalizing other with
  | nil =>
    cases h'
    rfl
  | page hurl hid hmarkup _ ih =>
    cases h' with
    | page hurl' hid' hmarkup' hnext' =>
      cases hurl.symm.trans hurl'
      cases hmarkup.symm.trans hmarkup'
      rw [ih hnext']
    | playlist hurl' => cases hurl.symm.trans hurl'
  | playlist hurl hid hstored _ _ ihchildren ihnext =>
    cases h' with
    | page hurl' => cases hurl.symm.trans hurl'
    | playlist hurl' hid' hstored' hchildren' hnext' =>
      cases hid.symm.trans hid'
      cases hstored.symm.trans hstored'
      rw [ihchildren hchildren', ihnext hnext']

end Forest

/-- The expansion tree of a playlist. -/
structure Tree where
  id : PlaylistId
  /-- The kind that the markup is read as. -/
  kind : Fragment
  markup : Markup
  children : Forest

namespace Tree

/-- The markup with each reference replaced by what it stands for. -/
def text (tree : Tree) : Markup :=
  tree.kind.fill (Text.pieces placeholderRule tree.markup) tree.children.texts

/-- The accesses that give the tree, which is read as a kind. -/
def reads (fragment : Fragment) (tree : Tree) : List Read :=
  storedReads fragment tree.kind tree.id ++ tree.children.reads tree.kind

/-- The tree is that of its playlist, read as a kind. -/
structure Expands (sources : Sources) (nested : Bool) (fragment : Fragment) (tree : Tree) : Prop where
  stored : stored sources nested fragment tree.id = .ok (tree.markup, tree.kind)
  children : tree.children.Expands sources tree.kind
    (tree.kind.followed (Text.pieces placeholderRule tree.markup))

/-- No playlist is among the ones above it, some of which may lie above the tree. -/
def Apart (above : List PlaylistId) (tree : Tree) : Prop :=
  tree.id ∉ above ∧ tree.children.Apart (tree.id :: above)

/-- The tree stays within the limits, and no playlist lies below itself. -/
structure Fits (limits : Limits) (tree : Tree) : Prop where
  apart : tree.Apart []
  depth : tree.children.levels ≤ limits.maxDepth
  expansions : tree.children.count ≤ limits.maxExpansions

/-- A playlist has one expansion at most. -/
theorem Expands.unique {sources : Sources} {nested : Bool} {fragment : Fragment}
    {tree other : Tree} (h : tree.Expands sources nested fragment)
    (h' : other.Expands sources nested fragment) (hid : tree.id = other.id) : tree = other := by
  obtain ⟨id, kind, markup, children⟩ := tree
  obtain ⟨id', kind', markup', children'⟩ := other
  obtain rfl : id = id' := hid
  cases h.stored.symm.trans h'.stored
  obtain rfl : children = children' := h.children.unique h'.children
  rfl

end Tree
end Signage.Content
