import Signage.Proofs.Content.ExpansionTree
import Signage.Proofs.Outcomes
import Signage.Proofs.Text.Blanks

/-!
A resolution walks through the expansion tree from left to right, and gives the text of the tree
exactly if the tree stays within the limits.
-/
namespace Signage.Content
variable {α β : Type} {pass pass' : Pass}

namespace Walk

/-- What the walk answers and which pass it leaves behind. -/
def outcome (walk : Walk α) (pass : Pass) : Except Error α × Pass := walk.run.run pass

/-- Begun with a pass, the walk gives an answer and leaves another pass. -/
def Gives (walk : Walk α) (pass : Pass) (a : α) (pass' : Pass) : Prop :=
  walk.outcome pass = (.ok a, pass')

/-- A walk goes on with what it has answered, unless it has failed. -/
theorem outcome_bind (walk : Walk α) (next : α → Walk β) (pass : Pass) :
    (walk >>= next).outcome pass =
      match walk.outcome pass with
      | (.ok a, middle) => (next a).outcome middle
      | (.error error, middle) => (.error error, middle) := by
  simp only [outcome, ExceptT.run_bind, StateT.run_bind]
  rcases walk.run.run pass with ⟨answer | answer, middle⟩ <;> rfl

/-- Two walks after one another answer if both do. -/
theorem gives_bind_iff {walk : Walk α} {next : α → Walk β} {b : β} :
    (walk >>= next).Gives pass b pass' ↔
      ∃ a middle, walk.Gives pass a middle ∧ (next a).Gives middle b pass' := by
  unfold Gives
  rw [outcome_bind]
  rcases walk.outcome pass with ⟨error | a, middle⟩
  · simp
  · simp [and_assoc]

/-- Without a step, the answer is as given and the pass stays. -/
@[simp] theorem gives_pure_iff {a b : α} :
    (pure a : Walk α).Gives pass b pass' ↔ b = a ∧ pass' = pass := by
  change ((.ok a, pass) : Except Error α × Pass) = (.ok b, pass') ↔ _
  simp [eq_comm]

@[simp] theorem not_gives_throw {error : Error} {b : α} :
    ¬ (throw error : Walk α).Gives pass b pass' := by
  change ¬ ((.error error, pass) : Except Error α × Pass) = (.ok b, pass')
  simp

@[simp] theorem gives_modify_iff {change : Pass → Pass} {u : Unit} :
    (modify change : Walk Unit).Gives pass u pass' ↔ pass' = change pass := by
  change ((.ok (), change pass) : Except Error Unit × Pass) = (.ok u, pass') ↔ _
  simp [eq_comm]

/-- What has been answered before leaves the pass as it is. -/
@[simp] theorem gives_ofExcept_iff {answer : Except Error α} {a : α} :
    Gives (ExceptT.mk (pure answer)) pass a pass' ↔ answer = .ok a ∧ pass' = pass := by
  change (answer, pass) = (.ok a, pass') ↔ _
  simp [eq_comm]

@[simp] theorem get_bind_gives_iff {next : Pass → Walk β} {b : β} :
    ((get : Walk Pass) >>= next).Gives pass b pass' ↔ (next pass).Gives pass b pass' := by
  rfl

@[simp] theorem modify_bind_gives_iff {change : Pass → Pass} {next : Unit → Walk β} {b : β} :
    ((modify change : Walk Unit) >>= next).Gives pass b pass' ↔
      (next ()).Gives (change pass) b pass' := by
  rfl

end Walk

/-- An access is noted and answers as the source does. -/
theorem access_gives_iff {read : Read} {answer : Except Error Markup} {markup : Markup} :
    (access read answer).Gives pass markup pass' ↔
      answer = .ok markup ∧ pass' = { pass with reads := pass.reads ++ [read] } := by
  simp [access]

private theorem access_bind_gives_iff {read : Read} {answer : Except Error Markup}
    {next : Markup → Walk β} {b : β} : (access read answer >>= next).Gives pass b pass' ↔
      ∃ markup, answer = .ok markup ∧
        (next markup).Gives { pass with reads := pass.reads ++ [read] } b pass' := by
  simp [Walk.gives_bind_iff, access_gives_iff, and_assoc]

/-- A playlist is entered if it is not one of the ancestors, and is then the innermost of them. -/
theorem enter_gives_iff {id : PlaylistId} {u : Unit} :
    (enter id).Gives pass u pass' ↔
      id ∉ pass.ancestors ∧ pass' = { pass with ancestors := id :: pass.ancestors } := by
  unfold enter
  rw [Walk.get_bind_gives_iff]
  split
  · next h => simp [h]
  · next h => simp [h]

/-- A playlist is taken off the ancestors after the walk, and the answer stays. -/
theorem outcome_leaving (id : PlaylistId) (walk : Walk Markup) (pass : Pass) :
    (leaving id walk).outcome pass = ((walk.outcome pass).1, { (walk.outcome pass).2 with
      ancestors := (walk.outcome pass).2.ancestors.erase id }) := rfl

/-- A playlist is left also when the walk has failed. -/
theorem outcome_leaving_of_error {id : PlaylistId} {walk : Walk Markup} {error : Error}
    (h : walk.outcome pass = (.error error, pass')) :
    (leaving id walk).outcome pass =
      (.error error, { pass' with ancestors := pass'.ancestors.erase id }) := by
  rw [outcome_leaving, h]

/-- What is left with an answer is the walk's, with the playlist taken off the ancestors. -/
theorem leaving_gives_iff {id : PlaylistId} {walk : Walk Markup} {markup : Markup} :
    (leaving id walk).Gives pass markup pass' ↔ ∃ middle, walk.Gives pass markup middle ∧
      pass' = { middle with ancestors := middle.ancestors.erase id } := by
  unfold Walk.Gives
  rw [outcome_leaving]
  rcases walk.outcome pass with ⟨answer, middle⟩
  simp [and_assoc, eq_comm]

/-- A reference is counted if there may be one more. -/
theorem countExpansion_gives_iff {limits : Limits} {u : Unit} :
    (countExpansion limits).Gives pass u pass' ↔ pass.expansions + 1 ≤ limits.maxExpansions ∧
      pass' = { pass with expansions := pass.expansions + 1 } := by
  unfold countExpansion
  rw [Walk.modify_bind_gives_iff, Walk.get_bind_gives_iff]
  split
  · next h => simp [Nat.not_le.mpr h]
  · next h => simp [Nat.not_lt.mp h]

/-- Below the root, exclusive markup of blanks alone counts as none. -/
theorem lacksExclusive_iff {nested : Bool} {fragment : Fragment} {markup : Markup} :
    (decide (fragment = .exclusive) && nested && Text.isBlankText markup) = true ↔
      fragment = .exclusive ∧ nested ∧ Text.trim markup = [] := by
  simp [Text.isBlankText_iff, and_assoc]

/-- A playlist is loaded if it is stored, with the accesses that this takes. -/
theorem load_gives_iff {sources : Sources} {nested : Bool} {fragment kind : Fragment}
    {id : PlaylistId} {markup : Markup} :
    (load sources nested fragment id).Gives pass (markup, kind) pass' ↔
      stored sources nested fragment id = .ok (markup, kind) ∧
        pass' = { pass with reads := pass.reads ++ storedReads fragment kind id } := by
  unfold load stored storedReads
  rw [access_bind_gives_iff]
  cases hcolumn : sources.column fragment id with
  | error error => simp
  | ok first =>
    simp only [Except.ok.injEq, exists_eq_left']
    by_cases hfall : fragment = .exclusive ∧ nested ∧ Text.trim first = []
    · rw [if_pos (lacksExclusive_iff.mpr hfall), if_pos hfall, access_bind_gives_iff]
      cases hitems : sources.column .items id with
      | error error => simp [Except.map]
      | ok items =>
        simp only [Except.ok.injEq, exists_eq_left', Except.map, Walk.gives_pure_iff, Prod.mk.injEq,
          List.append_assoc, List.singleton_append]
        constructor
        · rintro ⟨⟨rfl, rfl⟩, rfl⟩
          simp [hfall.1]
        · rintro ⟨⟨rfl, rfl⟩, rfl⟩
          simp [hfall.1]
    · rw [if_neg (mt lacksExclusive_iff.mp hfall), if_neg hfall]
      simp only [Walk.gives_pure_iff, Prod.mk.injEq, Except.ok.injEq]
      constructor
      · rintro ⟨⟨rfl, rfl⟩, rfl⟩
        simp
      · rintro ⟨⟨rfl, rfl⟩, rfl⟩
        simp

/-- The pass after a walk through trees that starts with a pass. -/
def Pass.after (pass : Pass) (count : Nat) (reads : List Read) : Pass :=
  ⟨pass.ancestors, pass.expansions + count, pass.reads ++ reads⟩

/-- The pass inside a playlist whose markup has been read. -/
def Pass.inside (pass : Pass) (id : PlaylistId) (reads : List Read) : Pass :=
  ⟨id :: pass.ancestors, pass.expansions, pass.reads ++ reads⟩

@[simp] theorem Pass.after_zero (pass : Pass) : pass.after 0 [] = pass := by
  simp [Pass.after]

@[simp] theorem Pass.after_after (pass : Pass) (count count' : Nat) (reads reads' : List Read) :
    (pass.after count reads).after count' reads' = pass.after (count + count') (reads ++ reads') := by
  simp [Pass.after, Nat.add_assoc]

/-- A walk through the trees breaks no rule, begun with a pass and with so many levels left. -/
structure Forest.Within (limits : Limits) (levels : Nat) (pass : Pass) (forest : Forest) : Prop where
  apart : forest.Apart pass.ancestors
  levels : forest.levels ≤ levels
  expansions : pass.expansions + forest.count ≤ limits.maxExpansions

/-- A walk through the tree breaks no rule, begun with a pass and with so many levels left. -/
structure Tree.Within (limits : Limits) (levels : Nat) (pass : Pass) (tree : Tree) : Prop where
  apart : tree.Apart pass.ancestors
  levels : tree.children.levels < levels
  expansions : pass.expansions + tree.children.count ≤ limits.maxExpansions

private theorem Forest.within_page_iff {limits : Limits} {levels : Nat} {url : List Char}
    {markup : Markup}
    {next : Forest} {reads : List Read} :
    (page url markup next).Within limits levels pass ↔
      next.Within limits levels (pass.after 1 reads) := by
  constructor
  · rintro ⟨hapart, hlevels, hexpansions⟩
    exact ⟨hapart, hlevels, (Nat.add_assoc _ _ _).trans_le hexpansions⟩
  · rintro ⟨hapart, hlevels, hexpansions⟩
    exact ⟨hapart, hlevels, (Nat.add_assoc _ _ _).symm.trans_le hexpansions⟩

private theorem Forest.within_playlist_iff (tree : Tree) {limits : Limits} {levels : Nat}
    {next : Forest}
    {reads : List Read} :
    (playlist tree.id tree.kind tree.markup tree.children next).Within limits levels pass ↔
      tree.Within limits levels (pass.after 1 []) ∧
        next.Within limits levels (pass.after (1 + tree.children.count) reads) := by
  constructor
  · rintro ⟨⟨hid, hchildren, hnext⟩, hlevels, hexpansions⟩
    simp only [Forest.levels, Forest.count] at hlevels hexpansions
    refine ⟨⟨⟨hid, hchildren⟩, by omega, ?_⟩, ⟨hnext, by omega, ?_⟩⟩
    · simp only [Pass.after]
      omega
    · simp only [Pass.after]
      omega
  · rintro ⟨⟨⟨hid, hchildren⟩, hlevels, -⟩, ⟨hnext, hlevels', hexpansions⟩⟩
    refine ⟨⟨hid, hchildren, hnext⟩, max_le hlevels hlevels', ?_⟩
    simp only [Pass.after, Forest.count] at hexpansions ⊢
    omega

private theorem Forest.Within.le {limits : Limits} {levels : Nat} {forest : Forest}
    (h : forest.Within limits levels pass) : pass.expansions ≤ limits.maxExpansions :=
  (Nat.le_add_right _ _).trans h.expansions

private theorem Tree.Within.le {limits : Limits} {levels : Nat} {tree : Tree}
    (h : tree.Within limits levels pass) : pass.expansions ≤ limits.maxExpansions :=
  (Nat.le_add_right _ _).trans h.expansions

/-- Resolving a playlist amounts to a walk through its expansion tree, with so many levels left. -/
def Follows (limits : Limits) (sources : Sources) (nested : Bool) (fragment : Fragment)
    (levels : Nat) (resolve : PlaylistId → Walk Markup) : Prop :=
  ∀ id pass markup pass', pass.expansions ≤ limits.maxExpansions →
    ((resolve id).Gives pass markup pass' ↔ ∃ tree : Tree, tree.id = id ∧
      tree.Expands sources nested fragment ∧ tree.Within limits levels pass ∧ markup = tree.text ∧
        pass' = pass.after tree.children.count (tree.reads fragment))

section
variable {limits : Limits} {sources : Sources} {fragment : Fragment} {levels : Nat}
  {descend : PlaylistId → Walk Markup} {parts : List Part} {markup : Markup}

private theorem expand_text_gives_iff {text : Markup} :
    (expand limits sources descend (.text text :: parts)).Gives pass markup pass' ↔
      ∃ rest, (expand limits sources descend parts).Gives pass rest pass' ∧
        markup = text ++ rest := by
  rw [expand, Walk.gives_bind_iff]
  simp only [Walk.gives_pure_iff]
  constructor
  · rintro ⟨rest, middle, h, rfl, rfl⟩
    exact ⟨rest, h, rfl⟩
  · rintro ⟨rest, h, rfl⟩
    exact ⟨rest, _, h, rfl, rfl⟩

private theorem expand_page_gives_iff {url : List Char} :
    (expand limits sources descend (.page url :: parts)).Gives pass markup pass' ↔
      pass.expansions + 1 ≤ limits.maxExpansions ∧ ∃ inner rest, sources.page url = .ok inner ∧
        (expand limits sources descend parts).Gives (pass.after 1 [.page url]) rest pass' ∧
          markup = inner ++ rest := by
  rw [expand, Walk.gives_bind_iff]
  simp only [countExpansion_gives_iff, access_gives_iff, Walk.gives_bind_iff, Walk.gives_pure_iff]
  constructor
  · rintro ⟨_, _, ⟨hcount, rfl⟩, inner, _, ⟨hinner, rfl⟩, rest, _, hrest, rfl, rfl⟩
    exact ⟨hcount, inner, rest, hinner, hrest, rfl⟩
  · rintro ⟨hcount, inner, rest, hinner, hrest, rfl⟩
    exact ⟨(), _, ⟨hcount, rfl⟩, inner, _, ⟨hinner, rfl⟩, rest, _, hrest, rfl, rfl⟩

private theorem expand_playlist_gives_iff {id : PlaylistId} :
    (expand limits sources descend (.playlist id :: parts)).Gives pass markup pass' ↔
      pass.expansions + 1 ≤ limits.maxExpansions ∧ ∃ inner middle rest,
        (descend id).Gives (pass.after 1 []) inner middle ∧
          (expand limits sources descend parts).Gives middle rest pass' ∧
            markup = inner ++ rest := by
  have hafter : pass.after 1 [] = { pass with expansions := pass.expansions + 1 } := by
    simp [Pass.after]
  rw [expand, Walk.gives_bind_iff]
  simp only [countExpansion_gives_iff, Walk.gives_bind_iff, Walk.gives_pure_iff, hafter]
  constructor
  · rintro ⟨_, _, ⟨hcount, rfl⟩, inner, middle, hinner, rest, _, hrest, rfl, rfl⟩
    exact ⟨hcount, inner, middle, rest, hinner, hrest, rfl⟩
  · rintro ⟨hcount, inner, middle, rest, hinner, hrest, rfl⟩
    exact ⟨(), _, ⟨hcount, rfl⟩, inner, middle, hinner, rest, _, hrest, rfl, rfl⟩

end

/-- The trees of the placeholders among pieces can be walked through, and filling their texts in
gives the markup. -/
def Splices (limits : Limits) (sources : Sources) (fragment : Fragment) (levels : Nat)
    (pieces : List (Text.Piece Placeholder)) (pass : Pass) (markup : Markup) (pass' : Pass) : Prop :=
  ∃ forest : Forest, forest.Expands sources fragment (fragment.followed pieces) ∧
    forest.Within limits levels pass ∧ markup = fragment.fill pieces forest.texts ∧
      pass' = pass.after forest.count (forest.reads fragment)

section
variable {limits : Limits} {sources : Sources} {fragment : Fragment} {levels : Nat}
  {pieces : List (Text.Piece Placeholder)} {markup : Markup} {p : Placeholder} {spelling : List Char}

private theorem splices_nil_iff (h : pass.expansions ≤ limits.maxExpansions) :
    Splices limits sources fragment levels [] pass markup pass' ↔ markup = [] ∧ pass' = pass := by
  constructor
  · rintro ⟨forest, hexpands, -, rfl, rfl⟩
    cases hexpands
    exact ⟨rfl, pass.after_zero⟩
  · rintro ⟨rfl, rfl⟩
    exact ⟨.nil, .nil, ⟨trivial, Nat.zero_le _, h⟩, rfl, pass'.after_zero.symm⟩

private theorem splices_character_iff {c : Char} :
    Splices limits sources fragment levels (.character c :: pieces) pass markup pass' ↔
      ∃ rest, Splices limits sources fragment levels pieces pass rest pass' ∧
        markup = [c] ++ rest := by
  constructor
  · rintro ⟨forest, hexpands, hwithin, rfl, hpass'⟩
    exact ⟨_, ⟨forest, hexpands, hwithin, rfl, hpass'⟩, rfl⟩
  · rintro ⟨_, ⟨forest, hexpands, hwithin, rfl, hpass'⟩, rfl⟩
    exact ⟨forest, hexpands, hwithin, rfl, hpass'⟩

private theorem splices_skipped_iff (h : ¬ fragment.follows p) :
    Splices limits sources fragment levels (.token p spelling :: pieces) pass markup pass' ↔
      ∃ rest, Splices limits sources fragment levels pieces pass rest pass' ∧
        markup = spelling ++ rest := by
  have hfill (texts : List Markup) : fragment.fill (.token p spelling :: pieces) texts =
      spelling ++ fragment.fill pieces texts := by
    simp [Fragment.fill, h]
  unfold Splices
  simp only [Fragment.followed_skipped h, hfill]
  constructor
  · rintro ⟨forest, hexpands, hwithin, rfl, hpass'⟩
    exact ⟨_, ⟨forest, hexpands, hwithin, rfl, hpass'⟩, rfl⟩
  · rintro ⟨_, ⟨forest, hexpands, hwithin, rfl, hpass'⟩, rfl⟩
    exact ⟨forest, hexpands, hwithin, rfl, hpass'⟩

private theorem fill_cons (h : fragment.follows p) (text : Markup) (texts : List Markup) :
    fragment.fill (.token p spelling :: pieces) (text :: texts) =
      text ++ fragment.fill pieces texts := by
  simp [Fragment.fill, h]

private theorem splices_page_iff {url : List Char} (h : fragment.follows p)
    (hurl : p.url = some url) :
    Splices limits sources fragment levels (.token p spelling :: pieces) pass markup pass' ↔
      p.id?.isSome ∧ pass.expansions + 1 ≤ limits.maxExpansions ∧ ∃ inner rest,
        sources.page url = .ok inner ∧
          Splices limits sources fragment levels pieces (pass.after 1 [.page url]) rest pass' ∧
            markup = inner ++ rest := by
  unfold Splices
  rw [Fragment.followed_token h]
  constructor
  · rintro ⟨forest, hexpands, hwithin, rfl, rfl⟩
    cases hexpands with
    | @page _ _ _ url' inner next hurl' hid hinner hnext =>
      cases hurl.symm.trans hurl'
      have hnextWithin : next.Within limits levels (pass.after 1 [.page url]) :=
        Forest.within_page_iff.mp hwithin
      refine ⟨hid, hnextWithin.le, inner, _, hinner, ⟨next, hnext, hnextWithin, rfl, ?_⟩, ?_⟩
      · rw [Pass.after_after]
        rfl
      · rw [Forest.texts, fill_cons h]
    | playlist hurl' => cases hurl.symm.trans hurl'
  · rintro ⟨hid, -, inner, _, hinner, ⟨next, hnext, hwithin, rfl, rfl⟩, rfl⟩
    refine ⟨.page url inner next, .page hurl hid hinner hnext, Forest.within_page_iff.mpr hwithin,
      ?_, ?_⟩
    · rw [Forest.texts, fill_cons h]
    · rw [Pass.after_after]
      rfl

private theorem splices_playlist_iff {resolve : PlaylistId → Walk Markup}
    (hresolve : Follows limits sources true fragment levels resolve) (h : fragment.follows p)
    (hurl : p.url = none) :
    Splices limits sources fragment levels (.token p spelling :: pieces) pass markup pass' ↔
      ∃ id, p.id? = some id ∧ pass.expansions + 1 ≤ limits.maxExpansions ∧
        ∃ inner middle rest, (resolve id).Gives (pass.after 1 []) inner middle ∧
          Splices limits sources fragment levels pieces middle rest pass' ∧
            markup = inner ++ rest := by
  unfold Splices
  rw [Fragment.followed_token h]
  constructor
  · rintro ⟨forest, hexpands, hwithin, rfl, rfl⟩
    cases hexpands with
    | page hurl' => cases hurl.symm.trans hurl'
    | @playlist _ kind _ _ id markup children next hurl' hid hstored hchildren hnext =>
      obtain ⟨htree, hnextWithin⟩ :=
        (Forest.within_playlist_iff ⟨id, kind, markup, children⟩).mp hwithin
      have hinner := (hresolve id (pass.after 1 []) _ _ htree.le).mpr
        ⟨⟨id, kind, markup, children⟩, rfl, ⟨hstored, hchildren⟩, htree, rfl, rfl⟩
      rw [Pass.after_after] at hinner
      refine ⟨id, hid, htree.le, _, _, _, hinner, ⟨next, hnext, hnextWithin, rfl, ?_⟩, ?_⟩
      · simp [Forest.count, Forest.reads, Tree.reads]
      · rw [Forest.texts, fill_cons h]
        rfl
  · rintro ⟨_, hid, hcount, inner, middle, _, hinner, ⟨next, hnext, hwithin, rfl, rfl⟩, rfl⟩
    obtain ⟨tree, rfl, hexpands, htree, rfl, rfl⟩ := (hresolve _ _ _ _ hcount).mp hinner
    refine ⟨.playlist tree.id tree.kind tree.markup tree.children next,
      .playlist hurl hid hexpands.stored hexpands.children hnext, ?_, ?_, ?_⟩
    · rw [Pass.after_after] at hwithin
      exact (Forest.within_playlist_iff tree).mpr ⟨htree, hwithin⟩
    · rw [Forest.texts, fill_cons h]
      rfl
    · simp [Forest.count, Forest.reads, Tree.reads]

end

section
variable {limits : Limits} {sources : Sources} {fragment : Fragment} {levels : Nat}
  {descend : PlaylistId → Walk Markup}

/-- What comes of reading pieces as parts and putting these together. -/
private def Expanded (limits : Limits) (sources : Sources) (fragment : Fragment)
    (descend : PlaylistId → Walk Markup) (pieces : List (Text.Piece Placeholder)) (pass : Pass)
    (markup : Markup) (pass' : Pass) : Prop :=
  ∃ parts, pieces.mapM fragment.part = .ok parts ∧
    (expand limits sources descend parts).Gives pass markup pass'

private theorem expanded_cons_iff {piece : Text.Piece Placeholder}
    {pieces : List (Text.Piece Placeholder)} {markup : Markup} :
    Expanded limits sources fragment descend (piece :: pieces) pass markup pass' ↔
      ∃ part parts, fragment.part piece = .ok part ∧ pieces.mapM fragment.part = .ok parts ∧
        (expand limits sources descend (part :: parts)).Gives pass markup pass' := by
  unfold Expanded
  constructor
  · rintro ⟨_, hparts, h⟩
    obtain ⟨part, parts, hpart, hrest, rfl⟩ := mapM_cons_eq_ok_iff.mp hparts
    exact ⟨part, parts, hpart, hrest, h⟩
  · rintro ⟨part, parts, hpart, hrest, h⟩
    exact ⟨part :: parts, mapM_cons_eq_ok_iff.mpr ⟨part, parts, hpart, hrest, rfl⟩, h⟩

private theorem expanded_text_iff {piece : Text.Piece Placeholder} {text : Markup}
    {pieces : List (Text.Piece Placeholder)} {markup : Markup}
    (h : fragment.part piece = .ok (.text text)) :
    Expanded limits sources fragment descend (piece :: pieces) pass markup pass' ↔
      ∃ rest, Expanded limits sources fragment descend pieces pass rest pass' ∧
        markup = text ++ rest := by
  rw [expanded_cons_iff, h]
  simp only [Except.ok.injEq, exists_and_left, exists_eq_left', expand_text_gives_iff]
  unfold Expanded
  constructor
  · rintro ⟨parts, hparts, rest, hrest, rfl⟩
    exact ⟨rest, ⟨parts, hparts, hrest⟩, rfl⟩
  · rintro ⟨rest, ⟨parts, hparts, hrest⟩, rfl⟩
    exact ⟨parts, hparts, rest, hrest, rfl⟩

/-- A placeholder with an identifier refers to its page if it has an address, else to the playlist.
-/
theorem reference_eq_ok_iff {p : Placeholder} {part : Part} :
    p.reference = .ok part ↔ ∃ id, p.id? = some id ∧
      part = p.url.elim (.playlist id) .page := by
  simp only [← Placeholder.number_eq_ok_iff, Placeholder.reference]
  cases p.number with
  | error error => simp [Except.map]
  | ok id => simp [Except.map, eq_comm]

private theorem expanded_page_iff {p : Placeholder} {spelling : List Char} {url : List Char}
    {pieces : List (Text.Piece Placeholder)} {markup : Markup} (h : fragment.follows p)
    (hurl : p.url = some url) :
    Expanded limits sources fragment descend (.token p spelling :: pieces) pass markup pass' ↔
      p.id?.isSome ∧ pass.expansions + 1 ≤ limits.maxExpansions ∧ ∃ inner rest,
        sources.page url = .ok inner ∧
          Expanded limits sources fragment descend pieces (pass.after 1 [.page url]) rest pass' ∧
            markup = inner ++ rest := by
  rw [expanded_cons_iff]
  simp only [Fragment.part, h, if_true, reference_eq_ok_iff, hurl, Option.elim_some]
  constructor
  · rintro ⟨_, parts, ⟨id, hid, rfl⟩, hparts, hgives⟩
    obtain ⟨hcount, inner, rest, hinner, hrest, rfl⟩ := expand_page_gives_iff.mp hgives
    exact ⟨by simp [hid], hcount, inner, rest, hinner, ⟨parts, hparts, hrest⟩, rfl⟩
  · rintro ⟨hid, hcount, inner, rest, hinner, ⟨parts, hparts, hrest⟩, rfl⟩
    obtain ⟨id, hid⟩ := Option.isSome_iff_exists.mp hid
    exact ⟨_, parts, ⟨id, hid, rfl⟩, hparts,
      expand_page_gives_iff.mpr ⟨hcount, inner, rest, hinner, hrest, rfl⟩⟩

private theorem expanded_playlist_iff {p : Placeholder} {spelling : List Char}
    {pieces : List (Text.Piece Placeholder)} {markup : Markup} (h : fragment.follows p)
    (hurl : p.url = none) :
    Expanded limits sources fragment descend (.token p spelling :: pieces) pass markup pass' ↔
      ∃ id, p.id? = some id ∧ pass.expansions + 1 ≤ limits.maxExpansions ∧
        ∃ inner middle rest, (descend id).Gives (pass.after 1 []) inner middle ∧
          Expanded limits sources fragment descend pieces middle rest pass' ∧
            markup = inner ++ rest := by
  rw [expanded_cons_iff]
  simp only [Fragment.part, h, if_true, reference_eq_ok_iff, hurl, Option.elim_none]
  constructor
  · rintro ⟨_, parts, ⟨id, hid, rfl⟩, hparts, hgives⟩
    obtain ⟨hcount, inner, middle, rest, hinner, hrest, rfl⟩ := expand_playlist_gives_iff.mp hgives
    exact ⟨id, hid, hcount, inner, middle, rest, hinner, ⟨parts, hparts, hrest⟩, rfl⟩
  · rintro ⟨id, hid, hcount, inner, middle, rest, hinner, ⟨parts, hparts, hrest⟩, rfl⟩
    exact ⟨_, parts, ⟨id, hid, rfl⟩, hparts,
      expand_playlist_gives_iff.mpr ⟨hcount, inner, middle, rest, hinner, hrest, rfl⟩⟩

/-- Putting parts together fills in the texts of the expansion trees. -/
private theorem expanded_iff_splices
    (hdescend : Follows limits sources true fragment levels descend)
    (pieces : List (Text.Piece Placeholder)) {markup : Markup}
    (hpass : pass.expansions ≤ limits.maxExpansions) :
    Expanded limits sources fragment descend pieces pass markup pass' ↔
      Splices limits sources fragment levels pieces pass markup pass' := by
  induction pieces generalizing pass markup with
  | nil =>
    rw [splices_nil_iff hpass]
    constructor
    · rintro ⟨parts, hparts, h⟩
      cases hparts
      exact Walk.gives_pure_iff.mp h
    · exact fun h => ⟨[], rfl, Walk.gives_pure_iff.mpr h⟩
  | cons piece pieces ih =>
    cases piece with
    | character c =>
      rw [expanded_text_iff rfl, splices_character_iff]
      simp only [ih hpass]
    | token p spelling =>
      by_cases h : fragment.follows p
      · cases hurl : p.url with
        | none =>
          rw [expanded_playlist_iff h hurl, splices_playlist_iff hdescend h hurl]
          refine exists_congr fun id => and_congr_right fun _ => and_congr_right fun hcount => ?_
          refine exists_congr fun inner => exists_congr fun middle => exists_congr fun rest => ?_
          refine and_congr_right fun hinner => ?_
          obtain ⟨tree, -, -, htree, -, rfl⟩ := (hdescend _ _ _ _ hcount).mp hinner
          rw [ih htree.expansions]
        | some url =>
          rw [expanded_page_iff h hurl, splices_page_iff h hurl]
          refine and_congr_right fun _ => and_congr_right fun hcount => ?_
          refine exists_congr fun inner => exists_congr fun rest => and_congr_right fun _ => ?_
          have hcount' : (pass.after 1 [.page url]).expansions ≤ limits.maxExpansions := hcount
          rw [ih hcount']
      · have hpart : fragment.part (.token p spelling) = .ok (.text spelling) := by
          simp [Fragment.part, h]
        rw [expanded_text_iff hpart, splices_skipped_iff h]
        simp only [ih hpass]

/-- Expanding markup fills in the texts of the expansion trees. -/
theorem expandMarkup_gives_iff {text : Markup}
    (hdescend : Follows limits sources true fragment levels descend) (markup : Markup)
    (hpass : pass.expansions ≤ limits.maxExpansions) :
    (expandMarkup limits sources descend fragment markup).Gives pass text pass' ↔
      Splices limits sources fragment levels (Text.pieces placeholderRule markup) pass text pass' := by
  rw [← expanded_iff_splices hdescend _ hpass, expandMarkup, Walk.gives_bind_iff]
  simp only [Walk.gives_ofExcept_iff]
  constructor
  · rintro ⟨parts, _, ⟨hparts, rfl⟩, htext⟩
    exact ⟨parts, hparts, htext⟩
  · rintro ⟨parts, hparts, htext⟩
    exact ⟨parts, _, ⟨hparts, rfl⟩, htext⟩

end

/-- With so many levels left, resolving a playlist gives a text exactly if a walk through its
expansion tree breaks no rule. -/
theorem resolveLocal_follows (limits : Limits) (sources : Sources) (levels : Nat) (nested : Bool)
    (fragment : Fragment) :
    Follows limits sources nested fragment levels
      (resolveLocal limits sources levels nested fragment) := by
  induction levels generalizing nested fragment with
  | zero =>
    intro id pass markup pass' _
    simp only [resolveLocal, Walk.not_gives_throw, false_iff]
    rintro ⟨tree, -, -, hwithin, -⟩
    exact Nat.not_lt_zero _ hwithin.levels
  | succ levels ih =>
    intro id pass markup pass' hpass
    have hexpand (kind : Fragment) (raw text : Markup) (middle : Pass) :
        (expandMarkup limits sources (resolveLocal limits sources levels true kind) kind raw).Gives
            (pass.inside id (storedReads fragment kind id)) text middle ↔
          Splices limits sources kind levels (Text.pieces placeholderRule raw)
            (pass.inside id (storedReads fragment kind id)) text middle :=
      expandMarkup_gives_iff (ih true kind) raw hpass
    rw [resolveLocal]
    simp only [Walk.gives_bind_iff, enter_gives_iff, leaving_gives_iff]
    constructor
    · rintro ⟨_, _, ⟨hid, rfl⟩, ⟨raw, kind⟩, _, hload, middle, htext, rfl⟩
      obtain ⟨hstored, rfl⟩ := load_gives_iff.mp hload
      obtain ⟨forest, hforest, hwithin, rfl, rfl⟩ := (hexpand kind raw _ _).mp htext
      refine ⟨⟨id, kind, raw, forest⟩, rfl, ⟨hstored, hforest⟩, ⟨⟨hid, hwithin.apart⟩, ?_, ?_⟩, rfl, ?_⟩
      · exact Nat.lt_succ_of_le hwithin.levels
      · exact hwithin.expansions
      · simp [Pass.after, Pass.inside, Tree.reads]
    · rintro ⟨tree, rfl, hexpands, hwithin, rfl, rfl⟩
      have hinside : tree.children.Within limits levels
          (pass.inside tree.id (storedReads fragment tree.kind tree.id)) :=
        ⟨hwithin.apart.2, Nat.le_of_lt_succ hwithin.levels, hwithin.expansions⟩
      have htext := (hexpand tree.kind tree.markup _ _).mpr
        ⟨tree.children, hexpands.children, hinside, rfl, rfl⟩
      refine ⟨(), _, ⟨hwithin.apart.1, rfl⟩, (tree.markup, tree.kind), _,
        load_gives_iff.mpr ⟨hexpands.stored, rfl⟩, _, htext, ?_⟩
      simp [Pass.after, Pass.inside, Tree.reads]

/-- A resolution that answers has the markup and the accesses of its walk. -/
theorem resolve_of_gives {limits : Limits} {sources : Sources} {fragment : Fragment}
    {id : PlaylistId} {markup : Markup}
    (h : (resolveLocal limits sources (limits.maxDepth + 1) false fragment id).Gives .start markup
      pass) : resolve limits sources fragment id = ⟨markup, pass.reads, none⟩ := by
  unfold resolve
  rw [show (resolveLocal limits sources (limits.maxDepth + 1) false fragment id).run.run .start =
    (.ok markup, pass) from h]

/-- A resolution that fails has no markup, the accesses up to the failure, and a report. -/
theorem resolve_of_error {limits : Limits} {sources : Sources} {fragment : Fragment}
    {id : PlaylistId} {error : Error}
    (h : (resolveLocal limits sources (limits.maxDepth + 1) false fragment id).outcome .start =
      (.error error, pass)) :
    resolve limits sources fragment id = ⟨[], pass.reads, some ⟨id, fragment, error⟩⟩ := by
  unfold resolve
  rw [show (resolveLocal limits sources (limits.maxDepth + 1) false fragment id).run.run .start =
    (.error error, pass) from h]

private theorem Tree.within_start_iff {limits : Limits} {tree : Tree} :
    tree.Within limits (limits.maxDepth + 1) .start ↔ tree.Fits limits := by
  constructor
  · rintro ⟨hapart, hlevels, hexpansions⟩
    exact ⟨hapart, Nat.le_of_lt_succ hlevels, by simpa [Pass.start] using hexpansions⟩
  · rintro ⟨hapart, hdepth, hexpansions⟩
    exact ⟨hapart, Nat.lt_succ_of_le hdepth, by simpa [Pass.start] using hexpansions⟩

/-- A tree that fits the limits is resolved to its text. -/
theorem resolve_of_fits {limits : Limits} {sources : Sources} {fragment : Fragment} {tree : Tree}
    (h : tree.Expands sources false fragment) (hfits : tree.Fits limits) :
    resolve limits sources fragment tree.id = ⟨tree.text, tree.reads fragment, none⟩ := by
  have hgives := (resolveLocal_follows limits sources (limits.maxDepth + 1) false fragment tree.id
    .start tree.text _ (Nat.zero_le _)).mpr
      ⟨tree, rfl, h, Tree.within_start_iff.mpr hfits, rfl, rfl⟩
  exact resolve_of_gives hgives

/-- What has been resolved without a failure has an expansion that fits the limits. -/
theorem exists_tree_of_resolve {limits : Limits} {sources : Sources} {fragment : Fragment}
    {id : PlaylistId} (h : (resolve limits sources fragment id).failure = none) :
    ∃ tree : Tree, tree.id = id ∧ tree.Expands sources false fragment ∧ tree.Fits limits := by
  rcases houtcome : (resolveLocal limits sources (limits.maxDepth + 1) false fragment id).outcome .start
    with ⟨error | markup, pass⟩
  · rw [resolve_of_error houtcome] at h
    cases h
  · obtain ⟨tree, hid, hexpands, hwithin, -⟩ :=
      (resolveLocal_follows limits sources (limits.maxDepth + 1) false fragment id .start markup pass
        (Nat.zero_le _)).mp houtcome
    exact ⟨tree, hid, hexpands, Tree.within_start_iff.mp hwithin⟩

/-- A fragment resolves to the text of its expansion tree if that stays within the limits, and to
nothing at all if it does not or if there is none. -/
theorem resolve_eq_expansion (limits : Limits) (sources : Sources) (fragment : Fragment)
    (id : PlaylistId) :
    let resolution := resolve limits sources fragment id
    (∃ tree : Tree, tree.id = id ∧ tree.Expands sources false fragment ∧ tree.Fits limits ∧
        resolution.markup = tree.text ∧ resolution.failure.isNone) ∨
      (¬ ∃ tree : Tree, tree.id = id ∧ tree.Expands sources false fragment ∧ tree.Fits limits) ∧
        resolution.markup = [] ∧ resolution.failure.isSome := by
  have hfollows := resolveLocal_follows limits sources (limits.maxDepth + 1) false fragment id .start
  simp only [Tree.within_start_iff] at hfollows
  unfold resolve
  dsimp only
  split
  · next markup pass h =>
    obtain ⟨tree, hid, hexpands, hfits, rfl, -⟩ := (hfollows markup pass (Nat.zero_le _)).mp h
    exact .inl ⟨tree, hid, hexpands, hfits, rfl, rfl⟩
  · next error pass h =>
    refine .inr ⟨?_, rfl, rfl⟩
    rintro ⟨tree, hid, hexpands, hfits⟩
    have hgives := (hfollows tree.text _ (Nat.zero_le _)).mpr ⟨tree, hid, hexpands, hfits, rfl, rfl⟩
    cases h.symm.trans hgives

end Signage.Content
