import Signage.Proofs.Content.Itinerary
import Signage.Proofs.Content.Resolution

/-!
A resolution goes by its itinerary up to the first step that fails, whatever the stored markup: the
accesses it makes are those of the steps made, and the failure it reports is that of the last.
-/
namespace Signage.Content
variable {α β : Type} {limits : Limits} {sources : Sources} {pass : Pass} {steps rest : List Step}
  {ancestors ancestors' : List PlaylistId}

/-- The pass after steps that leave a walk below these playlists. -/
def Pass.through (pass : Pass) (ancestors : List PlaylistId) (steps : List Step) : Pass :=
  ⟨ancestors, pass.expansions + countOf steps, pass.reads ++ readsOf steps⟩

/-- Steps made after one another lead as far as all of them at once. -/
theorem Pass.through_through :
    (pass.through ancestors steps).through ancestors' rest =
      pass.through ancestors' (steps ++ rest) := by
  simp [through, countOf_append, readsOf_append, Nat.add_assoc]

/-- Begun with a pass, the walk makes the steps up to the first one that fails, and fails for the
same reason; if there is none, it is left below the ancestors. -/
inductive Walk.Makes (limits : Limits) (walk : Walk α) (pass : Pass) (steps : List Step)
    (ancestors : List PlaylistId) : Prop
  | fails {error : Error} {pass' : Pass}
      (hfault : firstFault limits pass.expansions steps = some error)
      (houtcome : walk.outcome pass = (.error error, pass'))
      (hreads : pass'.reads = pass.reads ++ readsOf (made limits pass.expansions steps))
  | ends {a : α} (hfault : firstFault limits pass.expansions steps = none)
      (hgives : walk.Gives pass a (pass.through ancestors steps))

namespace Walk

private theorem Makes.bind {walk : Walk α} {next : α → Walk β}
    (h : walk.Makes limits pass steps ancestors)
    (hnext : ∀ a, walk.Gives pass a (pass.through ancestors steps) →
      (next a).Makes limits (pass.through ancestors steps) rest ancestors') :
    (walk >>= next).Makes limits pass (steps ++ rest) ancestors' := by
  cases h with
  | fails hfault houtcome hreads =>
    refine .fails ?_ (by rw [outcome_bind, houtcome]) ?_
    · rw [firstFault_append, hfault, Option.some_or]
    · rw [hreads, made_append_of_some hfault]
  | @ends a hfault hgives =>
    have houtcome : (walk >>= next).outcome pass =
        (next a).outcome (pass.through ancestors steps) := by
      rw [outcome_bind, hgives]
    have hsplit : firstFault limits pass.expansions (steps ++ rest) =
        firstFault limits (pass.through ancestors steps).expansions rest := by
      rw [firstFault_append, hfault, Option.none_or]
      rfl
    cases hnext a hgives with
    | fails hfault' houtcome' hreads =>
      refine .fails (hsplit.trans hfault') (houtcome.trans houtcome') ?_
      rw [hreads, made_append_of_none hfault, readsOf_append, ← List.append_assoc]
      rfl
    | @ends b hfault' hgives' =>
      rw [Pass.through_through] at hgives'
      exact .ends (hsplit.trans hfault') (houtcome.trans hgives')

private theorem pure_makes {a : α} : (pure a : Walk α).Makes limits pass [] pass.ancestors :=
  .ends rfl (gives_pure_iff.mpr ⟨rfl, by simp [Pass.through]⟩)

private theorem Makes.map {walk : Walk α} (h : walk.Makes limits pass steps ancestors) (f : α → β) :
    (walk >>= fun a => pure (f a)).Makes limits pass steps ancestors := by
  rw [← List.append_nil steps]
  exact h.bind fun _ _ => pure_makes

/-- A walk answers if none of its steps fails. -/
theorem Makes.gives {walk : Walk α} (h : walk.Makes limits pass steps ancestors)
    (hclear : firstFault limits pass.expansions steps = none) :
    ∃ a, walk.Gives pass a (pass.through ancestors steps) := by
  cases h with
  | fails hfault _ _ => cases hclear.symm.trans hfault
  | ends _ hgives => exact ⟨_, hgives⟩

/-- A single step that may fail. -/
theorem makes_singleton {walk : Walk α} {step : Step}
    (h : match step.fault? limits pass.expansions with
      | some error => ∃ pass', walk.outcome pass = (.error error, pass') ∧
        pass'.reads = pass.reads ++ readsOf [step]
      | none => ∃ a, walk.Gives pass a (pass.through ancestors [step])) :
    walk.Makes limits pass [step] ancestors := by
  have hfirst : firstFault limits pass.expansions [step] = step.fault? limits pass.expansions := by
    simp [firstFault]
  have hmade : made limits pass.expansions [step] = [step] := by simp [made]
  cases hfault : step.fault? limits pass.expansions with
  | some error =>
    rw [hfault] at h
    obtain ⟨pass', houtcome, hreads⟩ := h
    exact .fails (hfirst.trans hfault) houtcome (by rw [hmade, hreads])
  | none =>
    rw [hfault] at h
    obtain ⟨a, hgives⟩ := h
    exact .ends (hfirst.trans hfault) hgives

end Walk

private theorem access_makes (read : Read) (answer : Except Error Markup) :
    (access read answer).Makes limits pass [.access read answer] pass.ancestors := by
  apply Walk.makes_singleton
  cases answer with
  | error error => exact ⟨_, rfl, rfl⟩
  | ok markup => exact ⟨markup, access_gives_iff.mpr ⟨rfl, rfl⟩⟩

/-- Coming to a playlist that is not too deep. -/
theorem enter_makes {id : PlaylistId} (h : pass.ancestors.length ≤ limits.maxDepth) :
    (enter id).Makes limits pass [.visit pass.ancestors id] (id :: pass.ancestors) := by
  apply Walk.makes_singleton
  rw [Step.fault?, if_neg (Nat.not_lt.mpr h)]
  by_cases hid : id ∈ pass.ancestors
  · have hthrow : (enter id).outcome pass = (.error (.cycle id), pass) := by
      change (if id ∈ pass.ancestors then _ else _ : Walk Unit).outcome pass = _
      rw [if_pos hid]
      rfl
    rw [if_pos hid]
    exact ⟨pass, hthrow, (List.append_nil _).symm⟩
  · rw [if_neg hid]
    exact ⟨(), enter_gives_iff.mpr ⟨hid, by simp [Pass.through]⟩⟩

private theorem leaving_makes {id : PlaylistId} {walk : Walk Markup}
    (h : walk.Makes limits pass steps (id :: ancestors)) :
    (leaving id walk).Makes limits pass steps ancestors := by
  cases h with
  | fails hfault houtcome hreads =>
    exact .fails hfault (outcome_leaving_of_error houtcome) hreads
  | ends hfault hgives =>
    refine .ends hfault (leaving_gives_iff.mpr ⟨_, hgives, ?_⟩)
    simp [Pass.through]

/-- To count a reference is one step. -/
theorem countExpansion_makes :
    (countExpansion limits).Makes limits pass [.follow] pass.ancestors := by
  apply Walk.makes_singleton
  have houtcome : (countExpansion limits).outcome pass =
      if limits.maxExpansions < pass.expansions + 1 then
        (.error (tooManyExpansions limits), { pass with expansions := pass.expansions + 1 })
      else (.ok (), { pass with expansions := pass.expansions + 1 }) := by
    change (if limits.maxExpansions < pass.expansions + 1 then _ else _ : Walk Unit).outcome _ = _
    split <;> rfl
  rw [Step.fault?]
  by_cases h : limits.maxExpansions ≤ pass.expansions
  · rw [if_pos (Nat.lt_succ_of_le h)] at houtcome
    rw [if_pos h]
    exact ⟨_, houtcome, (List.append_nil _).symm⟩
  · rw [if_neg (by omega)] at houtcome
    rw [if_neg h]
    exact ⟨(), houtcome.trans (by simp [Pass.through])⟩

/-- To load a playlist takes the steps that give its markup. -/
theorem load_makes {nested : Bool} {fragment : Fragment} {id : PlaylistId} :
    (load sources nested fragment id).Makes limits pass (storedSteps sources nested fragment id)
      pass.ancestors := by
  unfold load storedSteps
  refine Walk.Makes.bind (access_makes _ _) fun markup hgives => ?_
  rw [(access_gives_iff.mp hgives).1]
  dsimp only
  by_cases h : fragment = .exclusive ∧ nested ∧ Text.trim markup = []
  · rw [if_pos (lacksExclusive_iff.mpr h), if_pos h]
    exact (access_makes _ _).map _
  · rw [if_neg (mt lacksExclusive_iff.mp h), if_neg h]
    exact Walk.pure_makes

private theorem part_cases (fragment : Fragment) (piece : Text.Piece Placeholder) :
    match (fragment.followed [piece]).findSome? Placeholder.fault? with
    | some error => fragment.part piece = .error error
    | none => ∃ part, fragment.part piece = .ok part := by
  cases piece with
  | character c => exact ⟨_, rfl⟩
  | token p spelling =>
    by_cases h : fragment.follows p
    · rw [Fragment.followed_token h, Fragment.followed_nil, List.findSome?_singleton, Fragment.part,
        if_pos h, Placeholder.fault?, Placeholder.reference]
      cases p.number with
      | error error => rfl
      | ok id => exact ⟨_, rfl⟩
    · rw [Fragment.followed_skipped h, Fragment.followed_nil, List.findSome?_nil, Fragment.part,
        if_neg h]
      exact ⟨_, rfl⟩

/-- The first identifier that is at fault makes the scan fail, whatever stands before it. -/
private theorem mapM_part (fragment : Fragment) (pieces : List (Text.Piece Placeholder)) :
    match (fragment.followed pieces).findSome? Placeholder.fault? with
    | some error => pieces.mapM fragment.part = .error error
    | none => ∃ parts, pieces.mapM fragment.part = .ok parts := by
  induction pieces with
  | nil => exact ⟨[], rfl⟩
  | cons piece pieces ih =>
    have hsplit : fragment.followed (piece :: pieces) =
        fragment.followed [piece] ++ fragment.followed pieces :=
      fragment.followed_append [piece] pieces
    have hpiece := part_cases fragment piece
    rw [hsplit, List.findSome?_append, List.mapM_cons]
    cases hfault : (fragment.followed [piece]).findSome? Placeholder.fault? with
    | some error =>
      rw [hfault] at hpiece
      rw [Option.some_or, hpiece]
      rfl
    | none =>
      rw [hfault] at hpiece
      obtain ⟨part, hpart⟩ := hpiece
      rw [Option.none_or, hpart]
      split at ih
      · rw [ih]
        rfl
      · obtain ⟨parts, hparts⟩ := ih
        rw [hparts]
        exact ⟨part :: parts, rfl⟩

/-- To scan markup is one step, which fails at the first identifier at fault. -/
theorem scan_makes (fragment : Fragment) (markup : Markup) :
    Walk.Makes limits (ExceptT.mk (pure (fragment.parts markup)) : Walk (List Part)) pass
      [.scan fragment markup] pass.ancestors := by
  apply Walk.makes_singleton
  have h := mapM_part fragment (Text.pieces placeholderRule markup)
  rw [Step.fault?]
  split at h
  · exact ⟨pass, congrArg (·, pass) h, (List.append_nil _).symm⟩
  · obtain ⟨parts, hparts⟩ := h
    exact ⟨parts, Walk.gives_ofExcept_iff.mpr ⟨hparts, by simp [Pass.through]⟩⟩

/-- Putting parts together makes the steps of each placeholder in turn, if descending does. -/
theorem expand_makes {fragment : Fragment} {above : List PlaylistId}
    {descend : PlaylistId → Walk Markup} {inside : PlaylistId → List Step}
    (hdescend : ∀ id pass, pass.ancestors = above →
      (descend id).Makes limits pass (inside id) above)
    (pieces : List (Text.Piece Placeholder)) {parts : List Part}
    (hparts : pieces.mapM fragment.part = .ok parts) (hpass : pass.ancestors = above) :
    (expand limits sources descend parts).Makes limits pass
      ((fragment.followed pieces).flatMap (·.steps sources inside)) above := by
  induction pieces generalizing pass parts with
  | nil =>
    cases hparts
    rw [← hpass]
    exact Walk.pure_makes
  | cons piece pieces ih =>
    obtain ⟨part, rest, hpart, hrest, rfl⟩ := mapM_cons_eq_ok_iff.mp hparts
    cases piece with
    | character c =>
      cases hpart
      exact (ih hrest hpass).map _
    | token p spelling =>
      by_cases h : fragment.follows p
      · rw [Fragment.part, if_pos h] at hpart
        obtain ⟨id, hid, rfl⟩ := reference_eq_ok_iff.mp hpart
        have hcount : (countExpansion limits).Makes limits pass [.follow] above :=
          hpass ▸ countExpansion_makes
        rw [Fragment.followed_token h, List.flatMap_cons, Placeholder.steps, List.cons_append]
        cases hurl : p.url with
        | some url =>
          refine hcount.bind fun _ _ => ?_
          refine (access_makes _ _).bind fun inner _ => ?_
          exact (ih hrest rfl).map _
        | none =>
          rw [hid]
          refine hcount.bind fun _ _ => ?_
          refine (hdescend id _ rfl).bind fun inner _ => ?_
          exact (ih hrest rfl).map _
      · rw [Fragment.part, if_neg h] at hpart
        cases hpart
        rw [Fragment.followed_skipped h]
        exact (ih hrest hpass).map _

/-- Resolving a playlist makes the steps of its itinerary. -/
theorem resolveLocal_makes {levels : Nat} {nested : Bool} (fragment : Fragment) (id : PlaylistId)
    (hlevels : levels + pass.ancestors.length = limits.maxDepth + 1)
    (hnested : nested = !pass.ancestors.isEmpty) :
    (resolveLocal limits sources levels nested fragment id).Makes limits pass
      (itinerary limits sources pass.ancestors fragment id) pass.ancestors := by
  induction levels generalizing nested fragment id pass with
  | zero =>
    have hdeep : limits.maxDepth < pass.ancestors.length := by omega
    rw [itinerary_of_refused (.inl hdeep)]
    apply Walk.makes_singleton
    rw [Step.fault?, if_pos hdeep]
    exact ⟨pass, rfl, (List.append_nil _).symm⟩
  | succ levels ih =>
    have hdepth : pass.ancestors.length ≤ limits.maxDepth := by omega
    have henter : (enter id).Makes limits pass [.visit pass.ancestors id] (id :: pass.ancestors) :=
      enter_makes hdepth
    rw [resolveLocal]
    by_cases hid : id ∈ pass.ancestors
    · rw [itinerary_of_refused (.inr hid)]
      exact henter.bind fun _ hgives => absurd hid (enter_gives_iff.mp hgives).1
    · have hinner (kind : Fragment) (inner : PlaylistId) (middle : Pass)
          (hmiddle : middle.ancestors = id :: pass.ancestors) :
          (resolveLocal limits sources levels true kind inner).Makes limits middle
            (itinerary limits sources (id :: pass.ancestors) kind inner)
            (id :: pass.ancestors) := by
        rw [← hmiddle]
        apply ih
        · rw [hmiddle, List.length_cons]
          omega
        · rw [hmiddle]
          rfl
      rw [itinerary_of_admitted hdepth hid, ← hnested]
      refine henter.bind fun _ _ => ?_
      refine load_makes.bind fun found hload => ?_
      obtain ⟨markup, kind⟩ := found
      rw [(load_gives_iff.mp hload).1]
      apply leaving_makes
      refine (scan_makes kind markup).bind fun parts hparts => ?_
      exact expand_makes (hinner kind) _ (Walk.gives_ofExcept_iff.mp hparts).1 rfl

/-- Putting together what lies below some playlists. -/
theorem expand_local_makes {levels : Nat} {fragment : Fragment} (hne : pass.ancestors ≠ [])
    (hlevels : levels + pass.ancestors.length = limits.maxDepth + 1)
    (pieces : List (Text.Piece Placeholder)) {parts : List Part}
    (hparts : pieces.mapM fragment.part = .ok parts) :
    (expand limits sources (resolveLocal limits sources levels true fragment) parts).Makes limits
      pass ((fragment.followed pieces).flatMap
        (·.steps sources (itinerary limits sources pass.ancestors fragment))) pass.ancestors := by
  refine expand_makes (fun inner middle hmiddle => ?_) pieces hparts rfl
  rw [← hmiddle] at hlevels hne ⊢
  exact resolveLocal_makes fragment inner hlevels (by simpa using hne)

section
variable (limits : Limits) (sources : Sources) (fragment : Fragment) (id : PlaylistId)

private theorem start_makes :
    (resolveLocal limits sources (limits.maxDepth + 1) false fragment id).Makes limits .start
      (itinerary limits sources [] fragment id) [] :=
  resolveLocal_makes fragment id rfl rfl

/-- The accesses of a resolution are those of the steps that are made. -/
theorem reads_resolve :
    (resolve limits sources fragment id).reads =
      readsOf (made limits 0 (itinerary limits sources [] fragment id)) := by
  cases start_makes limits sources fragment id with
  | fails _ houtcome hreads =>
    rw [resolve_of_error houtcome, hreads]
    rfl
  | ends hfault hgives =>
    have hmade : made limits 0 (itinerary limits sources [] fragment id) =
        itinerary limits sources [] fragment id := made_of_none hfault
    rw [resolve_of_gives hgives, hmade]
    rfl

end

/-- A failed resolution reports the first fault on its itinerary, once and under the playlist that
was asked for, and comes back empty. One that does not fail reports nothing, even if the text is
empty. -/
theorem first_fault_reported (limits : Limits) (sources : Sources) (fragment : Fragment)
    (id : PlaylistId) :
    let resolution := resolve limits sources fragment id
    match firstFault limits 0 (itinerary limits sources [] fragment id) with
    | some error => resolution.markup = [] ∧ resolution.failure = some ⟨id, fragment, error⟩
    | none => resolution.failure = none ∧ ∃ tree : Tree, tree.id = id ∧
        tree.Expands sources false fragment ∧ resolution.markup = tree.text := by
  cases start_makes limits sources fragment id with
  | @fails error _ hfault houtcome _ =>
    have hfirst : firstFault limits 0 (itinerary limits sources [] fragment id) = some error :=
      hfault
    rw [hfirst, resolve_of_error houtcome]
    exact ⟨rfl, rfl⟩
  | ends hfault hgives =>
    have hfirst : firstFault limits 0 (itinerary limits sources [] fragment id) = none := hfault
    obtain ⟨tree, hid, hexpands, -, hmarkup, -⟩ :=
      (resolveLocal_follows limits sources _ false fragment id .start _ _ (Nat.zero_le _)).mp hgives
    rw [hfirst, resolve_of_gives hgives]
    exact ⟨rfl, tree, hid, hexpands, hmarkup⟩

end Signage.Content
