import Mathlib.Data.List.Chain
import Signage.Proofs.Content.Faults

/-!
The calls made while a playlist is resolved, each with the pass at its beginning. A call is made
where the itinerary has its visit, and a chain of calls, each made by the one before, ends with the
levels.
-/
namespace Signage.Content
variable {limits : Limits} {sources : Sources}

/-- A call that resolves a playlist, and the pass it begins with. -/
structure Call where
  levels : Nat
  nested : Bool
  fragment : Fragment
  id : PlaylistId
  pass : Pass

/-- None of the steps fails, and they lead from the one pass to the other. -/
structure Pass.Reaches (limits : Limits) (pass : Pass) (steps : List Step) (pass' : Pass) :
    Prop where
  clear : firstFault limits pass.expansions steps = none
  through : pass' = pass.through pass'.ancestors steps

private theorem Pass.Reaches.append {pass middle pass' : Pass} {steps rest : List Step}
    (h : pass.Reaches limits steps middle) (h' : middle.Reaches limits rest pass') :
    pass.Reaches limits (steps ++ rest) pass' where
  clear := by
    have hclear := h'.clear
    rw [h.through] at hclear
    rw [firstFault_append, h.clear, Option.none_or]
    exact hclear
  through := by rw [← Pass.through_through, ← h.through, ← h'.through]

/-- A walk that answers has made all its steps. -/
theorem Walk.Makes.reaches {α : Type} {walk : Walk α} {pass pass' : Pass} {a : α}
    {steps : List Step} {ancestors : List PlaylistId}
    (h : walk.Makes limits pass steps ancestors) (hgives : walk.Gives pass a pass') :
    pass.Reaches limits steps pass' ∧ pass'.ancestors = ancestors := by
  cases h with
  | fails _ houtcome _ => cases houtcome.symm.trans hgives
  | ends hfault hgives' =>
    cases hgives'.symm.trans hgives
    exact ⟨⟨hfault, rfl⟩, rfl⟩

namespace Call

/-- The call that resolves a fragment. -/
def root (limits : Limits) (fragment : Fragment) (id : PlaylistId) : Call :=
  ⟨limits.maxDepth + 1, false, fragment, id, .start⟩

def steps (limits : Limits) (sources : Sources) (call : Call) : List Step :=
  itinerary limits sources call.pass.ancestors call.fragment call.id

/-- The call makes another one: everything before the reference succeeds. -/
inductive Invokes (limits : Limits) (sources : Sources) (call : Call) : Call → Prop
  | reference {levels : Nat} {markup text : Markup} {kind : Fragment}
      {entered loaded reached pass : Pass} {front back : List Part} {inner : PlaylistId}
      (hlevels : call.levels = levels + 1)
      (henter : (enter call.id).Gives call.pass () entered)
      (hload : (load sources call.nested call.fragment call.id).Gives entered (markup, kind) loaded)
      (hparts : kind.parts markup = .ok (front ++ .playlist inner :: back))
      (hfront : (expand limits sources (resolveLocal limits sources levels true kind) front).Gives
        loaded text reached)
      (hcount : (countExpansion limits).Gives reached () pass) :
      Invokes limits sources call ⟨levels, true, kind, inner, pass⟩

/-- The levels that are left and what the call is told about its place match its pass. -/
structure Placed (limits : Limits) (call : Call) : Prop where
  depth : call.levels + call.pass.ancestors.length = limits.maxDepth + 1
  nested : call.nested = !call.pass.ancestors.isEmpty

/-- On the way along the steps, nothing fails before the call. -/
structure Reached (limits : Limits) (sources : Sources) (steps : List Step) (call : Call) : Prop
    extends Placed limits call where
  split : ∃ front back, steps = front ++ (call.steps limits sources ++ back) ∧
    Pass.start.Reaches limits front call.pass

private theorem placed_root (limits : Limits) (fragment : Fragment) (id : PlaylistId) :
    (root limits fragment id).Placed limits :=
  ⟨rfl, rfl⟩

/-- A call that is invoked has a level less. -/
theorem Invokes.levels_eq {caller callee : Call} (h : caller.Invokes limits sources callee) :
    caller.levels = callee.levels + 1 := by
  cases h with
  | reference hlevels => exact hlevels

/-- A chain of calls is no longer than the levels of the first one allow. -/
theorem length_le_of_isChain {call : Call} {calls : List Call}
    (h : (call :: calls).IsChain (Invokes limits sources)) : calls.length ≤ call.levels := by
  induction calls generalizing call with
  | nil => exact Nat.zero_le _
  | cons callee calls ih =>
    obtain ⟨hcall, hrest⟩ := List.isChain_cons_cons.mp h
    have hle := ih hrest
    rw [hcall.levels_eq]
    exact Nat.succ_le_succ hle

end Call

private theorem mapM_append_cons_eq_ok {fragment : Fragment}
    {pieces : List (Text.Piece Placeholder)} {front back : List Part} {part : Part}
    (h : pieces.mapM fragment.part = .ok (front ++ part :: back)) :
    ∃ before piece after, pieces = before ++ piece :: after ∧
      before.mapM fragment.part = .ok front ∧ fragment.part piece = .ok part := by
  induction front generalizing pieces with
  | nil =>
    cases pieces with
    | nil => cases h
    | cons piece pieces =>
      obtain ⟨_, _, hpiece, -, he⟩ := mapM_cons_eq_ok_iff.mp h
      cases he
      exact ⟨[], piece, pieces, rfl, rfl, hpiece⟩
  | cons first front ih =>
    cases pieces with
    | nil => cases h
    | cons piece pieces =>
      obtain ⟨_, _, hpiece, hrest, he⟩ := mapM_cons_eq_ok_iff.mp h
      cases he
      obtain ⟨before, middle, after, rfl, hbefore, hmiddle⟩ := ih hrest
      exact ⟨piece :: before, middle, after, rfl,
        mapM_cons_eq_ok_iff.mpr ⟨first, front, hpiece, hbefore, rfl⟩, hmiddle⟩

private theorem part_eq_playlist {fragment : Fragment} {piece : Text.Piece Placeholder}
    {inner : PlaylistId} (h : fragment.part piece = .ok (.playlist inner)) :
    ∃ p, fragment.followed [piece] = [p] ∧ p.url = none ∧ p.id? = some inner := by
  cases piece with
  | character c => cases h
  | token p spelling =>
    by_cases hfollows : fragment.follows p
    · rw [Fragment.part, if_pos hfollows] at h
      obtain ⟨id, hid, he⟩ := reference_eq_ok_iff.mp h
      refine ⟨p, Fragment.followed_token hfollows, ?_⟩
      cases hurl : p.url with
      | some url =>
        rw [hurl] at he
        cases he
      | none =>
        rw [hurl] at he
        cases he
        exact ⟨rfl, hid⟩
    · rw [Fragment.part, if_neg hfollows] at h
      cases h

namespace Call

/-- What comes before a call is made without a fault. -/
theorem Invokes.exists_split {caller callee : Call} (h : caller.Invokes limits sources callee)
    (hplaced : caller.Placed limits) :
    ∃ front back, caller.steps limits sources = front ++ (callee.steps limits sources ++ back) ∧
      caller.pass.Reaches limits front callee.pass ∧
        callee.pass.ancestors = caller.id :: caller.pass.ancestors := by
  obtain ⟨hdepth, hnested⟩ := hplaced
  cases h with
  | @reference levels markup text kind entered loaded reached pass front back inner hlevels henter
      hload hparts hfront hcount =>
    have hroom : caller.pass.ancestors.length ≤ limits.maxDepth := by omega
    have hid := (enter_gives_iff.mp henter).1
    obtain ⟨henter, hentered⟩ := (enter_makes hroom).reaches henter
    have hstored := (load_gives_iff.mp hload).1
    obtain ⟨hload, hloaded⟩ := load_makes.reaches hload
    obtain ⟨hscan, -⟩ :=
      (scan_makes kind markup).reaches (Walk.gives_ofExcept_iff.mpr ⟨hparts, rfl⟩)
    obtain ⟨before, piece, after, hpieces, hbefore, hpiece⟩ := mapM_append_cons_eq_ok hparts
    obtain ⟨p, hp, hurl, hinner⟩ := part_eq_playlist hpiece
    rw [hentered] at hloaded
    obtain ⟨hfront, hreached⟩ := (expand_local_makes (by rw [hloaded]; exact List.cons_ne_nil _ _)
      (by rw [hloaded, List.length_cons]; omega) before hbefore).reaches hfront
    obtain ⟨hcount, hpass⟩ := countExpansion_makes.reaches hcount
    rw [hreached, hloaded] at hpass
    have hfollowed : kind.followed (Text.pieces placeholderRule markup) =
        kind.followed before ++ p :: kind.followed after := by
      rw [hpieces, List.append_cons, kind.followed_append, kind.followed_append, hp,
        List.append_assoc, List.singleton_append]
    have hsteps (inside : PlaylistId → List Step) :
        p.steps sources inside = .follow :: inside inner := by
      rw [Placeholder.steps, hurl, hinner]
      rfl
    let inside := itinerary limits sources (caller.id :: caller.pass.ancestors) kind
    refine ⟨_, (kind.followed after).flatMap (·.steps sources inside), ?_,
      henter.append (hload.append (hscan.append (hfront.append hcount))), hpass⟩
    rw [steps, itinerary_of_admitted hroom hid, ← hnested, hstored, scanSteps, hfollowed,
      List.flatMap_append, List.flatMap_cons, hsteps, steps, hpass, hloaded]
    simp [inside]

private theorem Invokes.placed {caller callee : Call} (h : caller.Invokes limits sources callee)
    (hplaced : caller.Placed limits) : callee.Placed limits := by
  obtain ⟨_, _, -, -, hancestors⟩ := h.exists_split hplaced
  have hdepth := hplaced.depth
  constructor
  · rw [hancestors, List.length_cons]
    rw [h.levels_eq] at hdepth
    omega
  · cases h with
    | reference => rw [hancestors]; rfl

private theorem Reached.invoke {steps : List Step} {caller callee : Call}
    (h : caller.Reached limits sources steps) (hcall : caller.Invokes limits sources callee) :
    callee.Reached limits sources steps := by
  obtain ⟨before, after, hsteps, hreaches⟩ := h.split
  obtain ⟨front, back, hcaller, hfront, -⟩ := hcall.exists_split h.toPlaced
  refine ⟨hcall.placed h.toPlaced, before ++ front, back ++ after, ?_, hreaches.append hfront⟩
  rw [hsteps, hcaller]
  simp

/-- The visit to the playlist of the call is among the steps made. -/
theorem Reached.visit_mem {steps : List Step} {call : Call}
    (h : call.Reached limits sources steps) :
    .visit call.pass.ancestors call.id ∈ made limits 0 steps := by
  obtain ⟨front, back, rfl, hreaches⟩ := h.split
  have hclear : firstFault limits 0 front = none := hreaches.clear
  rw [made_append_of_none hclear, Call.steps, itinerary, List.cons_append, made]
  exact List.mem_append_right _ List.mem_cons_self

private theorem Reached.invokes {steps : List Step} {caller callee : Call}
    (h : caller.Reached limits sources steps)
    (hcalls : Relation.ReflTransGen (Invokes limits sources) caller callee) :
    callee.Reached limits sources steps := by
  induction hcalls with
  | refl => exact h
  | tail _ hcall ih => exact ih.invoke hcall

end Call

private theorem followed_eq_append_cons {fragment : Fragment}
    {pieces : List (Text.Piece Placeholder)} {front back : List Placeholder} {p : Placeholder}
    (h : fragment.followed pieces = front ++ p :: back) :
    ∃ before spelling after, pieces = before ++ .token p spelling :: after ∧
      fragment.followed before = front ∧ fragment.follows p := by
  induction pieces generalizing front with
  | nil => cases front <;> cases h
  | cons piece pieces ih =>
    cases piece with
    | character c =>
      obtain ⟨before, spelling, after, rfl, hbefore, hp⟩ := ih h
      exact ⟨.character c :: before, spelling, after, rfl, hbefore, hp⟩
    | token q spelling =>
      by_cases hq : fragment.follows q
      · rw [Fragment.followed_token hq] at h
        cases front with
        | nil =>
          cases h
          exact ⟨[], spelling, pieces, rfl, rfl, hq⟩
        | cons first front =>
          obtain ⟨rfl, hrest⟩ := List.cons.inj h
          obtain ⟨before, spelling', after, rfl, rfl, hp⟩ := ih hrest
          exact ⟨.token q spelling :: before, spelling', after, rfl, Fragment.followed_token hq, hp⟩
      · rw [Fragment.followed_skipped hq] at h
        obtain ⟨before, spelling', after, rfl, rfl, hp⟩ := ih h
        exact ⟨.token q spelling :: before, spelling', after, rfl, Fragment.followed_skipped hq, hp⟩

private theorem mapM_eq_ok_split {fragment : Fragment}
    {before after : List (Text.Piece Placeholder)} {piece : Text.Piece Placeholder}
    {parts : List Part}
    (h : (before ++ piece :: after).mapM fragment.part = .ok parts) :
    ∃ front part back, parts = front ++ part :: back ∧ before.mapM fragment.part = .ok front ∧
      fragment.part piece = .ok part := by
  induction before generalizing parts with
  | nil =>
    obtain ⟨part, back, hpart, -, rfl⟩ := mapM_cons_eq_ok_iff.mp h
    exact ⟨[], part, back, rfl, rfl, hpart⟩
  | cons first before ih =>
    obtain ⟨start, parts, hstart, hrest, rfl⟩ := mapM_cons_eq_ok_iff.mp h
    obtain ⟨front, part, back, rfl, hfront, hpart⟩ := ih hrest
    exact ⟨start :: front, part, back, rfl,
      mapM_cons_eq_ok_iff.mpr ⟨start, front, hstart, hfront, rfl⟩, hpart⟩

private theorem part_of_reference {fragment : Fragment} {p : Placeholder} {spelling : List Char}
    {inner : PlaylistId} (hfollows : fragment.follows p) (hurl : p.url = none)
    (hid : p.id? = some inner) : fragment.part (.token p spelling) = .ok (.playlist inner) := by
  rw [Fragment.part, if_pos hfollows]
  exact reference_eq_ok_iff.mpr ⟨inner, hid, by rw [hurl]; rfl⟩

/-- A visit among the steps behind a placeholder is made below its playlist. -/
private theorem visit_of_placeholder {inside : PlaylistId → List Step} {p : Placeholder}
    {followed : Nat} {above : List PlaylistId} {id : PlaylistId}
    (h : .visit above id ∈ made limits followed (p.steps sources inside)) :
    ∃ inner, p.url = none ∧ p.id? = some inner ∧ firstFault limits followed [.follow] = none ∧
      .visit above id ∈ made limits (followed + 1) (inside inner) := by
  rw [Placeholder.steps] at h
  rcases mem_made_cons h with h | ⟨hfollow, h⟩
  · cases h
  · cases hurl : p.url with
    | some url =>
      rw [hurl] at h
      cases List.mem_singleton.mp (mem_of_mem_made h)
    | none =>
      rw [hurl] at h
      cases hinner : p.id? with
      | none =>
        rw [hinner] at h
        cases h
      | some inner =>
        rw [hinner] at h
        exact ⟨inner, rfl, rfl, hfollow, h⟩

/-- A visit behind markup that has been read comes with a reference in it, and everything before the
reference succeeds. -/
private theorem exists_reference {pass : Pass} {levels : Nat} {kind : Fragment} {markup : Markup}
    {above : List PlaylistId} {id : PlaylistId} (hne : pass.ancestors ≠ [])
    (hlevels : levels + pass.ancestors.length = limits.maxDepth + 1)
    (h : .visit above id ∈ made limits pass.expansions
      (scanSteps sources (itinerary limits sources pass.ancestors) (.ok (markup, kind)))) :
    ∃ front back inner text reached counted,
      kind.parts markup = .ok (front ++ .playlist inner :: back) ∧
      (expand limits sources (resolveLocal limits sources levels true kind) front).Gives pass text
        reached ∧
      (countExpansion limits).Gives reached () counted ∧
      .visit above id ∈
        made limits counted.expansions (itinerary limits sources counted.ancestors kind inner) := by
  rcases mem_made_cons h with h | ⟨hscan, h⟩
  · cases h
  obtain ⟨parts, hscan⟩ := (scan_makes kind markup).gives hscan
  have hparts : (Text.pieces placeholderRule markup).mapM kind.part = .ok parts :=
    (Walk.gives_ofExcept_iff.mp hscan).1
  obtain ⟨_, p, _, hsplit, hfront, h⟩ := mem_made_flatMap h
  obtain ⟨inner, hurl, hinner, hcount, h⟩ := visit_of_placeholder h
  obtain ⟨before, spelling, after, hpieces, rfl, hp⟩ := followed_eq_append_cons hsplit
  have hparts' := hparts
  rw [hpieces] at hparts'
  obtain ⟨front, part, back, rfl, hbefore, hpart⟩ := mapM_eq_ok_split hparts'
  cases hpart.symm.trans (part_of_reference hp hurl hinner)
  obtain ⟨text, hfront⟩ := (expand_local_makes hne hlevels before hbefore).gives hfront
  let inside := itinerary limits sources pass.ancestors kind
  let reached := pass.through pass.ancestors
    ((kind.followed before).flatMap (·.steps sources inside))
  have hcount : ∃ u, (countExpansion limits).Gives reached u
      (reached.through reached.ancestors [.follow]) := countExpansion_makes.gives hcount
  obtain ⟨_, hcount⟩ := hcount
  exact ⟨front, back, inner, text, reached, _, hparts, hfront, hcount, h⟩

namespace Call

/-- A visit on the way of a call is its own, or lies on the way of a call that it makes. -/
theorem exists_invokes {call : Call} (hplaced : call.Placed limits) {above : List PlaylistId}
    {id : PlaylistId}
    (h : .visit above id ∈ made limits call.pass.expansions (call.steps limits sources)) :
    (call.pass.ancestors = above ∧ call.id = id) ∨ ∃ callee, call.Invokes limits sources callee ∧
      .visit above id ∈ made limits callee.pass.expansions (callee.steps limits sources) := by
  obtain ⟨levels, nested, fragment, root, pass⟩ := call
  obtain ⟨hdepth, hnested⟩ := hplaced
  dsimp only at hdepth hnested
  rw [steps] at h
  by_cases hstop : limits.maxDepth < pass.ancestors.length ∨ root ∈ pass.ancestors
  · rw [itinerary_of_refused hstop] at h
    cases List.mem_singleton.mp (mem_of_mem_made h)
    exact .inl ⟨rfl, rfl⟩
  obtain ⟨hdeep, hroot⟩ := not_or.mp hstop
  have hroom := Nat.not_lt.mp hdeep
  obtain ⟨levels, rfl⟩ : ∃ n, levels = n + 1 := Nat.exists_eq_succ_of_ne_zero (by omega)
  rw [itinerary_of_admitted hroom hroot, ← hnested] at h
  rcases mem_made_cons h with h | ⟨henter, h⟩
  · cases h
    exact .inl ⟨rfl, rfl⟩
  obtain ⟨_, henter⟩ := (enter_makes hroom).gives henter
  let entered := pass.through (root :: pass.ancestors) [.visit pass.ancestors root]
  rcases mem_made_append h with h | ⟨hload, h⟩
  · obtain ⟨_, -, he⟩ := exists_of_mem_storedSteps h
    cases he
  let loaded := entered.through entered.ancestors (storedSteps sources nested fragment root)
  have hload : ∃ found, (load sources nested fragment root).Gives entered found loaded :=
    load_makes.gives hload
  obtain ⟨⟨markup, kind⟩, hload⟩ := hload
  rw [(load_gives_iff.mp hload).1] at h
  have hlevels : levels + loaded.ancestors.length = limits.maxDepth + 1 := by
    change levels + (pass.ancestors.length + 1) = _
    omega
  obtain ⟨front, back, inner, text, reached, counted, hparts, hfront, hcount, h⟩ :=
    exists_reference (List.cons_ne_nil _ _) hlevels h
  exact .inr ⟨_, .reference rfl henter hload hparts hfront hcount, h⟩

/-- What a visit on the way of a call belongs to: the call itself, or one that it leads to. -/
theorem exists_of_visit_mem {call : Call} (hplaced : call.Placed limits) {above : List PlaylistId}
    {id : PlaylistId}
    (h : .visit above id ∈ made limits call.pass.expansions (call.steps limits sources)) :
    ∃ callee, Relation.ReflTransGen (Invokes limits sources) call callee ∧
      callee.pass.ancestors = above ∧ callee.id = id := by
  induction hlevels : call.levels generalizing call with
  | zero =>
    rcases exists_invokes hplaced h with hself | ⟨callee, hcall, -⟩
    · exact ⟨call, .refl, hself⟩
    · cases hlevels.symm.trans hcall.levels_eq
  | succ levels ih =>
    rcases exists_invokes hplaced h with hself | ⟨callee, hcall, hvisit⟩
    · exact ⟨call, .refl, hself⟩
    · have hcallee := Nat.succ.inj (hcall.levels_eq.symm.trans hlevels)
      obtain ⟨inner, hinner, hself⟩ := ih (hcall.placed hplaced) hvisit hcallee
      exact ⟨inner, .head hcall hinner, hself⟩

/-- The visits on the way of a resolution are those of the calls that it makes. -/
theorem visit_mem_iff (limits : Limits) (sources : Sources) (fragment : Fragment)
    (id inner : PlaylistId) (above : List PlaylistId) :
    .visit above inner ∈ made limits 0 (itinerary limits sources [] fragment id) ↔
      ∃ call, Relation.ReflTransGen (Invokes limits sources) (root limits fragment id) call ∧
        call.pass.ancestors = above ∧ call.id = inner := by
  constructor
  · exact exists_of_visit_mem (placed_root limits fragment id)
  · rintro ⟨call, hcalls, rfl, rfl⟩
    have hroot : (root limits fragment id).Reached limits sources
        (itinerary limits sources [] fragment id) :=
      ⟨placed_root limits fragment id, [], [], (List.append_nil _).symm, rfl, rfl⟩
    exact (hroot.invokes hcalls).visit_mem

end Call
end Signage.Content
