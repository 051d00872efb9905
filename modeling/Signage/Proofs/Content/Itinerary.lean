import Signage.Proofs.Content.ExpansionTree

/-!
The itinerary of a resolution: the steps of a walk from left to right through all that a playlist
refers to, and how far one gets before a step fails. Steps are listed without regard to failures and
to the number of references; both decide only where the walk ends.
-/
namespace Signage.Content

/-- A step of a walk through stored markup. -/
inductive Step where
  /-- Come to a playlist from those above it, the innermost first. -/
  | visit (above : List PlaylistId) (id : PlaylistId)
  /-- Access a source, which gives an answer. -/
  | access (read : Read) (answer : Except Error Markup)
  /-- Look for the placeholders in markup that are followed. -/
  | scan (fragment : Fragment) (markup : Markup)
  /-- Count one more reference before it is followed. -/
  | follow

/-- What is wrong with the identifier of a placeholder. -/
def Placeholder.fault? (p : Placeholder) : Option Error :=
  match p.number with
  | .ok _ => none
  | .error error => some error

namespace Step

/-- Why the step fails, if it does, when so many references have been followed before. A playlist
that lies too deep is not looked for among the ones above it. -/
def fault? (limits : Limits) (followed : Nat) : Step → Option Error
  | visit above id =>
    if limits.maxDepth < above.length then some (nestedTooDeep id limits)
    else if id ∈ above then some (.cycle id)
    else none
  | access _ (.ok _) => none
  | access _ (.error error) => some error
  | scan fragment markup =>
    (fragment.followed (Text.pieces placeholderRule markup)).findSome? Placeholder.fault?
  | follow => if limits.maxExpansions ≤ followed then some (tooManyExpansions limits) else none

@[simp] def read? : Step → Option Read
  | access read _ => some read
  | _ => none

@[simp] def count : Step → Nat
  | follow => 1
  | _ => 0

end Step

/-- Markup of the kind may stand where a fragment is asked for. -/
def Fragment.Covers (fragment kind : Fragment) : Prop :=
  kind = fragment ∨ fragment = .exclusive ∧ kind = .items

theorem Fragment.Covers.trans {fragment middle kind : Fragment} (h : fragment.Covers middle)
    (h' : middle.Covers kind) : fragment.Covers kind := by
  rcases h with rfl | ⟨rfl, rfl⟩
  · exact h'
  · rcases h' with rfl | ⟨h', -⟩
    · exact .inr ⟨rfl, rfl⟩
    · cases h'

def readsOf (steps : List Step) : List Read := steps.filterMap Step.read?

/-- How many references the steps count. -/
def countOf : List Step → Nat
  | [] => 0
  | step :: steps => step.count + countOf steps

/-- The first fault on a walk that has followed so many references before. -/
def firstFault (limits : Limits) : (followed : Nat) → List Step → Option Error
  | _, [] => none
  | followed, step :: steps =>
    (step.fault? limits followed).or (firstFault limits (followed + step.count) steps)

/-- The steps made on a walk that has followed so many references before; one that fails is the
last. -/
def made (limits : Limits) : (followed : Nat) → List Step → List Step
  | _, [] => []
  | followed, step :: steps =>
    step :: if (step.fault? limits followed).isSome then []
      else made limits (followed + step.count) steps

/-- The steps that give the markup of a playlist. -/
def storedSteps (sources : Sources) (nested : Bool) (fragment : Fragment) (id : PlaylistId) :
    List Step :=
  .access (.column fragment id) (sources.column fragment id) ::
    match sources.column fragment id with
    | .ok markup =>
      if fragment = .exclusive ∧ nested ∧ Text.trim markup = [] then
        [.access (.column .items id) (sources.column .items id)]
      else []
    | .error _ => []

/-- The steps that follow a placeholder, with those that resolve a playlist left open. -/
def Placeholder.steps (sources : Sources) (inside : PlaylistId → List Step) (p : Placeholder) :
    List Step :=
  .follow ::
    match p.url with
    | some url => [.access (.page url) (sources.page url)]
    | none => p.id?.elim [] inside

/-- The steps behind the reading of a playlist, with those that resolve playlists left open. -/
def scanSteps (sources : Sources) (inside : Fragment → PlaylistId → List Step) :
    Except Error (Markup × Fragment) → List Step
  | .error _ => []
  | .ok (markup, kind) =>
    .scan kind markup ::
      (kind.followed (Text.pieces placeholderRule markup)).flatMap (·.steps sources (inside kind))

/-- The steps that resolve a playlist below others. Nothing lies behind a playlist that is too deep
or already among the ones above it, nor behind one that cannot be read. -/
def itinerary (limits : Limits) (sources : Sources) (above : List PlaylistId)
    (fragment : Fragment) (id : PlaylistId) : List Step :=
  .visit above id ::
    if limits.maxDepth < above.length ∨ id ∈ above then []
    else
      storedSteps sources (!above.isEmpty) fragment id ++
        scanSteps sources (fun kind inner => itinerary limits sources (id :: above) kind inner)
          (stored sources (!above.isEmpty) fragment id)
termination_by limits.maxDepth + 1 - above.length
decreasing_by
  rename_i h
  rw [not_or, Nat.not_lt] at h
  rw [List.length_cons]
  omega

section
variable {limits : Limits} {sources : Sources} {nested : Bool} {fragment kind : Fragment}
  {id : PlaylistId} {markup : Markup} {above : List PlaylistId}

/-- Only a visit is made to a playlist that lies too deep or above itself. -/
theorem itinerary_of_refused (h : limits.maxDepth < above.length ∨ id ∈ above) :
    itinerary limits sources above fragment id = [.visit above id] := by
  rw [itinerary, if_pos h]

/-- A playlist that is let in is read, and what its markup refers to is visited below it. -/
theorem itinerary_of_admitted (hdepth : above.length ≤ limits.maxDepth) (hid : id ∉ above) :
    itinerary limits sources above fragment id =
      .visit above id :: (storedSteps sources (!above.isEmpty) fragment id ++
        scanSteps sources (itinerary limits sources (id :: above))
          (stored sources (!above.isEmpty) fragment id)) := by
  rw [itinerary, if_neg (not_or.mpr ⟨Nat.not_lt.mpr hdepth, hid⟩)]

/-- Markup is read as a kind that the kind asked for covers. -/
theorem covers_of_stored (h : stored sources nested fragment id = .ok (markup, kind)) :
    fragment.Covers kind := by
  unfold stored at h
  split at h
  · split at h
    · next hfall =>
      cases hitems : sources.column .items id with
      | error error =>
        rw [hitems] at h
        cases h
      | ok items =>
        rw [hitems] at h
        cases h
        exact .inr ⟨hfall.1, rfl⟩
    · cases h
      exact .inl rfl
  · cases h

variable (sources nested fragment id) in
/-- The markup takes one access, or two where items are taken for exclusive markup. -/
theorem storedSteps_cases :
    storedSteps sources nested fragment id =
        [.access (.column fragment id) (sources.column fragment id)] ∨
      (fragment = .exclusive ∧ nested = true) ∧ storedSteps sources nested fragment id =
        [.access (.column .exclusive id) (sources.column .exclusive id),
          .access (.column .items id) (sources.column .items id)] := by
  unfold storedSteps
  cases hcolumn : sources.column fragment id with
  | error error => exact .inl rfl
  | ok markup =>
    dsimp only
    split
    · next h =>
      obtain ⟨rfl, hnested, -⟩ := h
      exact .inr ⟨⟨rfl, hnested⟩, by rw [hcolumn]⟩
    · exact .inl rfl

/-- All accesses for markup are to a column of the playlist. -/
theorem exists_of_mem_storedSteps {step : Step}
    (h : step ∈ storedSteps sources nested fragment id) :
    ∃ kind, fragment.Covers kind ∧ step = .access (.column kind id) (sources.column kind id) := by
  rcases storedSteps_cases sources nested fragment id with he | ⟨⟨hexclusive, -⟩, he⟩
  · rw [he, List.mem_singleton] at h
    exact ⟨fragment, .inl rfl, h⟩
  · rw [he] at h
    simp only [List.mem_cons, List.not_mem_nil, or_false] at h
    rcases h with h | h
    · exact ⟨.exclusive, .inl hexclusive.symm, h⟩
    · exact ⟨.items, .inr ⟨hexclusive, rfl⟩, h⟩

end

section
variable {limits : Limits} {followed : Nat} {steps rest : List Step}

@[simp] theorem readsOf_nil : readsOf [] = [] := rfl

@[simp] theorem countOf_nil : countOf [] = 0 := rfl

/-- The accesses of steps are those of the first and those of the others. -/
@[simp] theorem readsOf_cons {step : Step} :
    readsOf (step :: steps) = step.read?.toList ++ readsOf steps := by
  rw [readsOf, List.filterMap_cons]
  cases step.read? <;> rfl

@[simp] theorem countOf_cons {step : Step} :
    countOf (step :: steps) = step.count + countOf steps := rfl

/-- Accesses are made in the order of the steps. -/
theorem readsOf_append : readsOf (steps ++ rest) = readsOf steps ++ readsOf rest :=
  List.filterMap_append

/-- The references of steps are counted part by part. -/
theorem countOf_append : countOf (steps ++ rest) = countOf steps + countOf rest := by
  induction steps with
  | nil => exact (Nat.zero_add _).symm
  | cons step steps ih => rw [List.cons_append, countOf, ih, countOf, Nat.add_assoc]

/-- The first fault lies in the front, or behind a front that has none. -/
theorem firstFault_append :
    firstFault limits followed (steps ++ rest) =
      (firstFault limits followed steps).or
        (firstFault limits (followed + countOf steps) rest) := by
  induction steps generalizing followed with
  | nil => rfl
  | cons step steps ih =>
    rw [List.cons_append, firstFault, ih, firstFault, Option.or_assoc, Nat.add_assoc]
    rfl

/-- All steps are made if none fails. -/
theorem made_of_none (h : firstFault limits followed steps = none) :
    made limits followed steps = steps := by
  induction steps generalizing followed with
  | nil => rfl
  | cons step steps ih =>
    rw [firstFault, Option.or_eq_none_iff] at h
    rw [made, h.1, ih h.2]
    rfl

/-- Behind a front that does not fail, the steps are made as far as they go. -/
theorem made_append_of_none (h : firstFault limits followed steps = none) :
    made limits followed (steps ++ rest) =
      steps ++ made limits (followed + countOf steps) rest := by
  induction steps generalizing followed with
  | nil => rfl
  | cons step steps ih =>
    rw [firstFault, Option.or_eq_none_iff] at h
    rw [List.cons_append, made, h.1, ih h.2, Nat.add_assoc]
    rfl

/-- What lies behind a step that fails does not matter. -/
theorem made_append_of_some {error : Error} (h : firstFault limits followed steps = some error) :
    made limits followed (steps ++ rest) = made limits followed steps := by
  induction steps generalizing followed with
  | nil => cases h
  | cons step steps ih =>
    rw [List.cons_append, made, made]
    cases hstep : step.fault? limits followed with
    | some error => rfl
    | none =>
      rw [firstFault, hstep, Option.none_or] at h
      rw [ih h]

/-- Only steps of the walk are made. -/
theorem mem_of_mem_made {step : Step} (h : step ∈ made limits followed steps) : step ∈ steps := by
  induction steps generalizing followed with
  | nil => exact h
  | cons first steps ih =>
    rcases List.mem_cons.mp h with rfl | h
    · exact List.mem_cons_self
    · split at h
      · cases h
      · exact List.mem_cons_of_mem _ (ih h)

/-- A step that is made lies in the front, or behind it if nothing in the front fails. -/
theorem mem_made_append {step : Step} (h : step ∈ made limits followed (steps ++ rest)) :
    step ∈ steps ∨ firstFault limits followed steps = none ∧
      step ∈ made limits (followed + countOf steps) rest := by
  cases hfault : firstFault limits followed steps with
  | some error =>
    rw [made_append_of_some hfault] at h
    exact .inl (mem_of_mem_made h)
  | none =>
    rw [made_append_of_none hfault, List.mem_append] at h
    exact h.imp_right fun h => ⟨rfl, h⟩

/-- A step that is made is the first one, or lies behind it if it does not fail. -/
theorem mem_made_cons {first step : Step} (h : step ∈ made limits followed (first :: rest)) :
    step = first ∨ firstFault limits followed [first] = none ∧
      step ∈ made limits (followed + first.count) rest := by
  rcases @mem_made_append limits followed [first] rest step h with h | h
  · exact .inl (List.mem_singleton.mp h)
  · exact .inr h

/-- A step that is made is one of those for some element, and nothing fails before that. -/
theorem mem_made_flatMap {α : Type} {xs : List α} {f : α → List Step} {step : Step}
    (h : step ∈ made limits followed (xs.flatMap f)) :
    ∃ front x back, xs = front ++ x :: back ∧
      firstFault limits followed (front.flatMap f) = none ∧
        step ∈ made limits (followed + countOf (front.flatMap f)) (f x) := by
  induction xs generalizing followed with
  | nil => cases h
  | cons x xs ih =>
    rw [List.flatMap_cons] at h
    cases hfault : firstFault limits followed (f x) with
    | some error =>
      rw [made_append_of_some hfault] at h
      exact ⟨[], x, xs, rfl, rfl, h⟩
    | none =>
      rw [made_append_of_none hfault, List.mem_append] at h
      rcases h with h | h
      · exact ⟨[], x, xs, rfl, rfl, (made_of_none hfault).symm ▸ h⟩
      · obtain ⟨front, y, back, rfl, hfront, hy⟩ := ih h
        refine ⟨x :: front, y, back, rfl, ?_, ?_⟩
        · rw [List.flatMap_cons, firstFault_append, hfault, Option.none_or, hfront]
        · rw [List.flatMap_cons, countOf_append, ← Nat.add_assoc]
          exact hy

end
end Signage.Content
