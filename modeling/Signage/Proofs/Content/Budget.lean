import Signage.Proofs.Content.Calls

/-!
What a resolution costs at most, on any content: how deep it goes, how many references it follows,
and how many accesses it makes. Every step is paid for by the reference that leads to it.
-/
namespace Signage.Content
variable {limits : Limits} {sources : Sources} {costs : Step → Bool} {income credit credit' : Nat}
  {followed : Nat} {steps rest : List Step}

/-- The steps that cost are paid for: there is a credit, and each reference that is counted brings
an income. -/
def Paid (costs : Step → Bool) (income : Nat) : (credit : Nat) → List Step → Prop
  | _, [] => True
  | credit, step :: steps =>
    (costs step).toNat ≤ credit ∧
      Paid costs income (credit - (costs step).toNat + income * step.count) steps

private theorem Paid.mono (h : Paid costs income credit steps) (hle : credit ≤ credit') :
    Paid costs income credit' steps := by
  induction steps generalizing credit credit' with
  | nil => trivial
  | cons step steps ih => exact ⟨h.1.trans hle, ih h.2 (by omega)⟩

private theorem Paid.append (h : Paid costs income credit steps)
    (hrest : Paid costs income 0 rest) :
    Paid costs income credit (steps ++ rest) := by
  induction steps generalizing credit with
  | nil => exact hrest.mono (Nat.zero_le _)
  | cons step steps ih => exact ⟨h.1, ih h.2⟩

private theorem paid_flatMap {α : Type} {xs : List α} {f : α → List Step}
    (h : ∀ x ∈ xs, Paid costs income 0 (f x)) : Paid costs income 0 (xs.flatMap f) := by
  induction xs with
  | nil => trivial
  | cons x xs ih =>
    rw [List.flatMap_cons]
    exact (h x List.mem_cons_self).append (ih fun y hy => h y (List.mem_cons_of_mem _ hy))

private theorem countP_cons_eq (step : Step) :
    (step :: steps).countP costs = steps.countP costs + (costs step).toNat := by
  rw [List.countP_cons]
  cases costs step <;> rfl

private theorem paid_append_of_count (hcount : ∀ step ∈ steps, step.count = 0)
    (hcredit : steps.countP costs + credit ≤ credit') (hrest : Paid costs income credit rest) :
    Paid costs income credit' (steps ++ rest) := by
  induction steps generalizing credit' with
  | nil => exact hrest.mono ((Nat.zero_add credit).symm.trans_le hcredit)
  | cons step steps ih =>
    rw [countP_cons_eq] at hcredit
    refine ⟨by omega, ?_⟩
    rw [hcount step List.mem_cons_self, Nat.mul_zero, Nat.add_zero]
    exact ih (fun other hother => hcount other (List.mem_cons_of_mem _ hother)) (by omega)

private theorem count_le_of_passed {step : Step} (h : step.fault? limits followed = none)
    (hfollowed : followed ≤ limits.maxExpansions) :
    followed + step.count ≤ limits.maxExpansions := by
  cases step with
  | follow =>
    by_contra hgt
    have hle : limits.maxExpansions ≤ followed := Nat.le_of_lt_succ (Nat.not_le.mp hgt)
    simp [Step.fault?, hle] at h
  | visit above id => exact hfollowed
  | access read answer => exact hfollowed
  | scan fragment markup => exact hfollowed

/-- Only so many references are followed, so the steps that are made cost no more than these bring
and what there was at first. -/
theorem Paid.countP_made_le (h : Paid costs income credit steps)
    (hfollowed : followed ≤ limits.maxExpansions) :
    (made limits followed steps).countP costs ≤
      credit + income * (limits.maxExpansions - followed) := by
  induction steps generalizing credit followed with
  | nil => exact Nat.zero_le _
  | cons step steps ih =>
    obtain ⟨hcredit, hrest⟩ := h
    rw [made, countP_cons_eq]
    cases hfault : step.fault? limits followed with
    | some error =>
      have hnil : ([] : List Step).countP costs = 0 := rfl
      simp only [Option.isSome_some, if_true, hnil]
      omega
    | none =>
      have hle := count_le_of_passed hfault hfollowed
      have hsum := ih hrest hle
      have hsplit : limits.maxExpansions - followed =
          step.count + (limits.maxExpansions - (followed + step.count)) := by omega
      rw [hsplit, Nat.mul_add]
      simp only [Option.isSome_none, Bool.false_eq_true, if_false]
      omega

section
variable (hfollow : costs .follow = false)
  (hscan : ∀ kind markup, costs (.scan kind markup) = false)
  (hpage : ∀ url answer, (costs (.access (.page url) answer)).toNat ≤ income)
include hfollow hpage

private theorem placeholder_paid {inside : PlaylistId → List Step} (p : Placeholder)
    (hinside : ∀ inner, Paid costs income income (inside inner)) :
    Paid costs income 0 (p.steps sources inside) := by
  rw [Placeholder.steps]
  refine ⟨by rw [hfollow]; exact Nat.le_refl 0, ?_⟩
  rw [hfollow, Step.count, Nat.mul_one, Bool.toNat_false, Nat.zero_add]
  cases p.url with
  | some url => exact ⟨hpage _ _, trivial⟩
  | none =>
    cases p.id? with
    | none => trivial
    | some inner => exact hinside inner

include hscan

private theorem scanSteps_paid {inside : Fragment → PlaylistId → List Step}
    {answer : Except Error (Markup × Fragment)}
    (hinside : ∀ markup kind, answer = .ok (markup, kind) →
      ∀ inner, Paid costs income income (inside kind inner)) :
    Paid costs income 0 (scanSteps sources inside answer) := by
  cases answer with
  | error error => trivial
  | ok found =>
    obtain ⟨markup, kind⟩ := found
    refine ⟨by rw [hscan]; exact Nat.le_refl 0, ?_⟩
    rw [hscan]
    exact paid_flatMap fun p _ => placeholder_paid hfollow hpage p (hinside markup kind rfl)

/-- An itinerary is paid for if no playlist below the root and no page costs more than an income. -/
theorem itinerary_paid {fragment : Fragment} (hnested : ∀ kind above id,
      fragment.Covers kind → above ≠ [] →
        (Step.visit above id :: storedSteps sources true kind id).countP costs ≤ income)
    (above : List PlaylistId) (id : PlaylistId) :
    Paid costs income
      ((Step.visit above id :: storedSteps sources (!above.isEmpty) fragment id).countP costs)
      (itinerary limits sources above fragment id) := by
  induction above, fragment, id using itinerary.induct limits with
  | case1 above fragment id ih =>
    have hcount : ∀ step ∈ Step.visit above id :: storedSteps sources (!above.isEmpty) fragment id,
        step.count = 0 := by
      intro step hstep
      rcases List.mem_cons.mp hstep with rfl | hstep
      · rfl
      · obtain ⟨kind, -, rfl⟩ := exists_of_mem_storedSteps hstep
        rfl
    by_cases hstop : limits.maxDepth < above.length ∨ id ∈ above
    · rw [itinerary_of_refused hstop, countP_cons_eq]
      exact ⟨Nat.le_add_left _ _, trivial⟩
    · obtain ⟨hdepth, hid⟩ := not_or.mp hstop
      rw [itinerary_of_admitted (Nat.not_lt.mp hdepth) hid, ← List.cons_append]
      refine paid_append_of_count hcount (Nat.le_refl _) (scanSteps_paid hfollow hscan hpage ?_)
      intro markup kind hstored inner
      have hkind := covers_of_stored hstored
      refine (ih hstop kind inner ?_).mono (hnested kind _ _ hkind (List.cons_ne_nil _ _))
      exact fun kind' above' id' hkind' => hnested kind' above' id' (hkind.trans hkind')

end

/-- What a reference that is followed leads to: a playlist below the root, or a page. -/
def Step.isReference : Step → Bool
  | visit above _ => !above.isEmpty
  | access (.page _) _ => true
  | _ => false

/-- How many accesses the content of one reference takes at most. -/
def Fragment.accesses : Fragment → Nat
  | exclusive => 2
  | _ => 1

private theorem Fragment.one_le_accesses (fragment : Fragment) : 1 ≤ fragment.accesses := by
  cases fragment with
  | items => exact Nat.le_refl 1
  | prefetch => exact Nat.le_refl 1
  | exclusive => exact Nat.le_succ 1

private theorem length_storedSteps_le (nested : Bool) (fragment : Fragment) (id : PlaylistId) :
    (storedSteps sources nested fragment id).length ≤ fragment.accesses := by
  rcases storedSteps_cases sources nested fragment id with h | ⟨⟨rfl, -⟩, h⟩
  · rw [h]
    exact fragment.one_le_accesses
  · rw [h]
    exact Nat.le_refl 2

private theorem countP_isReference_storedSteps (nested : Bool) (fragment : Fragment)
    (id : PlaylistId) :
    (storedSteps sources nested fragment id).countP Step.isReference = 0 := by
  rw [List.countP_eq_zero]
  intro step hstep
  obtain ⟨kind, -, rfl⟩ := exists_of_mem_storedSteps hstep
  exact Bool.false_ne_true

section
variable (limits : Limits) (sources : Sources) (fragment : Fragment) (id : PlaylistId)

/-- No more references are followed than allowed. -/
theorem countP_isReference_le :
    (made limits 0 (itinerary limits sources [] fragment id)).countP Step.isReference ≤
      limits.maxExpansions := by
  have hnode (kind : Fragment) (above : List PlaylistId) (inner : PlaylistId) (nested : Bool) :
      (Step.visit above inner :: storedSteps sources nested kind inner).countP Step.isReference =
        (!above.isEmpty).toNat := by
    rw [countP_cons_eq, countP_isReference_storedSteps, Nat.zero_add]
    rfl
  have hpaid : Paid Step.isReference 1 _ (itinerary limits sources [] fragment id) :=
    itinerary_paid rfl (fun _ _ => rfl) (fun _ _ => Nat.le_refl 1)
      (fun kind above inner _ _ => (hnode kind above inner true).trans_le (Bool.toNat_le _)) [] id
  rw [hnode] at hpaid
  have hle := hpaid.countP_made_le (Nat.zero_le limits.maxExpansions)
  simpa using hle

private theorem length_reads_le :
    (resolve limits sources fragment id).reads.length ≤
      1 + fragment.accesses * limits.maxExpansions := by
  have hnode (kind : Fragment) (above : List PlaylistId) (inner : PlaylistId) (nested : Bool) :
      (Step.visit above inner :: storedSteps sources nested kind inner).countP
        (fun step => step.read?.isSome) ≤ (storedSteps sources nested kind inner).length := by
    rw [countP_cons_eq]
    exact List.countP_le_length
  have hkind (kind : Fragment) (h : fragment.Covers kind) : kind.accesses ≤ fragment.accesses := by
    rcases h with rfl | ⟨rfl, rfl⟩
    · exact Nat.le_refl _
    · exact Nat.le_succ 1
  have hpaid : Paid (fun step => step.read?.isSome) fragment.accesses _
      (itinerary limits sources [] fragment id) :=
    itinerary_paid rfl (fun _ _ => rfl)
      (fun _ _ => fragment.one_le_accesses)
      (fun kind above inner h _ => (hnode kind above inner true).trans
        ((length_storedSteps_le true kind inner).trans (hkind kind h))) [] id
  have hroot : (storedSteps sources false fragment id).length = 1 := by
    rcases storedSteps_cases sources false fragment id with h | ⟨⟨-, hnested⟩, -⟩
    · rw [h]
      rfl
    · cases hnested
  have hcredit := hpaid.mono ((hnode fragment [] id false).trans_eq hroot)
  have hle := hcredit.countP_made_le (Nat.zero_le limits.maxExpansions)
  rwa [reads_resolve, readsOf, List.length_filterMap_eq_countP]

end

/-- On any content, a resolution accesses what its itinerary says up to the first fault and no more.
It follows only as many references as allowed, and each costs so many accesses at most. Its calls
are those of the playlists it comes to, and end with the levels. -/
theorem resolve_within_budget (limits : Limits) (sources : Sources) (fragment : Fragment)
    (id : PlaylistId) :
    let reads := (resolve limits sources fragment id).reads
    let steps := made limits 0 (itinerary limits sources [] fragment id)
    reads = readsOf steps ∧
      steps.countP Step.isReference ≤ limits.maxExpansions ∧
        reads.length ≤ 1 + fragment.accesses * limits.maxExpansions ∧
          (∀ calls, (Call.root limits fragment id :: calls).IsChain (Call.Invokes limits sources) →
            calls.length ≤ limits.maxDepth + 1) ∧
            ∀ above inner, .visit above inner ∈ steps ↔ ∃ call : Call, Relation.ReflTransGen
              (Call.Invokes limits sources) (Call.root limits fragment id) call ∧
                call.pass.ancestors = above ∧ call.id = inner := by
  refine ⟨reads_resolve limits sources fragment id,
    countP_isReference_le limits sources fragment id, length_reads_le limits sources fragment id,
    ?_, ?_⟩
  · intro calls hcalls
    exact Call.length_le_of_isChain hcalls
  · intro above inner
    exact Call.visit_mem_iff limits sources fragment id inner above

end Signage.Content
