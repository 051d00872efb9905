import Signage.Content.Composition
import Signage.Proofs.Content.Faults

/-!
What a resolution depends on: the answers to its own accesses and nothing else. Zones are resolved
one by one, so that what only one of them accesses does not affect the others.
-/
namespace Signage.Content
variable {α β : Type} {limits : Limits} {sources other : Sources}

namespace Sources

def answer (sources : Sources) : Read → Except Error Markup
  | .column fragment id => sources.column fragment id
  | .page url => sources.page url

/-- The other sources answer the accesses alike. -/
def Agree (sources other : Sources) (reads : List Read) : Prop :=
  ∀ read ∈ reads, other.answer read = sources.answer read

private theorem Agree.of_subset {reads fewer : List Read} (h : sources.Agree other reads)
    (hsubset : fewer ⊆ reads) : sources.Agree other fewer :=
  fun read hread => h read (hsubset hread)

end Sources

/-- A walk only adds to the accesses made, and where the other sources answer all of them alike,
the mirrored walk takes the same course. -/
structure Walk.Mirrored (sources other : Sources) (walk mirror : Walk α) : Prop where
  grows : ∀ pass, pass.reads ⊆ (walk.outcome pass).2.reads
  same : ∀ pass, sources.Agree other (walk.outcome pass).2.reads →
    mirror.outcome pass = walk.outcome pass

namespace Walk

private theorem Mirrored.bind {walk mirror : Walk α} {next mirrorNext : α → Walk β}
    (h : walk.Mirrored sources other mirror)
    (hnext : ∀ a, (next a).Mirrored sources other (mirrorNext a)) :
    (walk >>= next).Mirrored sources other (mirror >>= mirrorNext) where
  grows pass := by
    have hgrows := h.grows pass
    rw [outcome_bind]
    revert hgrows
    rcases walk.outcome pass with ⟨error | a, middle⟩
    · exact id
    · exact fun hgrows => List.Subset.trans hgrows ((hnext a).grows middle)
  same pass := by
    have hsame := h.same pass
    rw [outcome_bind, outcome_bind]
    revert hsame
    rcases walk.outcome pass with ⟨error | a, middle⟩
    · intro hsame hagree
      rw [hsame hagree]
    · intro hsame hagree
      -- what comes after accesses at least as much, so the first walk is the same
      rw [hsame (hagree.of_subset ((hnext a).grows middle))]
      exact (hnext a).same middle hagree

/-- A walk that uses no sources. -/
theorem mirrored_self {walk : Walk α} (h : ∀ pass, pass.reads ⊆ (walk.outcome pass).2.reads) :
    walk.Mirrored sources other walk :=
  ⟨h, fun _ _ => rfl⟩

private theorem mirrored_ofExcept (answer : Except Error α) :
    Walk.Mirrored sources other (ExceptT.mk (pure answer)) (ExceptT.mk (pure answer)) :=
  mirrored_self fun _ => List.Subset.refl _

private theorem mirrored_pure (a : α) : (pure a : Walk α).Mirrored sources other (pure a) :=
  mirrored_ofExcept (.ok a)

end Walk

private theorem access_mirrored (read : Read) :
    (access read (sources.answer read)).Mirrored sources other
      (access read (other.answer read)) where
  grows pass := List.subset_append_left pass.reads [read]
  same pass hagree := by
    have hread : read ∈ pass.reads ++ [read] := List.mem_append_right _ List.mem_cons_self
    rw [hagree read hread]

private theorem enter_mirrored (id : PlaylistId) :
    (enter id).Mirrored sources other (enter id) := by
  apply Walk.mirrored_self
  intro pass
  change _ ⊆ ((if id ∈ pass.ancestors then _ else _ : Walk Unit).outcome pass).2.reads
  split <;> exact List.Subset.refl _

private theorem leaving_mirrored {walk mirror : Walk Markup}
    (h : walk.Mirrored sources other mirror)
    (id : PlaylistId) : (leaving id walk).Mirrored sources other (leaving id mirror) where
  grows pass := h.grows pass
  same pass hagree := by rw [outcome_leaving, outcome_leaving, h.same pass hagree]

private theorem countExpansion_mirrored :
    (countExpansion limits).Mirrored sources other (countExpansion limits) := by
  apply Walk.mirrored_self
  intro pass
  change _ ⊆ ((if limits.maxExpansions < pass.expansions + 1 then _ else _ : Walk Unit).outcome
    { pass with expansions := pass.expansions + 1 }).2.reads
  split <;> exact List.Subset.refl _

private theorem load_mirrored (nested : Bool) (fragment : Fragment) (id : PlaylistId) :
    (load sources nested fragment id).Mirrored sources other (load other nested fragment id) := by
  refine (access_mirrored (.column fragment id)).bind fun markup => ?_
  split
  · exact (access_mirrored (.column .items id)).bind fun items => Walk.mirrored_pure _
  · exact Walk.mirrored_pure _

private theorem expand_mirrored {descend mirror : PlaylistId → Walk Markup}
    (hdescend : ∀ id, (descend id).Mirrored sources other (mirror id)) (parts : List Part) :
    (expand limits sources descend parts).Mirrored sources other
      (expand limits other mirror parts) := by
  induction parts with
  | nil => exact Walk.mirrored_pure _
  | cons part parts ih =>
    have hrest (front : Markup) := ih.bind fun rest => Walk.mirrored_pure (front ++ rest)
    cases part with
    | text markup => exact hrest markup
    | playlist id => exact countExpansion_mirrored.bind fun _ => (hdescend id).bind hrest
    | page url =>
      exact countExpansion_mirrored.bind fun _ => (access_mirrored (.page url)).bind hrest

private theorem resolveLocal_mirrored (levels : Nat) (nested : Bool) (fragment : Fragment)
    (id : PlaylistId) :
    (resolveLocal limits sources levels nested fragment id).Mirrored sources other
      (resolveLocal limits other levels nested fragment id) := by
  induction levels generalizing nested fragment id with
  | zero => exact Walk.mirrored_ofExcept (.error (nestedTooDeep id limits))
  | succ levels ih =>
    rw [resolveLocal, resolveLocal]
    refine (enter_mirrored id).bind fun _ => ?_
    refine (load_mirrored nested fragment id).bind fun found => ?_
    obtain ⟨markup, kind⟩ := found
    apply leaving_mirrored
    exact (Walk.mirrored_ofExcept _).bind fun parts => expand_mirrored (ih true kind) parts

/-- Only the answers to the accesses that are made decide how a resolution goes. -/
theorem resolve_congr {fragment : Fragment} {id : PlaylistId}
    (h : sources.Agree other (resolve limits sources fragment id).reads) :
    resolve limits other fragment id = resolve limits sources fragment id := by
  have hmirrored : (resolveLocal limits sources (limits.maxDepth + 1) false fragment id).Mirrored
      sources other (resolveLocal limits other (limits.maxDepth + 1) false fragment id) :=
    resolveLocal_mirrored _ _ _ _
  have hsame := hmirrored.same .start
  rcases houtcome :
    (resolveLocal limits sources (limits.maxDepth + 1) false fragment id).outcome .start
    with ⟨error | markup, pass⟩
  · rw [houtcome] at hsame
    rw [resolve_of_error houtcome] at h ⊢
    exact resolve_of_error (hsame h)
  · rw [houtcome] at hsame
    rw [resolve_of_gives houtcome] at h ⊢
    exact resolve_of_gives (hsame h)

/-- What a resolution may access. -/
def Fragment.MayAccess (fragment : Fragment) : Read → Prop
  | .column kind _ => fragment.Covers kind
  | .page _ => fragment.allowsPages

private theorem Fragment.Covers.mayAccess {fragment kind : Fragment} {read : Read}
    (h : fragment.Covers kind) (hread : kind.MayAccess read) : fragment.MayAccess read := by
  cases read with
  | column kind' id => exact h.trans hread
  | page url =>
    rcases h with rfl | ⟨rfl, -⟩
    · exact hread
    · rfl

private theorem mayAccess_of_mem_steps {fragment : Fragment} {p : Placeholder} {step : Step}
    {inside : PlaylistId → List Step} (hfollows : fragment.follows p)
    (hinside : ∀ id, ∀ step ∈ inside id, ∀ read ∈ step.read?, fragment.MayAccess read)
    (hstep : step ∈ p.steps sources inside) : ∀ read ∈ step.read?, fragment.MayAccess read := by
  rw [Placeholder.steps] at hstep
  rcases List.mem_cons.mp hstep with rfl | hstep
  · intro read hread
    cases hread
  · cases hurl : p.url with
    | some url =>
      rw [hurl] at hstep
      cases List.mem_singleton.mp hstep
      intro read hread
      cases hread
      have hpages := (Bool.and_eq_true_iff.mp hfollows).2
      rw [hurl] at hpages
      exact hpages
    | none =>
      rw [hurl] at hstep
      cases hid : p.id? with
      | none =>
        rw [hid] at hstep
        cases hstep
      | some id =>
        rw [hid] at hstep
        exact hinside id step hstep

private theorem mayAccess_of_mem_itinerary {above : List PlaylistId} {fragment : Fragment}
    {id : PlaylistId} {step : Step} (hstep : step ∈ itinerary limits sources above fragment id) :
    ∀ read ∈ step.read?, fragment.MayAccess read := by
  induction above, fragment, id using itinerary.induct limits generalizing step with
  | case1 above fragment id ih =>
    by_cases hstop : limits.maxDepth < above.length ∨ id ∈ above
    · rw [itinerary_of_refused hstop] at hstep
      cases List.mem_singleton.mp hstep
      intro read hread
      cases hread
    · obtain ⟨hdepth, hid⟩ := not_or.mp hstop
      rw [itinerary_of_admitted (Nat.not_lt.mp hdepth) hid] at hstep
      rcases List.mem_cons.mp hstep with rfl | hstep
      · intro read hread
        cases hread
      rcases List.mem_append.mp hstep with hstep | hstep
      · obtain ⟨kind, hcovers, rfl⟩ := exists_of_mem_storedSteps hstep
        intro read hread
        cases hread
        exact hcovers
      · cases hstored : stored sources (!above.isEmpty) fragment id with
        | error error =>
          rw [hstored] at hstep
          cases hstep
        | ok found =>
          obtain ⟨markup, kind⟩ := found
          rw [hstored] at hstep
          rcases List.mem_cons.mp hstep with rfl | hstep
          · intro read hread
            cases hread
          · obtain ⟨p, hp, hstep⟩ := List.mem_flatMap.mp hstep
            have hinside (inner : PlaylistId) (step : Step)
                (hstep : step ∈ itinerary limits sources (id :: above) kind inner) :
                ∀ read ∈ step.read?, kind.MayAccess read := ih hstop kind inner hstep
            intro read hread
            exact (covers_of_stored hstored).mayAccess
              (mayAccess_of_mem_steps (List.mem_filter.mp hp).2 hinside hstep read hread)

private theorem mayAccess_of_mem_reads {fragment : Fragment} {id : PlaylistId} {read : Read}
    (h : read ∈ (resolve limits sources fragment id).reads) : fragment.MayAccess read := by
  rw [reads_resolve] at h
  obtain ⟨step, hstep, hread⟩ := List.mem_filterMap.mp h
  exact mayAccess_of_mem_itinerary (mem_of_mem_made hstep) read hread

/-- What a zone adds to each kind of composed markup. -/
def zoneShare (limits : Limits) (sources : Sources) (zone : ZoneId × PlaylistId) : Composition where
  items := zoneItems zone.1 (resolve limits sources .items zone.2).markup
  prefetch := (resolve limits sources .prefetch zone.2).markup
  exclusive := zoneExclusive zone.1 (resolve limits sources .exclusive zone.2).markup

def joinShares (shares : List Composition) : Composition where
  items := shares.flatMap (·.items)
  prefetch := ['\n'].intercalate (shares.map (·.prefetch))
  exclusive := shares.flatMap (·.exclusive)

private theorem composeZones_eq_join (zones : List (ZoneId × PlaylistId)) :
    composeZones (resolver limits sources) zones =
      joinShares (zones.map (zoneShare limits sources)) := by
  rw [composeZones, joinShares, List.flatMap_map, List.flatMap_map, List.map_map]
  rfl

private theorem zoneShare_congr {zone : ZoneId × PlaylistId}
    (h : ∀ fragment, sources.Agree other (resolve limits sources fragment zone.2).reads) :
    zoneShare limits other zone = zoneShare limits sources zone := by
  rw [zoneShare, zoneShare, resolve_congr (h .items), resolve_congr (h .prefetch),
    resolve_congr (h .exclusive)]

/-- What a change of content, from sources to others, does to resolutions and to the zones of a
player. -/
structure Separated (limits : Limits) (sources other : Sources) (player : Player) : Prop where
  same_run : ∀ fragment id, sources.Agree other (resolve limits sources fragment id).reads →
    resolve limits other fragment id = resolve limits sources fragment id
  prefetch_reads : ∀ id, ∀ read ∈ (resolve limits sources .prefetch id).reads,
    ∃ inner, read = .column .prefetch inner
  items_reads : ∀ id, ∀ read ∈ (resolve limits sources .items id).reads,
    (∃ inner, read = .column .items inner) ∨ ∃ url, read = .page url
  shares : player.isMultizone = true → compose (resolver limits sources) player =
    joinShares ((playedZones player).map (zoneShare limits sources))
  /-- Each fragment of each zone may use up the limits alone. -/
  own_limits : ∀ zone ∈ playedZones player, ∀ (fragment : Fragment) (tree : Tree),
    tree.id = zone.2 → tree.Expands sources false fragment → tree.Fits limits →
      (resolve limits sources fragment zone.2).markup = tree.text
  /-- What only one zone accesses changes the share of that zone alone. -/
  unaffected : player.isMultizone = true → ∀ front spoilt back,
    playedZones player = front ++ spoilt :: back →
      (∀ zone ∈ front ++ back, ∀ fragment,
        sources.Agree other (resolve limits sources fragment zone.2).reads) →
        compose (resolver limits other) player =
          joinShares (front.map (zoneShare limits sources) ++
            zoneShare limits other spoilt :: back.map (zoneShare limits sources))

/-- A resolution depends on nothing but what it accesses, and zones do not affect each other. -/
theorem zones_separated (limits : Limits) (sources other : Sources) (player : Player) :
    Separated limits sources other player where
  same_run _ _ := resolve_congr
  prefetch_reads := by
    intro id read hread
    have hmay := mayAccess_of_mem_reads hread
    cases read with
    | column kind inner =>
      rcases hmay with rfl | ⟨hexclusive, -⟩
      · exact ⟨inner, rfl⟩
      · cases hexclusive
    | page url => cases hmay
  items_reads := by
    intro id read hread
    have hmay := mayAccess_of_mem_reads hread
    cases read with
    | column kind inner =>
      rcases hmay with rfl | ⟨hexclusive, -⟩
      · exact .inl ⟨inner, rfl⟩
      · cases hexclusive
    | page url => exact .inr ⟨url, rfl⟩
  shares := by
    intro hmulti
    rw [compose, if_pos hmulti, composeZones_eq_join]
  own_limits := by
    rintro zone - fragment tree hid hexpands hfits
    rw [← hid, resolve_of_fits hexpands hfits]
  unaffected := by
    intro hmulti front spoilt back hzones hagree
    have hshare : ∀ zone ∈ front ++ back,
        zoneShare limits other zone = zoneShare limits sources zone :=
      fun zone hzone => zoneShare_congr (hagree zone hzone)
    rw [List.forall_mem_append] at hshare
    rw [compose, if_pos hmulti, composeZones_eq_join, hzones, List.map_append, List.map_cons,
      List.map_congr_left hshare.1, List.map_congr_left hshare.2]

/-- Two zones, the second of which comes to contain itself. -/
theorem zones_separated_of_cycle :
    let calm : Sources := ⟨fun _ id => .ok (if id = ⟨1⟩ then ['a'] else ['b']), fun _ => .ok []⟩
    let spoilt : Sources := ⟨fun _ id => .ok (if id = ⟨1⟩ then ['a']
      else "{ITEMS_2}{PREFETCH_2}".toList), fun _ => .ok []⟩
    let zone (id : PlaylistId) : Zone := ⟨"", 0, 0, 0, 0, 0, "", id⟩
    let player : Player := { Player.blank with
      mode := .multizone, zones := some ⟨.pixel, 0, 0, [zone ⟨1⟩, zone ⟨2⟩]⟩ }
    (resolve .standard spoilt .items ⟨2⟩).failure.isSome ∧
      (zoneShare .standard calm (⟨1⟩, ⟨1⟩)).prefetch = ['a'] ∧
        compose (resolver .standard spoilt) player = joinShares
          [zoneShare .standard calm (⟨1⟩, ⟨1⟩), zoneShare .standard spoilt (⟨2⟩, ⟨2⟩)] := by
  intro calm spoilt zone player
  refine ⟨rfl, rfl, (zones_separated .standard calm spoilt player).unaffected rfl
    [(⟨1⟩, ⟨1⟩)] (⟨2⟩, ⟨2⟩) [] rfl ?_⟩
  intro zone hzone fragment
  obtain rfl := List.mem_singleton.mp hzone
  have hreads : (resolve .standard calm fragment ⟨1⟩).reads = [.column fragment ⟨1⟩] := by
    cases fragment <;> rfl
  rw [hreads]
  intro read hread
  obtain rfl := List.mem_singleton.mp hread
  rfl

end Signage.Content
