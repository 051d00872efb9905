import Signage.Proofs.Content.CallLog

/-!
A resolution restores its pass. Whenever a call begins, the ancestors are the playlists above it;
whenever one ends well, they are so again, and every reference below has been counted. Nothing
begins after a failure. The log that tells this has all calls that are made, and no others.
-/
namespace Signage.Content
variable {α β : Type} {limits : Limits} {sources : Sources} {root : Call} {opened : List Frame}
  {pass : Pass}

/-- A call that ends well has walked through the trees of the references below it. -/
theorem Frame.restores_of_outcome {frame : Frame} {text : Markup} {left : Pass}
    (h : frame.outcome limits sources = (.ok text, left))
    (hbounded : frame.pass.expansions ≤ limits.maxExpansions) :
    frame.Restores limits sources left := by
  cases frame with
  | resolving call =>
    obtain ⟨tree, hid, hexpands, hwithin, -, rfl⟩ :=
      (resolveLocal_follows limits sources _ _ _ _ _ _ _ hbounded).mp h
    have hstored := hexpands.stored
    rw [hid] at hstored
    exact ⟨rfl, ⟨tree.children, ⟨_, _, hstored, hexpands.children⟩, rfl⟩, hwithin.expansions⟩
  | expanding levels kind markup pass =>
    obtain ⟨forest, hexpands, hwithin, -, rfl⟩ := (expandMarkup_gives_iff
      (resolveLocal_follows limits sources levels true kind) markup hbounded).mp h
    exact ⟨rfl, ⟨forest, hexpands, rfl⟩, hwithin.expansions⟩

/-- Begun with a pass below open calls, the logged walk takes the course of the walk, and what it
notes is a run that leaves the same calls open; if the walk fails, the run does. The calls that begin
in it are those that are made. -/
inductive Logged.Keeps (limits : Limits) (sources : Sources) (root : Call) (opened : List Frame)
    (pass : Pass) (logged : Logged α) (walk : Walk α) (made : Frame → Prop) : Prop
  | fails {error : Error} {left : Pass} {events : List Event}
      (houtcome : walk.outcome pass = (.error error, left))
      (hlogged : ∀ log, logged.outcome pass log = (.error error, left, log ++ events))
      (hrun : Course.Run limits sources root ⟨opened, none⟩ events ⟨opened, some error⟩)
      (hmade : ∀ frame, .begun frame ∈ events ↔ made frame)
  | ends {a : α} {left : Pass} {events : List Event} (hgives : walk.Gives pass a left)
      (hlogged : ∀ log, logged.outcome pass log = (.ok a, left, log ++ events))
      (hrun : Course.Run limits sources root ⟨opened, none⟩ events ⟨opened, none⟩)
      (hmade : ∀ frame, .begun frame ∈ events ↔ made frame)

namespace Logged
variable {made : Frame → Prop}

private theorem Keeps.congr {made' : Frame → Prop} {logged : Logged α} {walk : Walk α}
    (h : logged.Keeps limits sources root opened pass walk made)
    (hmade' : ∀ frame, made frame ↔ made' frame) :
    logged.Keeps limits sources root opened pass walk made' := by
  cases h with
  | fails houtcome hlogged hrun hmade =>
    exact .fails houtcome hlogged hrun fun frame => (hmade frame).trans (hmade' frame)
  | ends hgives hlogged hrun hmade =>
    exact .ends hgives hlogged hrun fun frame => (hmade frame).trans (hmade' frame)

private theorem Keeps.bind {logged : Logged α} {walk : Walk α} {next : α → Logged β}
    {after : α → Walk β}
    {later : α → Pass → Frame → Prop}
    (h : logged.Keeps limits sources root opened pass walk made)
    (hnext : ∀ a middle, walk.Gives pass a middle →
      (next a).Keeps limits sources root opened middle (after a) (later a middle)) :
    (logged >>= next).Keeps limits sources root opened pass (walk >>= after) fun frame =>
      made frame ∨ ∃ a middle, walk.Gives pass a middle ∧ later a middle frame := by
  cases h with
  | fails houtcome hlogged hrun hmade =>
    refine .fails (by rw [Walk.outcome_bind, houtcome]) (fun log => ?_) hrun fun frame => ?_
    · rw [outcome_bind, hlogged]
    · simp [hmade, Walk.Gives, houtcome]
  | @ends a middle events hgives hlogged hrun hmade =>
    have houtcome : (walk >>= after).outcome pass = (after a).outcome middle := by
      rw [Walk.outcome_bind, hgives]
    have hboth (log : List Event) :
        (logged >>= next).outcome pass log = (next a).outcome middle (log ++ events) := by
      rw [outcome_bind, hlogged]
    have hlater (frame : Frame) : (∃ b reached, walk.Gives pass b reached ∧ later b reached frame) ↔
        later a middle frame := by
      refine ⟨?_, fun h => ⟨a, middle, hgives, h⟩⟩
      rintro ⟨b, reached, hgives', h⟩
      cases hgives.symm.trans hgives'
      exact h
    cases hnext a middle hgives with
    | fails houtcome' hlogged' hrun' hmade' =>
      refine .fails (houtcome.trans houtcome') (fun log => ?_) (hrun.append hrun') fun frame => ?_
      · rw [hboth, hlogged', List.append_assoc]
      · rw [List.mem_append, hmade, hmade', hlater]
    | ends hgives' hlogged' hrun' hmade' =>
      refine .ends (houtcome.trans hgives') (fun log => ?_) (hrun.append hrun') fun frame => ?_
      · rw [hboth, hlogged', List.append_assoc]
      · rw [List.mem_append, hmade, hmade', hlater]

/-- What a logged walk notes, be it a failure or not. -/
theorem Keeps.exists_log {logged : Logged α} {walk : Walk α}
    (h : logged.Keeps limits sources root opened pass walk made) :
    ∃ answer left log, walk.outcome pass = (answer, left) ∧
      logged.outcome pass [] = (answer, left, log) ∧
        (∃ last, Course.Run limits sources root ⟨opened, none⟩ log last ∧ last.opened = opened) ∧
          ∀ frame, .begun frame ∈ log ↔ made frame := by
  cases h with
  | fails houtcome hlogged hrun hmade =>
    exact ⟨_, _, _, houtcome, hlogged [], ⟨_, hrun, rfl⟩, hmade⟩
  | ends hgives hlogged hrun hmade =>
    exact ⟨_, _, _, hgives, hlogged [], ⟨_, hrun, rfl⟩, hmade⟩

private theorem pure_keeps (a : α) :
    (pure a : Logged α).Keeps limits sources root opened pass (pure a) fun _ => False :=
  .ends (Walk.gives_pure_iff.mpr ⟨rfl, rfl⟩) (fun log => by rw [List.append_nil]; rfl) .nil
    fun _ => iff_of_false List.not_mem_nil id

private theorem Keeps.map {logged : Logged α} {walk : Walk α}
    (h : logged.Keeps limits sources root opened pass walk made) (f : α → β) :
    (logged >>= fun a => pure (f a)).Keeps limits sources root opened pass
      (walk >>= fun a => pure (f a)) made :=
  (h.bind fun a _ _ => pure_keeps (f a)).congr fun _ => by simp

private theorem step_keeps (walk : Walk α) :
    (step walk).Keeps limits sources root opened pass walk fun _ => False := by
  rcases houtcome : walk.outcome pass with ⟨error | a, left⟩
  · refine .fails houtcome (fun log => ?_) Course.Step.failed.run fun frame => by simp
    rw [outcome_step, houtcome]
  · refine .ends houtcome (fun log => ?_) .nil fun frame => by simp
    rw [outcome_step, houtcome, List.append_nil]

/-- A step makes no calls, so that all that are made are made after it. -/
theorem step_bind_keeps {walk : Walk α} {next : α → Logged β} {after : α → Walk β}
    {later : α → Pass → Frame → Prop}
    (hnext : ∀ a middle, walk.Gives pass a middle →
      (next a).Keeps limits sources root opened middle (after a) (later a middle)) :
    (step walk >>= next).Keeps limits sources root opened pass (walk >>= after) fun frame =>
      ∃ a middle, walk.Gives pass a middle ∧ later a middle frame :=
  ((step_keeps walk).bind hnext).congr fun _ => iff_of_eq (false_or _)

/-- A call may be made wherever it may begin. -/
theorem Keeps.call {frame : Pass → Frame} {body : Logged Markup} {walk : Walk Markup}
    (h : body.Keeps limits sources root (frame pass :: opened) pass walk made)
    (hbegins : (frame pass).Begins limits sources root opened)
    (hframe : (frame pass).outcome limits sources = walk.outcome pass) :
    (call frame body).Keeps limits sources root opened pass walk fun other =>
      other = frame pass ∨ made other := by
  cases h with
  | @fails error left events houtcome hlogged hrun hmade =>
    have hended : Course.Step limits sources root ⟨frame pass :: opened, some error⟩
        (.ended (frame pass) (.error error) left) ⟨opened, some error⟩ :=
      .unwound (hframe.trans houtcome)
    refine .fails houtcome (fun log => ?_) (.cons (.begun hbegins) (hrun.append hended.run))
      fun other => by simp [hmade]
    rw [outcome_call, hlogged]
    simp
  | @ends text left events hgives hlogged hrun hmade =>
    have houtcome := hframe.trans hgives
    have hended : Course.Step limits sources root ⟨frame pass :: opened, none⟩
        (.ended (frame pass) (.ok text) left) ⟨opened, none⟩ :=
      .returned houtcome (Frame.restores_of_outcome houtcome hbegins.bounded)
    refine .ends hgives (fun log => ?_) (.cons (.begun hbegins) (hrun.append hended.run))
      fun other => by simp [hmade]
    rw [outcome_call, hlogged]
    simp

private theorem Keeps.leaving {body : Logged Markup} {walk : Walk Markup}
    (h : body.Keeps limits sources root opened pass walk made) (id : PlaylistId) :
    (leaving id body).Keeps limits sources root opened pass (Content.leaving id walk) made := by
  cases h with
  | fails houtcome hlogged hrun hmade =>
    refine .fails (outcome_leaving_of_error houtcome) (fun log => ?_) hrun hmade
    rw [outcome_leaving, hlogged]
  | ends hgives hlogged hrun hmade =>
    refine .ends (leaving_gives_iff.mpr ⟨_, hgives, rfl⟩) (fun log => ?_) hrun hmade
    rw [outcome_leaving, hlogged]

end Logged

private theorem counted_within {u : Unit} {counted : Pass}
    (h : (countExpansion limits).Gives pass u counted) :
    counted.ancestors = pass.ancestors ∧ counted.expansions ≤ limits.maxExpansions := by
  obtain ⟨hbound, rfl⟩ := countExpansion_gives_iff.mp h
  exact ⟨rfl, hbound⟩

/-- Putting parts together keeps a log, if descending to the playlists among them does. -/
theorem expandLogged_keeps {levels : Nat} {kind : Fragment} {above : List PlaylistId}
    {logged : PlaylistId → Logged Markup} {descend : PlaylistId → Walk Markup} {parts : List Part}
    {made : PlaylistId → Pass → Frame → Prop}
    (hfollows : Follows limits sources true kind levels descend)
    (hdescend : ∀ id middle, .playlist id ∈ parts → middle.ancestors = above →
      middle.expansions ≤ limits.maxExpansions →
        (logged id).Keeps limits sources root opened middle (descend id) (made id middle))
    (habove : pass.ancestors = above) (hpass : pass.expansions ≤ limits.maxExpansions) :
    (expandLogged limits sources logged parts).Keeps limits sources root opened pass
      (expand limits sources descend parts)
      (Frame.IsMadeAmong limits sources descend made parts pass) := by
  induction parts generalizing pass with
  | nil => exact (Logged.pure_keeps []).congr fun _ => iff_of_false id Frame.not_isMadeAmong_nil
  | cons part parts ih =>
    have hrest (middle : Pass) := @ih middle fun id other hid =>
      hdescend id other (List.mem_cons_of_mem _ hid)
    cases part with
    | text markup =>
      exact ((hrest pass habove hpass).map _).congr fun _ => Frame.isMadeAmong_text_iff.symm
    | playlist id =>
      refine Logged.Keeps.congr ?_ fun _ => Frame.isMadeAmong_playlist_iff.symm
      refine Logged.step_bind_keeps fun _ counted hcount => ?_
      obtain ⟨hcounted, hbound⟩ := counted_within hcount
      have hinside := hcounted.trans habove
      refine (hdescend id counted List.mem_cons_self hinside hbound).bind
        fun inner middle hinner => ?_
      -- what is descended to restores the ancestors, so the other parts begin below the same ones
      obtain ⟨tree, -, -, hwithin, -, rfl⟩ := (hfollows _ _ _ _ hbound).mp hinner
      refine Logged.Keeps.map ?_ (inner ++ ·)
      exact hrest _ hinside hwithin.expansions
    | page url =>
      refine Logged.Keeps.congr ?_ fun _ => Frame.isMadeAmong_page_iff.symm
      refine Logged.step_bind_keeps fun _ counted hcount => ?_
      obtain ⟨hcounted, hbound⟩ := counted_within hcount
      refine Logged.step_bind_keeps fun inner middle hinner => ?_
      obtain ⟨-, rfl⟩ := access_gives_iff.mp hinner
      refine Logged.Keeps.map ?_ (inner ++ ·)
      exact hrest _ (hcounted.trans habove) hbound

/-- The markup of a playlist may be expanded once the playlist is entered and read. -/
theorem Frame.Begins.markup {call : Call} {levels : Nat} {kind : Fragment} {markup : Markup}
    {pass : Pass} (h : (Frame.resolving call).Begins limits sources root opened)
    (hlevels : call.levels = levels + 1) (hid : call.id ∉ call.pass.ancestors)
    (hstored : stored sources call.nested call.fragment call.id = .ok (markup, kind))
    (hpass : pass.ancestors = call.id :: call.pass.ancestors)
    (hbounded : pass.expansions ≤ limits.maxExpansions) :
    (Frame.expanding levels kind markup pass).Begins limits sources root
      (.resolving call :: opened) where
  made := .markup hstored
  ancestors := by rw [playlistsOf_resolving, ← h.ancestors]; exact hpass
  distinct := by
    rw [playlistsOf_resolving, List.nodup_cons, ← h.ancestors]
    exact ⟨hid, h.ancestors ▸ h.distinct⟩
  depth := by
    have hdepth := h.depth
    rw [Frame.levels, hlevels] at hdepth
    rw [playlistsOf_resolving, List.length_cons, Frame.levels]
    omega
  bounded := hbounded

/-- A playlist may be resolved where the markup that is expanded refers to it. -/
theorem Frame.Begins.reference {levels : Nat} {kind : Fragment} {markup : Markup}
    {parts : List Part} {above pass : Pass} {id : PlaylistId}
    (h : (Frame.expanding levels kind markup above).Begins limits sources root opened)
    (hparts : kind.parts markup = .ok parts) (hid : .playlist id ∈ parts)
    (hpass : pass.ancestors = above.ancestors) (hbounded : pass.expansions ≤ limits.maxExpansions) :
    (Frame.resolving ⟨levels, true, kind, id, pass⟩).Begins limits sources root
      (.expanding levels kind markup above :: opened) where
  made := .reference hparts hid
  ancestors := hpass.trans h.ancestors
  distinct := h.distinct
  depth := h.depth
  bounded := hbounded

/-- Resolving a playlist keeps a log wherever it may begin. -/
theorem resolveLogged_keeps {levels : Nat} {nested : Bool} {fragment : Fragment} {id : PlaylistId}
    (hbegins : (Frame.resolving ⟨levels, nested, fragment, id, pass⟩).Begins limits sources root
      opened) :
    (resolveLogged limits sources levels nested fragment id).Keeps limits sources root opened pass
      (resolveLocal limits sources levels nested fragment id)
      (Frame.IsMade limits sources ⟨levels, nested, fragment, id, pass⟩) := by
  -- each level adds the playlist and its markup to the open calls
  induction levels generalizing nested fragment id opened pass with
  | zero =>
    refine ((Logged.step_keeps _).call hbegins rfl).congr fun _ => ?_
    rw [Frame.isMade_zero_iff, or_false]
  | succ levels ih =>
    refine Logged.Keeps.congr ?_ fun _ => Frame.isMade_succ_iff.symm
    refine Logged.Keeps.call (Logged.step_bind_keeps fun _ entered henter => ?_) hbegins rfl
    obtain ⟨hid, rfl⟩ := enter_gives_iff.mp henter
    refine Logged.step_bind_keeps fun found loaded hload => ?_
    obtain ⟨markup, kind⟩ := found
    obtain ⟨hstored, hloaded⟩ := load_gives_iff.mp hload
    have hinside : loaded.ancestors = id :: pass.ancestors := by rw [hloaded]
    have hbounded : loaded.expansions ≤ limits.maxExpansions := by
      rw [hloaded]
      exact hbegins.bounded
    have hexpanding := hbegins.markup rfl hid hstored hinside hbounded
    refine (Logged.Keeps.call ?_ hexpanding rfl).leaving id
    refine Logged.step_bind_keeps fun parts scanned hscan => ?_
    obtain ⟨hparts, rfl⟩ := Walk.gives_ofExcept_iff.mp hscan
    refine expandLogged_keeps (resolveLocal_follows limits sources levels true kind) ?_ rfl hbounded
    intro inner middle hinner hmiddle hexpansions
    exact ih (hexpanding.reference hparts hinner hmiddle hexpansions)

private theorem begins_root (limits : Limits) (sources : Sources) (fragment : Fragment)
    (id : PlaylistId) : (Frame.resolving (Call.root limits fragment id)).Begins limits sources
      (Call.root limits fragment id) [] :=
  ⟨.root, rfl, List.nodup_nil, rfl, Nat.zero_le _⟩

/-- The log misses no call, and tells of none that is not made: in it begin the call that resolves the
root, those that lead from one to another below it when nothing is logged, and the expansions that
these come to. -/
theorem begun_mem_log_iff (limits : Limits) (sources : Sources) (fragment : Fragment)
    (id : PlaylistId) (frame : Frame) :
    .begun frame ∈ ((resolveLogged limits sources (limits.maxDepth + 1) false fragment id).outcome
        .start []).2.2 ↔ frame.IsMade limits sources (Call.root limits fragment id) := by
  obtain ⟨answer, left, log, -, hlogged, -, hmade⟩ :=
    (resolveLogged_keeps (begins_root limits sources fragment id)).exists_log
  have houtcome : (resolveLogged limits sources (limits.maxDepth + 1) false fragment id).outcome
      .start [] = (answer, left, log) := hlogged
  rw [houtcome]
  exact hmade frame

/-- A resolution does the same with a log, in which its calls begin and end one within the other.
Whenever a call begins, the ancestors are the playlists that the open calls resolve, all of them
different, and as many as the call is levels deep; where markup is expanded, its own playlist is the
innermost of these. Whenever a call ends well, the ancestors are what they were when it began, and
all references in its expansion have been counted, no more than allowed. After an error no call
begins, and those that are open end with this error. -/
theorem pass_restored (limits : Limits) (sources : Sources) (fragment : Fragment)
    (id : PlaylistId) :
    let root := Call.root limits fragment id
    ∃ answer left log,
      (resolveLocal limits sources (limits.maxDepth + 1) false fragment id).outcome .start =
          (answer, left) ∧
        (resolveLogged limits sources (limits.maxDepth + 1) false fragment id).outcome .start [] =
          (answer, left, log) ∧
        log.getLast? = some (.ended (.resolving root) answer left) ∧ openAfter [] log = [] ∧
        (∀ front frame back, log = front ++ .begun frame :: back →
          frame.Begins limits sources root (openAfter [] front)) ∧
        (∀ front frame answer left back, log = front ++ .ended frame answer left :: back →
          (openAfter [] front).head? = some frame ∧
            frame.outcome limits sources = (answer, left) ∧
              ∀ text, answer = .ok text → frame.Restores limits sources left) ∧
        ∀ front event error back, log = front ++ event :: back → event.error? = some error →
          ∀ later ∈ back, ∃ frame left, later = .ended frame (.error error) left := by
  intro root
  obtain ⟨answer, left, log, houtcome, hlogged, ⟨last, hrun, hlast⟩, -⟩ :=
    (resolveLogged_keeps (begins_root limits sources fragment id)).exists_log
  rw [resolveLogged] at hlogged
  refine ⟨answer, left, log, houtcome, hlogged, Logged.getLast?_of_call hlogged,
    hrun.opened_eq.symm.trans hlast, ?_, ?_, ?_⟩
  · rintro front frame back rfl
    exact hrun.begins
  · rintro front frame answer left back rfl
    exact hrun.ends
  · rintro front event error back rfl herror later hlater
    exact hrun.eq_ended_of_error herror hlater

/-- A playlist that is referred to twice is not below itself the second time. -/
example :
    let markup (id : PlaylistId) := if id = ⟨1⟩ then "{ITEMS_2}{ITEMS_2}" else "<x/>"
    let outcome := (resolveLocal ⟨1, 2⟩ ⟨fun _ id => .ok (markup id).toList, fun _ => .ok []⟩
      2 false .items ⟨1⟩).outcome .start
    outcome.1.toOption = some "<x/><x/>".toList ∧ outcome.2.ancestors = [] ∧
      outcome.2.expansions = 2 := by
  decide +kernel

end Signage.Content
