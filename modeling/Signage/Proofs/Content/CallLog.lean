import Signage.Proofs.Content.Calls

/-!
A log of the calls of a resolution, in the order in which they begin and end. The resolution is made
once more with a log, in which nothing is read back. Of each log it is asked that it goes from state
to state: which calls are open, and whether anything has failed, decides what may be noted next. And
it is asked which calls begin in it: those that lead to one another in the resolution without a log.
-/
namespace Signage.Content
variable {α β : Type}

/-- A call, with the pass it begins with. -/
inductive Frame where
  /-- A playlist is resolved. -/
  | resolving (call : Call)
  /-- The markup of a playlist is expanded, with so many levels left for what it refers to. -/
  | expanding (levels : Nat) (kind : Fragment) (markup : Markup) (pass : Pass)

namespace Frame

@[simp] def pass : Frame → Pass
  | resolving call => call.pass
  | expanding _ _ _ pass => pass

@[simp] def levels : Frame → Nat
  | resolving call => call.levels
  | expanding levels _ _ _ => levels

/-- The playlist that the call resolves, if it does. -/
@[simp] def id? : Frame → Option PlaylistId
  | resolving call => some call.id
  | expanding _ _ _ _ => none

end Frame

/-- The playlists that are resolved by calls, the innermost first. -/
def playlistsOf (opened : List Frame) : List PlaylistId := opened.filterMap Frame.id?

/-- A call that resolves a playlist puts it before those of the calls around it. -/
@[simp] theorem playlistsOf_resolving (call : Call) (opened : List Frame) :
    playlistsOf (.resolving call :: opened) = call.id :: playlistsOf opened := rfl

/-- What is noted in a log. -/
inductive Event where
  /-- A call begins. -/
  | begun (frame : Frame)
  /-- Something that is done in a call fails. -/
  | failed (error : Error)
  /-- A call ends with an answer and leaves a pass behind. -/
  | ended (frame : Frame) (answer : Except Error Markup) (pass : Pass)

def Event.error? : Event → Option Error
  | begun _ => none
  | failed error => some error
  | ended _ (.error error) _ => some error
  | ended _ (.ok _) _ => none

/-- The calls that are open after events, if some are open before; a call that ends is taken to be
the innermost one. -/
def openAfter : List Frame → List Event → List Frame
  | opened, [] => opened
  | opened, .begun frame :: events => openAfter (frame :: opened) events
  | opened, .failed _ :: events => openAfter opened events
  | opened, .ended _ _ _ :: events => openAfter opened.tail events

/-- A walk that also writes a log. -/
abbrev Logged := ExceptT Error (StateM (Pass × List Event))

namespace Logged

/-- What the walk answers, which pass it leaves behind, and what the log has become. -/
def outcome (logged : Logged α) (pass : Pass) (log : List Event) :
    Except Error α × Pass × List Event :=
  logged.run.run (pass, log)

def note (event : Event) : Logged Unit := modify fun (pass, log) => (pass, log ++ [event])

/-- Make a walk that makes no calls, and note its failure. -/
def step (walk : Walk α) : Logged α := do
  let (pass, log) ← get
  match walk.outcome pass with
  | (.ok a, pass) =>
    set (pass, log)
    return a
  | (.error error, pass) =>
    set (pass, log)
    note (.failed error)
    throw error

/-- Note that a call begins, and how it ends. -/
def call (frame : Pass → Frame) (body : Logged Markup) : Logged Markup := do
  let (pass, _) ← get
  note (.begun (frame pass))
  let answer ← ExceptT.lift body.run
  let (left, _) ← get
  note (.ended (frame pass) answer left)
  ExceptT.mk (pure answer)

/-- Be done with a playlist after the walk, also if that has failed. -/
def leaving (id : PlaylistId) (body : Logged Markup) : Logged Markup := do
  let resolved ← ExceptT.lift body.run
  step (leave id)
  ExceptT.mk (pure resolved)

end Logged

def expandLogged (limits : Limits) (sources : Sources) (descend : PlaylistId → Logged Markup) :
    List Part → Logged Markup
  | [] => return []
  | .text markup :: parts => do
    let rest ← expandLogged limits sources descend parts
    return markup ++ rest
  | .playlist id :: parts => do
    .step (countExpansion limits)
    let inner ← descend id
    let rest ← expandLogged limits sources descend parts
    return inner ++ rest
  | .page url :: parts => do
    .step (countExpansion limits)
    let inner ← .step (access (.page url) (sources.page url))
    let rest ← expandLogged limits sources descend parts
    return inner ++ rest

def expandMarkupLogged (limits : Limits) (sources : Sources)
    (descend : PlaylistId → Logged Markup) (levels : Nat) (fragment : Fragment)
    (markup : Markup) : Logged Markup :=
  .call (.expanding levels fragment markup) do
    let parts ← .step (ExceptT.mk (pure (fragment.parts markup)))
    expandLogged limits sources descend parts

def resolveLogged (limits : Limits) (sources : Sources) :
    (levels : Nat) → (nested : Bool) → Fragment → PlaylistId → Logged Markup
  | 0, nested, fragment, id =>
    .call (fun pass => .resolving ⟨0, nested, fragment, id, pass⟩)
      (.step (throw (nestedTooDeep id limits)))
  | levels + 1, nested, fragment, id =>
    .call (fun pass => .resolving ⟨levels + 1, nested, fragment, id, pass⟩) do
      .step (enter id)
      let (markup, fragment) ← .step (load sources nested fragment id)
      .leaving id (expandMarkupLogged limits sources
        (resolveLogged limits sources levels true fragment) levels fragment markup)

section
variable {pass : Pass} {log : List Event}

/-- A logged walk goes on with what it has answered, with the pass and the log that it has left. -/
theorem Logged.outcome_bind (logged : Logged α) (next : α → Logged β) :
    (logged >>= next).outcome pass log =
      match logged.outcome pass log with
      | (.ok a, middle, log) => (next a).outcome middle log
      | (.error error, middle, log) => (.error error, middle, log) := by
  simp only [outcome, ExceptT.run_bind, StateT.run_bind]
  rcases logged.run.run (pass, log) with ⟨answer | answer, middle⟩ <;> rfl

/-- A step takes the course of its walk, and only its failure is noted. -/
theorem Logged.outcome_step (walk : Walk α) :
    (step walk).outcome pass log =
      match walk.outcome pass with
      | (.ok a, pass) => (.ok a, pass, log)
      | (.error error, pass) => (.error error, pass, log ++ [.failed error]) := by
  have hget : (step walk).outcome pass log = Logged.outcome
      (match walk.outcome pass with
      | (.ok a, left) => do set (left, log); return a
      | (.error error, left) => do set (left, log); note (.failed error); throw error) pass log :=
    rfl
  rw [hget]
  rcases walk.outcome pass with ⟨error | a, left⟩ <;> rfl

/-- A call puts its beginning before what is noted in it, and its end behind that. -/
theorem Logged.outcome_call (frame : Pass → Frame) (body : Logged Markup) :
    (call frame body).outcome pass log =
      match body.outcome pass (log ++ [.begun (frame pass)]) with
      | (answer, left, log) => (answer, left, log ++ [.ended (frame pass) answer left]) :=
  rfl

/-- The end of a call is what is noted last. -/
theorem Logged.getLast?_of_call {frame : Pass → Frame} {body : Logged Markup}
    {answer : Except Error Markup} {left : Pass} {log' : List Event}
    (h : (call frame body).outcome pass log = (answer, left, log')) :
    log'.getLast? = some (.ended (frame pass) answer left) := by
  rw [outcome_call] at h
  cases h
  exact List.getLast?_concat

/-- A playlist is left without a note, whatever has become of it. -/
theorem Logged.outcome_leaving (id : PlaylistId) (body : Logged Markup) :
    (leaving id body).outcome pass log =
      match body.outcome pass log with
      | (answer, left, log) => (answer, { left with ancestors := left.ancestors.erase id }, log) :=
  rfl

end

/-- The call enters its playlist, reads markup, and begins to expand it with the pass that is left. -/
structure Call.Opens (sources : Sources) (call : Call) (levels : Nat) (kind : Fragment)
    (markup : Markup) (loaded : Pass) : Prop where
  levels_eq : call.levels = levels + 1
  loads : ∃ entered, (enter call.id).Gives call.pass () entered ∧
    (load sources call.nested call.fragment call.id).Gives entered (markup, kind) loaded

/-- The call is made when the first one is: calls invoke one another down to it, or to the one that
expands its markup. -/
inductive Frame.IsMade (limits : Limits) (sources : Sources) (root : Call) : Frame → Prop
  | resolving {call : Call}
      (hcalls : Relation.ReflTransGen (Call.Invokes limits sources) root call) :
      IsMade limits sources root (.resolving call)
  | expanding {call : Call} {levels : Nat} {kind : Fragment} {markup : Markup} {loaded : Pass}
      (hcalls : Relation.ReflTransGen (Call.Invokes limits sources) root call)
      (hopens : call.Opens sources levels kind markup loaded) :
      IsMade limits sources root (.expanding levels kind markup loaded)

/-- When a call is made, so are the expansion that it comes to and all that is made for the calls that
it invokes. -/
theorem Frame.isMade_iff {limits : Limits} {sources : Sources} {call : Call} {frame : Frame} :
    frame.IsMade limits sources call ↔ frame = .resolving call ∨
      (∃ levels kind markup loaded, call.Opens sources levels kind markup loaded ∧
        frame = .expanding levels kind markup loaded) ∨
      ∃ callee, call.Invokes limits sources callee ∧ frame.IsMade limits sources callee := by
  constructor
  · rintro (hcalls | ⟨hcalls, hopens⟩)
    · rcases hcalls.cases_head with rfl | ⟨callee, hcall, hcalls⟩
      · exact .inl rfl
      · exact .inr (.inr ⟨callee, hcall, .resolving hcalls⟩)
    · rcases hcalls.cases_head with rfl | ⟨callee, hcall, hcalls⟩
      · exact .inr (.inl ⟨_, _, _, _, hopens, rfl⟩)
      · exact .inr (.inr ⟨callee, hcall, .expanding hcalls hopens⟩)
  · rintro (rfl | ⟨levels, kind, markup, loaded, hopens, rfl⟩ |
      ⟨callee, hcall, hcalls | ⟨hcalls, hopens⟩⟩)
    · exact .resolving .refl
    · exact .expanding .refl hopens
    · exact .resolving (.head hcall hcalls)
    · exact .expanding (.head hcall hcalls) hopens

/-- Putting a part in its place leads from one pass to another. -/
def Part.Leads (limits : Limits) (sources : Sources) (descend : PlaylistId → Walk Markup) :
    Part → Pass → Pass → Prop
  | .text _, pass, middle => middle = pass
  | .playlist id, pass, middle => ∃ counted inner, (countExpansion limits).Gives pass () counted ∧
      (descend id).Gives counted inner middle
  | .page url, pass, middle => ∃ counted inner, (countExpansion limits).Gives pass () counted ∧
      (access (.page url) (sources.page url)).Gives counted inner middle

/-- The call is made for a playlist among the parts, after those before it have been put together. -/
def Frame.IsMadeAmong (limits : Limits) (sources : Sources) (descend : PlaylistId → Walk Markup)
    (made : PlaylistId → Pass → Frame → Prop) (parts : List Part) (pass : Pass) (frame : Frame) :
    Prop :=
  ∃ front inner back text reached counted, parts = front ++ .playlist inner :: back ∧
    (expand limits sources descend front).Gives pass text reached ∧
      (countExpansion limits).Gives reached () counted ∧ made inner counted frame

section
variable {limits : Limits} {sources : Sources} {descend : PlaylistId → Walk Markup}
  {made : PlaylistId → Pass → Frame → Prop} {part : Part} {parts : List Part} {pass reached : Pass}
  {frame : Frame}

private theorem expand_cons_gives_iff :
    (∃ text, (expand limits sources descend (part :: parts)).Gives pass text reached) ↔
      ∃ middle, part.Leads limits sources descend pass middle ∧
        ∃ rest, (expand limits sources descend parts).Gives middle rest reached := by
  cases part <;> simp only [expand, Walk.gives_bind_iff, Walk.gives_pure_iff, Part.Leads]
  · constructor
    · rintro ⟨_, rest, _, hrest, -, rfl⟩
      exact ⟨pass, rfl, rest, hrest⟩
    · rintro ⟨_, rfl, rest, hrest⟩
      exact ⟨_, rest, _, hrest, rfl, rfl⟩
  all_goals
    constructor
    · rintro ⟨_, _, counted, hcount, inner, middle, hinner, rest, _, hrest, -, rfl⟩
      exact ⟨middle, ⟨counted, inner, hcount, hinner⟩, rest, hrest⟩
    · rintro ⟨middle, ⟨counted, inner, hcount, hinner⟩, rest, hrest⟩
      exact ⟨_, (), counted, hcount, inner, middle, hinner, rest, _, hrest, rfl, rfl⟩

theorem Frame.not_isMadeAmong_nil : ¬ frame.IsMadeAmong limits sources descend made [] pass := by
  rintro ⟨front, inner, back, -, -, -, hparts, -⟩
  cases front <;> cases hparts

private theorem Frame.isMadeAmong_cons_iff :
    frame.IsMadeAmong limits sources descend made (part :: parts) pass ↔
      (∃ id counted, part = .playlist id ∧ (countExpansion limits).Gives pass () counted ∧
        made id counted frame) ∨
      ∃ middle, part.Leads limits sources descend pass middle ∧
        frame.IsMadeAmong limits sources descend made parts middle := by
  constructor
  · rintro ⟨front, inner, back, text, reached, counted, hparts, hfront, hcount, hmade⟩
    cases front with
    | nil =>
      obtain ⟨rfl, rfl⟩ := List.cons.inj hparts
      obtain ⟨-, rfl⟩ := Walk.gives_pure_iff.mp hfront
      exact .inl ⟨inner, counted, rfl, hcount, hmade⟩
    | cons first front =>
      obtain ⟨rfl, rfl⟩ := List.cons.inj hparts
      obtain ⟨middle, hleads, rest, hrest⟩ := expand_cons_gives_iff.mp ⟨text, hfront⟩
      exact .inr ⟨middle, hleads, front, inner, back, rest, reached, counted, rfl, hrest, hcount, hmade⟩
  · rintro (⟨id, counted, rfl, hcount, hmade⟩ |
      ⟨middle, hleads, front, inner, back, rest, reached, counted, rfl, hrest, hcount, hmade⟩)
    · exact ⟨[], id, parts, [], pass, counted, rfl, Walk.gives_pure_iff.mpr ⟨rfl, rfl⟩, hcount, hmade⟩
    · obtain ⟨text, hfront⟩ := expand_cons_gives_iff.mpr ⟨middle, hleads, rest, hrest⟩
      exact ⟨part :: front, inner, back, text, reached, counted, rfl, hfront, hcount, hmade⟩

/-- Text calls for nothing. -/
theorem Frame.isMadeAmong_text_iff {markup : Markup} :
    frame.IsMadeAmong limits sources descend made (.text markup :: parts) pass ↔
      frame.IsMadeAmong limits sources descend made parts pass := by
  simp [isMadeAmong_cons_iff, Part.Leads]

/-- What is made for a playlist comes first, and if that ends well, what is made for the parts
behind it. -/
theorem Frame.isMadeAmong_playlist_iff {id : PlaylistId} :
    frame.IsMadeAmong limits sources descend made (.playlist id :: parts) pass ↔
      ∃ u counted, (countExpansion limits).Gives pass u counted ∧ (made id counted frame ∨
        ∃ inner middle, (descend id).Gives counted inner middle ∧
          frame.IsMadeAmong limits sources descend made parts middle) := by
  rw [isMadeAmong_cons_iff]
  constructor
  · rintro (⟨_, counted, hid, hcount, hmade⟩ | ⟨middle, ⟨counted, inner, hcount, hinner⟩, hrest⟩)
    · cases hid
      exact ⟨(), counted, hcount, .inl hmade⟩
    · exact ⟨(), counted, hcount, .inr ⟨inner, middle, hinner, hrest⟩⟩
  · rintro ⟨_, counted, hcount, hmade | ⟨inner, middle, hinner, hrest⟩⟩
    · exact .inl ⟨id, counted, rfl, hcount, hmade⟩
    · exact .inr ⟨middle, ⟨counted, inner, hcount, hinner⟩, hrest⟩

/-- A page is read without a call. -/
theorem Frame.isMadeAmong_page_iff {url : List Char} :
    frame.IsMadeAmong limits sources descend made (.page url :: parts) pass ↔
      ∃ u counted, (countExpansion limits).Gives pass u counted ∧
        ∃ inner middle, (access (.page url) (sources.page url)).Gives counted inner middle ∧
          frame.IsMadeAmong limits sources descend made parts middle := by
  rw [isMadeAmong_cons_iff]
  constructor
  · rintro (⟨_, _, hid, -⟩ | ⟨middle, ⟨counted, inner, hcount, hinner⟩, hrest⟩)
    · cases hid
    · exact ⟨(), counted, hcount, inner, middle, hinner, hrest⟩
  · rintro ⟨_, counted, hcount, inner, middle, hinner, hrest⟩
    exact .inr ⟨middle, ⟨counted, inner, hcount, hinner⟩, hrest⟩

end

/-- Without levels nothing is made but the call itself. -/
theorem Frame.isMade_zero_iff {limits : Limits} {sources : Sources} {frame : Frame} {nested : Bool}
    {fragment : Fragment} {id : PlaylistId} {pass : Pass} :
    frame.IsMade limits sources ⟨0, nested, fragment, id, pass⟩ ↔
      frame = .resolving ⟨0, nested, fragment, id, pass⟩ := by
  rw [isMade_iff, or_iff_left]
  rintro (⟨_, _, _, _, hopens, -⟩ | ⟨callee, hcall, -⟩)
  · cases hopens.levels_eq
  · cases hcall.levels_eq

/-- Otherwise it enters its playlist, reads the markup and expands it, and what is made for the parts
of that is made. -/
theorem Frame.isMade_succ_iff {limits : Limits} {sources : Sources} {frame : Frame} {levels : Nat}
    {nested : Bool} {fragment : Fragment} {id : PlaylistId} {pass : Pass} :
    frame.IsMade limits sources ⟨levels + 1, nested, fragment, id, pass⟩ ↔
      frame = .resolving ⟨levels + 1, nested, fragment, id, pass⟩ ∨
      ∃ u entered, (enter id).Gives pass u entered ∧ ∃ found loaded,
        (load sources nested fragment id).Gives entered found loaded ∧
          (frame = .expanding levels found.2 found.1 loaded ∨ ∃ parts scanned,
            Walk.Gives (ExceptT.mk (pure (found.2.parts found.1))) loaded parts scanned ∧
              frame.IsMadeAmong limits sources (resolveLocal limits sources levels true found.2)
                (fun inner counted => IsMade limits sources ⟨levels, true, found.2, inner, counted⟩)
                parts scanned) := by
  rw [isMade_iff]
  refine or_congr_right ⟨?_, ?_⟩
  · rintro (⟨_, kind, markup, loaded, ⟨hlevels, entered, henter, hload⟩, rfl⟩ | ⟨callee, hcall, hmade⟩)
    · cases hlevels
      exact ⟨(), entered, henter, (markup, kind), loaded, hload, .inl rfl⟩
    · cases hcall with
      | @reference _ markup _ kind _ loaded _ _ _ _ _ hlevels henter hload hparts hfront hcount =>
        cases hlevels
        refine ⟨(), _, henter, (markup, kind), loaded, hload, .inr ?_⟩
        exact ⟨_, loaded, Walk.gives_ofExcept_iff.mpr ⟨hparts, rfl⟩, _, _, _, _, _, _, rfl, hfront,
          hcount, hmade⟩
  · rintro ⟨_, entered, henter, ⟨markup, kind⟩, loaded, hload, rfl | ⟨parts, scanned, hscan, hmade⟩⟩
    · exact .inl ⟨levels, kind, markup, loaded, ⟨rfl, entered, henter, hload⟩, rfl⟩
    · obtain ⟨hparts, rfl⟩ := Walk.gives_ofExcept_iff.mp hscan
      obtain ⟨front, inner, back, text, reached, counted, rfl, hfront, hcount, hmade⟩ := hmade
      exact .inr ⟨_, .reference rfl henter hload hparts hfront hcount, hmade⟩

/-- The call is the first one, or it is made by the innermost of those that are open. -/
inductive Frame.MadeBelow (sources : Sources) (root : Call) : List Frame → Frame → Prop
  | root : MadeBelow sources root [] (.resolving root)
  | markup {call : Call} {opened : List Frame} {levels : Nat} {kind : Fragment} {markup : Markup}
      {pass : Pass}
      (hstored : stored sources call.nested call.fragment call.id = .ok (markup, kind)) :
      MadeBelow sources root (.resolving call :: opened) (.expanding levels kind markup pass)
  | reference {levels below : Nat} {kind : Fragment} {markup : Markup} {parts : List Part}
      {above pass : Pass} {opened : List Frame} {id : PlaylistId}
      (hparts : kind.parts markup = .ok parts) (hid : .playlist id ∈ parts) :
      MadeBelow sources root (.expanding levels kind markup above :: opened)
        (.resolving ⟨below, true, kind, id, pass⟩)

/-- What holds when a call begins below those that are open. The ancestors are the playlists that
these resolve, all of them different, and so many levels are used up. -/
structure Frame.Begins (limits : Limits) (sources : Sources) (root : Call) (opened : List Frame)
    (frame : Frame) : Prop where
  made : frame.MadeBelow sources root opened
  ancestors : frame.pass.ancestors = playlistsOf opened
  distinct : (playlistsOf opened).Nodup
  depth : frame.levels + (playlistsOf opened).length = limits.maxDepth + 1
  bounded : frame.pass.expansions ≤ limits.maxExpansions

/-- What the call answers and which pass it leaves behind. -/
def Frame.outcome (limits : Limits) (sources : Sources) : Frame → Except Error Markup × Pass
  | resolving call =>
    (resolveLocal limits sources call.levels call.nested call.fragment call.id).outcome call.pass
  | expanding levels kind markup pass =>
    (expandMarkup limits sources (resolveLocal limits sources levels true kind) kind
      markup).outcome pass

/-- The trees are those of the references in the markup that the call resolves or expands. -/
def Frame.ExpandsTo (sources : Sources) (forest : Forest) : Frame → Prop
  | resolving call => ∃ markup kind,
      stored sources call.nested call.fragment call.id = .ok (markup, kind) ∧
        forest.Expands sources kind (kind.followed (Text.pieces placeholderRule markup))
  | expanding _ kind markup _ =>
      forest.Expands sources kind (kind.followed (Text.pieces placeholderRule markup))

/-- What holds when a call ends well and leaves a pass behind. The ancestors are what they were when
it began, and every reference in its expansion has been counted. -/
structure Frame.Restores (limits : Limits) (sources : Sources) (frame : Frame) (left : Pass) :
    Prop where
  ancestors : left.ancestors = frame.pass.ancestors
  expansions : ∃ forest : Forest, frame.ExpandsTo sources forest ∧
    left.expansions = frame.pass.expansions + forest.count
  bounded : left.expansions ≤ limits.maxExpansions

/-- Where a log has come to: the calls that are open, and the error if anything has failed. -/
structure Course where
  opened : List Frame
  failure : Option Error

namespace Course
variable (limits : Limits) (sources : Sources) (root : Call)

/-- What may be noted. Once something has failed, this is only that the open calls end with the same
error, the innermost first. -/
inductive Step : Course → Event → Course → Prop
  | begun {opened : List Frame} {frame : Frame}
      (hbegins : frame.Begins limits sources root opened) :
      Step ⟨opened, none⟩ (.begun frame) ⟨frame :: opened, none⟩
  | failed {opened : List Frame} {error : Error} :
      Step ⟨opened, none⟩ (.failed error) ⟨opened, some error⟩
  | returned {opened : List Frame} {frame : Frame} {text : Markup} {left : Pass}
      (houtcome : frame.outcome limits sources = (.ok text, left))
      (hrestores : frame.Restores limits sources left) :
      Step ⟨frame :: opened, none⟩ (.ended frame (.ok text) left) ⟨opened, none⟩
  | unwound {opened : List Frame} {frame : Frame} {error : Error} {left : Pass}
      (houtcome : frame.outcome limits sources = (.error error, left)) :
      Step ⟨frame :: opened, some error⟩ (.ended frame (.error error) left) ⟨opened, some error⟩

/-- What may be noted one after the other. -/
inductive Run : Course → List Event → Course → Prop
  | nil {course : Course} : Run course [] course
  | cons {course middle last : Course} {event : Event} {events : List Event}
      (hstep : Step limits sources root course event middle)
      (hrun : Run middle events last) : Run course (event :: events) last

end Course

section
variable {limits : Limits} {sources : Sources} {root : Call} {course middle last : Course}
  {events more : List Event}

/-- Runs follow one another. -/
theorem Course.Run.append (h : Run limits sources root course events middle)
    (h' : Run limits sources root middle more last) :
    Run limits sources root course (events ++ more) last := by
  induction h with
  | nil => exact h'
  | cons hstep _ ih => exact .cons hstep (ih h')

/-- A step is a run by itself. -/
theorem Course.Step.run {event : Event} (h : Step limits sources root course event middle) :
    Run limits sources root course [event] middle :=
  .cons h .nil

/-- A run up to one of its events, this event, and the rest. -/
theorem Course.Run.split {event : Event}
    (h : Run limits sources root course (events ++ event :: more) last) :
    ∃ before after, Run limits sources root course events before ∧
      Step limits sources root before event after ∧ Run limits sources root after more last := by
  induction events generalizing course with
  | nil =>
    cases h with
    | cons hstep hrun => exact ⟨_, _, .nil, hstep, hrun⟩
  | cons first events ih =>
    cases h with
    | cons hstep hrun =>
      obtain ⟨before, after, hbefore, hevent, hafter⟩ := ih hrun
      exact ⟨before, after, .cons hstep hbefore, hevent, hafter⟩

/-- The calls that are open at the end of a run are told by its events alone. -/
theorem Course.Run.opened_eq (h : Run limits sources root course events last) :
    last.opened = openAfter course.opened events := by
  induction h with
  | nil => rfl
  | cons hstep _ ih =>
    rw [ih]
    cases hstep <;> rfl

/-- After a failure nothing is noted but ends with the same error. -/
theorem Course.Run.eq_ended_of_failure {error : Error} {later : Event}
    (h : Run limits sources root course events last) (hfailure : course.failure = some error)
    (hlater : later ∈ events) : ∃ frame left, later = .ended frame (.error error) left := by
  induction h with
  | nil => cases hlater
  | cons hstep _ ih =>
    cases hstep with
    | begun => cases hfailure
    | failed => cases hfailure
    | returned => cases hfailure
    | unwound =>
      rcases List.mem_cons.mp hlater with rfl | hlater
      · cases hfailure
        exact ⟨_, _, rfl⟩
      · exact ih hfailure hlater

/-- Whatever begins in a run may begin below the calls that are open then. -/
theorem Course.Run.begins {frame : Frame}
    (h : Run limits sources root course (events ++ .begun frame :: more) last) :
    frame.Begins limits sources root (openAfter course.opened events) := by
  obtain ⟨before, after, hbefore, hstep, -⟩ := h.split
  rw [← hbefore.opened_eq]
  cases hstep with
  | begun hbegins => exact hbegins

/-- The call that ends is the innermost of those that are open. -/
theorem Course.Run.ends {frame : Frame} {answer : Except Error Markup} {left : Pass}
    (h : Run limits sources root course (events ++ .ended frame answer left :: more) last) :
    (openAfter course.opened events).head? = some frame ∧
      frame.outcome limits sources = (answer, left) ∧
        ∀ text, answer = .ok text → frame.Restores limits sources left := by
  obtain ⟨before, after, hbefore, hstep, -⟩ := h.split
  rw [← hbefore.opened_eq]
  cases hstep with
  | returned houtcome hrestores => exact ⟨rfl, houtcome, fun _ _ => hrestores⟩
  | unwound houtcome =>
    refine ⟨rfl, houtcome, fun _ hanswer => ?_⟩
    cases hanswer

/-- After an error nothing is noted but that calls end with the same error. -/
theorem Course.Run.eq_ended_of_error {event later : Event} {error : Error}
    (h : Run limits sources root course (events ++ event :: more) last)
    (herror : event.error? = some error) (hlater : later ∈ more) :
    ∃ frame left, later = .ended frame (.error error) left := by
  obtain ⟨before, after, -, hstep, hafter⟩ := h.split
  refine hafter.eq_ended_of_failure ?_ hlater
  cases hstep with
  | begun => cases herror
  | failed => exact herror
  | returned => cases herror
  | unwound => exact herror

end
end Signage.Content
