import Signage.Proofs.Poll.Serving
import Signage.Proofs.Store.Administration
import Signage.Service.Context

/-!
A device that polls again and again. It asks with the date of the file that it was sent last, and
is told to keep that file as long as the file to be sent now is not newer.
-/
namespace Signage.Service
open Files Files.FileSystem Poll

/-- What can happen to a hub that a device polls. -/
inductive Event where
  | change (operation : Store.Operation)
  | poll (network : Network) (now : Calendar.Clock) (userAgent : String)

/-- A hub, and what a device of it has. -/
structure Session where
  state : State
  /-- The file of the last answer that sent one, and its path. -/
  held : Option (List Char × Opened)

namespace Session

/-- The date that the device sends along, as it came with the file that it has. -/
def since (session : Session) : Option (List Char) := do
  let (_, file) ← session.held
  let date ← (fileHeaders file).lookup "last-modified"
  return date.toList

/-- The device keeps the file of an answer that sends one, and what it has at any other answer. -/
def keep (held : Option (List Char × Opened)) : Response → Option (List Char × Opened)
  | .served path file => some (path, file)
  | _ => held

/-- The answer to a poll of the device, and the session after it. -/
def poll (dispatcher : Dispatcher) (network : Network) (now : Calendar.Clock)
    (userAgent : String) (session : Session) : Response × Session :=
  let (response, state) :=
    Service.poll dispatcher network now ⟨userAgent, session.since⟩ session.state
  (response, ⟨state, keep session.held response⟩)

def next (dispatcher : Dispatcher) (session : Session) : Event → Session
  | .change operation =>
    { session with state.tables := operation.apply session.state.tables }
  | .poll network now userAgent => (session.poll dispatcher network now userAgent).2

/-- The session of a device that had nothing when the events began. -/
def run (dispatcher : Dispatcher) (state : State) (events : List Event) : Session :=
  events.foldl (next dispatcher) ⟨state, none⟩

end Session

/-- The clock does not go back: each poll is answered at the second of the one before or later. -/
def Ordered : Int → List Event → Prop
  | _, [] => True
  | clock, .change _ :: events => Ordered clock events
  | clock, .poll _ now _ :: events => clock ≤ now.moment.seconds ∧ Ordered now.moment.seconds events

/-- The second of the last poll. -/
def clockAfter : Int → List Event → Int
  | clock, [] => clock
  | clock, .change _ :: events => clockAfter clock events
  | _, .poll _ now _ :: events => clockAfter now.moment.seconds events

/-- Whether an index can be published at a place. -/
def IsIndexPlace (directory : List Char) (start place : Location) : Prop :=
  ∃ player path, Index.indexPath directory player = .ok path ∧ place = (Path.ofText path).place start

/-- No index is newer than the clock. -/
def PublishedBy (directory : List Char) (clock : Int) (fs : FileSystem) : Prop :=
  ∀ place file, IsIndexPlace directory fs.workingDirectory place →
    fs.node? place = some (.file file) → file.modified.seconds ≤ clock

/-- What is at a path now is no older than the file that was sent from there. -/
def Succeeds (fs : FileSystem) (path : List Char) (sent : Opened) : Prop :=
  ∃ place, fs.locate (.ofText path) = .ok place ∧
    (fs.node? place = some .directory ∧ sent.bytes = .empty ∨
      ∃ file, fs.node? place = some (.file file) ∧ sent.modified.seconds ≤ file.modified.seconds)

section
variable {directory : List Char} {clock : Int} {now : Calendar.Moment} {fs fs' : FileSystem}

private theorem Publishes.keepsDirectories (h : Index.Publishes directory now fs fs') :
    fs.KeepsDirectories fs' := by
  rcases h with h | ⟨_, _, _, -, h⟩
  · exact h.keepsDirectories
  · exact h.keepsDirectories

private theorem Publishes.publishedBy (h : Index.Publishes directory now fs fs')
    (hp : PublishedBy directory clock fs) (hc : clock ≤ now.seconds) :
    PublishedBy directory now.seconds fs' := by
  intro place file hplace hfile
  rcases h with h | ⟨player, path, bytes, hpath, h⟩
  · rw [h.workingDirectory] at hplace
    exact (hp place file hplace (h.file_iff.mp hfile)).trans hc
  · rw [h.workingDirectory] at hplace
    by_cases he : place = (Path.ofText path).place fs.workingDirectory
    · rw [he, h.after] at hfile
      cases hfile
      exact le_refl _
    · rcases h.node place he with hn | ⟨-, hn⟩
      · exact (hp place file hplace (hn ▸ hfile)).trans hc
      · simp [hn] at hfile

private theorem Publishes.succeeds (h : Index.Publishes directory now fs fs')
    (hp : PublishedBy directory clock fs) (hc : clock ≤ now.seconds) {path : List Char}
    {sent : Opened} (hs : Succeeds fs path sent) : Succeeds fs' path sent := by
  have hdirectories := Publishes.keepsDirectories h
  obtain ⟨place, hl, ⟨hd, hempty⟩ | ⟨file, hfile, hle⟩⟩ := hs
  · exact ⟨place, hdirectories.locate hl, .inl ⟨hdirectories.directory place hd, hempty⟩⟩
  · refine ⟨place, hdirectories.locate hl, .inr ?_⟩
    rcases h with h | ⟨player, index, bytes, hindex, h⟩
    · exact ⟨file, h.file_iff.mpr hfile, hle⟩
    · by_cases he : place = (Path.ofText index).place fs.workingDirectory
      · refine ⟨⟨bytes, now⟩, he ▸ h.after, ?_⟩
        exact (hle.trans (hp place file ⟨player, index, hindex, he⟩ hfile)).trans hc
      · rcases h.node place he with hn | ⟨hn, -⟩
        · exact ⟨file, hn.trans hfile, hle⟩
        · rw [hn] at hfile
          cases hfile

private theorem succeeds_of_view {path : List Char} {sent : Opened}
    (h : fs.view (.ofText path) = .ok sent) : Succeeds fs path sent := by
  obtain ⟨place, hl, ⟨hd, rfl⟩ | ⟨file, hn, -, rfl⟩⟩ := view_eq_ok_iff.mp h
  · exact ⟨place, hl, .inl ⟨hd, rfl⟩⟩
  · exact ⟨place, hl, .inr ⟨file, hn, le_refl _⟩⟩

/-- What is opened where another file was sent from is no older, unless neither has any bytes. -/
private theorem Succeeds.view {path : List Char} {sent file : Opened} (hs : Succeeds fs path sent)
    (h : fs.view (.ofText path) = .ok file) :
    file.bytes = sent.bytes ∨ sent.modified.seconds ≤ file.modified.seconds := by
  obtain ⟨place, hl, hnode⟩ := hs
  obtain ⟨other, ho, hview⟩ := view_eq_ok_iff.mp h
  obtain rfl : place = other := Except.ok.inj (hl.symm.trans ho)
  rcases hnode with ⟨hd, hempty⟩ | ⟨found, hfound, hle⟩
  · rcases hview with ⟨-, rfl⟩ | ⟨other, hn, -⟩
    · exact .inl hempty.symm
    · simp [hd] at hn
  · rcases hview with ⟨hd, -⟩ | ⟨other, hn, -, rfl⟩
    · simp [hfound] at hd
    · rw [hfound] at hn
      cases hn
      exact .inr hle

private theorem publishedBy_of_forall
    (h : ∀ entry ∈ fs.nodes, ∀ file, entry.2 = .file file → file.modified.seconds ≤ clock) :
    PublishedBy directory clock fs := by
  intro place file _ hfile
  unfold node? at hfile
  split at hfile
  · cases hfile
  · obtain ⟨before, after, hnodes, -⟩ := List.lookup_eq_some_iff.mp hfile
    exact h (place, .file file) (by simp [hnodes]) file rfl

end

namespace Session
variable {dispatcher : Dispatcher} {clock : Int} {session : Session}

/-- What holds of a session at any time: indexes come from the clock, and where the file of the
device came from there is nothing older. -/
private structure Sound (directory : List Char) (clock : Int) (session : Session) : Prop where
  published : PublishedBy directory clock session.state.tree
  held : ∀ path file, session.held = some (path, file) → Succeeds session.state.tree path file

/-- A poll publishes one index at most, and what it is answered with was opened after that. -/
theorem poll_spec (dispatcher : Dispatcher) (network : Network) (now : Calendar.Clock)
    (userAgent : String) (session : Session) :
    let after := session.poll dispatcher network now userAgent
    Index.Publishes dispatcher.compiler.directory now.moment session.state.tree after.2.state.tree ∧
      after.2.held = keep session.held after.1 ∧
        (after.1 = .rejected ∨ after.1 = .fallback ∨ ∃ path file,
          after.2.state.tree.view (.ofText path) = .ok file ∧
            after.1 = answerWith path file session.since) := by
  obtain ⟨hpublishes, hresponse⟩ := dispatch_spec dispatcher Store.repository
    (sources network session.state.tables) now ⟨userAgent, session.since⟩ session.state.tables
    session.state.tree
  unfold poll Service.poll
  generalize dispatcher.dispatch _ _ _ _ _ _ = after at hpublishes hresponse ⊢
  exact ⟨hpublishes, rfl, hresponse⟩

private theorem sound_poll (h : Sound dispatcher.compiler.directory clock session)
    (network : Network) {now : Calendar.Clock} (userAgent : String) (hc : clock ≤ now.moment.seconds) :
    Sound dispatcher.compiler.directory now.moment.seconds
      (session.poll dispatcher network now userAgent).2 := by
  obtain ⟨hpublishes, hheld, hresponse⟩ := poll_spec dispatcher network now userAgent session
  generalize session.poll dispatcher network now userAgent = after at hpublishes hheld hresponse ⊢
  refine ⟨Publishes.publishedBy hpublishes h.published hc, fun path file hafter => ?_⟩
  have hkept (hk : session.held = some (path, file)) :=
    Publishes.succeeds hpublishes h.published hc (h.held path file hk)
  rw [hheld] at hafter
  rcases hresponse with hr | hr | ⟨opened, found, hview, hr⟩
  · rw [hr] at hafter
    exact hkept hafter
  · rw [hr] at hafter
    exact hkept hafter
  · rw [hr, answerWith] at hafter
    split at hafter
    · exact hkept hafter
    · cases hafter
      exact succeeds_of_view hview

private theorem sound_foldl {events : List Event}
    (h : Sound dispatcher.compiler.directory clock session) (ho : Ordered clock events) :
    Sound dispatcher.compiler.directory (clockAfter clock events)
      (events.foldl (next dispatcher) session) := by
  induction events generalizing clock session with
  | nil => exact h
  | cons event events ih =>
    cases event with
    | change operation =>
      have hnext : Sound dispatcher.compiler.directory clock
          (next dispatcher session (.change operation)) := ⟨h.published, h.held⟩
      exact ih hnext ho
    | poll network now userAgent => exact ih (sound_poll h network userAgent ho.1) ho.2

private theorem ordered_append {events more : List Event} :
    Ordered clock (events ++ more) ↔
      Ordered clock events ∧ Ordered (clockAfter clock events) more := by
  induction events generalizing clock with
  | nil => simp [Ordered, clockAfter]
  | cons event events ih =>
    cases event with
    | change operation => exact ih
    | poll network now userAgent =>
      exact (and_congr_right fun _ => ih).trans and_assoc.symm

private theorem since_eq (session : Session) :
    session.since = session.held.map fun sent => Calendar.httpDate sent.2.modified.seconds := by
  obtain ⟨state, _ | sent⟩ := session
  · rfl
  · simp [since, fileHeaders, List.lookup_cons]

/-- The device is told to keep its file, but what was opened for the answer is not the same. -/
def Misled (session : Session) : Response → Prop
  | .notModified _ file => ∀ sent ∈ session.held, sent.2.bytes ≠ file.bytes
  | _ => False

instance (session : Session) : (response : Response) → Decidable (session.Misled response)
  | .notModified _ file =>
    inferInstanceAs (Decidable (∀ sent ∈ session.held, sent.2.bytes ≠ file.bytes))
  | .rejected | .fallback | .served _ _ => inferInstanceAs (Decidable False)

private theorem misled_answerWith (session : Session) (path : List Char) (file : Opened) :
    session.Misled (answerWith path file session.since) ↔
      isCurrent file session.since = true ∧ ∀ sent ∈ session.held, sent.2.bytes ≠ file.bytes := by
  unfold answerWith
  split <;> simp [Misled, *]

/-- What was opened for an answer differs from what the device has, but its date does not tell: it
is another file that is not newer, or the same file published again within the second. -/
def Mistakable (session : Session) (response : Response) : Prop :=
  ∃ path file heldPath held, response.opened? = some (path, file) ∧
    session.held = some (heldPath, held) ∧ held.bytes ≠ file.bytes ∧
      Calendar.hasPlainYear held.modified.seconds ∧
        (path = heldPath ∧ file.modified.seconds = held.modified.seconds ∨
          path ≠ heldPath ∧ file.modified.seconds ≤ held.modified.seconds)

/-- After any run, a device is misled exactly if what is opened for it can be mistaken for what it
has. -/
theorem misled_iff_mistakable (dispatcher : Dispatcher) (state : State) (clock : Int)
    (events : List Event) (network : Network) (now : Calendar.Clock) (userAgent : String)
    (hp : PublishedBy dispatcher.compiler.directory clock state.tree)
    (ho : Ordered clock (events ++ [.poll network now userAgent])) :
    let session := run dispatcher state events
    let response := (session.poll dispatcher network now userAgent).1
    session.Misled response ↔ session.Mistakable response := by
  intro session response
  obtain ⟨hevents, hpoll⟩ := ordered_append.mp ho
  have hsound : Sound dispatcher.compiler.directory (clockAfter clock events) session :=
    sound_foldl ⟨hp, fun _ _ h => by cases h⟩ hevents
  obtain ⟨hpublishes, -, hresponse⟩ := poll_spec dispatcher network now userAgent session
  change response = _ ∨ response = _ ∨ (∃ path file, _ ∧ response = _) at hresponse
  rcases hresponse with hr | hr | ⟨path, file, hview, hr⟩
  · simp [Misled, Mistakable, hr, Response.opened?]
  · simp [Misled, Mistakable, hr, Response.opened?]
  · rw [hr, misled_answerWith, Mistakable, opened?_answerWith, since_eq]
    cases hheld : session.held with
    | none => simp [isCurrent]
    | some sent =>
      obtain ⟨heldPath, held⟩ := sent
      have hkept := hsound.held heldPath held hheld
      have holder : path = heldPath → file.bytes = held.bytes ∨
          held.modified.seconds ≤ file.modified.seconds := by
        rintro rfl
        exact (Publishes.succeeds hpublishes hsound.published hpoll.1 hkept).view hview
      simp only [Option.map_some, isCurrent_httpDate, Option.mem_some_iff, forall_eq']
      constructor
      · rintro ⟨⟨hyear, hle⟩, hne⟩
        refine ⟨path, file, heldPath, held, rfl, rfl, hne, hyear, ?_⟩
        by_cases hpath : path = heldPath
        · rcases holder hpath with hbytes | hge
          · exact absurd hbytes.symm hne
          · exact .inl ⟨hpath, le_antisymm hle hge⟩
        · exact .inr ⟨hpath, hle⟩
      · rintro ⟨_, _, _, _, ⟨⟩, ⟨⟩, hne, hyear, ⟨-, heq⟩ | ⟨-, hle⟩⟩
        · exact ⟨⟨hyear, heq.le⟩, hne⟩
        · exact ⟨⟨hyear, hle⟩, hne⟩

/-- A hub with a fixture for new players, and an older one for players under test. -/
def shelf : State where
  tables := .empty
  tree := .holding [(["shelf".toList], .directory),
    (["shelf".toList, "simulations".toList], .directory),
    (["shelf".toList, "unreleased.smil".toList],
      .file ⟨Index.bytesOf "<smil>wait</smil>".toList, .ofSeconds 200⟩),
    (["shelf".toList, "simulations".toList, "test_smil_ok.smil".toList],
      .file ⟨Index.bytesOf "<smil>test</smil>".toList, .ofSeconds 100⟩)]

def keeper : Dispatcher where
  compiler := ⟨"index".toList, ⟨4, 16⟩, fun _ => "\x7b\x7bplaylist.items\x7d\x7d".toList, ⟨"", ""⟩⟩
  fixtures := "shelf".toList
  outages := .none

def lobby : String :=
  "GAPI/1.0 (UUID:dev-1; NAME:Lobby) garlic-linux/v0.6.0.745 (MODEL:Garlic)"

def offline : Network := fun _ => .unreachable ""

/-- A new player is put under test. -/
def putUnderTest : List Event :=
  [.poll offline (.ofSeconds 300) lobby, .change (.give "dev-1" (.status .testSmilOk))]

/-- A device that is put under test keeps the file for new players. -/
theorem misled_by_older_fixture :
    let session := run keeper shelf putUnderTest
    session.Misled (session.poll keeper offline (.ofSeconds 360) lobby).1 := by
  decide +kernel

private theorem publishedBy_shelf : PublishedBy keeper.compiler.directory 300 shelf.tree := by
  apply publishedBy_of_forall
  intro entry hentry file hfile
  simp only [shelf, holding, List.mem_cons, List.not_mem_nil, or_false] at hentry
  rcases hentry with rfl | rfl | rfl | rfl
  · cases hfile
  · cases hfile
  · cases hfile
    decide
  · cases hfile
    decide

theorem mistakable_older_fixture :
    let session := run keeper shelf putUnderTest
    PublishedBy keeper.compiler.directory 300 shelf.tree ∧
      Ordered 300 (putUnderTest ++ [.poll offline (.ofSeconds 360) lobby]) ∧
        session.Mistakable (session.poll keeper offline (.ofSeconds 360) lobby).1 := by
  have ho : Ordered 300 (putUnderTest ++ [.poll offline (.ofSeconds 360) lobby]) := by
    simp [putUnderTest, Ordered, Calendar.Clock.ofSeconds, Calendar.Moment.ofSeconds]
  refine ⟨publishedBy_shelf, ho, ?_⟩
  exact (misled_iff_mistakable keeper shelf 300 putUnderTest offline (.ofSeconds 360) lobby
    publishedBy_shelf ho).mp (by decide +kernel)

/-- The content of a released player changes within the second in which its index was sent. -/
def changeAtOnce : List Event :=
  [.change (.create "news" .master 10), .poll offline (.ofSeconds 300) lobby,
    .change (.give "dev-1" (.playlist ⟨1⟩)), .change (.give "dev-1" (.status .released)),
    .change (.setContent ⟨1⟩ ⟨"<a/>", "", ""⟩), .poll offline (.ofSeconds 300) lobby,
    .change (.setContent ⟨1⟩ ⟨"<b/>", "", ""⟩)]

example :
    let session := run keeper shelf changeAtOnce
    session.Misled (session.poll keeper offline (.ofSeconds 300) lobby).1 := by
  decide +kernel

end Session
end Signage.Service
