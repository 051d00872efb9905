import Signage.Poll.Dispatch
import Signage.Proofs.Calendar.HeaderDates
import Signage.Proofs.Index.Publication

/-!
How a poll is served: which file is opened for the answer, and what has been published for it
before.
-/
namespace Signage.Files.FileSystem

/-- What is opened is a directory or a file as it lies at the place of the path. -/
theorem view_eq_ok_iff {fs : FileSystem} {path : Path} {opened : Opened} :
    fs.view path = .ok opened ↔ ∃ place, fs.locate path = .ok place ∧
      (fs.node? place = some .directory ∧ opened = (fs.attributes place).opened ∨
        ∃ file, fs.node? place = some (.file file) ∧ path.wantsDirectory = false ∧
          opened = file.opened) := by
  unfold view
  cases hf : fs.find path with
  | error fault =>
    simp only [bind, Except.bind, reduceCtorEq, false_iff]
    rintro ⟨place, hl, ⟨hn, -⟩ | ⟨file, hn, hw, -⟩⟩
    · rw [find_eq_directory_iff.mpr ⟨place, hl, hn⟩] at hf
      cases hf
    · rw [find_eq_file_iff.mpr ⟨place, hl, hn, hw⟩] at hf
      cases hf
  | ok node =>
    cases node with
    | directory =>
      obtain ⟨place, hl, hn⟩ := find_eq_directory_iff.mp hf
      simp only [bind, Except.bind, hl, Except.ok.injEq, exists_eq_left', hn, true_and, reduceCtorEq,
        Option.some.injEq, false_and, exists_false, or_false, pure, Except.pure]
      exact eq_comm
    | file file =>
      obtain ⟨place, hl, hn, hw⟩ := find_eq_file_iff.mp hf
      simp only [bind, Except.bind, hl, Except.ok.injEq, exists_eq_left', hn, hw, true_and, reduceCtorEq,
        Option.some.injEq, Node.file.injEq, false_and, false_or, pure, Except.pure]
      exact eq_comm

end Signage.Files.FileSystem

namespace Signage.Index
open Files

/-- A publication has been made or tried: an index has come to its place, or nothing has come but
directories. -/
def Publishes (directory : List Char) (now : Calendar.Moment) (fs fs' : FileSystem) : Prop :=
  fs.Extends fs' ∨ ∃ player path bytes, indexPath directory player = .ok path ∧
    fs.Replaces fs' ((Path.ofText path).place fs.workingDirectory) ⟨bytes, now⟩

private theorem compile_leads (compiler : Compiler) (outages : Outages) (sources : Content.Sources)
    (now : Calendar.Clock) (player : Player) (fs : FileSystem) :
    (compiler.compile outages sources now player).Leads fs fun _ fs' =>
      Publishes compiler.directory now.moment fs fs' := by
  unfold Compiler.compile
  cases hp : indexPath compiler.directory player with
  | error error => exact Work.leads_throw (.inl (.refl fs))
  | ok path =>
    refine Work.leads_bind ((publish_leads outages now.moment path
      (compiler.document sources now.date player)).mono fun answer fs' h => ?_)
    rcases answer with error | outcome
    · exact .inl h
    · cases outcome with
      | written => exact Work.leads_pure (.inr ⟨player, path, _, hp, h⟩)
      | unchanged => exact Work.leads_pure (.inl (h ▸ .refl fs))
      | stale => exact Work.leads_pure (.inl (h ▸ .refl fs))

end Signage.Index

namespace Signage.Poll
open Files Index

/-- A header with the date of a file makes another file current that is not newer, unless the year
of the date has a sign. -/
theorem isCurrent_httpDate (file : Opened) (seconds : Int) :
    isCurrent file (some (Calendar.httpDate seconds)) = true ↔
      Calendar.hasPlainYear seconds ∧ file.modified.seconds ≤ seconds := by
  simp only [isCurrent, Option.bind_some, Calendar.trim_httpDate]
  by_cases h : Calendar.hasPlainYear seconds
  · simp [Calendar.readMailDate?_httpDate h, h]
  · simp [Calendar.readMailDate?_httpDate_eq_none h, h]

/-- A file has been opened, whether it is sent or not. -/
@[simp] theorem opened?_answerWith (path : List Char) (file : Opened) (since : Option (List Char)) :
    (answerWith path file since).opened? = some (path, file) := by
  unfold answerWith
  split <;> rfl

private theorem answer_leads (dispatcher : Dispatcher) (sources : Content.Sources)
    (now : Calendar.Clock) (since : Option (List Char)) (player : Player) (fs : FileSystem) :
    (dispatcher.answer sources now since player).Leads fs fun answer fs' =>
      Publishes dispatcher.compiler.directory now.moment fs fs' ∧
        ∀ response, answer = .ok response → ∃ path file,
          fs'.view (.ofText path) = .ok file ∧ response = answerWith path file since := by
  have hpath : (dispatcher.filePath sources now player).Leads fs fun _ fs' =>
      Publishes dispatcher.compiler.directory now.moment fs fs' := by
    unfold Dispatcher.filePath
    split
    · exact Work.leads_pure (.inl (.refl fs))
    · exact compile_leads _ _ _ _ _ fs
    · exact Work.leads_throw (.inl (.refl fs))
  unfold Dispatcher.answer
  refine Work.leads_bind (hpath.mono fun answer fs' hfs' => ?_)
  rcases answer with error | path
  · exact ⟨hfs', fun _ h => by cases h⟩
  · refine Work.leads_bind (Work.leads_tree ?_)
    dsimp only
    split
    · next response hr =>
      refine Work.leads_pure ⟨hfs', fun answered h => ?_⟩
      cases h
      unfold answerFrom at hr
      split at hr
      · next file hv =>
        cases hr
        exact ⟨path, file, hv, rfl⟩
      · cases hr
    · exact Work.leads_throw ⟨hfs', fun _ h => by cases h⟩

/-- A poll publishes one index at most, and answers with a file only if it has opened it. -/
theorem dispatch_spec {σ : Type} (dispatcher : Dispatcher) (repository : Repository σ)
    (sources : Content.Sources) (now : Calendar.Clock) (request : Request) (state : σ)
    (fs : FileSystem) :
    let after := dispatcher.dispatch repository sources now request state fs
    Publishes dispatcher.compiler.directory now.moment fs after.2.2 ∧
      (after.1 = .rejected ∨ after.1 = .fallback ∨ ∃ path file,
        after.2.2.view (.ofText path) = .ok file ∧
          after.1 = answerWith path file request.since) := by
  have hsame : Publishes dispatcher.compiler.directory now.moment fs fs := .inl (.refl fs)
  unfold Dispatcher.dispatch
  dsimp only
  split
  · split
    · next player state' _ =>
      have h := (answer_leads dispatcher sources now request.since player fs).on
      rcases ha : Work.on fs (dispatcher.answer sources now request.since player) with
        ⟨error | response, fs'⟩
      · rw [ha] at h
        exact ⟨h.1, .inr (.inl rfl)⟩
      · rw [ha] at h
        exact ⟨h.1, .inr (.inr (h.2 response rfl))⟩
    · exact ⟨hsame, .inr (.inl rfl)⟩
  · exact ⟨hsame, .inl rfl⟩

end Signage.Poll
