import Mathlib.Tactic.Basic
import Signage.Files.Work

/-!
How work on files ends when it begins with a given tree: what it answers, which tree it leaves
behind, and which trees it passes through. Each way of composing work has one rule for each of these.
-/
namespace Signage.Files.Work
variable {α β : Type} {fs : FileSystem}

/-- Begun with the tree, the work ends with an answer and a tree that fit together. -/
def Leads (work : Work α) (fs : FileSystem) (post : Except Error α → FileSystem → Prop) : Prop :=
  ∀ past, post (work.run.run ⟨fs, past⟩).1 (work.run.run ⟨fs, past⟩).2.current

/-- What work leads to holds of what it does to a tree. -/
theorem Leads.on {work : Work α} {post : Except Error α → FileSystem → Prop}
    (h : work.Leads fs post) : post (Work.on fs work).1 (Work.on fs work).2 := h []

/-- Work that leads to something leads to all that follows from it. -/
theorem Leads.mono {work : Work α} {post post' : Except Error α → FileSystem → Prop}
    (h : work.Leads fs post) (hp : ∀ answer fs', post answer fs' → post' answer fs') :
    work.Leads fs post' := fun past => hp _ _ (h past)

/-- Work that leads to two things leads to both at once. -/
theorem Leads.and {work : Work α} {post post' : Except Error α → FileSystem → Prop}
    (h : work.Leads fs post) (h' : work.Leads fs post') :
    work.Leads fs fun answer fs' => post answer fs' ∧ post' answer fs' :=
  fun past => ⟨h past, h' past⟩

/-- Without a step, an answer is given and the tree stays. -/
theorem leads_pure {post : Except Error α → FileSystem → Prop} {a : α} (h : post (.ok a) fs) :
    (pure a : Work α).Leads fs post := fun _ => h

/-- A failure leaves the tree as it is. -/
theorem leads_throw {post : Except Error α → FileSystem → Prop} {error : Error}
    (h : post (.error error) fs) : (throw error : Work α).Leads fs post := fun _ => h

private theorem run_bind (work : Work α) (next : α → Work β) (history : History) :
    (work >>= next).run.run history =
      match work.run.run history with
      | (.ok a, history) => (next a).run.run history
      | (.error error, history) => (.error error, history) := by
  simp only [ExceptT.run_bind, StateT.run_bind]
  rcases work.run.run history with ⟨answer | answer, history⟩ <;> rfl

private theorem run_tryCatch (work : Work α) (handler : Error → Work α) (history : History) :
    (tryCatch work handler).run.run history =
      match work.run.run history with
      | (.ok a, history) => (.ok a, history)
      | (.error error, history) => (handler error).run.run history := by
  change (ExceptT.tryCatch work handler).run.run history = _
  rw [ExceptT.tryCatch, ExceptT.run_mk, StateT.run_bind]
  change (work.run.run history >>= _) = _
  rcases work.run.run history with ⟨answer | answer, history⟩ <;> rfl

/-- Work goes on from what it has led to, unless it has failed. -/
theorem leads_bind {work : Work α} {next : α → Work β} {post : Except Error β → FileSystem → Prop}
    (h : work.Leads fs fun answer fs' =>
      match answer with
      | .ok a => (next a).Leads fs' post
      | .error error => post (.error error) fs') :
    (work >>= next).Leads fs post := by
  intro past
  have hp := h past
  rw [run_bind]
  rcases he : work.run.run ⟨fs, past⟩ with ⟨error | a, history⟩
  · simpa only [he] using hp
  · simp only [he] at hp ⊢
    exact hp history.past

/-- Work that goes on with reading alone leaves what the first part leaves. -/
theorem on_bind {work : Work α} {next : α → Work β} (answer : α → FileSystem → Except Error β)
    (hnext : ∀ a fs past, (next a).run.run ⟨fs, past⟩ = (answer a fs, ⟨fs, past⟩)) :
    on fs (work >>= next) =
      ((on fs work).1.bind fun a => answer a (on fs work).2, (on fs work).2) := by
  simp only [on, ExceptT.run_bind, StateT.run_bind, History.start]
  rcases work.run.run ⟨fs, []⟩ with ⟨error | a, fs', past⟩
  · rfl
  · exact congrArg (fun left => (left.1, left.2.current)) (hnext a fs' past)

/-- To look at the tree changes nothing. -/
theorem run_tree_bind (next : FileSystem → Work β) (past : List FileSystem) :
    (tree >>= next).run.run ⟨fs, past⟩ = (next fs).run.run ⟨fs, past⟩ := rfl

/-- A failure is handled from whatever the failed work leaves behind. -/
theorem leads_tryCatch {work : Work α} {handler : Error → Work α}
    {post : Except Error α → FileSystem → Prop} (failed : Error → FileSystem → Prop)
    (hwork : work.Leads fs fun answer fs' =>
      match answer with
      | .ok a => post (.ok a) fs'
      | .error error => failed error fs')
    (hhandler : ∀ error fs', failed error fs' → (handler error).Leads fs' post) :
    (tryCatch work handler).Leads fs post := by
  intro past
  have hp := hwork past
  rw [run_tryCatch]
  rcases he : work.run.run ⟨fs, past⟩ with ⟨error | a, history⟩
  · simp only [he] at hp ⊢
    exact hhandler error _ hp history.past
  · simpa only [he] using hp

/-- The tree that is looked at is the present one. -/
theorem leads_tree {post : Except Error FileSystem → FileSystem → Prop} (h : post (.ok fs) fs) :
    tree.Leads fs post := fun _ => h

/-- The tree is then the one that was made. -/
theorem leads_become {post : Except Error Unit → FileSystem → Prop} {fs' : FileSystem}
    (h : post (.ok ()) fs') : (become fs').Leads fs post := fun _ => h

/-- A fault is a failure, and the tree stays as it is in both cases. -/
theorem leads_ofExcept {post : Except Error α → FileSystem → Prop} {answer : Except Fault α}
    (hok : ∀ a, answer = .ok a → post (.ok a) fs)
    (herror : ∀ fault, answer = .error fault → post (.error fault.toError) fs) :
    (ofExcept answer).Leads fs post := by
  cases answer with
  | ok a => exact leads_pure (hok a rfl)
  | error fault => exact leads_throw (herror fault rfl)

/-- An operation changes the tree if it works, and leaves it as it is if it fails. -/
theorem leads_change {post : Except Error Unit → FileSystem → Prop}
    {operation : FileSystem → Except Fault FileSystem}
    (hok : ∀ fs', operation fs = .ok fs' → post (.ok ()) fs')
    (herror : ∀ fault, operation fs = .error fault → post (.error fault.toError) fs) :
    (change operation).Leads fs post := by
  refine leads_bind (leads_tree (leads_bind (leads_ofExcept ?_ herror)))
  exact fun fs' h => leads_become (hok fs' h)

/-- Begun with the tree, the work passes through trees of one kind only. -/
def Visits (work : Work α) (fs : FileSystem) (kind : FileSystem → Prop) : Prop :=
  ∀ past, ∀ state ∈ (work.run.run ⟨fs, past⟩).2.states, kind state ∨ state ∈ past

variable {kind : FileSystem → Prop}

/-- What all visited trees are like holds of every state of a run. -/
theorem Visits.states {work : Work α} (h : work.Visits fs kind) :
    ∀ state ∈ (work.run.run (.start fs)).2.states, kind state := by
  intro state hs
  exact (h [] state hs).resolve_right List.not_mem_nil

/-- Trees of one kind are trees of every kind that follows from it. -/
theorem Visits.mono {work : Work α} {kind' : FileSystem → Prop} (h : work.Visits fs kind)
    (hk : ∀ state, kind state → kind' state) : work.Visits fs kind' :=
  fun past state hs => (h past state hs).imp_left (hk state)

private theorem visits_of_stays {work : Work α} (h : kind fs)
    (hstays : ∀ past, (work.run.run ⟨fs, past⟩).2 = ⟨fs, past⟩) : work.Visits fs kind := by
  intro past state hs
  rw [hstays, History.states, List.mem_cons] at hs
  rcases hs with rfl | hs
  · exact .inl h
  · exact .inr hs

/-- Without a step, only the present tree is visited. -/
theorem visits_pure {a : α} (h : kind fs) : (pure a : Work α).Visits fs kind :=
  visits_of_stays h fun _ => rfl

/-- A failure visits only the present tree. -/
theorem visits_throw {error : Error} (h : kind fs) : (throw error : Work α).Visits fs kind :=
  visits_of_stays h fun _ => rfl

/-- To look at the tree visits only this one. -/
theorem visits_tree (h : kind fs) : tree.Visits fs kind := visits_of_stays h fun _ => rfl

/-- An answer that is there already visits only the present tree. -/
theorem visits_ofExcept {answer : Except Fault α} (h : kind fs) :
    (ofExcept answer).Visits fs kind := by
  cases answer with
  | ok a => exact visits_pure h
  | error fault => exact visits_throw h

/-- A change visits the tree before it and the one after it. -/
theorem visits_become {fs' : FileSystem} (h : kind fs) (h' : kind fs') :
    (become fs').Visits fs kind := by
  intro past state hs
  change state ∈ fs' :: fs :: past at hs
  rw [List.mem_cons, List.mem_cons] at hs
  rcases hs with rfl | rfl | hs
  · exact .inl h'
  · exact .inl h
  · exact .inr hs

/-- Whatever the second part finds is of the kind, and what went before is what the first part passed
through. -/
theorem visits_bind {work : Work α} {next : α → Work β} (hwork : work.Visits fs kind)
    (hnext : work.Leads fs fun answer fs' => ∀ a, answer = .ok a → (next a).Visits fs' kind) :
    (work >>= next).Visits fs kind := by
  intro past state hs
  have hw := hwork past
  have hn := hnext past
  rw [run_bind] at hs
  rcases hr : work.run.run ⟨fs, past⟩ with ⟨error | a, history⟩
  · rw [hr] at hs hw
    exact hw state hs
  · rw [hr] at hs hw hn
    rcases hn a rfl history.past state hs with h | h
    · exact .inl h
    · exact hw state (List.mem_cons_of_mem _ h)

/-- Work and its handler visit trees of a kind, if the handler does so from where the work fails. -/
theorem visits_tryCatch {work : Work α} {handler : Error → Work α} (hwork : work.Visits fs kind)
    (hhandler : work.Leads fs fun answer fs' =>
      ∀ error, answer = .error error → (handler error).Visits fs' kind) :
    (tryCatch work handler).Visits fs kind := by
  intro past state hs
  have hw := hwork past
  have hh := hhandler past
  rw [run_tryCatch] at hs
  rcases hr : work.run.run ⟨fs, past⟩ with ⟨error | a, history⟩
  · rw [hr] at hs hw hh
    rcases hh error rfl history.past state hs with h | h
    · exact .inl h
    · exact hw state (List.mem_cons_of_mem _ h)
  · rw [hr] at hs hw
    exact hw state hs

/-- An operation visits the tree before it, and the one after it if it succeeds. -/
theorem visits_change {operation : FileSystem → Except Fault FileSystem} (h : kind fs)
    (h' : ∀ fs', operation fs = .ok fs' → kind fs') : (change operation).Visits fs kind := by
  refine visits_bind (visits_tree h) (leads_tree fun fs' hfs => ?_)
  cases hfs
  refine visits_bind (visits_ofExcept h) (leads_ofExcept (fun a ha a' heq => ?_) fun _ _ _ heq => ?_)
  · cases heq
    exact visits_become h (h' a ha)
  · cases heq

end Signage.Files.Work
