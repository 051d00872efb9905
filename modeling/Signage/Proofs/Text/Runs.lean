import Mathlib.Data.List.TakeWhile
import Signage.Proofs.Text.Blanks

/-! Runs of characters of one class: how far a text belongs to the class from its front on. -/
namespace Signage.Text
variable {belongs : Char → Bool} {run rest s : List Char}

/-- The text does not begin with a character of the class. -/
def Stops (belongs : Char → Bool) (s : List Char) : Prop := ∀ c ∈ s.head?, belongs c = false

theorem stops_nil (belongs : Char → Bool) : Stops belongs [] := fun _ h => nomatch h

/-- A run stops where the first character does not belong to it. -/
theorem stops_cons {c : Char} : Stops belongs (c :: s) ↔ belongs c = false := by
  simp [Stops]

/-- A run stops where its characters are dropped. -/
theorem stops_dropWhile (belongs : Char → Bool) (s : List Char) :
    Stops belongs (s.dropWhile belongs) := by
  intro c hc
  have hne : s.dropWhile belongs ≠ [] := by
    intro hnil
    simp [hnil] at hc
  rw [List.head?_eq_some_head hne] at hc
  cases hc
  exact List.head_dropWhile_not belongs hne

/-- A run ends where the class does. -/
theorem takeWhile_append_of_stops (hrun : ∀ c ∈ run, belongs c = true) (hrest : Stops belongs rest) :
    (run ++ rest).takeWhile belongs = run := by
  rw [List.takeWhile_append_of_pos hrun]
  cases rest with
  | nil => simp
  | cons c rest => simp [stops_cons.mp hrest]

private theorem dropWhile_append_of_stops (hrun : ∀ c ∈ run, belongs c = true)
    (hrest : Stops belongs rest) :
    (run ++ rest).dropWhile belongs = rest := by
  rw [List.dropWhile_append_of_pos hrun]
  cases rest with
  | nil => rfl
  | cons c rest => simp [stops_cons.mp hrest]

/-- The run at the front of a text, and the text after it. -/
theorem takeWhile_dropWhile_eq_iff :
    s.takeWhile belongs = run ∧ s.dropWhile belongs = rest ↔
      (∀ c ∈ run, belongs c = true) ∧ Stops belongs rest ∧ s = run ++ rest := by
  constructor
  · rintro ⟨rfl, rfl⟩
    exact ⟨fun _ hc => List.mem_takeWhile_imp hc, stops_dropWhile belongs s,
      List.takeWhile_append_dropWhile.symm⟩
  · rintro ⟨hrun, hrest, rfl⟩
    exact ⟨takeWhile_append_of_stops hrun hrest, dropWhile_append_of_stops hrun hrest⟩

/-- The run at the front of a text, if there is one. -/
theorem nonempty_run_eq_some_iff :
    (if (s.takeWhile belongs).isEmpty then none
      else some (s.takeWhile belongs, s.dropWhile belongs)) = some (run, rest) ↔
      run ≠ [] ∧ (∀ c ∈ run, belongs c = true) ∧ Stops belongs rest ∧ s = run ++ rest := by
  rw [← takeWhile_dropWhile_eq_iff, ite_eq_iff]
  simp only [reduceCtorEq, and_false, false_or, List.isEmpty_iff, Option.some_inj, Prod.mk.injEq]
  constructor
  · rintro ⟨hne, hrun, hrest⟩
    exact ⟨hrun ▸ hne, hrun, hrest⟩
  · rintro ⟨hne, hrun, hrest⟩
    exact ⟨hrun ▸ hne, hrun, hrest⟩

/-- Nothing but blanks. -/
def AreBlanks (s : List Char) : Prop := ∀ c ∈ s, isBlank c = true

instance (s : List Char) : Decidable (AreBlanks s) :=
  decidable_of_iff (s.all isBlank = true) List.all_eq_true

theorem areBlanks_nil : AreBlanks [] := fun _ h => nomatch h

/-- Blanks before a text are trimmed off. -/
theorem trimLeft_append (hblanks : AreBlanks run) (hrest : Stops isBlank rest) :
    trimLeft (run ++ rest) = rest :=
  dropWhile_append_of_stops hblanks hrest

private theorem trimRight_append (hblanks : AreBlanks rest) :
    trimRight (s ++ rest) = trimRight s := by
  unfold trimRight
  rw [List.reverse_append, List.dropWhile_append_of_pos fun c hc => hblanks c (List.mem_reverse.mp hc)]

/-- A text begins with some blanks and goes on with what trimming leaves. -/
theorem exists_trimLeft (s : List Char) : ∃ blanks, AreBlanks blanks ∧ s = blanks ++ trimLeft s :=
  ⟨s.takeWhile isBlank, fun _ hc => List.mem_takeWhile_imp hc,
    (List.takeWhile_append_dropWhile (p := isBlank)).symm⟩

/-- Blanks around a text make no difference to what trimming leaves. -/
theorem trim_append_blanks {before after : List Char} (hbefore : AreBlanks before)
    (hafter : AreBlanks after) (s : List Char) : trim (before ++ s ++ after) = trim s := by
  have hleft : trimLeft (before ++ s ++ after) = trimLeft (s ++ after) := by
    rw [List.append_assoc]
    exact List.dropWhile_append_of_pos hbefore
  rw [trim, hleft, trim]
  have happend : trimLeft (s ++ after) = if (trimLeft s).isEmpty then trimLeft after else
      trimLeft s ++ after := List.dropWhile_append
  rw [happend]
  split
  · next hempty =>
    rw [List.isEmpty_iff.mp hempty, trimLeft_eq_nil_iff.mpr hafter]
  · exact trimRight_append hafter

private theorem Stops.append (h : Stops belongs s) (hne : s ≠ []) (rest : List Char) :
    Stops belongs (s ++ rest) := by
  obtain ⟨c, s, rfl⟩ := List.exists_cons_of_ne_nil hne
  exact stops_cons.mpr (stops_cons.mp h)

private theorem Stops.of_append (h : Stops belongs (s ++ rest)) : Stops belongs s := by
  cases s with
  | nil => exact stops_nil belongs
  | cons c s => exact stops_cons.mpr (stops_cons.mp h)

private theorem dropWhile_of_stops (h : Stops belongs s) : s.dropWhile belongs = s := by
  cases s with
  | nil => rfl
  | cons c s => exact List.dropWhile_cons_of_neg (by simp [stops_cons.mp h])

/-- Trimming stops at a text that ends bare. -/
theorem trimRight_append_of_stops (h : Stops isBlank s.reverse) (rest : List Char) :
    trimRight (s ++ rest) = s ++ trimRight rest := by
  unfold trimRight
  rw [List.reverse_append, List.dropWhile_append]
  split
  · next hempty =>
    rw [List.isEmpty_iff.mp hempty, dropWhile_of_stops h, List.reverse_reverse, List.reverse_nil,
      List.append_nil]
  · rw [List.reverse_append, List.reverse_reverse]

/-- Trimming takes the blanks before a text that begins and ends bare, and none of it. -/
theorem trim_append_of_stops {before : List Char} (hbefore : AreBlanks before) (hne : s ≠ [])
    (hfront : Stops isBlank s) (hback : Stops isBlank s.reverse) (after : List Char) :
    trim (before ++ (s ++ after)) = s ++ trimRight after := by
  rw [trim, trimLeft_append hbefore (hfront.append hne after), trimRight_append_of_stops hback]

private theorem trim_of_stops (hfront : Stops isBlank s) (hback : Stops isBlank s.reverse) :
    trim s = s := by
  rw [trim, trimLeft, dropWhile_of_stops hfront, trimRight, dropWhile_of_stops hback,
    List.reverse_reverse]

/-- What trimming leaves begins and ends bare. -/
theorem stops_trim (s : List Char) : Stops isBlank (trim s) := by
  obtain ⟨blanks, hblanks⟩ := List.dropWhile_suffix (l := (trimLeft s).reverse) isBlank
  have hsplit : trimLeft s = trim s ++ blanks.reverse := by
    rw [trim, trimRight, ← List.reverse_append, hblanks, List.reverse_reverse]
  have hleft : Stops isBlank (trimLeft s) := stops_dropWhile isBlank s
  rw [hsplit] at hleft
  exact hleft.of_append

private theorem stops_trim_reverse (s : List Char) : Stops isBlank (trim s).reverse := by
  rw [trim, trimRight, List.reverse_reverse]
  exact stops_dropWhile isBlank _

/-- A trimmed text has nothing more to be trimmed off. -/
@[simp] theorem trim_trim (s : List Char) : trim (trim s) = trim s :=
  trim_of_stops (stops_trim s) (stops_trim_reverse s)

/-- A text without blanks is left as it is. -/
theorem trim_of_all_bare (h : ∀ c ∈ s, isBlank c = false) : trim s = s := by
  refine trim_of_stops (fun c hc => h c (List.mem_of_mem_head? hc)) fun c hc => ?_
  exact h c (List.mem_reverse.mp (List.mem_of_mem_head? hc))

end Signage.Text
