import Mathlib.Data.List.TakeWhile
import Signage.Text.Blank

/-! Blanks, and what trimming leaves. -/
namespace Signage.Text

/-- A text that is checked to have no blanks has none. -/
theorem not_blank_of_all {s : List Char} (h : (s.all fun c => !isBlank c) = true) :
    ∀ c ∈ s, isBlank c = false := by
  simpa using h

/-- Only blanks are trimmed to nothing. -/
theorem trimLeft_eq_nil_iff {s : List Char} : trimLeft s = [] ↔ ∀ c ∈ s, isBlank c = true :=
  List.dropWhile_eq_nil_iff

private theorem trimRight_eq_nil_iff {s : List Char} :
    trimRight s = [] ↔ ∀ c ∈ s, isBlank c = true := by
  simp [trimRight, List.dropWhile_eq_nil_iff]

/-- Nothing is left exactly of blanks. -/
theorem isBlankText_iff {s : List Char} : isBlankText s = true ↔ trim s = [] := by
  have hall : isBlankText s = true ↔ trimLeft s = [] := by
    rw [isBlankText, List.all_eq_true, trimLeft_eq_nil_iff]
  rw [hall, trim, trimRight_eq_nil_iff]
  constructor
  · intro h
    simp [h]
  · intro h
    by_contra hne
    have hblank := h _ (List.head_mem hne)
    have hhead : isBlank ((trimLeft s).head hne) = false := List.head_dropWhile_not isBlank hne
    simp [hhead] at hblank

end Signage.Text
