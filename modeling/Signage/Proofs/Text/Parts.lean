import Mathlib.Tactic.Basic
import Signage.Text.Split

/-! How the parts between marks come together when texts are joined. -/
namespace Signage.Text
variable {mark c : Char} {s t : List Char}

/-- A mark parts a text from what stands behind it. -/
theorem splitAt_append (s t : List Char) :
    splitAt mark (s ++ mark :: t) = splitAt mark s ++ splitAt mark t := by
  induction s with
  | nil => simp [splitAt]
  | cons c s ih =>
    obtain ⟨part, parts, hs⟩ := List.exists_cons_of_ne_nil (splitAt_ne_nil mark s)
    by_cases hc : c = mark
    · simp [splitAt, hc, ih]
    · simp [splitAt, hc, ih, hs]

/-- A text without the mark is one part. -/
theorem splitAt_of_not_mem (h : mark ∉ s) : splitAt mark s = [s] := by
  induction s with
  | nil => rfl
  | cons c s ih =>
    rw [List.mem_cons, not_or] at h
    rw [splitAt, if_neg (Ne.symm h.1), ih h.2]

/-- A text that ends in no mark ends in a part that is not empty. -/
theorem exists_splitAt_concat (hc : c ≠ mark) (s : List Char) :
    ∃ parts part, splitAt mark (s ++ [c]) = parts ++ [part ++ [c]] := by
  induction s with
  | nil => exact ⟨[], [], by simp [splitAt, hc]⟩
  | cons d s ih =>
    obtain ⟨parts, part, h⟩ := ih
    by_cases hd : d = mark
    · exact ⟨[] :: parts, part, by simp [splitAt, hd, h]⟩
    · cases parts with
      | nil => exact ⟨[], d :: part, by simp [splitAt, hd, h]⟩
      | cons first parts => exact ⟨(d :: first) :: parts, part, by simp [splitAt, hd, h]⟩

end Signage.Text
