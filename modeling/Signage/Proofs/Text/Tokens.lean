import Mathlib.Tactic.Basic
import Signage.Text.Scan

/-! How a text is cut at its front: one more character, or the token that the rule reads there. -/
namespace Signage.Text
variable {α : Type} {rule : TokenRule α} {c : Char} {rest word s : List Char} {value : α}

@[simp] theorem pieces_nil (rule : TokenRule α) : pieces rule [] = [] := rfl

/-- A character at which no token begins is a piece of its own. -/
theorem pieces_cons_of_none (h : rule (c :: rest) = none) :
    pieces rule (c :: rest) = .character c :: pieces rule rest := by
  rw [pieces, piecesAfter, h]
  rfl

private theorem piecesAfter_eq (skip : Nat) (s : List Char) :
    piecesAfter rule skip s = pieces rule (s.drop skip) := by
  induction s generalizing skip with
  | nil => cases skip <;> rfl
  | cons c rest ih =>
    cases skip with
    | zero => rfl
    | succ skip => exact ih skip

/-- A token is one piece, and the scan goes on behind it. -/
theorem pieces_append_of_some (hw : word ≠ []) (h : rule (word ++ s) = some (value, word.length)) :
    pieces rule (word ++ s) = .token value word :: pieces rule s := by
  obtain ⟨c, word, rfl⟩ := List.exists_cons_of_ne_nil hw
  rw [List.cons_append] at h ⊢
  rw [pieces, piecesAfter, h]
  simp [piecesAfter_eq]

end Signage.Text
