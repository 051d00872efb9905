/-!
Leftmost matches: a text is cut into the tokens found in it, from left to right and without
overlap, and the characters between them. The pieces always spell the text they were cut from.
-/
namespace Signage.Text

/-- A part of a scanned text: a character that belongs to no token, or a token and its spelling. -/
inductive Piece (α : Type) where
  | character (c : Char)
  | token (value : α) (spelling : List Char)

namespace Piece

/-- The text the piece was cut from. -/
def source {α : Type} : Piece α → List Char
  | character c => [c]
  | token _ spelling => spelling

/-- The token, if the piece is one. -/
def value? {α : Type} : Piece α → Option α
  | character _ => none
  | token value _ => some value

end Piece

/-- A rule that reads a token at the front of a text and says how many characters it takes. -/
abbrev TokenRule (α : Type) := List Char → Option (α × Nat)

/-- Cut the text, the first `skip` characters of which belong to a token already cut off. -/
def piecesAfter {α : Type} (rule : TokenRule α) : Nat → List Char → List (Piece α)
  | _, [] => []
  | skip + 1, _ :: rest => piecesAfter rule skip rest
  | 0, c :: rest =>
    match rule (c :: rest) with
    | some (value, width) =>
      .token value (c :: rest.take (width - 1)) :: piecesAfter rule (width - 1) rest
    | none => .character c :: piecesAfter rule 0 rest

/-- The leftmost tokens of the text and the characters between them. -/
def pieces {α : Type} (rule : TokenRule α) (s : List Char) : List (Piece α) :=
  piecesAfter rule 0 s

private theorem source_piecesAfter {α : Type} (rule : TokenRule α) (s : List Char) (skip : Nat) :
    (piecesAfter rule skip s).flatMap Piece.source = s.drop skip := by
  induction s generalizing skip with
  | nil => cases skip <;> rfl
  | cons c rest ih =>
    cases skip with
    | succ skip => simp [piecesAfter, ih]
    | zero =>
      rw [piecesAfter]
      split
      · simp [Piece.source, ih]
      · simp [Piece.source, ih]

/-- The pieces spell the text. -/
theorem source_pieces {α : Type} (rule : TokenRule α) (s : List Char) :
    (pieces rule s).flatMap Piece.source = s := by
  simpa [pieces] using source_piecesAfter rule s 0

/-- The text after a fixed beginning, if it has that beginning. -/
def dropLiteral? : (literal s : List Char) → Option (List Char)
  | [], s => some s
  | _ :: _, [] => none
  | l :: literal, c :: s => if l = c then dropLiteral? literal s else none

/-- Only texts with the beginning are accepted, and what follows it is returned. -/
theorem dropLiteral?_eq_some_iff {literal s rest : List Char} :
    dropLiteral? literal s = some rest ↔ s = literal ++ rest := by
  induction literal generalizing s with
  | nil => simp [dropLiteral?, eq_comm]
  | cons l literal ih =>
    cases s with
    | nil => simp [dropLiteral?]
    | cons c s =>
      by_cases h : l = c
      · simp [dropLiteral?, h, ih]
      · simp [dropLiteral?, h, Ne.symm h]

end Signage.Text
