/-! Texts cut at a mark. -/
namespace Signage.Text

/-- The text before the first mark, and the text after it if there is a mark. -/
def cutAt (mark : Char) : List Char → List Char × Option (List Char)
  | [] => ([], none)
  | c :: rest =>
    if c = mark then ([], some rest)
    else
      let (before, after) := cutAt mark rest
      (c :: before, after)

/-- The parts of a text between the marks in it; there is always one part. -/
def splitAt (mark : Char) : List Char → List (List Char)
  | [] => [[]]
  | c :: rest =>
    if c = mark then [] :: splitAt mark rest
    else
      match splitAt mark rest with
      | part :: parts => (c :: part) :: parts
      | [] => [[c]]

/-- Every text has a part. -/
theorem splitAt_ne_nil (mark : Char) (s : List Char) : splitAt mark s ≠ [] := by
  cases s with
  | nil => simp [splitAt]
  | cons c rest =>
    rw [splitAt]
    split
    · simp
    · split <;> simp

/-- Joined by the mark, the parts are the text again. -/
theorem intercalate_splitAt (mark : Char) (s : List Char) :
    [mark].intercalate (splitAt mark s) = s := by
  induction s with
  | nil => rfl
  | cons c rest ih =>
    obtain ⟨part, parts, hs⟩ := List.exists_cons_of_ne_nil (splitAt_ne_nil mark rest)
    rw [hs] at ih
    by_cases hc : c = mark
    · simp [splitAt, hc, hs, List.intercalate_cons_cons, ih]
    · cases parts with
      | nil => simpa [splitAt, hc, hs] using ih
      | cons next parts => simpa [splitAt, hc, hs, List.intercalate_cons_cons] using ih

end Signage.Text
