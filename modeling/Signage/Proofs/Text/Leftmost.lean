import Signage.Proofs.Text.Tokens

/-!
Cutting a text from left to right, told without a reader: by what may stand at the front of a text.
-/
namespace Signage.Text
variable {β : Type}

/-- A text that is cut from left to right. Whatever stands at its front is taken as a whole, and a
character is passed only where nothing stands. -/
inductive Leftmost (stands : List Char → β → List Char → Prop) : List Char → List (Piece β) → Prop
  | nil : Leftmost stands [] []
  | character {c : Char} {rest : List Char} {parts : List (Piece β)}
      (hnone : ∀ value spelling, ¬ stands (c :: rest) value spelling)
      (hrest : Leftmost stands rest parts) : Leftmost stands (c :: rest) (.character c :: parts)
  | token {value : β} {spelling rest : List Char} {parts : List (Piece β)}
      (hstands : stands (spelling ++ rest) value spelling) (hne : spelling ≠ [])
      (hrest : Leftmost stands rest parts) :
      Leftmost stands (spelling ++ rest) (.token value spelling :: parts)

variable {stands : List Char → β → List Char → Prop} {s rest : List Char} {parts : List (Piece β)}

/-- If at most one thing stands at the front of any text, there is one way to cut a text. -/
theorem Leftmost.unique {parts' : List (Piece β)} (h : Leftmost stands s parts)
    (h' : Leftmost stands s parts')
    (hunique : ∀ s value spelling value' spelling', stands s value spelling →
      stands s value' spelling' → value = value' ∧ spelling = spelling') : parts = parts' := by
  induction h generalizing parts' with
  -- The text of the other cut is generalised in each case, as it is not put together in the same way.
  | nil =>
    generalize hs : ([] : List Char) = s at h'
    cases h' with
    | nil => rfl
    | character => cases hs
    | token _ hne => exact absurd (List.append_eq_nil_iff.mp hs.symm).1 hne
  | character hnone _ ih =>
    rename_i c rest parts _
    generalize hs : c :: rest = s at h'
    cases h' with
    | nil => cases hs
    | character _ hrest' =>
      obtain ⟨rfl, rfl⟩ := List.cons.inj hs
      rw [ih hrest']
    | token hstands => exact absurd hstands (hs ▸ hnone _ _)
  | token hstands hne _ ih =>
    rename_i value spelling rest parts _
    generalize hs : spelling ++ rest = s at h'
    cases h' with
    | nil => exact absurd (List.append_eq_nil_iff.mp hs).1 hne
    | character hnone => exact absurd (hs ▸ hstands) (hnone _ _)
    | token hstands' _ hrest' =>
      obtain ⟨rfl, rfl⟩ := hunique _ _ _ _ _ hstands (hs ▸ hstands')
      have hrest := List.append_cancel_left hs
      rw [ih (hrest ▸ hrest')]

/-- Characters at which nothing stands are passed one by one. -/
theorem Leftmost.characters (front : List Char)
    (hnone : ∀ a b, front = a ++ b → b ≠ [] → ∀ value spelling, ¬ stands (b ++ rest) value spelling)
    (hrest : Leftmost stands rest parts) :
    Leftmost stands (front ++ rest) (front.map .character ++ parts) := by
  induction front with
  | nil => exact hrest
  | cons c front ih =>
    refine .character (hnone [] (c :: front) rfl (List.cons_ne_nil c front)) (ih fun a b h hb => ?_)
    exact hnone (c :: a) b (by rw [h, List.cons_append]) hb

end Signage.Text
