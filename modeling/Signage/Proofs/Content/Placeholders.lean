import Mathlib.Data.List.TakeWhile
import Signage.Content.Placeholder
import Signage.Proofs.Text.Tokens

/-!
Where placeholders are read: exactly where the text of a proper one stands, whatever comes behind
it. A scan of markup is told piece by piece.
-/
namespace Signage.Content
variable {p : Placeholder} {s t rest rest' : Markup}

/-- The parts of the placeholder are as they can be read. -/
structure Placeholder.IsProper (p : Placeholder) : Prop where
  digits_ne_nil : p.digits ≠ []
  digits : ∀ c ∈ p.digits, Text.isDecimalDigit c = true
  url : ∀ url ∈ p.url, url ≠ [] ∧ '\x7d' ∉ url

private theorem readTag?_append (tag : Tag) (rest : List Char) :
    readTag? (tag.word ++ rest) = some (tag, rest) := by
  have hword : Text.dropLiteral? tag.word (tag.word ++ rest) = some rest :=
    Text.dropLiteral?_eq_some_iff.mpr rfl
  cases tag with
  | items => rw [readTag?, hword]
  | prefetch =>
    have hitems : Text.dropLiteral? Tag.items.word (Tag.prefetch.word ++ rest) = none := rfl
    rw [readTag?, hitems, hword]
    rfl

private theorem takeWhile_ne_close {url : List Char} (h : '\x7d' ∉ url) (rest : List Char) :
    (url ++ '\x7d' :: rest).takeWhile (· != '\x7d') = url ∧
      (url ++ '\x7d' :: rest).dropWhile (· != '\x7d') = '\x7d' :: rest := by
  have hall : ∀ c ∈ url, (c != '\x7d') = true := fun c hc => bne_iff_ne.mpr fun he => h (he ▸ hc)
  rw [List.takeWhile_append_of_pos hall, List.dropWhile_append_of_pos hall]
  simp

private theorem readAddress?_append {url : Option (List Char)}
    (h : ∀ address ∈ url, address ≠ [] ∧ '\x7d' ∉ address) (rest : List Char) :
    readAddress? (url.elim [] ('#' :: ·) ++ '\x7d' :: rest) = some (url, '\x7d' :: rest) := by
  cases url with
  | none => rfl
  | some address =>
    obtain ⟨hne, hclose⟩ := h address rfl
    obtain ⟨htake, hdrop⟩ := takeWhile_ne_close hclose rest
    rw [Option.elim_some, List.cons_append, readAddress?, htake, hdrop]
    simp [hne]

private theorem url_of_readAddress? {url : Option (List Char)}
    (h : readAddress? s = some (url, rest)) : ∀ address ∈ url, address ≠ [] ∧ '\x7d' ∉ address := by
  unfold readAddress? at h
  split at h
  · next tail =>
    dsimp only at h
    split at h
    · cases h
    · next hne =>
      cases h
      intro address haddress
      cases haddress
      refine ⟨by simpa using hne, fun hmem => ?_⟩
      have hclose := List.mem_takeWhile_imp hmem
      simp at hclose
  · cases h
    intro address haddress
    cases haddress

/-- What stands behind the digits of a placeholder, up to its end. -/
private theorem digits_end (url : Option (List Char)) (rest : List Char) :
    ∃ c tail, url.elim [] ('#' :: ·) ++ '\x7d' :: rest = c :: tail ∧
      Text.isDecimalDigit c = false := by
  cases url with
  | none => exact ⟨_, _, rfl, rfl⟩
  | some address => exact ⟨_, _, rfl, rfl⟩

/-- A placeholder is read from its text, whatever stands behind it. -/
theorem readPlaceholder?_spelling (h : p.IsProper) (rest : List Char) :
    readPlaceholder? (p.spelling ++ rest) = some p := by
  obtain ⟨tag, digits, url⟩ := p
  obtain ⟨hne, hdigits, hurl⟩ := h
  obtain ⟨c, tail, hend, hc⟩ := digits_end url rest
  have hspelling : Placeholder.spelling ⟨tag, digits, url⟩ ++ rest =
      ['\x7b'] ++ (tag.word ++ (['_'] ++ (digits ++ c :: tail))) := by
    rw [← hend]
    simp [Placeholder.spelling]
  have hdrop (literal s : List Char) : Text.dropLiteral? literal (literal ++ s) = some s :=
    Text.dropLiteral?_eq_some_iff.mpr rfl
  have htake : (digits ++ c :: tail).takeWhile Text.isDecimalDigit = digits := by
    rw [List.takeWhile_append_of_pos hdigits, List.takeWhile_cons_of_neg (by simp [hc]),
      List.append_nil]
  have hrest : (digits ++ c :: tail).dropWhile Text.isDecimalDigit = c :: tail := by
    rw [List.dropWhile_append_of_pos hdigits, List.dropWhile_cons_of_neg (by simp [hc])]
  have haddress : readAddress? (c :: tail) = some (url, ['\x7d'] ++ rest) := by
    rw [← hend]
    exact readAddress?_append hurl rest
  have hempty : ¬ (digits.isEmpty = true) := by simpa using hne
  simp only [readPlaceholder?, hspelling, hdrop, readTag?_append, htake, hrest, haddress, hempty,
    Option.bind_eq_bind, Option.bind_some, if_false, Bool.false_eq_true]
  rfl

private theorem isProper_of_read (h : readPlaceholder? s = some p) : p.IsProper := by
  simp only [readPlaceholder?, Option.bind_eq_bind, Option.bind_eq_some_iff] at h
  obtain ⟨_, -, ⟨tag, _⟩, -, tail, -, h⟩ := h
  split at h
  · cases h
  · next hdigits =>
    simp only [Option.pure_def, Option.bind_eq_some_iff] at h
    obtain ⟨⟨url, _⟩, haddress, _, -, h⟩ := h
    cases h
    exact ⟨by simpa using hdigits, fun c hc => List.mem_takeWhile_imp hc,
      url_of_readAddress? haddress⟩

private theorem readPlaceholder?_eq_some_iff :
    readPlaceholder? s = some p ↔ p.IsProper ∧ ∃ rest, s = p.spelling ++ rest := by
  constructor
  · intro h
    exact ⟨isProper_of_read h, readPlaceholder?_eq_some h⟩
  · rintro ⟨hp, rest, rfl⟩
    exact readPlaceholder?_spelling hp rest

/-- The beginning of a placeholder that breaks off before its end. -/
def Unfinished (s : Markup) : Prop :=
  s ≠ [] ∧ ∃ p : Placeholder, p.IsProper ∧ s <+: p.spelling ∧ s ≠ p.spelling

/-- Unless it breaks off within a placeholder, text decides by itself whether one stands at its
front. -/
theorem readPlaceholder?_eq_none_of_append (hne : s ≠ []) (hs : ¬ Unfinished s)
    (h : readPlaceholder? (s ++ rest) = none) : readPlaceholder? (s ++ rest') = none := by
  cases hread : readPlaceholder? (s ++ rest') with
  | none => rfl
  | some p =>
    obtain ⟨hp, tail, he⟩ := readPlaceholder?_eq_some_iff.mp hread
    rcases List.append_eq_append_iff.mp he with ⟨mid, hspelling, -⟩ | ⟨mid, rfl, -⟩
    · by_cases hmid : mid = []
      · rw [hmid, List.append_nil] at hspelling
        rw [← hspelling, readPlaceholder?_spelling hp] at h
        cases h
      · refine absurd ⟨hne, p, hp, ⟨mid, hspelling.symm⟩, fun hs => hmid ?_⟩ hs
        rw [hspelling] at hs
        exact List.append_right_eq_self.mp hs.symm
    · rw [List.append_assoc, readPlaceholder?_spelling hp] at h
      cases h

/-- A scan of markup, piece by piece. -/
inductive Scanned : Markup → List (Text.Piece Placeholder) → Prop
  | nil : Scanned [] []
  | character {c : Char} {rest : Markup} {pieces : List (Text.Piece Placeholder)}
      (hread : readPlaceholder? (c :: rest) = none) (hrest : Scanned rest pieces) :
      Scanned (c :: rest) (.character c :: pieces)
  | token {p : Placeholder} {rest : Markup} {pieces : List (Text.Piece Placeholder)}
      (hp : p.IsProper) (hrest : Scanned rest pieces) :
      Scanned (p.spelling ++ rest) (.token p p.spelling :: pieces)

/-- Every placeholder takes room. -/
theorem Placeholder.spelling_ne_nil (p : Placeholder) : p.spelling ≠ [] := by
  simp [spelling]

/-- A character at which no placeholder begins stays a character. -/
theorem pieces_of_none {c : Char} (h : readPlaceholder? (c :: rest) = none) :
    Text.pieces placeholderRule (c :: rest) = .character c :: Text.pieces placeholderRule rest :=
  Text.pieces_cons_of_none (by rw [placeholderRule, h]; rfl)

/-- The text of a placeholder is one piece. -/
theorem pieces_spelling (hp : p.IsProper) (rest : Markup) :
    Text.pieces placeholderRule (p.spelling ++ rest) =
      .token p p.spelling :: Text.pieces placeholderRule rest :=
  Text.pieces_append_of_some p.spelling_ne_nil
    (by rw [placeholderRule, readPlaceholder?_spelling hp]; rfl)

/-- The pieces of markup are those of a scan. -/
theorem scanned_pieces (s : Markup) : Scanned s (Text.pieces placeholderRule s) := by
  induction hn : s.length using Nat.strongRecOn generalizing s with
  | _ n ih =>
    cases s with
    | nil => exact .nil
    | cons c rest =>
      cases hread : readPlaceholder? (c :: rest) with
      | none =>
        rw [pieces_of_none hread]
        exact .character hread (ih _ (by rw [← hn]; exact Nat.lt_succ_self _) rest rfl)
      | some p =>
        obtain ⟨hp, tail, he⟩ := readPlaceholder?_eq_some_iff.mp hread
        have hlength : tail.length < n := by
          have hpos := List.length_pos_iff.mpr p.spelling_ne_nil
          rw [← hn, he, List.length_append]
          omega
        rw [he, pieces_spelling hp]
        exact .token hp (ih _ hlength tail rfl)

end Signage.Content
