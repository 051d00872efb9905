import Signage.Text.DecimalDigit
import Signage.Text.Numeral
import Signage.Text.Scan

/-!
Placeholders in stored markup: `{ITEMS_7}` stands for the items of playlist 7, `{PREFETCH_7}` for
its prefetch markup, and `{ITEMS_7#http://hub/p}` for the items found at an address.
-/
namespace Signage.Content

/-- Stored or composed markup. -/
abbrev Markup := List Char

/-- What a placeholder asks for. -/
inductive Tag where
  | items
  | prefetch
  deriving DecidableEq, Repr

def Tag.word : Tag → List Char
  | items => ['I', 'T', 'E', 'M', 'S']
  | prefetch => ['P', 'R', 'E', 'F', 'E', 'T', 'C', 'H']

/-- A placeholder as it is written. -/
structure Placeholder where
  tag : Tag
  /-- The digits of the playlist identifier, as written. -/
  digits : List Char
  /-- The address of a page that is hosted elsewhere. -/
  url : Option (List Char)

namespace Placeholder

def spelling (p : Placeholder) : List Char :=
  ['\x7b'] ++ p.tag.word ++ ['_'] ++ p.digits ++ p.url.elim [] ('#' :: ·) ++ ['\x7d']

end Placeholder

def readTag? (s : List Char) : Option (Tag × List Char) :=
  match Text.dropLiteral? Tag.items.word s with
  | some rest => some (.items, rest)
  | none => (Text.dropLiteral? Tag.prefetch.word s).map fun rest => (.prefetch, rest)

/-- The address at the front of the text, if one is announced; it may not be empty. -/
def readAddress? : List Char → Option (Option (List Char) × List Char)
  | '#' :: s =>
    let url := s.takeWhile (· != '\x7d')
    if url.isEmpty then none else some (some url, s.dropWhile (· != '\x7d'))
  | s => some (none, s)

def readPlaceholder? (s : List Char) : Option Placeholder := do
  let rest ← Text.dropLiteral? ['\x7b'] s
  let (tag, rest) ← readTag? rest
  let rest ← Text.dropLiteral? ['_'] rest
  let digits := rest.takeWhile Text.isDecimalDigit
  if digits.isEmpty then none
  let (url, rest) ← readAddress? (rest.dropWhile Text.isDecimalDigit)
  let _ ← Text.dropLiteral? ['\x7d'] rest
  return { tag, digits, url }

def placeholderRule : Text.TokenRule Placeholder := fun s =>
  (readPlaceholder? s).map fun p => (p, p.spelling.length)

private theorem readTag?_eq_some {s rest : List Char} {tag : Tag}
    (h : readTag? s = some (tag, rest)) : s = tag.word ++ rest := by
  unfold readTag? at h
  split at h
  · next r hr =>
    cases h
    exact Text.dropLiteral?_eq_some_iff.mp hr
  · obtain ⟨r, hr, he⟩ := Option.map_eq_some_iff.mp h
    cases he
    exact Text.dropLiteral?_eq_some_iff.mp hr

private theorem readAddress?_eq_some {s rest : List Char} {url : Option (List Char)}
    (h : readAddress? s = some (url, rest)) : s = url.elim [] ('#' :: ·) ++ rest := by
  unfold readAddress? at h
  split at h
  · dsimp only at h
    split at h
    · cases h
    · cases h
      simp [List.takeWhile_append_dropWhile]
  · cases h
    rfl

/-- A placeholder is read only where its text stands. -/
theorem readPlaceholder?_eq_some {s : List Char} {p : Placeholder}
    (h : readPlaceholder? s = some p) : ∃ rest, s = p.spelling ++ rest := by
  simp only [readPlaceholder?, Option.bind_eq_bind, Option.bind_eq_some_iff] at h
  obtain ⟨r1, h1, ⟨tag, r2⟩, h2, r3, h3, h4⟩ := h
  split at h4
  · cases h4
  · simp only [Option.pure_def, Option.bind_eq_some_iff] at h4
    obtain ⟨⟨url, r5⟩, h5, r6, h6, h7⟩ := h4
    cases h7
    dsimp only at h3 h6
    refine ⟨r6, ?_⟩
    rw [Text.dropLiteral?_eq_some_iff] at h1 h3 h6
    have e2 := readTag?_eq_some h2
    have e5 := readAddress?_eq_some h5
    have e4 := List.takeWhile_append_dropWhile (p := Text.isDecimalDigit) (l := r3)
    rw [h6] at e5
    rw [e5] at e4
    generalize List.takeWhile Text.isDecimalDigit r3 = digits at e4 ⊢
    rw [h1, e2, h3, ← e4]
    simp [Placeholder.spelling]

end Signage.Content
