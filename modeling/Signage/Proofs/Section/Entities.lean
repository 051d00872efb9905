import Mathlib.Tactic.SplitIfs
import Signage.Proofs.Text.Tokens
import Signage.Section.Escape

/-!
Escaped text has no characters that delimit markup, its ampersands all begin entities, and putting
characters in place of the entities gives the text back.
-/
namespace Signage.Section

/-- The characters that elements and the values of attributes are delimited by. -/
def isDelimiter (c : Char) : Bool := c == '<' || c == '>' || c == '"' || c == '\''

/-- The delimiters in a text, in order. -/
def delimiters (s : List Char) : List Char := s.filter isDelimiter

/-- The entities, each with the character that it stands for. -/
def entities : List (List Char × Char) :=
  [("&amp;".toList, '&'), ("&lt;".toList, '<'), ("&gt;".toList, '>'), ("&quot;".toList, '"'),
    ("&apos;".toList, '\'')]

def entityRule : Text.TokenRule Char := fun s =>
  (entities.find? fun entity => entity.1.isPrefixOf s).map fun entity => (entity.2, entity.1.length)

/-- A piece of a text, with a character in place of an entity. -/
def unescapePiece : Text.Piece Char → Char
  | .character c => c
  | .token c _ => c

/-- The text with characters in place of its entities. -/
def unescape (s : List Char) : List Char := (Text.pieces entityRule s).map unescapePiece

/-- Every ampersand of the text begins an entity. -/
def HasOnlyEntities (s : List Char) : Prop :=
  ∀ rest, '&' :: rest <:+ s → ∃ entity ∈ entities, entity.1 <+: '&' :: rest

@[simp] theorem delimiters_append (s t : List Char) :
    delimiters (s ++ t) = delimiters s ++ delimiters t := List.filter_append _ _

/-- The delimiters of a text are found part by part. -/
theorem delimiters_flatMap {α : Type} (l : List α) (f : α → List Char) :
    delimiters (l.flatMap f) = l.flatMap fun a => delimiters (f a) := List.filter_flatMap ..

/-- Delimiters are left when delimiters are kept. -/
@[simp] theorem delimiters_delimiters (s : List Char) : delimiters (delimiters s) = delimiters s := by
  simp [delimiters]

private theorem escape_cons (c : Char) (s : List Char) :
    escape (c :: s) = escapeCharacter c ++ escape s := rfl

/-- A character is escaped as its entity, or it is neither an ampersand nor a delimiter. -/
private theorem escapeCharacter_cases (c : Char) :
    (escapeCharacter c, c) ∈ entities ∨
      escapeCharacter c = [c] ∧ c ≠ '&' ∧ isDelimiter c = false := by
  unfold escapeCharacter
  split_ifs with h1 h2 h3 h4 h5
  · exact .inl (by rw [eq_of_beq h1]; decide)
  · exact .inl (by rw [eq_of_beq h2]; decide)
  · exact .inl (by rw [eq_of_beq h3]; decide)
  · exact .inl (by rw [eq_of_beq h4]; decide)
  · exact .inl (by rw [eq_of_beq h5]; decide)
  · exact .inr ⟨rfl, by simpa using h1, by simp [isDelimiter, *]⟩

/-- No delimiter is left in escaped text. -/
@[simp] theorem delimiters_escape (s : List Char) : delimiters (escape s) = [] := by
  induction s with
  | nil => rfl
  | cons c s ih =>
    have hc : delimiters (escapeCharacter c) = [] := by
      rcases escapeCharacter_cases c with h | ⟨h, -, hd⟩
      · have hall : ∀ entity ∈ entities, delimiters entity.1 = [] := by decide
        exact hall _ h
      · simp [h, delimiters, hd]
    rw [escape_cons, delimiters_append, hc, ih, List.append_nil]

private theorem entityRule_eq_none {c : Char} (h : c ≠ '&') (rest : List Char) :
    entityRule (c :: rest) = none := by
  have hc : ('&' == c) = false := by simpa using h.symm
  simp [entityRule, entities, List.isPrefixOf, hc]

private theorem entityRule_append {word : List Char} {c : Char} (h : (word, c) ∈ entities)
    (s : List Char) : entityRule (word ++ s) = some (c, word.length) := by
  simp only [entities, List.mem_cons, List.not_mem_nil, or_false, Prod.mk.injEq] at h
  rcases h with ⟨rfl, rfl⟩ | ⟨rfl, rfl⟩ | ⟨rfl, rfl⟩ | ⟨rfl, rfl⟩ | ⟨rfl, rfl⟩ <;> rfl

/-- A text is got back from its escaped form. -/
theorem unescape_escape (s : List Char) : unescape (escape s) = s := by
  induction s with
  | nil => rfl
  | cons c s ih =>
    rw [escape_cons]
    rcases escapeCharacter_cases c with h | ⟨h, hc, -⟩
    · have hne : ∀ entity ∈ entities, entity.1 ≠ [] := by decide
      rw [unescape, Text.pieces_append_of_some (hne _ h) (entityRule_append h _), List.map_cons]
      exact congrArg (c :: ·) ih
    · rw [h, List.singleton_append, unescape,
        Text.pieces_cons_of_none (entityRule_eq_none hc _), List.map_cons]
      exact congrArg (c :: ·) ih

private theorem suffix_of_suffix_append {c : Char} {word rest s : List Char} (hw : c ∉ word)
    (h : c :: rest <:+ word ++ s) : c :: rest <:+ s := by
  induction word with
  | nil => exact h
  | cons d word ih =>
    rw [List.mem_cons, not_or] at hw
    rcases List.suffix_cons_iff.mp h with heq | h
    · exact absurd (List.cons.inj heq).1 hw.1
    · exact ih hw.2 h

/-- No entity has an ampersand in it but the one that it begins with. -/
private theorem suffix_entity_append {word rest s : List Char} {c : Char}
    (h : (word, c) ∈ entities) (hs : '&' :: rest <:+ word ++ s) :
    word <+: '&' :: rest ∨ '&' :: rest <:+ s := by
  obtain ⟨word', rfl⟩ : ∃ word', word = '&' :: word' := by
    have hall : ∀ entity ∈ entities, entity.1 = '&' :: entity.1.tail := by decide
    exact ⟨_, hall _ h⟩
  have hplain : '&' ∉ word' := by
    have hall : ∀ entity ∈ entities, '&' ∉ entity.1.tail := by decide
    exact hall _ h
  rcases List.suffix_cons_iff.mp hs with heq | hs
  · exact .inl (heq ▸ List.prefix_append _ s)
  · exact .inr (suffix_of_suffix_append hplain hs)

/-- Escaped text has no ampersand but that of an entity. -/
theorem hasOnlyEntities_escape (s : List Char) : HasOnlyEntities (escape s) := by
  induction s with
  | nil =>
    intro rest h
    simp [escape] at h
  | cons c s ih =>
    intro rest h
    rw [escape_cons] at h
    rcases escapeCharacter_cases c with he | ⟨he, hc, -⟩
    · rcases suffix_entity_append he h with hp | h
      · exact ⟨_, he, hp⟩
      · exact ih rest h
    · rw [he] at h
      rcases List.suffix_cons_iff.mp h with heq | h
      · exact absurd (List.cons.inj heq).1.symm hc
      · exact ih rest h

end Signage.Section
