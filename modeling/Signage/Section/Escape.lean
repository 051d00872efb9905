/-! Text made safe for attributes and elements of markup. -/
namespace Signage.Section

/-- A character, with an entity in place of each that has a meaning in markup. -/
def escapeCharacter (c : Char) : List Char :=
  if c == '&' then ['&', 'a', 'm', 'p', ';']
  else if c == '<' then ['&', 'l', 't', ';']
  else if c == '>' then ['&', 'g', 't', ';']
  else if c == '"' then ['&', 'q', 'u', 'o', 't', ';']
  else if c == '\'' then ['&', 'a', 'p', 'o', 's', ';']
  else [c]

/-- The text with entities in place of the characters that have a meaning in markup. -/
def escape (s : List Char) : List Char := s.flatMap escapeCharacter

@[simp] theorem escape_nil : escape [] = [] := rfl

@[simp] theorem escape_append (s t : List Char) : escape (s ++ t) = escape s ++ escape t :=
  List.flatMap_append

end Signage.Section
