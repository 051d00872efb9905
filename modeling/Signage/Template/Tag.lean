import Signage.Text.Scan
import Signage.Text.WordCharacter

/-!
The tags of templates. A block, from its opening tag `{{#name}}` to the first closing tag
`{{/name}}` of any name, is repeated for every row of a section; `{{section.key}}` stands for a
text of the first row of a section, and `{{key}}` inside a block for a text of the row.
-/
namespace Signage.Template

/-- A tag, or a block between two tags. -/
inductive Tag where
  | block (name closing body : List Char)
  | lookup (table key : List Char)

/-- The beginning of every tag. -/
def opening : List Char := ['\x7b', '\x7b']

/-- The end of every tag. -/
def closing : List Char := ['\x7d', '\x7d']

/-- A name and the text after it; a name is not empty and takes all word characters it can. -/
def readName? (s : List Char) : Option (List Char × List Char) :=
  let name := s.takeWhile Text.isWordCharacter
  if name.isEmpty then none else some (name, s.dropWhile Text.isWordCharacter)

/-- The name in a tag that has the given mark before it, and the text after the tag. -/
def readMarked? (mark s : List Char) : Option (List Char × List Char) := do
  let rest ← Text.dropLiteral? (opening ++ mark) s
  let (name, rest) ← readName? rest
  let rest ← Text.dropLiteral? closing rest
  return (name, rest)

/-- The text up to the first closing tag, the name in that tag, and the text after it. -/
def splitAtClosing? : List Char → Option (List Char × List Char × List Char)
  | [] => none
  | c :: rest =>
    match readMarked? ['/'] (c :: rest) with
    | some (name, after) => some ([], name, after)
    | none => (splitAtClosing? rest).map fun (body, name, after) => (c :: body, name, after)

/-- The block at the front of a text, and the text after it. -/
def readBlock? (s : List Char) : Option (Tag × List Char) := do
  let (name, rest) ← readMarked? ['#'] s
  let (body, closing, rest) ← splitAtClosing? rest
  return (.block name closing body, rest)

/-- The lookup at the front of a text, and the text after it. -/
def readLookup? (s : List Char) : Option (Tag × List Char) := do
  let rest ← Text.dropLiteral? opening s
  let (table, rest) ← readName? rest
  let rest ← Text.dropLiteral? ['.'] rest
  let (key, rest) ← readName? rest
  let rest ← Text.dropLiteral? closing rest
  return (.lookup table key, rest)

/-- The tag at the front of a text, and the text after it. -/
def readTag? (s : List Char) : Option (Tag × List Char) :=
  match readBlock? s with
  | some found => some found
  | none => readLookup? s

/-- A rule that finds what a reader reads at the front of a text. -/
def ruleOf {α : Type} (read? : List Char → Option (α × List Char)) : Text.TokenRule α := fun s =>
  (read? s).map fun (value, rest) => (value, s.length - rest.length)

def tagRule : Text.TokenRule Tag := ruleOf readTag?

def keyRule : Text.TokenRule (List Char) := ruleOf (readMarked? [])

end Signage.Template
