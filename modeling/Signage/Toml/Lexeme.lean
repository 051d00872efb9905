import Signage.Toml.Value
import Signage.Text.Scan

/-! What the lines of configuration documents are made of: blanks, comments and strings. -/
namespace Signage.Toml

/-- A reader of something at the front of a text, giving the text after it. -/
abbrev Reader (α : Type) := List Char → Option (α × List Char)

/-- A blank within a line. -/
def isBlank (c : Char) : Bool := c == ' ' || c == '\t'

/-- The text after the blanks it begins with. -/
def skipBlanks (s : List Char) : List Char := s.dropWhile isBlank

/-- A character that may stand in a comment or a string of one line. -/
def isVisible (c : Char) : Bool := c == '\t' || (0x20 ≤ c.toNat && c.toNat != 0x7F)

/-- The text after a line break, if it begins with one. -/
def skipNewline? : List Char → Option (List Char)
  | '\n' :: rest => some rest
  | '\r' :: '\n' :: rest => some rest
  | _ => none

/-- The text after a comment, if it begins with one. -/
def skipComment (s : List Char) : List Char :=
  match s with
  | '#' :: rest => rest.dropWhile isVisible
  | _ => s

/-- The text after the end of a line, before which blanks and a comment may stand. -/
def endLine? (s : List Char) : Option (List Char) :=
  match skipComment (skipBlanks s) with
  | [] => some []
  | rest => skipNewline? rest

/-- The text after blanks, line breaks and comments, the first of which may have begun before. -/
def skipLines (inComment : Bool) : List Char → List Char
  | [] => []
  | c :: rest =>
    if inComment && isVisible c then skipLines true rest
    else if isBlank c || c == '\n' then skipLines false rest
    else if c == '#' then skipLines true rest
    else
      match c, rest with
      | '\r', '\n' :: rest => skipLines false rest
      | _, _ => c :: rest

/-- The text after all blanks, line breaks and comments at its front. -/
def skipGap (s : List Char) : List Char := skipLines false s

def hexValue? (c : Char) : Option Nat :=
  if c.isDigit then some (c.toNat - '0'.toNat)
  else if 'a' ≤ c ∧ c ≤ 'f' then some (c.toNat - 'a'.toNat + 10)
  else if 'A' ≤ c ∧ c ≤ 'F' then some (c.toNat - 'A'.toNat + 10)
  else none

/-- The number written by exactly `count` hexadecimal digits. -/
def readHex? (count : Nat) : Reader Nat := fun s => do
  let digits := s.take count
  if digits.length < count then none
  let value ← digits.foldlM (fun value c => (hexValue? c).map (value * 16 + ·)) 0
  return (value, s.drop count)

/-- The character that the text after a backslash stands for. -/
def readEscape? : Reader Char := fun s =>
  let code (count : Nat) (rest : List Char) : Option (Char × List Char) := do
    let (value, rest) ← readHex? count rest
    if value.isValidChar then some (.ofNat value, rest) else none
  match s with
  | 'b' :: rest => some ('\x08', rest)
  | 't' :: rest => some ('\t', rest)
  | 'n' :: rest => some ('\n', rest)
  | 'f' :: rest => some ('\x0c', rest)
  | 'r' :: rest => some ('\r', rest)
  | '"' :: rest => some ('"', rest)
  | '\\' :: rest => some ('\\', rest)
  | 'u' :: rest => code 4 rest
  | 'U' :: rest => code 8 rest
  | _ => none

/-- A kind of string by its quotes: whether a backslash begins an escape there. -/
structure Quotes where
  mark : Char
  escapes : Bool

/-- Strings in double quotes, with escapes. -/
def Quotes.double : Quotes := ⟨'"', true⟩

/-- Strings in single quotes, without escapes. -/
def Quotes.single : Quotes := ⟨'\'', false⟩

/-- The string after its opening quote, on one line. -/
def readLineString? (quotes : Quotes) : Nat → Reader (List Char)
  | 0, _ => none
  | _ + 1, [] => none
  | fuel + 1, c :: rest =>
    if c == quotes.mark then some ([], rest)
    else if c == '\\' && quotes.escapes then do
      let (c, rest) ← readEscape? rest
      let (s, rest) ← readLineString? quotes fuel rest
      return (c :: s, rest)
    else if isVisible c then
      (readLineString? quotes fuel rest).map fun (s, rest) => (c :: s, rest)
    else none

/-- The text after blanks and line breaks. -/
def skipBreaks : Nat → List Char → List Char
  | 0, s => s
  | fuel + 1, s =>
    match skipNewline? (skipBlanks s) with
    | some rest => skipBreaks fuel rest
    | none => skipBlanks s

/-- The text after a backslash at the end of a line and all blanks and line breaks after it. -/
def skipContinuation? (s : List Char) : Option (List Char) :=
  (skipNewline? (skipBlanks s)).map fun rest => skipBreaks rest.length rest

/-- The string after its three opening quotes; it may have several lines, and one or two quotes
may stand anywhere in it. -/
def readBlockString? (quotes : Quotes) : Nat → Reader (List Char)
  | 0, _ => none
  | fuel + 1, s =>
    let run := (s.takeWhile (· == quotes.mark)).length
    if 6 ≤ run then none
    else if 3 ≤ run then some (List.replicate (run - 3) quotes.mark, s.drop run)
    else
      match s with
      | [] => none
      | c :: rest =>
        let go (found : List Char) (rest : List Char) : Option (List Char × List Char) :=
          (readBlockString? quotes fuel rest).map fun (s, rest) => (found ++ s, rest)
        if c == '\\' && quotes.escapes then
          match skipContinuation? rest with
          | some rest => go [] rest
          | none =>
            match readEscape? rest with
            | some (c, rest) => go [c] rest
            | none => none
        else if isVisible c then go [c] rest
        else
          match skipNewline? s with
          | some rest => go ['\n'] rest
          | none => none

/-- A string in quotes of the kind, on one line or several. -/
def readQuoted? (quotes : Quotes) : Reader String := fun s => do
  let (text, rest) ←
    match s with
    | a :: b :: c :: rest =>
      if a == quotes.mark && b == quotes.mark && c == quotes.mark then
        readBlockString? quotes (s.length + 1) ((skipNewline? rest).getD rest)
      else readLineString? quotes (s.length + 1) (b :: c :: rest)
    | _ :: rest => readLineString? quotes (s.length + 1) rest
    | [] => none
  return (.ofList text, rest)

/-- A character of a key without quotes. -/
def isBareCharacter (c : Char) : Bool := c.isAlphanum || c == '-' || c == '_'

/-- The quotes that the text begins with. -/
def quotesOf? : List Char → Option Quotes
  | '"' :: _ => some .double
  | '\'' :: _ => some .single
  | _ => none

/-- One part of a key; in quotes it has to be on one line. -/
def readKeyPart? : Reader String := fun s =>
  match quotesOf? s with
  | some quotes =>
    (readLineString? quotes (s.length + 1) (s.drop 1)).map fun (text, rest) =>
      (.ofList text, rest)
  | none =>
    let part := s.takeWhile isBareCharacter
    if part.isEmpty then none else some (.ofList part, s.dropWhile isBareCharacter)

/-- The parts of a key, between dots. -/
def readKeyParts? : Nat → Reader (List String)
  | 0, _ => none
  | fuel + 1, s => do
    let (part, rest) ← readKeyPart? (skipBlanks s)
    match skipBlanks rest with
    | '.' :: rest =>
      let (parts, rest) ← readKeyParts? fuel rest
      return (part :: parts, rest)
    | rest => return ([part], rest)

/-- The number of levels from which on values and keys are refused. -/
def levelLimit : Nat := 80

/-- A key: the path to its table, and its last part. -/
def readKey? : Reader (List String × String) := fun s => do
  let (parts, rest) ← readKeyParts? (s.length + 1) s
  if levelLimit ≤ parts.length then none
  let last ← parts.getLast?
  return ((parts.dropLast, last), rest)

end Signage.Toml
