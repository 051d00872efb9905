import Signage.Text.Printable

/-! Text in double quotes, with an escape for each character that could not be seen there. -/
namespace Signage.Text

/-- What is left open by the quoted form: whether an apostrophe is escaped too. -/
structure QuoteStyle where
  escapesApostrophe : Bool

/-- Texts leave an apostrophe alone. -/
def QuoteStyle.text : QuoteStyle := ⟨false⟩

/-- Paths escape an apostrophe. -/
def QuoteStyle.path : QuoteStyle := ⟨true⟩

/-- The code point in hexadecimal between braces. -/
def unicodeEscape (c : Char) : List Char :=
  ['\\', 'u', '\x7b'] ++ Nat.toDigits 16 c.toNat ++ ['\x7d']

/-- One character of a quoted text. -/
def QuoteStyle.escape (style : QuoteStyle) (c : Char) : List Char :=
  if c == '\x00' then ['\\', '0']
  else if c == '\t' then ['\\', 't']
  else if c == '\r' then ['\\', 'r']
  else if c == '\n' then ['\\', 'n']
  else if c == '"' || c == '\\' then ['\\', c]
  else if c == '\'' && style.escapesApostrophe then ['\\', c]
  else if !isPrintable c then unicodeEscape c
  else [c]

/-- The text between double quotes. -/
def QuoteStyle.quote (style : QuoteStyle) (s : List Char) : List Char :=
  '"' :: s.flatMap style.escape ++ ['"']

def quoted (s : String) : String := .ofList (QuoteStyle.text.quote s.toList)

def quotedPath (s : String) : String := .ofList (QuoteStyle.path.quote s.toList)

end Signage.Text
