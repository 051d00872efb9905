import Signage.Json.Basic
import Signage.Text.Numeral

/-! Writing JSON texts: without any space, or with one member or item to a line. -/
namespace Signage.Json

def hexDigit (n : Nat) : Char := Nat.digitChar n

def escapeCharacter (c : Char) : List Char :=
  if c == '"' then ['\\', '"']
  else if c == '\\' then ['\\', '\\']
  else if c == '\x08' then ['\\', 'b']
  else if c == '\x0c' then ['\\', 'f']
  else if c == '\n' then ['\\', 'n']
  else if c == '\r' then ['\\', 'r']
  else if c == '\t' then ['\\', 't']
  else if c.toNat < 0x20 then
    ['\\', 'u', '0', '0', hexDigit (c.toNat / 16), hexDigit (c.toNat % 16)]
  else [c]

def writeString (s : String) : List Char := '"' :: s.toList.flatMap escapeCharacter ++ ['"']

mutual

/-- The value without any space. Numbers and strings that were read only to be skipped are
written as null. -/
def write : Json → List Char
  | null => ['n', 'u', 'l', 'l']
  | boolean true => ['t', 'r', 'u', 'e']
  | boolean false => ['f', 'a', 'l', 's', 'e']
  | integer n => Text.integerNumeral n
  | decimal => ['n', 'u', 'l', 'l']
  | string s => writeString s
  | brokenString => ['n', 'u', 'l', 'l']
  | array items => '[' :: writeItems items
  | object members => '\x7b' :: writeMembers members

/-- The items of an array and its closing bracket. -/
def writeItems : List Json → List Char
  | [] => [']']
  | [item] => write item ++ [']']
  | item :: items => write item ++ ',' :: writeItems items

/-- The members of an object and its closing brace. -/
def writeMembers : List (Option String × Json) → List Char
  | [] => ['\x7d']
  | [(name, value)] => writeString (name.getD "") ++ ':' :: write value ++ ['\x7d']
  | (name, value) :: members =>
    writeString (name.getD "") ++ ':' :: write value ++ ',' :: writeMembers members

end

/-- The text of a value, without any space. -/
def toText (json : Json) : String := .ofList json.write

/-- An object of plain values, one member to a line and indented by two blanks. -/
def recordLines (fields : List (String × Json)) : String :=
  let lines := fields.map fun (name, value) =>
    String.ofList (' ' :: ' ' :: writeString name ++ ':' :: ' ' :: value.write)
  "\x7b\n" ++ String.intercalate ",\n" lines ++ "\n\x7d"

end Signage.Json
