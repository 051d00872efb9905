import Signage.Json.Basic
import Signage.Text.Numeral
import Signage.Text.Scan

/-!
Reading JSON texts. Everything is checked but the pairing of surrogate escapes, which makes a
broken string and is judged where the string is used.
-/
namespace Signage.Json

def isSpace (c : Char) : Bool := c == ' ' || c == '\n' || c == '\t' || c == '\r'

/-- The text after the white space it begins with. -/
def skipSpace (s : List Char) : List Char := s.dropWhile isSpace

def hexDigit? (c : Char) : Option Nat :=
  if c.isDigit then some (c.toNat - '0'.toNat)
  else if 'a' ≤ c ∧ c ≤ 'f' then some (c.toNat - 'a'.toNat + 10)
  else if 'A' ≤ c ∧ c ≤ 'F' then some (c.toNat - 'A'.toNat + 10)
  else none

/-- The number written by four hexadecimal digits, and the text after them. -/
def hexQuad? : List Char → Option (Nat × List Char)
  | a :: b :: c :: d :: rest => do
    let a ← hexDigit? a
    let b ← hexDigit? b
    let c ← hexDigit? c
    let d ← hexDigit? d
    return (((a * 16 + b) * 16 + c) * 16 + d, rest)
  | _ => none

/-- The character that a backslash and one letter stand for. -/
def shortEscape? : Char → Option Char
  | '"' => some '"'
  | '\\' => some '\\'
  | '/' => some '/'
  | 'b' => some '\x08'
  | 'f' => some '\x0c'
  | 'n' => some '\n'
  | 'r' => some '\r'
  | 't' => some '\t'
  | _ => none

/-- Whether the unit is the first half of a surrogate pair. -/
def isHighSurrogate (u : Nat) : Bool := 0xD800 ≤ u && u < 0xDC00

/-- Whether the unit is the second half of a surrogate pair. -/
def isLowSurrogate (u : Nat) : Bool := 0xDC00 ≤ u && u < 0xE000

/-- A unit of a string body: a character, or half of a surrogate pair. -/
inductive StringUnit where
  | character (c : Char)
  | half (unit : Nat)

/-- The unit written by an escape with four hexadecimal digits. -/
def StringUnit.ofCode (u : Nat) : StringUnit :=
  if isHighSurrogate u || isLowSurrogate u then .half u else .character (.ofNat u)

/-- The units of a string body in reverse, up to its closing quote, and the text after it. -/
def stringUnits : Nat → List StringUnit → List Char → Option (List StringUnit × List Char)
  | 0, _, _ => none
  | _ + 1, _, [] => none
  | fuel + 1, units, c :: rest =>
    if c == '"' then some (units, rest)
    else if c == '\\' then
      match rest with
      | 'u' :: digits =>
        match hexQuad? digits with
        | some (u, rest) => stringUnits fuel (.ofCode u :: units) rest
        | none => none
      | e :: rest =>
        match shortEscape? e with
        | some c => stringUnits fuel (.character c :: units) rest
        | none => none
      | [] => none
    else if c.toNat < 0x20 then none
    else stringUnits fuel (.character c :: units) rest

/-- The text spelled by units in reverse, put before `text`; halves have to stand in pairs. -/
def joinUnits : List Char → List StringUnit → Option (List Char)
  | text, [] => some text
  | text, .character c :: units => joinUnits (c :: text) units
  | text, .half low :: .half high :: units =>
    if isHighSurrogate high && isLowSurrogate low then
      joinUnits (.ofNat (0x10000 + (high - 0xD800) * 0x400 + (low - 0xDC00)) :: text) units
    else none
  | _, [.half _] => none
  | _, .half _ :: .character _ :: _ => none

/-- The string after its opening quote; a broken one is `none`. -/
def readString? (s : List Char) : Option (Option String × List Char) :=
  match stringUnits (s.length + 1) [] s with
  | some (units, rest) => some ((joinUnits [] units).map String.ofList, rest)
  | none => none

/-- The digits at the front, and the text after them. -/
def spanDigits (s : List Char) : List Char × List Char := s.span Char.isDigit

/-- The text after a fraction, if one is written as it should be; `false` if there is none. -/
def readFraction? : List Char → Option (Bool × List Char)
  | '.' :: s =>
    match spanDigits s with
    | ([], _) => none
    | (_, rest) => some (true, rest)
  | s => some (false, s)

/-- The text after an exponent, if one is written as it should be; `false` if there is none. -/
def readExponent? : List Char → Option (Bool × List Char)
  | s@(e :: rest) =>
    if e == 'e' || e == 'E' then
      let digits := match rest with
        | '+' :: t => t
        | '-' :: t => t
        | t => t
      match spanDigits digits with
      | ([], _) => none
      | (_, rest) => some (true, rest)
    else some (false, s)
  | [] => some (false, [])

/-- The number after its sign. -/
def readMagnitude? (negative : Bool) (s : List Char) : Option (Json × List Char) :=
  match spanDigits s with
  | ([], _) => none
  | (digits@(first :: more), rest) =>
    if first == '0' && !more.isEmpty then none
    else do
      let (fraction, rest) ← readFraction? rest
      let (exponent, rest) ← readExponent? rest
      let value := Nat.ofDigitChars 10 digits 0
      if fraction || exponent || (negative && value == 0) then return (.decimal, rest)
      else return (.integer (if negative then -(value : Int) else value), rest)

mutual

/-- The value at the front of the text, and the text after it. -/
def readValue? : Nat → List Char → Option (Json × List Char)
  | 0, _ => none
  | fuel + 1, s =>
    match skipSpace s with
    | 'n' :: rest => (Text.dropLiteral? ['u', 'l', 'l'] rest).map fun rest => (.null, rest)
    | 't' :: rest => (Text.dropLiteral? ['r', 'u', 'e'] rest).map fun rest => (.boolean true, rest)
    | 'f' :: rest =>
      (Text.dropLiteral? ['a', 'l', 's', 'e'] rest).map fun rest => (.boolean false, rest)
    | '"' :: rest => (readString? rest).map fun (text, rest) =>
      (text.elim .brokenString .string, rest)
    | '[' :: rest =>
      match skipSpace rest with
      | ']' :: rest => some (.array [], rest)
      | rest => (readItems? fuel rest).map fun (items, rest) => (.array items, rest)
    | '\x7b' :: rest =>
      match skipSpace rest with
      | '\x7d' :: rest => some (.object [], rest)
      | rest => (readMembers? fuel rest).map fun (members, rest) => (.object members, rest)
    | '-' :: rest => readMagnitude? true rest
    | s => readMagnitude? false s

/-- The items of an array up to its closing bracket. -/
def readItems? : Nat → List Char → Option (List Json × List Char)
  | 0, _ => none
  | fuel + 1, s => do
    let (item, rest) ← readValue? fuel s
    match skipSpace rest with
    | ',' :: rest =>
      let (items, rest) ← readItems? fuel rest
      return (item :: items, rest)
    | ']' :: rest => return ([item], rest)
    | _ => none

/-- The members of an object up to its closing brace. -/
def readMembers? : Nat → List Char → Option (List (Option String × Json) × List Char)
  | 0, _ => none
  | fuel + 1, s =>
    match skipSpace s with
    | '"' :: rest => do
      let (name, rest) ← readString? rest
      match skipSpace rest with
      | ':' :: rest =>
        let (value, rest) ← readValue? fuel rest
        match skipSpace rest with
        | ',' :: rest =>
          let (members, rest) ← readMembers? fuel rest
          return ((name, value) :: members, rest)
        | '\x7d' :: rest => return ([(name, value)], rest)
        | _ => none
      | _ => none
    | _ => none

end

/-- The value that the whole text writes. -/
def ofText? (text : String) : Option Json :=
  match readValue? (2 * text.length + 2) text.toList with
  | some (json, rest) => if (skipSpace rest).isEmpty then some json else none
  | none => none

end Signage.Json
