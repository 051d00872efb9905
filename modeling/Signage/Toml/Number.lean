import Signage.Calendar.Date
import Signage.Number.Width
import Signage.Toml.Lexeme

/-! Numbers, dates and times of configuration documents. -/
namespace Signage.Toml

/-- Digits after the first; between two of them an underscore may stand. -/
def readMoreDigits? (isDigit : Char → Bool) : Reader (List Char)
  | '_' :: c :: rest =>
    if isDigit c then (readMoreDigits? isDigit rest).map fun (s, rest) => (c :: s, rest) else none
  | ['_'] => none
  | c :: rest =>
    if isDigit c then (readMoreDigits? isDigit rest).map fun (s, rest) => (c :: s, rest)
    else some ([], c :: rest)
  | [] => some ([], [])

/-- Digits, of which there has to be one. -/
def readDigits? (isDigit : Char → Bool) : Reader (List Char)
  | c :: rest =>
    if isDigit c then (readMoreDigits? isDigit rest).map fun (s, rest) => (c :: s, rest) else none
  | [] => none

/-- The digits of a decimal integer, which do not begin with a zero unless that is all. -/
def readDecimal? : Reader (List Char)
  | '0' :: rest => some (['0'], rest)
  | s => readDigits? Char.isDigit s

/-- The number that digits stand for in a base. -/
def valueOf (base : Nat) (digits : List Char) : Nat :=
  digits.foldl (fun value c => value * base + (hexValue? c).getD 0) 0

/-- An integer, which has to fit 64 bits. -/
def integer? (n : Int) : Option Value := (Number.int64? n).map fun _ => .integer n

/-- An integer in another base than ten, after the mark of the base. -/
def readBased? (base : Nat) : Reader Value := fun s => do
  let isDigit (c : Char) : Bool := (hexValue? c).any (· < base)
  let (digits, rest) ← readDigits? isDigit s
  return (← integer? (valueOf base digits), rest)

/-- The exponent of a real number, if one is written. -/
def readExponent? : Reader (Option Int) := fun s =>
  match s with
  | e :: rest =>
    if e == 'e' || e == 'E' then
      let (negative, rest) := match rest with
        | '-' :: rest => (true, rest)
        | '+' :: rest => (false, rest)
        | rest => (false, rest)
      (readDigits? Char.isDigit rest).map fun (digits, rest) =>
        let size : Int := valueOf 10 digits
        (some (if negative then -size else size), rest)
    else some (none, s)
  | [] => some (none, [])

/-- The fraction of a real number, if one is written. -/
def readFraction? : Reader (Option (List Char)) := fun s =>
  match s with
  | '.' :: rest => (readDigits? Char.isDigit rest).map fun (digits, rest) => (some digits, rest)
  | _ => some (none, s)

/-- The least number that is rounded to infinity as a real number of 64 bits. -/
def leastInfinite : Nat := (1 <<< 1024) - (1 <<< 970)

/-- Whether `digits * 10 ^ exponent` is rounded to infinity as a real number of 64 bits. -/
def isInfinite (digits : Nat) (exponent : Int) : Bool :=
  let places : Int := (Nat.toDigits 10 digits).length + exponent
  if digits = 0 ∨ places < 300 then false
  else if 320 < places then true
  else if 0 ≤ exponent then leastInfinite ≤ digits * Nat.pow 10 exponent.natAbs
  else leastInfinite * Nat.pow 10 exponent.natAbs ≤ digits

/-- A decimal number after its sign. Only a positive one is refused for being too large. -/
def readUnsigned? (negative : Bool) : Reader Value := fun s => do
  let (whole, rest) ← readDecimal? s
  let (fraction, rest) ← readFraction? rest
  let (exponent, rest) ← readExponent? rest
  match fraction, exponent with
  | none, none =>
    let size : Int := valueOf 10 whole
    return (← integer? (if negative then -size else size), rest)
  | _, _ =>
    let fraction := fraction.getD []
    let exponent := exponent.getD 0 - fraction.length
    if !negative && isInfinite (valueOf 10 (whole ++ fraction)) exponent then none
    else return (.real, rest)

/-- The text after one of the words for infinity and for what is no number. -/
def skipSpecial? (s : List Char) : Option (List Char) :=
  (Text.dropLiteral? ['i', 'n', 'f'] s).or (Text.dropLiteral? ['n', 'a', 'n'] s)

/-- A number after its sign, if it has one. -/
def readSigned? (negative : Bool) : Reader Value := fun s =>
  match skipSpecial? s with
  | some rest => some (.real, rest)
  | none => readUnsigned? negative s

def readNumber? : Reader Value := fun s =>
  match s with
  | '+' :: rest => readSigned? false rest
  | '-' :: rest => readSigned? true rest
  | '0' :: 'x' :: rest => readBased? 16 rest
  | '0' :: 'o' :: rest => readBased? 8 rest
  | '0' :: 'b' :: rest => readBased? 2 rest
  | _ => readSigned? false s

/-- The number written by exactly `count` decimal digits. -/
def readFixed? (count : Nat) : Reader Nat := fun s =>
  let digits := (s.take count).takeWhile Char.isDigit
  if digits.length < count then none else some (valueOf 10 digits, s.drop count)

/-- As `readFixed?`, for numbers of a range. -/
def readBounded? (count least most : Nat) : Reader Nat := fun s => do
  let (value, rest) ← readFixed? count s
  if least ≤ value ∧ value ≤ most then some (value, rest) else none

def skip? (c : Char) (s : List Char) : Option (List Char) := Text.dropLiteral? [c] s

def skipDate? (s : List Char) : Option (List Char) := do
  let (year, rest) ← readFixed? 4 s
  let (month, rest) ← readBounded? 2 1 12 (← skip? '-' rest)
  let (_, rest) ← readBounded? 2 1 (Calendar.Date.daysInMonth year month) (← skip? '-' rest)
  return rest

/-- The text after the fraction of a second, if one is written. -/
def skipSecondFraction (s : List Char) : List Char :=
  match s with
  | '.' :: c :: rest => if c.isDigit then rest.dropWhile Char.isDigit else s
  | _ => s

def skipTime? (s : List Char) : Option (List Char) := do
  let (_, rest) ← readBounded? 2 0 23 s
  let (_, rest) ← readBounded? 2 0 59 (← skip? ':' rest)
  let (_, rest) ← readBounded? 2 0 60 (← skip? ':' rest)
  return skipSecondFraction rest

/-- The text after a distance from universal time, if one is written. -/
def skipZone? (s : List Char) : Option (List Char) :=
  let distance (rest : List Char) : Option (List Char) := do
    let (_, rest) ← readBounded? 2 0 23 rest
    let (_, rest) ← readBounded? 2 0 59 (← skip? ':' rest)
    return rest
  match s with
  | 'Z' :: rest => some rest
  | 'z' :: rest => some rest
  | '+' :: rest => distance rest
  | '-' :: rest => distance rest
  | _ => some s

/-- The text after the time of the day that may follow a date. -/
def skipTimeOfDate? (s : List Char) : Option (List Char) :=
  match s with
  | c :: rest =>
    if c == 'T' || c == 't' || c == ' ' then
      match skipTime? rest with
      | some rest => skipZone? rest
      | none => some s
    else some s
  | [] => some []

/-- Whether a text begins with the given number of digits and then a mark. -/
def beginsWith (count : Nat) (mark : Char) (s : List Char) : Bool :=
  (readFixed? count s).any fun (_, rest) => rest.head? == some mark

/-- A date, a time, or both. -/
def readMoment? : Reader Value := fun s => do
  let rest ←
    if beginsWith 4 '-' s then (skipDate? s).bind skipTimeOfDate?
    else skipTime? s
  return (.moment, rest)

/-- A number, or a date or time. -/
def readNumeric? : Reader Value := fun s =>
  if beginsWith 4 '-' s || beginsWith 2 ':' s then readMoment? s else readNumber? s

end Signage.Toml
