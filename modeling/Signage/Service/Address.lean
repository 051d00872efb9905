import Signage.Text.Numeral
import Signage.Text.Scan

/-! Addresses that a hub can be served at: a number of version 4 or 6 and a port. -/
namespace Signage.Service

/-- A reader that gives the text after what it reads. -/
abbrev Skipper := List Char → Option (List Char)

def skipMark? (c : Char) : Skipper := Text.dropLiteral? [c]

/-- The text after a number of version 4's four; it has no superfluous zero. -/
def skipOctet? : Skipper := fun s =>
  let digits := s.takeWhile Char.isDigit
  match Text.readNumeral 255 digits with
  | .ok _ =>
    if 3 < digits.length ∨ (digits.head? = some '0' ∧ 1 < digits.length) then none
    else some (s.drop digits.length)
  | .error _ => none

def skipVersion4? : Skipper := fun s => do
  let s ← skipMark? '.' (← skipOctet? s)
  let s ← skipMark? '.' (← skipOctet? s)
  let s ← skipMark? '.' (← skipOctet? s)
  skipOctet? s

def isHexDigit (c : Char) : Bool := c.isDigit || ('a' ≤ c && c ≤ 'f') || ('A' ≤ c && c ≤ 'F')

/-- The text after a group of version 6. -/
def skipGroup? : Skipper := fun s =>
  let digits := s.takeWhile isHexDigit
  if digits.isEmpty ∨ 4 < digits.length then none else some (s.drop digits.length)

/-- The text after the colon between groups; none stands before the first. -/
def skipSeparator? (isFirst : Bool) : Skipper := fun s => if isFirst then some s else skipMark? ':' s

/-- The number of groups at the front, of which there may be `room`, whether an address of version
4 takes the place of the last two, and the text after them. -/
def skipGroups : (room : Nat) → (isFirst : Bool) → List Char → Nat × Bool × List Char
  | 0, _, s => (0, false, s)
  | room + 1, isFirst, s =>
    match (skipSeparator? isFirst s).bind skipVersion4?, room with
    | some rest, _ + 1 => (2, true, rest)
    | _, _ =>
      match (skipSeparator? isFirst s).bind skipGroup? with
      | some rest =>
        let (count, endsIn4, rest) := skipGroups room false rest
        (count + 1, endsIn4, rest)
      | none => (0, false, s)

def skipVersion6? : Skipper := fun s =>
  let (count, endsIn4, rest) := skipGroups 8 true s
  if count = 8 then some rest
  else if endsIn4 then none
  else do
    let rest ← skipMark? ':' (← skipMark? ':' rest)
    return (skipGroups (7 - count) true rest).2.2

/-- The text after the number of an interface, if one is written. -/
def skipScope? : Skipper := fun s =>
  match s with
  | '%' :: rest =>
    let digits := rest.takeWhile Char.isDigit
    match Text.readNumeral (UInt32.size - 1) digits with
    | .ok _ => some (rest.drop digits.length)
    | .error _ => none
  | _ => some s

def skipHost? : Skipper := fun s =>
  match s with
  | '[' :: rest => do skipMark? ']' (← skipScope? (← skipVersion6? rest))
  | _ => skipVersion4? s

/-- Whether a hub can be served at the host. -/
def isHost (host : String) : Bool := skipHost? host.toList == some []

end Signage.Service
