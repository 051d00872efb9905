/-! Decimal numerals with ASCII digits, and the numbers of bounded size they stand for. -/
namespace Signage.Text

def digitValue? (c : Char) : Option Nat :=
  if c.isDigit then some (c.toNat - '0'.toNat) else none

def numeral (n : Nat) : List Char := Nat.toDigits 10 n

/-- The numeral of an integer, with a minus sign if it is negative. -/
def integerNumeral (n : Int) : List Char :=
  if n < 0 then '-' :: numeral n.natAbs else numeral n.natAbs

/-- The numeral filled up with zeros on the left to at least the given width. -/
def paddedNumeral (width n : Nat) : List Char :=
  List.replicate (width - (numeral n).length) '0' ++ numeral n

/-- Why a numeral stands for no number of the wanted size. -/
inductive NumeralFault where
  | empty
  | invalidDigit
  | tooLarge
  deriving DecidableEq, Repr

def NumeralFault.message : NumeralFault → String
  | empty => "cannot parse integer from empty string"
  | invalidDigit => "invalid digit found in string"
  | tooLarge => "number too large to fit in target type"

/-- Read on from the value of the digits before; the leftmost fault is reported. -/
def readDigits (greatest : Nat) : Nat → List Char → Except NumeralFault Nat
  | value, [] => .ok value
  | value, c :: rest =>
    match digitValue? c with
    | none => .error .invalidDigit
    | some digit =>
      if value * 10 + digit ≤ greatest then readDigits greatest (value * 10 + digit) rest
      else .error .tooLarge

/-- The number of at most the given size that the digits stand for; leading zeros are allowed. -/
def readNumeral (greatest : Nat) (s : List Char) : Except NumeralFault Nat :=
  if s.isEmpty then .error .empty else readDigits greatest 0 s

/-- As `readNumeral`, for digits that may follow a plus sign. -/
def readSignedNumeral? (greatest : Nat) (s : List Char) : Option Nat :=
  match s with
  | '+' :: digits => (readNumeral greatest digits).toOption
  | digits => (readNumeral greatest digits).toOption

end Signage.Text
