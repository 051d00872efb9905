import Signage.Number.Extended
import Signage.Number.Width
import Signage.Store.Cell
import Signage.Text.Numeral

/-!
How a value changes when it is put into a column: numbers become text in a text column, and text
that writes a number becomes a number in an integer column.
-/
namespace Signage.Store

/-- What a column prefers to hold. -/
inductive Affinity where
  | text
  | integer
  deriving DecidableEq, Repr

/-- A number as it is written. -/
structure Decimal where
  negative : Bool
  /-- The digits before the point. -/
  whole : List Char
  /-- The digits after the point. -/
  fraction : List Char
  exponent : Int
  /-- There is neither a point nor an exponent. -/
  isPlain : Bool

/-- The blanks that may stand around a number. -/
def isPadding (c : Char) : Bool := c == ' ' || ('\x09' ≤ c && c ≤ '\x0d')

/-- The sign at the front, if there is one, and the text after it. -/
def readSign (s : List Char) : Bool × List Char :=
  match s with
  | '-' :: rest => (true, rest)
  | '+' :: rest => (false, rest)
  | rest => (false, rest)

def digitValue (c : Char) : Nat := (Text.digitValue? c).getD 0

/-- The size of an exponent. Once it has five digits, each further digit makes it ten thousand. -/
def exponentSize (digits : List Char) : Nat :=
  digits.foldl (fun size c => if size < 10000 then size * 10 + digitValue c else 10000) 0

/-- The exponent that is all of the text; no text is the exponent zero. -/
def readExponent? : List Char → Option Int
  | [] => some 0
  | e :: rest =>
    let (negative, digits) := readSign rest
    if (e == 'e' || e == 'E') && !digits.isEmpty && digits.all Char.isDigit then
      some (if negative then -(exponentSize digits : Int) else exponentSize digits)
    else none

/-- The number that is all of the text. -/
def readDecimal? (s : List Char) : Option Decimal :=
  let (negative, rest) := readSign s
  let (whole, rest) := rest.span Char.isDigit
  let (hasPoint, fraction, rest) := match rest with
    | '.' :: rest => (true, rest.takeWhile Char.isDigit, rest.dropWhile Char.isDigit)
    | rest => (false, [], rest)
  if whole.isEmpty && fraction.isEmpty then none
  else
    (readExponent? rest).map fun exponent =>
      { negative, whole, fraction, exponent, isPlain := !hasPoint && rest.isEmpty }

/-- What the leading digits may come to before another digit is taken, so that 64 bits hold it. -/
def digitRoom : Nat := (UInt64.size - 10) / 10

/-- The value of leading digits, as far as there is room for them, and the digits left over. -/
def takeDigits : Nat → List Char → Nat × List Char
  | value, [] => (value, [])
  | value, c :: rest =>
    if value < digitRoom then takeDigits (value * 10 + digitValue c) rest else (value, c :: rest)

/-- The leading digits as a number, and the exponent of ten that goes with it. -/
def Decimal.leading (d : Decimal) : Nat × Int :=
  let (value, skipped) := takeDigits 0 d.whole
  let (value, left) := takeDigits value d.fraction
  (value, d.exponent + skipped.length - (d.fraction.length - left.length : Nat))

/-- The same number with a lesser exponent of ten, as far as 64 bits hold it. -/
def lowerExponent : Nat → Nat → Nat × Nat
  | value, 0 => (value, 0)
  | value, exponent + 1 =>
    if value < (UInt64.size - 1) / 10 then lowerExponent (value * 10) exponent
    else (value, exponent + 1)

/-- The same number with a lesser power of ten to divide by, as far as it ends in zeros. -/
def lowerDivisor : Nat → Nat → Nat × Nat
  | value, 0 => (value, 0)
  | value, exponent + 1 =>
    if value % 10 = 0 then lowerDivisor (value / 10) exponent else (value, exponent + 1)

/-- The number without its sign, to the precision in which it is computed. -/
def Decimal.magnitude (d : Decimal) : Number.Extended :=
  match d.leading with
  | (0, _) => ⟨0, 0⟩
  | (value, .ofNat exponent) =>
    let (value, exponent) := lowerExponent value exponent
    (Number.Extended.ofNat value).timesTen exponent
  | (value, .negSucc exponent) =>
    let (value, exponent) := lowerDivisor value (exponent + 1)
    (Number.Extended.ofNat value).overTen exponent

/-- The number with its sign. -/
def Decimal.signed (d : Decimal) (size : Nat) : Int := if d.negative then -(size : Int) else size

/-- The number as an integer cell if it is one in range, and as a real cell otherwise. A plain
number is taken exactly, any other one to the 53 bits of a real number. -/
def Decimal.toCell (d : Decimal) : Cell :=
  if d.isPlain then
    match Number.int64? (d.signed (Nat.ofDigitChars 10 d.whole 0)) with
    | some n => .integer n
    | none => .real
  else if d.magnitude.isNegligible then .integer 0
  else
    match (d.magnitude.keep 53).whole? with
    | some size =>
      if size ≤ Int64.maxValue.toNatClampNeg then .integer (.ofInt (d.signed size)) else .real
    | none => .real

/-- What a text becomes in an integer column. -/
def numberOrText (text : String) : Cell :=
  let s := ((text.toList.dropWhile isPadding).reverse.dropWhile isPadding).reverse
  match readDecimal? s with
  | some d => d.toCell
  | none => .text text

/-- What a value becomes in a column. Bytes that spell no text write no number either. -/
def Affinity.apply : Affinity → Cell → Cell
  | text, .integer n => .text (.ofList (Text.integerNumeral n.toInt))
  | integer, .text s => numberOrText s
  | _, cell => cell

end Signage.Store
