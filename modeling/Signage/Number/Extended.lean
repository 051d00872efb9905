import Signage.Number.Rounding

/-!
Binary numbers of 64 significant bits. Every product is rounded to the nearest such number, so that
a number scaled by several powers of ten can miss the exact result by a few units of its last bit.
-/
namespace Signage.Number

/-- A number `mantissa * 2 ^ exponent`; exponents are not bounded. -/
structure Extended where
  mantissa : Nat
  exponent : Int

namespace Extended

/-- The number rounded to so many significant bits; of two equally near results the even one. -/
def keep (bits : Nat) (a : Extended) : Extended :=
  let excess := a.mantissa.log2 + 1 - bits
  ⟨roundDiv a.mantissa (1 <<< excess), a.exponent + excess⟩

/-- The number nearest to a natural number. -/
def ofNat (n : Nat) : Extended := keep 64 ⟨n, 0⟩

/-- The number nearest to `1 / n`, for an `n` that is no power of two. -/
def reciprocal (n : Nat) : Extended :=
  ⟨roundDiv (1 <<< (64 + n.log2)) n, -(64 + n.log2 : Nat)⟩

/-- The number nearest to the product. -/
def mul (a b : Extended) : Extended := keep 64 ⟨a.mantissa * b.mantissa, a.exponent + b.exponent⟩

/-- The number after so many steps in each of which one exponent of ten is taken account of: of
100 as often as possible, then of 10, then of 1. -/
def scaledBy (a hundred ten one : Extended) (count : Nat) : Extended :=
  let a := Nat.repeat (fun a => a.mul hundred) (count / 100) a
  let a := Nat.repeat (fun a => a.mul ten) (count % 100 / 10) a
  Nat.repeat (fun a => a.mul one) (count % 10) a

/-- The number times `10 ^ count`. -/
def timesTen (a : Extended) (count : Nat) : Extended :=
  a.scaledBy (ofNat (Nat.pow 10 100)) (ofNat (Nat.pow 10 10)) (ofNat 10) count

/-- The number by `10 ^ count`. -/
def overTen (a : Extended) (count : Nat) : Extended :=
  a.scaledBy (reciprocal (Nat.pow 10 100)) (reciprocal (Nat.pow 10 10)) (reciprocal 10) count

/-- The number, if it is whole. -/
def whole? (a : Extended) : Option Nat :=
  let shift := a.exponent.natAbs
  if 0 ≤ a.exponent then some (a.mantissa <<< shift)
  else if a.mantissa % (1 <<< shift) = 0 then some (a.mantissa >>> shift)
  else none

/-- Whether the number is at most `2 ^ -1075`, half of the least positive number of a real column,
and so nearest to zero. -/
def isNegligible (a : Extended) : Bool :=
  a.exponent < 0 && a.mantissa <<< 1075 ≤ 1 <<< a.exponent.natAbs

end Extended
end Signage.Number
