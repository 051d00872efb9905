/-!
Quotients rounded to the nearest whole number, a half going to the even neighbour, and to the
nearest binary number of 53 significant bits.
-/
namespace Signage.Number

/-- The whole number nearest to `num / den`; of two equally near the even one. -/
def roundDiv (num den : Nat) : Nat :=
  let quotient := num / den
  let rest := num % den
  if 2 * rest > den ∨ (2 * rest = den ∧ quotient % 2 = 1) then quotient + 1 else quotient

/-- A binary number `mantissa * 2 ^ up / 2 ^ down`. -/
structure Binary where
  mantissa : Nat
  up : Nat
  down : Nat

/-- The quotient `num / den` scaled by a power of two and rounded. -/
def scaled (num den : Nat) (exponent : Int) : Binary :=
  if exponent < 0 then
    ⟨roundDiv (num <<< exponent.natAbs) den, 0, exponent.natAbs⟩
  else
    ⟨roundDiv num (den <<< exponent.natAbs), exponent.natAbs, 0⟩

/-- Whether `num / den` has at least 54 bits before the point once it is divided by
`2 ^ exponent`. -/
def overflows (num den : Nat) (exponent : Int) : Bool :=
  if exponent < 0 then den <<< 53 ≤ num <<< exponent.natAbs
  else den <<< (53 + exponent.natAbs) ≤ num

/-- The number of 53 significant bits nearest to `num / den`, for a positive `den`. Exponents are
not bounded. -/
def nearestBinary (num den : Nat) : Binary :=
  if num = 0 then ⟨0, 0, 0⟩
  else
    let exponent : Int := (num.log2 : Int) - den.log2 - 53
    if overflows num den exponent then scaled num den (exponent + 1) else scaled num den exponent

/-- The number in whole `parts`-ths, rounded: with `parts = 100` the hundredths nearest to it. -/
def Binary.roundTo (b : Binary) (parts : Nat) : Nat :=
  roundDiv ((b.mantissa * parts) <<< b.up) (1 <<< b.down)

end Signage.Number
