/-! Arithmetic on words of 64 bits that stops at the greatest one. -/
namespace Signage.Number

def greatestWord : UInt64 := .ofNat (UInt64.size - 1)

/-- The word nearest to a natural number. -/
def saturate (n : Nat) : UInt64 := if n < UInt64.size then .ofNat n else greatestWord

/-- The sum, or the greatest word. -/
def addSaturating (a b : UInt64) : UInt64 := saturate (a.toNat + b.toNat)

/-- The product, or the greatest word. -/
def mulSaturating (a b : UInt64) : UInt64 := saturate (a.toNat * b.toNat)

/-- The quotient rounded up. -/
def divUp (a b : UInt64) : UInt64 := if a % b = 0 then a / b else a / b + 1

private theorem toNat_saturate (n : Nat) : (saturate n).toNat = min n (UInt64.size - 1) := by
  unfold saturate
  split
  · rw [UInt64.toNat_ofNat']
    simp only [UInt64.size] at *
    omega
  · have : greatestWord.toNat = UInt64.size - 1 := by decide
    omega

/-- Words are added as numbers are, up to the greatest word. -/
theorem toNat_addSaturating (a b : UInt64) :
    (addSaturating a b).toNat = min (a.toNat + b.toNat) (UInt64.size - 1) := toNat_saturate _

/-- Words are multiplied as numbers are, up to the greatest word. -/
theorem toNat_mulSaturating (a b : UInt64) :
    (mulSaturating a b).toNat = min (a.toNat * b.toNat) (UInt64.size - 1) := toNat_saturate _

end Signage.Number
