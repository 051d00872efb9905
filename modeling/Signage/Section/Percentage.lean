import Signage.Number.Rounding
import Signage.Text.Numeral

/-! Percentages of at most two decimals. -/
namespace Signage.Section

/-- The decimals of a number of hundredths, without zeros at the end. -/
def decimals (hundredths : Nat) : List Char :=
  if hundredths = 0 then []
  else if hundredths % 10 = 0 then '.' :: Text.numeral (hundredths / 10)
  else '.' :: Text.paddedNumeral 2 hundredths

/-- The value of a share of a hundred, in hundredths. The quotient is rounded to a binary number
first and that to hundredths, each to the nearest. -/
def hundredths (value total : UInt32) : Nat :=
  (Number.nearestBinary (value.toNat * 100) total.toNat).roundTo 100

/-- The value as a share of the total; of a total of zero nothing is a share. -/
def percentage (value total : UInt32) : List Char :=
  if total = 0 then ['0', '%']
  else
    let h := hundredths value total
    Text.numeral (h / 100) ++ decimals (h % 100) ++ ['%']

end Signage.Section
