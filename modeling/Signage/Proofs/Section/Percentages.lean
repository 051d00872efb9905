import Signage.Proofs.Number.Nearness
import Signage.Proofs.Text.Decimals
import Signage.Section.Percentage

/-!
Percentages are the nearest hundredths, though the quotient is rounded twice: a quotient of words of
32 bits that is not half way between two hundredths is too far from there for a binary number of 53
bits to go past.
-/
namespace Signage.Section
open Number Text

variable {value other total : UInt32}

private theorem toNat_pos (h : total ≠ 0) : 0 < total.toNat :=
  Nat.pos_of_ne_zero fun h0 => h (UInt32.toNat_inj.mp h0)

private theorem abs_mul_sub_mul_le {a b bound factor : ℚ} (h : |a - b| ≤ bound)
    (hfactor : 0 ≤ factor) : |a * factor - b * factor| ≤ bound * factor := by
  rw [← sub_mul, abs_mul, abs_of_nonneg hfactor]
  exact mul_le_mul_of_nonneg_right h hfactor

/-- The hundredths are off by half a hundredth at most; here in whole numbers, with all shares taken
times the total. -/
private theorem abs_hundredths_mul_sub_le (value : UInt32) (h : total ≠ 0) :
    |(2 * hundredths value total * total.toNat - 20000 * value.toNat : ℤ)| ≤ total.toNat := by
  have htotal : (0 : ℚ) < total.toNat := by exact_mod_cast toNat_pos h
  have hwords : (value.toNat : ℚ) ≤ 2 ^ 32 := by exact_mod_cast value.toNat_lt.le
  have hbinary := abs_mul_sub_mul_le (abs_nearestBinary_sub_le (value.toNat * 100) (toNat_pos h))
    htotal.le
  have hparts := abs_mul_sub_mul_le
    ((nearestBinary (value.toNat * 100) total.toNat).abs_roundTo_sub_le 100) htotal.le
  change |(hundredths value total : ℚ) * _ - _| ≤ _ at hparts
  generalize (nearestBinary (value.toNat * 100) total.toNat).value = b at hbinary hparts
  generalize hundredths value total = hundredths at hparts ⊢
  push_cast at hbinary hparts
  rw [div_right_comm, div_mul_cancel₀ _ htotal.ne', div_mul_cancel₀ _ htotal.ne'] at hbinary
  rw [abs_le] at hbinary hparts
  -- The error of the binary number does not add up to a whole one.
  have hlt : |(2 * hundredths * total.toNat - 20000 * value.toNat : ℚ)| < total.toNat + 1 := by
    rw [abs_lt]
    constructor <;> linarith
  exact Int.lt_add_one_iff.mp (by exact_mod_cast hlt)

/-- The hundredths are nearest to the exact share of a hundred. -/
theorem abs_hundredths_sub_le (h : total ≠ 0) :
    |(hundredths value total / 100 : ℚ) - 100 * value.toNat / total.toNat| ≤ 1 / 200 := by
  have htotal : (0 : ℚ) < total.toNat := by exact_mod_cast toNat_pos h
  have hwhole : |(2 * hundredths value total * total.toNat - 20000 * value.toNat : ℚ)| ≤
      total.toNat := by exact_mod_cast abs_hundredths_mul_sub_le value h
  have hscaled : (hundredths value total / 100 : ℚ) - 100 * value.toNat / total.toNat =
      (2 * hundredths value total * total.toNat - 20000 * value.toNat) / (200 * total.toNat) := by
    field_simp
    ring
  rw [hscaled, abs_div, abs_of_pos (a := (200 * total.toNat : ℚ)) (by positivity),
    div_le_div_iff₀ (by positivity) (by norm_num)]
  linarith

/-- A greater value has no fewer hundredths. -/
theorem hundredths_le_of_le (h : total ≠ 0) (hle : value ≤ other) :
    hundredths value total ≤ hundredths other total := by
  by_cases heq : value = other
  · rw [heq]
  · have hvalue := (abs_le.mp (abs_hundredths_mul_sub_le value h)).2
    have hother := (abs_le.mp (abs_hundredths_mul_sub_le other h)).1
    have hwords : (value.toNat : ℤ) < other.toNat := by
      have hne := mt UInt32.toNat_inj.mp heq
      have hle := UInt32.le_iff_toNat_le.mp hle
      omega
    -- Each is off by half at most, and the exact shares differ.
    have hless : (2 * hundredths value total * total.toNat : ℤ) <
        2 * (hundredths other total + 1) * total.toNat := by linarith
    have htwice := lt_of_mul_lt_mul_right hless (Int.natCast_nonneg _)
    omega

private theorem percentage_eq (h : total ≠ 0) :
    percentage value total = (Decimal.ofHundredths (hundredths value total)).text ++ ['%'] := by
  have hne (n : Nat) : numeral n ≠ [] := Nat.toDigits_ne_nil
  have hdecimals (r : Nat) : decimals r =
      if Decimal.fractionOf r = [] then [] else '.' :: Decimal.fractionOf r := by
    unfold decimals Decimal.fractionOf
    split
    · rfl
    · split
      · rw [if_neg (hne _)]
      · rw [if_neg (by simp [paddedNumeral, hne])]
  rw [percentage, if_neg h]
  dsimp only
  rw [hdecimals]
  rfl

private theorem hundredths_zero (total : UInt32) : hundredths 0 total = 0 := by
  simp [hundredths, nearestBinary, Binary.roundTo, roundDiv]

private theorem hundredths_self (h : total ≠ 0) : hundredths total total = 10000 := by
  have hnear := abs_le.mp (abs_hundredths_mul_sub_le total h)
  have htotal : (0 : ℤ) < total.toNat := by exact_mod_cast toNat_pos h
  have hupper : (2 * hundredths total total : ℤ) ≤ 20001 :=
    le_of_mul_le_mul_right (by linarith) htotal
  have hlower : (19999 : ℤ) ≤ 2 * hundredths total total :=
    le_of_mul_le_mul_right (by linarith) htotal
  omega

/-- Percentages of a total are canonical numerals with at most two decimals. They are the nearest ones
to the exact share, on a tie one of the two nearest, and in the same order as the values. -/
theorem percentage_nearest (total : UInt32) :
    (total = 0 → ∀ value, percentage value total = ['0', '%']) ∧
      (total ≠ 0 →
        (∃ numeral : UInt32 → Decimal,
          (∀ value, percentage value total = (numeral value).text ++ ['%'] ∧
            (numeral value).IsCanonical 2 ∧
            |(numeral value).value - 100 * value.toNat / total.toNat| ≤ 1 / 200) ∧
          ∀ value other, value ≤ other → (numeral value).value ≤ (numeral other).value) ∧
        percentage total total = ['1', '0', '0', '%'] ∧ percentage 0 total = ['0', '%']) := by
  refine ⟨fun h value => ?_, fun h => ⟨⟨fun value => .ofHundredths (hundredths value total), ?_, ?_⟩,
    ?_, ?_⟩⟩
  · rw [h]
    rfl
  · intro value
    refine ⟨percentage_eq h, Decimal.isCanonical_ofHundredths _, ?_⟩
    rw [Decimal.value_ofHundredths]
    exact abs_hundredths_sub_le h
  · intro value other hle
    have hcast : (hundredths value total : ℚ) ≤ hundredths other total := by
      exact_mod_cast hundredths_le_of_le h hle
    rw [Decimal.value_ofHundredths, Decimal.value_ofHundredths]
    exact div_le_div_of_nonneg_right hcast (by norm_num)
  · rw [percentage_eq h, hundredths_self h]
    rfl
  · rw [percentage_eq h, hundredths_zero]
    rfl

/-- A share half way between two hundredths, and one of a total of zero. -/
theorem percentage_nearest_of_tie :
    percentage 7 0 = ['0', '%'] ∧ (20000 : UInt32) ≠ 0 ∧
      percentage 1 20000 = ['0', '.', '0', '1', '%'] ∧
      ∃ numeral : UInt32 → Decimal, percentage 1 20000 = (numeral 1).text ++ ['%'] ∧
        |(numeral 1).value - 100 * (1 : UInt32).toNat / (20000 : UInt32).toNat| ≤ 1 / 200 ∧
        (numeral 1).value ≤ (numeral 2).value := by
  have hne : (20000 : UInt32) ≠ 0 := by decide
  obtain ⟨⟨numeral, hnumeral, hmono⟩, -, -⟩ := (percentage_nearest 20000).2 hne
  obtain ⟨htext, -, hvalue⟩ := hnumeral 1
  exact ⟨(percentage_nearest 0).1 rfl 7, hne, by decide +kernel, numeral, htext, hvalue,
    hmono 1 2 (by decide)⟩

end Signage.Section
