import Mathlib.Algebra.Order.Field.Power
import Mathlib.Tactic.FieldSimp
import Mathlib.Tactic.Linarith
import Mathlib.Tactic.NormNum
import Mathlib.Tactic.Positivity
import Mathlib.Tactic.Ring
import Signage.Number.Rounding

/-!
How near rounded quotients are. A rounded whole number is at most a half away, and a rounded binary
number at most one part in `2 ^ 53` of the quotient.
-/
namespace Signage.Number

/-- A quotient rounded to a whole number is at most a half away from it. -/
theorem abs_roundDiv_sub_le (num den : Nat) (h : 0 < den) :
    |(roundDiv num den : ℚ) - num / den| ≤ 1 / 2 := by
  have hpos : (0 : ℚ) < den := by exact_mod_cast h
  have hwhole : 2 * (roundDiv num den * den) ≤ 2 * num + den ∧
      2 * num ≤ 2 * (roundDiv num den * den) + den := by
    have hdiv := Nat.div_add_mod' num den
    have hmod := Nat.mod_lt num h
    simp only [roundDiv]
    split
    · rw [Nat.add_mul]
      omega
    · omega
  obtain ⟨hupper, hlower⟩ : 2 * (roundDiv num den * den : ℚ) ≤ 2 * num + den ∧
      (2 * num : ℚ) ≤ 2 * (roundDiv num den * den) + den := by exact_mod_cast hwhole
  have hscaled : (roundDiv num den : ℚ) - num / den = (roundDiv num den * den - num) / den := by
    field_simp
  rw [hscaled, abs_div, abs_of_pos hpos, div_le_iff₀ hpos, abs_le]
  constructor <;> linarith

def Binary.value (b : Binary) : ℚ := b.mantissa * 2 ^ b.up / 2 ^ b.down

/-- A binary number in hundredths, or any other parts, is at most half a part away. -/
theorem Binary.abs_roundTo_sub_le (b : Binary) (parts : Nat) :
    |(b.roundTo parts : ℚ) - parts * b.value| ≤ 1 / 2 := by
  have h := abs_roundDiv_sub_le ((b.mantissa * parts) <<< b.up) (1 <<< b.down)
    (by rw [Nat.one_shiftLeft]; positivity)
  have hvalue : parts * b.value =
      (((b.mantissa * parts) <<< b.up : Nat) : ℚ) / ((1 <<< b.down : Nat) : ℚ) := by
    rw [Binary.value, Nat.shiftLeft_eq, Nat.one_shiftLeft]
    push_cast
    ring
  rw [hvalue]
  exact h

variable {num den : Nat}

private theorem abs_scaled_sub_le (hd : 0 < den) (exponent : Int) :
    |(scaled num den exponent).value - num / den| ≤ 2 ^ exponent / 2 := by
  unfold scaled
  split
  · next hneg =>
    obtain ⟨n, rfl⟩ : ∃ n : Nat, exponent = -n := ⟨exponent.natAbs, by omega⟩
    have h := abs_roundDiv_sub_le (num <<< n) den hd
    have hpow : (0 : ℚ) < 2 ^ n := by positivity
    simp only [Binary.value, Int.natAbs_neg, Int.natAbs_natCast, pow_zero, mul_one]
    have hsplit : (roundDiv (num <<< n) den : ℚ) / 2 ^ n - num / den =
        (roundDiv (num <<< n) den - (num <<< n : Nat) / den) / 2 ^ n := by
      rw [Nat.shiftLeft_eq]
      push_cast
      field_simp
    rw [hsplit, abs_div, abs_of_pos hpow, zpow_neg, zpow_natCast, div_le_iff₀ hpow]
    refine h.trans (le_of_eq ?_)
    field_simp
  · next hnonneg =>
    obtain ⟨n, rfl⟩ : ∃ n : Nat, exponent = n := ⟨exponent.natAbs, by omega⟩
    have h := abs_roundDiv_sub_le num (den <<< n)
      (by rw [Nat.shiftLeft_eq]; positivity)
    have hpow : (0 : ℚ) < 2 ^ n := by positivity
    simp only [Binary.value, Int.natAbs_natCast, pow_zero, div_one]
    have hsplit : (roundDiv num (den <<< n) : ℚ) * 2 ^ n - num / den =
        (roundDiv num (den <<< n) - num / (den <<< n : Nat)) * 2 ^ n := by
      have hden : (den : ℚ) ≠ 0 := by exact_mod_cast hd.ne'
      rw [Nat.shiftLeft_eq]
      push_cast
      field_simp
    rw [hsplit, abs_mul, abs_of_pos hpow, zpow_natCast]
    calc _ ≤ 1 / 2 * (2 : ℚ) ^ n := mul_le_mul_of_nonneg_right h hpow.le
      _ = 2 ^ n / 2 := by ring

private theorem le_of_overflows {exponent : Int} (hd : 0 < den)
    (h : overflows num den exponent = true) : (2 : ℚ) ^ (exponent + 53) ≤ num / den := by
  have hden : (0 : ℚ) < den := by exact_mod_cast hd
  rw [le_div_iff₀ hden]
  unfold overflows at h
  split at h
  · next hneg =>
    obtain ⟨n, rfl⟩ : ∃ n : Nat, exponent = -n := ⟨exponent.natAbs, by omega⟩
    rw [decide_eq_true_eq, Nat.shiftLeft_eq, Nat.shiftLeft_eq, Int.natAbs_neg,
      Int.natAbs_natCast] at h
    have hq : (den : ℚ) * 2 ^ 53 ≤ num * 2 ^ n := by exact_mod_cast h
    rw [zpow_add₀ two_ne_zero, zpow_neg, zpow_natCast]
    have hpow : (0 : ℚ) < 2 ^ n := by positivity
    rw [mul_assoc, inv_mul_le_iff₀ hpow]
    linarith
  · next hnonneg =>
    obtain ⟨n, rfl⟩ : ∃ n : Nat, exponent = n := ⟨exponent.natAbs, by omega⟩
    rw [decide_eq_true_eq, Nat.shiftLeft_eq, Int.natAbs_natCast] at h
    have hq : (den : ℚ) * 2 ^ (53 + n) ≤ num := by exact_mod_cast h
    have hexponent : (n : Int) + 53 = ((53 + n : Nat) : Int) := by push_cast; ring
    rw [hexponent, zpow_natCast, mul_comm]
    exact hq

/-- The quotient lies above the power of two that the lengths of its parts tell. -/
private theorem le_div_log2 (hn : num ≠ 0) (hd : 0 < den) :
    (2 : ℚ) ^ ((num.log2 : Int) - den.log2 - 1) ≤ num / den := by
  have hden : (0 : ℚ) < den := by exact_mod_cast hd
  have hnum : (2 : ℚ) ^ num.log2 ≤ num := by exact_mod_cast Nat.log2_self_le hn
  have hlt : (den : ℚ) ≤ 2 ^ (den.log2 + 1) := by exact_mod_cast Nat.lt_log2_self.le
  rw [le_div_iff₀ hden]
  calc (2 : ℚ) ^ ((num.log2 : Int) - den.log2 - 1) * den
      ≤ 2 ^ ((num.log2 : Int) - den.log2 - 1) * 2 ^ (den.log2 + 1) :=
        mul_le_mul_of_nonneg_left hlt (by positivity)
    _ = 2 ^ num.log2 := by
        rw [← zpow_natCast, ← zpow_natCast, ← zpow_add₀ two_ne_zero]
        congr 1
        push_cast
        ring
    _ ≤ num := hnum

/-- The nearest binary number differs from the quotient by one part in `2 ^ 53` of it at most. -/
theorem abs_nearestBinary_sub_le (num : Nat) (hd : 0 < den) :
    |(nearestBinary num den).value - num / den| ≤ num / den / 2 ^ 53 := by
  by_cases hn : num = 0
  · simp [nearestBinary, hn, Binary.value]
  -- A unit of the last place is at most one part in `2 ^ 52` of the quotient.
  have hlast {exponent : Int} (h : (2 : ℚ) ^ (exponent + 52) ≤ num / den) :
      (2 : ℚ) ^ exponent / 2 ≤ num / den / 2 ^ 53 := by
    rw [zpow_add₀ two_ne_zero] at h
    rw [le_div_iff₀ (by positivity)]
    calc (2 : ℚ) ^ exponent / 2 * 2 ^ 53 = 2 ^ exponent * 2 ^ (52 : Int) := by norm_num; ring
      _ ≤ num / den := h
  unfold nearestBinary
  rw [if_neg hn]
  dsimp only
  split
  · next h =>
    refine (abs_scaled_sub_le hd _).trans (hlast ?_)
    have hle := le_of_overflows hd h
    rwa [add_assoc]
  · refine (abs_scaled_sub_le hd _).trans (hlast ?_)
    have hle := le_div_log2 hn hd
    rwa [show (num.log2 : Int) - den.log2 - 53 + 52 = num.log2 - den.log2 - 1 by ring]

end Signage.Number
