import Mathlib.Data.Rat.Cast.Defs
import Mathlib.Tactic.Ring
import Signage.Proofs.Text.Numerals

/-! Decimal numerals with digits after a point, and those of them that have no digit to spare. -/
namespace Signage.Text

/-- A decimal numeral: the digits before the point and those after it. -/
structure Decimal where
  whole : List Char
  fraction : List Char

namespace Decimal

/-- The numeral as it is written; there is no point without digits after it. -/
def text (d : Decimal) : List Char :=
  d.whole ++ if d.fraction = [] then [] else '.' :: d.fraction

def value (d : Decimal) : ℚ :=
  Nat.ofDigitChars 10 d.whole 0 + Nat.ofDigitChars 10 d.fraction 0 / 10 ^ d.fraction.length

/-- There are digits before the point, at most so many after it, and none of them could be left
out. -/
structure IsCanonical (places : Nat) (d : Decimal) : Prop where
  digits : ∀ c ∈ d.whole ++ d.fraction, c.isDigit = true
  whole_ne_nil : d.whole ≠ []
  leading : ∀ more, d.whole = '0' :: more → more = []
  trailing : ∀ front, d.fraction ≠ front ++ ['0']
  length_le : d.fraction.length ≤ places

/-- The digits after the point of a number of hundredths. -/
def fractionOf (hundredths : Nat) : List Char :=
  if hundredths = 0 then []
  else if hundredths % 10 = 0 then numeral (hundredths / 10)
  else paddedNumeral 2 hundredths

def ofHundredths (hundredths : Nat) : Decimal :=
  ⟨numeral (hundredths / 100), fractionOf (hundredths % 100)⟩

end Decimal

private theorem numeral_ne_concat_zero {n : Nat} (h : n % 10 ≠ 0) (front : List Char) :
    numeral n ≠ front ++ ['0'] := by
  have hdigit (d : Nat) (hd : d < 10) (h0 : d ≠ 0) : Nat.digitChar d ≠ '0' := by
    have hpos : 0 < d := Nat.pos_of_ne_zero h0
    interval_cases d <;> decide
  intro he
  rw [numeral, Nat.toDigits_eq_if (by decide)] at he
  split at he
  · next hten =>
    rw [Nat.mod_eq_of_lt hten] at h
    have hsplit : [] ++ [Nat.digitChar n] = front ++ ['0'] := he
    have hlast := List.append_inj_right' hsplit rfl
    exact hdigit n hten h (List.cons.inj hlast).1
  · have hlast := List.append_inj_right' he rfl
    exact hdigit (n % 10) (Nat.mod_lt n (by decide)) h (List.cons.inj hlast).1

private theorem length_numeral_digit {n : Nat} (h : n < 10) : (numeral n).length = 1 := by
  have hle : (numeral n).length ≤ 1 := (Nat.length_toDigits_le_iff (by decide) (by decide)).mpr h
  have hpos : 0 < (numeral n).length := List.length_pos_iff.mpr Nat.toDigits_ne_nil
  omega

namespace Decimal

/-- The digits after the point end in no zero, are two at most, and stand for the hundredths. -/
private theorem fractionOf_spec {r : Nat} (hr : r < 100) :
    (∀ c ∈ fractionOf r, c.isDigit = true) ∧ (∀ front, fractionOf r ≠ front ++ ['0']) ∧
      (fractionOf r).length ≤ 2 ∧
      (Nat.ofDigitChars 10 (fractionOf r) 0 / 10 ^ (fractionOf r).length : ℚ) = r / 100 := by
  unfold fractionOf
  split
  · next h0 => simp [h0]
  · next h0 =>
    split
    · next h10 =>
      have hlength : (numeral (r / 10)).length = 1 := length_numeral_digit (by omega)
      refine ⟨fun c => isDigit_of_mem_numeral, numeral_ne_concat_zero (by omega), by omega, ?_⟩
      have hr10 : ((r / 10 : Nat) : ℚ) * 10 = r := by exact_mod_cast Nat.div_mul_cancel (by omega)
      rw [hlength, numeral, Nat.ofDigitChars_ten_toDigits, ← hr10]
      ring
    · next h10 =>
      have hlength : (paddedNumeral 2 r).length = 2 := length_paddedNumeral (by decide) (by omega)
      refine ⟨fun c => isDigit_of_mem_paddedNumeral, fun front he => ?_, hlength.le, ?_⟩
      · -- The zeros on the left come before the last digit, which is that of the numeral.
        obtain ⟨init, c, hinit⟩ :=
          (List.eq_nil_or_concat (numeral r)).resolve_left Nat.toDigits_ne_nil
        rw [List.concat_eq_append] at hinit
        rw [paddedNumeral, hinit, ← List.append_assoc] at he
        have hc := (List.cons.inj (List.append_inj_right' he rfl)).1
        exact numeral_ne_concat_zero h10 init (hc ▸ hinit)
      · rw [ofDigitChars_paddedNumeral, hlength]
        norm_num

/-- Hundredths are written in the shortest way, with two places at most. -/
theorem isCanonical_ofHundredths (hundredths : Nat) : (ofHundredths hundredths).IsCanonical 2 := by
  obtain ⟨hdigits, htrailing, hlength, -⟩ := fractionOf_spec (Nat.mod_lt hundredths (by decide))
  refine ⟨fun c hc => ?_, Nat.toDigits_ne_nil, fun more => eq_nil_of_numeral_eq_zero, htrailing,
    hlength⟩
  rcases List.mem_append.mp hc with hc | hc
  · exact isDigit_of_mem_numeral hc
  · exact hdigits c hc

/-- Hundredths are written for their value. -/
theorem value_ofHundredths (hundredths : Nat) :
    (ofHundredths hundredths).value = hundredths / 100 := by
  obtain ⟨-, -, -, hvalue⟩ := fractionOf_spec (Nat.mod_lt hundredths (by decide))
  have hsplit : (hundredths : ℚ) = (hundredths / 100 : Nat) * 100 + (hundredths % 100 : Nat) := by
    exact_mod_cast (Nat.div_add_mod' hundredths 100).symm
  rw [value, ofHundredths]
  dsimp only
  rw [hvalue, numeral, Nat.ofDigitChars_ten_toDigits, hsplit]
  ring

end Decimal

end Signage.Text
