import Mathlib.Logic.Function.Basic
import Mathlib.Tactic.IntervalCases
import Signage.Text.Blank
import Signage.Text.Numeral

/-! Numerals are made of digits, and each stands for one number alone. -/
namespace Signage.Text

/-- Numerals are made of digits. -/
theorem isDigit_of_mem_numeral {n : Nat} {c : Char} (h : c ∈ numeral n) : c.isDigit = true :=
  Nat.isDigit_of_mem_toDigits (by decide) (by decide) h

/-- Different numbers have different numerals. -/
theorem numeral_injective : Function.Injective numeral := by
  intro a b h
  have hv := congrArg (fun digits => Nat.ofDigitChars 10 digits 0) h
  simpa only [numeral, Nat.ofDigitChars_ten_toDigits] using hv

/-- No numeral but that of zero begins with a zero. -/
theorem eq_nil_of_numeral_eq_zero {n : Nat} {more : List Char} (h : numeral n = '0' :: more) :
    more = [] := by
  induction n using Nat.strongRecOn generalizing more with
  | ind n ih =>
    rw [numeral, Nat.toDigits_eq_if (by decide)] at h
    split at h
    · exact (List.cons.inj h).2.symm
    · next hten =>
      obtain ⟨c, front, hfront⟩ :=
        List.exists_cons_of_ne_nil (Nat.toDigits_ne_nil : Nat.toDigits 10 (n / 10) ≠ [])
      rw [hfront, List.cons_append] at h
      obtain ⟨rfl, -⟩ := List.cons.inj h
      have hzero := ih (n / 10) (by omega) hfront
      have hvalue := Nat.ofDigitChars_ten_toDigits (n := n / 10)
      rw [hfront, hzero] at hvalue
      change 0 = n / 10 at hvalue
      omega

/-- Numerals of integers are made of digits and a minus sign. -/
theorem isDigit_of_mem_integerNumeral {n : Int} {c : Char} (h : c ∈ integerNumeral n) :
    c = '-' ∨ c.isDigit = true := by
  unfold integerNumeral at h
  split at h
  · rcases List.mem_cons.mp h with h | h
    · exact .inl h
    · exact .inr (isDigit_of_mem_numeral h)
  · exact .inr (isDigit_of_mem_numeral h)

private theorem numeral_ne_minus (n : Nat) (s : List Char) : numeral n ≠ '-' :: s := by
  intro h
  have hd : '-'.isDigit = true := isDigit_of_mem_numeral (h ▸ List.mem_cons_self)
  revert hd
  decide

/-- Different integers have different numerals. -/
theorem integerNumeral_injective : Function.Injective integerNumeral := by
  intro a b h
  unfold integerNumeral at h
  split at h <;> split at h
  · have hn := numeral_injective (List.cons.inj h).2
    omega
  · exact absurd h.symm (numeral_ne_minus _ _)
  · exact absurd h (numeral_ne_minus _ _)
  · have hn := numeral_injective h
    omega

/-- The numeral of a number that is not too great is not too long. -/
theorem length_integerNumeral_le {n : Int} {width : Nat} (hw : 0 < width)
    (hn : n.natAbs < 10 ^ width) : (integerNumeral n).length ≤ width + 1 := by
  have hl : (numeral n.natAbs).length ≤ width :=
    (Nat.length_toDigits_le_iff (by decide) hw).mpr hn
  unfold integerNumeral
  split
  · exact Nat.succ_le_succ hl
  · exact Nat.le_succ_of_le hl

/-- Padded numerals are made of digits. -/
theorem isDigit_of_mem_paddedNumeral {width n : Nat} {c : Char} (h : c ∈ paddedNumeral width n) :
    c.isDigit = true := by
  rcases List.mem_append.mp h with h | h
  · rw [List.eq_of_mem_replicate h]
    decide
  · exact isDigit_of_mem_numeral h

/-- The zeros on the left do not change the number. -/
theorem ofDigitChars_paddedNumeral (width n : Nat) :
    Nat.ofDigitChars 10 (paddedNumeral width n) 0 = n := by
  rw [paddedNumeral, Nat.ofDigitChars_append, Nat.ofDigitChars_replicate_zero, Nat.mul_zero]
  exact Nat.ofDigitChars_ten_toDigits

/-- A number that needs no more room than there is fills it exactly. -/
theorem length_paddedNumeral {width n : Nat} (hw : 0 < width) (hn : n < 10 ^ width) :
    (paddedNumeral width n).length = width := by
  have hl : (numeral n).length ≤ width := (Nat.length_toDigits_le_iff (by decide) hw).mpr hn
  rw [paddedNumeral, List.length_append, List.length_replicate]
  omega

private theorem le_ofDigitChars (digits : List Char) (value : Nat) :
    value ≤ Nat.ofDigitChars 10 digits value := by
  have hpow : 1 ≤ 10 ^ digits.length := Nat.one_le_pow _ _ (by decide)
  rw [Nat.ofDigitChars_eq_ofDigitChars_zero]
  exact Nat.le_add_right_of_le (Nat.le_mul_of_pos_left value hpow)

/-- Digits are read as the number they stand for if that is not too great. -/
theorem readDigits_eq_ok {greatest value : Nat} {digits : List Char}
    (hd : ∀ c ∈ digits, c.isDigit = true) (h : Nat.ofDigitChars 10 digits value ≤ greatest) :
    readDigits greatest value digits = .ok (Nat.ofDigitChars 10 digits value) := by
  induction digits generalizing value with
  | nil => rfl
  | cons c digits ih =>
    obtain ⟨hc, hd⟩ := List.forall_mem_cons.mp hd
    rw [Nat.ofDigitChars_cons] at h ⊢
    have hvalue : digitValue? c = some (c.toNat - '0'.toNat) := if_pos hc
    have hle := (le_ofDigitChars digits _).trans h
    rw [Nat.mul_comm] at h hle ⊢
    simp only [readDigits, hvalue]
    rw [if_pos hle]
    exact ih hd h

/-- Digits that stand for a number that is too great are refused for that. -/
theorem readDigits_eq_error {greatest value : Nat} {digits : List Char}
    (hd : ∀ c ∈ digits, c.isDigit = true) (hv : value ≤ greatest)
    (h : greatest < Nat.ofDigitChars 10 digits value) :
    readDigits greatest value digits = .error .tooLarge := by
  induction digits generalizing value with
  | nil => exact absurd h (Nat.not_lt.mpr hv)
  | cons c digits ih =>
    obtain ⟨hc, hd⟩ := List.forall_mem_cons.mp hd
    rw [Nat.ofDigitChars_cons, Nat.mul_comm] at h
    have hvalue : digitValue? c = some (c.toNat - '0'.toNat) := if_pos hc
    simp only [readDigits, hvalue]
    split
    · next hle => exact ih hd hle h
    · rfl

/-- A run of digits is read as the number it stands for, unless that is too great. -/
theorem readNumeral_of_digits {s : List Char} (hne : s ≠ []) (hd : ∀ c ∈ s, c.isDigit = true)
    (greatest : Nat) :
    readNumeral greatest s =
      if Nat.ofDigitChars 10 s 0 ≤ greatest then .ok (Nat.ofDigitChars 10 s 0)
      else .error .tooLarge := by
  rw [readNumeral, if_neg (by simpa using hne)]
  split
  · next hle => exact readDigits_eq_ok hd hle
  · next hgreat => exact readDigits_eq_error hd (Nat.zero_le _) (Nat.not_le.mp hgreat)

/-- A padded numeral is read as its number, unless that is too great. -/
theorem readNumeral_padded {greatest width n : Nat} (hn : n ≤ greatest) :
    readNumeral greatest (paddedNumeral width n) = .ok n := by
  have hne : paddedNumeral width n ≠ [] := by
    simp [paddedNumeral, numeral, Nat.toDigits_ne_nil]
  rw [readNumeral_of_digits hne fun c => isDigit_of_mem_paddedNumeral, ofDigitChars_paddedNumeral,
    if_pos hn]

/-- A numeral is read as its number, unless that is too great. -/
theorem readNumeral_numeral {greatest n : Nat} (hn : n ≤ greatest) :
    readNumeral greatest (numeral n) = .ok n := by
  have hzero : numeral n = paddedNumeral 0 n := by simp [paddedNumeral]
  rw [hzero, readNumeral_padded hn]

/-- Only digits are read. -/
theorem isDigit_of_readDigits {greatest value n : Nat} {digits : List Char}
    (h : readDigits greatest value digits = .ok n) : ∀ c ∈ digits, c.isDigit = true := by
  induction digits generalizing value with
  | nil => simp
  | cons c digits ih =>
    rw [readDigits] at h
    split at h
    · cases h
    · next digit hdigit =>
      split at h
      · have hc : c.isDigit = true := by
          by_contra hc
          simp [digitValue?, hc] at hdigit
        exact List.forall_mem_cons.mpr ⟨hc, ih h⟩
      · cases h

/-- What is read as a numeral is made of digits. -/
theorem isDigit_of_readNumeral {greatest n : Nat} {s : List Char} (h : readNumeral greatest s = .ok n) :
    ∀ c ∈ s, c.isDigit = true := by
  unfold readNumeral at h
  split at h
  · cases h
  · exact isDigit_of_readDigits h

private theorem readDigits_le {greatest value n : Nat} {digits : List Char}
    (h : readDigits greatest value digits = .ok n) (hv : value ≤ greatest) : n ≤ greatest := by
  induction digits generalizing value with
  | nil =>
    cases h
    exact hv
  | cons c digits ih =>
    rw [readDigits] at h
    split at h
    · cases h
    · split at h
      · next hle => exact ih h hle
      · cases h

private theorem readNumeral_le {greatest n : Nat} {s : List Char}
    (h : (readNumeral greatest s).toOption = some n) : n ≤ greatest := by
  unfold readNumeral at h
  split at h
  · cases h
  · cases hd : readDigits greatest 0 s with
    | error fault =>
      rw [hd] at h
      cases h
    | ok value =>
      rw [hd] at h
      cases h
      exact readDigits_le hd (Nat.zero_le _)

/-- No number is read that is too great. -/
theorem readSignedNumeral?_le {greatest n : Nat} {s : List Char}
    (h : readSignedNumeral? greatest s = some n) : n ≤ greatest := by
  unfold readSignedNumeral? at h
  split at h <;> exact readNumeral_le h

/-- Digits are no blanks. -/
theorem isBlank_eq_false_of_isDigit {c : Char} (h : c.isDigit = true) : isBlank c = false := by
  simp only [Char.isDigit, Bool.and_eq_true, decide_eq_true_eq] at h
  obtain ⟨h0, h1⟩ := h
  change 48 ≤ c.toNat at h0
  change c.toNat ≤ 57 at h1
  rw [← Char.ofNat_toNat c]
  interval_cases c.toNat <;> decide

end Signage.Text
