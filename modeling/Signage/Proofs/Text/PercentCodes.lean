import Mathlib.Tactic.IntervalCases
import Signage.Proofs.Text.Blanks
import Signage.Text.PercentCoding

/-!
Percent encoding, the way in which devices write their names, and that it is read back. A text is
encoded byte by byte, so that what comes out is plain ASCII.
-/
namespace Signage.Text

/-- The characters that stand for themselves. -/
def isUnreserved (c : Char) : Bool :=
  c.isAlphanum || c == '-' || c == '.' || c == '_' || c == '~'

def upperDigit (n : Nat) : Char := (Nat.digitChar n).toUpper

/-- A byte as the character it stands for if that is unreserved, and else as a percent sign and two
digits. -/
def encodeByte (b : UInt8) : List Char :=
  if isUnreserved (Char.ofNat b.toNat) then [Char.ofNat b.toNat]
  else ['%', upperDigit (b.toNat / 16), upperDigit (b.toNat % 16)]

/-- The text with all bytes encoded but those of unreserved characters. -/
def percentEncode (s : String) : List Char := s.toUTF8.toList.flatMap encodeByte

section Bytes

private theorem toList_loop (bytes : ByteArray) (i : Nat) (found : List UInt8) :
    ByteArray.toList.loop bytes i found = found.reverse ++ bytes.data.toList.drop i := by
  fun_induction ByteArray.toList.loop bytes i found with
  | case1 i found hi ih =>
    have hlength : i < bytes.data.toList.length := hi
    have hget : bytes.get! i = bytes.data.toList[i] := getElem!_pos bytes.data i hi
    rw [ih, List.drop_eq_getElem_cons hlength, hget, List.reverse_cons, List.append_assoc]
    rfl
  | case2 i found hi =>
    rw [List.drop_eq_nil_of_le (Nat.le_of_not_lt hi), List.append_nil]

private theorem toList_bytes (bytes : ByteArray) : bytes.toList = bytes.data.toList :=
  toList_loop bytes 0 []

def asciiByte (c : Char) : UInt8 := c.val.toUInt8

private theorem toUTF8_ofList {s : List Char} (h : ∀ c ∈ s, c.utf8Size = 1) :
    (String.ofList s).toUTF8.toList = s.map asciiByte := by
  rw [toList_bytes, String.toUTF8_eq_toByteArray, String.toByteArray_ofList, List.utf8Encode,
    List.toList_data_toByteArray]
  induction s with
  | nil => rfl
  | cons c s ih =>
    rw [List.flatMap_cons, String.utf8EncodeChar_eq_singleton (h c List.mem_cons_self),
      ih fun d hd => h d (List.mem_cons_of_mem c hd)]
    rfl

end Bytes

/-- What is written has neither blanks nor brackets. -/
theorem plain_of_mem_encodeByte {b : UInt8} {c : Char} (h : c ∈ encodeByte b) :
    c.utf8Size = 1 ∧ c ≠ ')' ∧ isBlank c = false := by
  have hall : ∀ n : Fin 256, ((encodeByte (UInt8.ofNat n)).all fun c =>
      decide (c.utf8Size = 1 ∧ c ≠ ')' ∧ isBlank c = false)) = true := by decide +kernel
  have hbyte := hall ⟨b.toNat, b.toNat_lt⟩
  rw [UInt8.ofNat_toNat, List.all_eq_true] at hbyte
  exact of_decide_eq_true (hbyte c h)

/-- Percent codes are written in characters of one byte, and have no bracket and no blank. -/
theorem plain_of_mem_percentEncode {s : String} {c : Char} (h : c ∈ percentEncode s) :
    c.utf8Size = 1 ∧ c ≠ ')' ∧ isBlank c = false := by
  obtain ⟨b, -, hb⟩ := List.mem_flatMap.mp h
  exact plain_of_mem_encodeByte hb

private theorem hexByte?_upperDigit {n : Nat} (h : n < 16) :
    hexByte? (asciiByte (upperDigit n)) = some (UInt8.ofNat n) := by
  interval_cases n <;> decide

private theorem escapedByte?_digits (b : UInt8) :
    escapedByte? percentByte (asciiByte (upperDigit (b.toNat / 16)))
      (asciiByte (upperDigit (b.toNat % 16))) = some b := by
  have hb := b.toNat_lt
  have hhigh := hexByte?_upperDigit (n := b.toNat / 16) (by omega)
  have hlow := hexByte?_upperDigit (n := b.toNat % 16) (by omega)
  have hjoin : UInt8.ofNat (b.toNat / 16) * 16 + UInt8.ofNat (b.toNat % 16) = b := by
    rw [← UInt8.toNat_inj]
    simp
    omega
  simp only [escapedByte?, hhigh, hlow, Option.bind_eq_bind, Option.bind_some, ne_eq,
    not_true_eq_false, if_false, hjoin]

/-- A byte that is no percent sign is kept. -/
theorem decodeBytes_cons {b : UInt8} (h : b ≠ percentByte) (rest : List UInt8) :
    decodeBytes (b :: rest) = b :: decodeBytes rest := by
  match rest with
  | [] => rfl
  | [_] => rfl
  | high :: low :: rest =>
    have hnone : escapedByte? b high low = none := by simp [escapedByte?, h]
    rw [decodeBytes, hnone]

private theorem decodeBytes_encodeByte (b : UInt8) (rest : List UInt8) :
    decodeBytes ((encodeByte b).map asciiByte ++ rest) = b :: decodeBytes rest := by
  unfold encodeByte
  split
  · next hplain =>
    have hbyte : asciiByte (Char.ofNat b.toNat) = b := by
      have hall : ∀ n : Fin 256, asciiByte (Char.ofNat n) = UInt8.ofNat n := by decide +kernel
      simpa using hall ⟨b.toNat, b.toNat_lt⟩
    have hmark : b ≠ percentByte := by
      rintro rfl
      exact absurd hplain (by decide)
    rw [List.map_singleton, List.singleton_append, hbyte, decodeBytes_cons hmark]
  · have hmark : asciiByte '%' = percentByte := rfl
    simp only [List.map_cons, List.map_nil, List.cons_append, List.nil_append, hmark]
    rw [decodeBytes, escapedByte?_digits]

private theorem decodeBytes_percentEncode (bytes : List UInt8) :
    decodeBytes ((bytes.flatMap encodeByte).map asciiByte) = bytes := by
  induction bytes with
  | nil => rfl
  | cons b bytes ih =>
    rw [List.flatMap_cons, List.map_append, decodeBytes_encodeByte, ih]

/-- What was encoded is read back. -/
theorem percentDecode_percentEncode (s : String) :
    percentDecode (.ofList (percentEncode s)) = s := by
  rw [percentDecode, toUTF8_ofList fun c hc => (plain_of_mem_percentEncode hc).1, percentEncode,
    decodeBytes_percentEncode, toList_bytes]
  change (String.fromUTF8? s.toByteArray).getD _ = s
  rw [String.fromUTF8?, dif_pos s.isValidUTF8]
  rfl

/-- A text that is not empty is not written as nothing. -/
theorem percentEncode_ne_nil {s : String} (h : s ≠ "") : percentEncode s ≠ [] := by
  intro hnil
  have hempty : percentEncode "" = [] := by decide +kernel
  apply h
  rw [← percentDecode_percentEncode s, hnil, ← hempty, percentDecode_percentEncode]

end Signage.Text
