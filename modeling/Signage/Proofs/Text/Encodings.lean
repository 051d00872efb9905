import Mathlib.Data.List.Forall2
import Mathlib.Tactic.Basic
import Signage.Text.Encoding

/-!
Bytes spell a text if they have no flaw, and only then: a first byte and the ranges behind it admit
just the bytes of characters.
-/
namespace Signage.Text
variable {first : UInt8} {bytes more : List UInt8} {ranges : List ByteRange} {c : Char}

/-- The bytes lie in the ranges, one in each. -/
abbrev Fill (ranges : List ByteRange) (bytes : List UInt8) : Prop :=
  List.Forall₂ (fun range b => range.contains b = true) ranges bytes

private theorem contains_iff {range : ByteRange} {b : UInt8} :
    range.contains b = true ↔ range.least.toNat ≤ b.toNat ∧ b.toNat ≤ range.greatest.toNat := by
  rw [ByteRange.contains, Bool.and_eq_true, decide_eq_true_eq, decide_eq_true_eq,
    UInt8.le_iff_toNat_le, UInt8.le_iff_toNat_le]

private theorem toNat_byte {n : Nat} (h : n < 256) : (UInt8.ofNat n).toNat = n := by
  rw [UInt8.toNat_ofNat']
  exact Nat.mod_eq_of_lt h

private theorem contains_byte {range : ByteRange} {n : Nat} (h : n < 256)
    (hrange : range.least.toNat ≤ n ∧ n ≤ range.greatest.toNat) :
    range.contains (UInt8.ofNat n) = true := by
  rw [contains_iff, toNat_byte h]
  exact hrange

private theorem contains_trailing (n : Nat) :
    ByteRange.trailing.contains (UInt8.ofNat (n % 64 + 128)) = true :=
  contains_byte (by omega) (show 128 ≤ n % 64 + 128 ∧ n % 64 + 128 ≤ 191 by omega)

/-- The ranges behind a first byte, by its number. -/
private theorem followers?_eq (first : UInt8) : followers? first =
    if first.toNat < 0x80 then some []
    else if first.toNat < 0xC2 then none
    else if first.toNat < 0xE0 then some [.trailing]
    else if first.toNat = 0xE0 then some [⟨0xA0, 0xBF⟩, .trailing]
    else if first.toNat = 0xED then some [⟨0x80, 0x9F⟩, .trailing]
    else if first.toNat < 0xF0 then some [.trailing, .trailing]
    else if first.toNat = 0xF0 then some [⟨0x90, 0xBF⟩, .trailing, .trailing]
    else if first.toNat < 0xF4 then some [.trailing, .trailing, .trailing]
    else if first.toNat = 0xF4 then some [⟨0x80, 0x8F⟩, .trailing, .trailing]
    else none := by
  simp only [followers?, UInt8.lt_iff_toNat_lt, ← UInt8.toNat_inj]
  rfl

section
variable {v : Nat}

/-- Behind the first byte of three, the bounds are narrower at both ends of the surrogates and of what
two bytes can spell. -/
private theorem followers?_of_three (hlow : 0x800 ≤ v) (hhigh : v < 0x10000)
    (hvalid : v < 0xD800 ∨ 0xDFFF < v) :
    ∃ ranges, followers? (.ofNat (v / 4096 % 16 + 0xE0)) = some ranges ∧
      Fill ranges [.ofNat (v / 64 % 64 + 0x80), .ofNat (v % 64 + 0x80)] := by
  have hlast : Fill [.trailing] [UInt8.ofNat (v % 64 + 128)] := .cons (contains_trailing v) .nil
  rw [followers?_eq, toNat_byte (by omega), if_neg (by omega), if_neg (by omega), if_neg (by omega)]
  by_cases hshort : v < 0x1000
  · refine ⟨_, if_pos (by omega), .cons (contains_byte (by omega) ?_) hlast⟩
    show 0xA0 ≤ v / 64 % 64 + 128 ∧ v / 64 % 64 + 128 ≤ 0xBF
    omega
  rw [if_neg (by omega)]
  by_cases hsurrogate : 0xD000 ≤ v ∧ v < 0xE000
  · refine ⟨_, if_pos (by omega), .cons (contains_byte (by omega) ?_) hlast⟩
    show 0x80 ≤ v / 64 % 64 + 128 ∧ v / 64 % 64 + 128 ≤ 0x9F
    omega
  rw [if_neg (by omega)]
  exact ⟨_, if_pos (by omega), .cons (contains_trailing (v / 64)) hlast⟩

/-- Behind the first byte of four, they are narrower where three bytes would do, and at the last
character. -/
private theorem followers?_of_four (hlow : 0x10000 ≤ v) (hhigh : v < 0x110000) :
    ∃ ranges, followers? (.ofNat (v / 262144 % 8 + 0xF0)) = some ranges ∧
      Fill ranges [.ofNat (v / 4096 % 64 + 0x80), .ofNat (v / 64 % 64 + 0x80),
        .ofNat (v % 64 + 0x80)] := by
  have hlast : Fill [.trailing, .trailing]
      [UInt8.ofNat (v / 64 % 64 + 128), UInt8.ofNat (v % 64 + 128)] :=
    .cons (contains_trailing (v / 64)) (.cons (contains_trailing v) .nil)
  rw [followers?_eq, toNat_byte (by omega), if_neg (by omega), if_neg (by omega), if_neg (by omega),
    if_neg (by omega), if_neg (by omega), if_neg (by omega)]
  by_cases hshort : v < 0x40000
  · refine ⟨_, if_pos (by omega), .cons (contains_byte (by omega) ?_) hlast⟩
    show 0x90 ≤ v / 4096 % 64 + 128 ∧ v / 4096 % 64 + 128 ≤ 0xBF
    omega
  rw [if_neg (by omega)]
  by_cases hinner : v < 0x100000
  · exact ⟨_, if_pos (by omega), .cons (contains_trailing (v / 4096)) hlast⟩
  rw [if_neg (by omega)]
  refine ⟨_, if_pos (by omega), .cons (contains_byte (by omega) ?_) hlast⟩
  show 0x80 ≤ v / 4096 % 64 + 128 ∧ v / 4096 % 64 + 128 ≤ 0x8F
  omega

end

/-- The bytes behind the first one of a character lie in its ranges. -/
private theorem followers?_of_char (h : String.utf8EncodeChar c = first :: more) :
    ∃ ranges, followers? first = some ranges ∧ Fill ranges more := by
  have hvalid : c.val.toNat < 0xD800 ∨ 0xDFFF < c.val.toNat ∧ c.val.toNat < 0x110000 := c.valid
  unfold String.utf8EncodeChar at h
  generalize c.val.toNat = v at hvalid h
  dsimp only at h
  split at h
  · cases h
    refine ⟨[], ?_, .nil⟩
    rw [followers?_eq, toNat_byte (by omega), if_pos (by omega)]
  split at h
  · cases h
    refine ⟨[.trailing], ?_, .cons (contains_trailing v) .nil⟩
    rw [followers?_eq, toNat_byte (by omega), if_neg (by omega), if_neg (by omega),
      if_pos (by omega)]
  split at h
  · cases h
    exact followers?_of_three (by omega) (by omega) (by omega)
  · cases h
    exact followers?_of_four (by omega) (by omega)

private theorem val_ofNat {v : Nat} (h : v < 0xD800 ∨ 0xDFFF < v ∧ v < 0x110000) :
    (Char.ofNat v).val.toNat = v := by
  rw [Char.ofNat, dif_pos h]
  rfl

private theorem byte_eq {b : UInt8} {n : Nat} (h : n = b.toNat) : UInt8.ofNat n = b := by
  rw [h, UInt8.ofNat_toNat]

section
variable {second third fourth : UInt8}

private theorem exists_char_of_two (hfirst : 0xC2 ≤ first.toNat ∧ first.toNat < 0xE0)
    (hsecond : 0x80 ≤ second.toNat ∧ second.toNat ≤ 0xBF) :
    ∃ c, String.utf8EncodeChar c = [first, second] := by
  refine ⟨Char.ofNat ((first.toNat - 0xC0) * 64 + (second.toNat - 0x80)), ?_⟩
  rw [String.utf8EncodeChar, val_ofNat (by omega)]
  rw [if_neg (by omega), if_pos (by omega), byte_eq (b := first) (by omega),
    byte_eq (b := second) (by omega)]

private theorem exists_char_of_three (hfirst : 0xE0 ≤ first.toNat ∧ first.toNat < 0xF0)
    (hsecond : 0x80 ≤ second.toNat ∧ second.toNat ≤ 0xBF)
    (hthird : 0x80 ≤ third.toNat ∧ third.toNat ≤ 0xBF)
    (hlow : first.toNat = 0xE0 → 0xA0 ≤ second.toNat)
    (hsurrogate : first.toNat = 0xED → second.toNat ≤ 0x9F) :
    ∃ c, String.utf8EncodeChar c = [first, second, third] := by
  refine ⟨Char.ofNat ((first.toNat - 0xE0) * 4096 + (second.toNat - 0x80) * 64 +
    (third.toNat - 0x80)), ?_⟩
  rw [String.utf8EncodeChar, val_ofNat (by omega)]
  rw [if_neg (by omega), if_neg (by omega), if_pos (by omega), byte_eq (b := first) (by omega),
    byte_eq (b := second) (by omega), byte_eq (b := third) (by omega)]

private theorem exists_char_of_four (hfirst : 0xF0 ≤ first.toNat ∧ first.toNat ≤ 0xF4)
    (hsecond : 0x80 ≤ second.toNat ∧ second.toNat ≤ 0xBF)
    (hthird : 0x80 ≤ third.toNat ∧ third.toNat ≤ 0xBF)
    (hfourth : 0x80 ≤ fourth.toNat ∧ fourth.toNat ≤ 0xBF)
    (hlow : first.toNat = 0xF0 → 0x90 ≤ second.toNat)
    (hhigh : first.toNat = 0xF4 → second.toNat ≤ 0x8F) :
    ∃ c, String.utf8EncodeChar c = [first, second, third, fourth] := by
  refine ⟨Char.ofNat ((first.toNat - 0xF0) * 262144 + (second.toNat - 0x80) * 4096 +
    (third.toNat - 0x80) * 64 + (fourth.toNat - 0x80)), ?_⟩
  rw [String.utf8EncodeChar, val_ofNat (by omega)]
  rw [if_neg (by omega), if_neg (by omega), if_neg (by omega), byte_eq (b := first) (by omega),
    byte_eq (b := second) (by omega), byte_eq (b := third) (by omega),
    byte_eq (b := fourth) (by omega)]

end

private theorem exists_of_fill_cons {range : ByteRange} (h : Fill (range :: ranges) bytes) :
    ∃ b rest, bytes = b :: rest ∧
      (range.least.toNat ≤ b.toNat ∧ b.toNat ≤ range.greatest.toNat) ∧ Fill ranges rest := by
  cases h with
  | cons hb hrest => exact ⟨_, _, rfl, contains_iff.mp hb, hrest⟩

private theorem exists_of_fill_pair {range : ByteRange} (h : Fill [range, .trailing] bytes) :
    ∃ b b', bytes = [b, b'] ∧ (range.least.toNat ≤ b.toNat ∧ b.toNat ≤ range.greatest.toNat) ∧
      0x80 ≤ b'.toNat ∧ b'.toNat ≤ 0xBF := by
  obtain ⟨b, rest, rfl, hb, hrest⟩ := exists_of_fill_cons h
  obtain ⟨b', rest', rfl, hb', hrest'⟩ := exists_of_fill_cons hrest
  cases hrest'
  exact ⟨b, b', rfl, hb, hb'⟩

private theorem exists_of_fill_triple {range : ByteRange}
    (h : Fill [range, .trailing, .trailing] bytes) :
    ∃ b b' b'', bytes = [b, b', b''] ∧
      (range.least.toNat ≤ b.toNat ∧ b.toNat ≤ range.greatest.toNat) ∧
      (0x80 ≤ b'.toNat ∧ b'.toNat ≤ 0xBF) ∧ 0x80 ≤ b''.toNat ∧ b''.toNat ≤ 0xBF := by
  obtain ⟨b, rest, rfl, hb, hrest⟩ := exists_of_fill_cons h
  obtain ⟨b', b'', rfl, hb', hb''⟩ := exists_of_fill_pair hrest
  exact ⟨b, b', b'', rfl, hb, hb', hb''⟩

/-- Where the bytes behind a first one lie in its ranges, they make a character. -/
private theorem exists_char (h : followers? first = some ranges) (hfill : Fill ranges more) :
    ∃ c, String.utf8EncodeChar c = first :: more := by
  rw [followers?_eq] at h
  split at h
  · cases h
    cases hfill
    refine ⟨Char.ofNat first.toNat, ?_⟩
    rw [String.utf8EncodeChar, val_ofNat (by omega), if_pos (by omega), byte_eq rfl]
  split at h
  · cases h
  split at h
  · cases h
    obtain ⟨b, rest, rfl, hb, hrest⟩ := exists_of_fill_cons hfill
    cases hrest
    exact exists_char_of_two (by omega) hb
  split at h
  · cases h
    obtain ⟨b, b', rfl, hb, hb'⟩ := exists_of_fill_pair hfill
    have hsecond : 0xA0 ≤ b.toNat ∧ b.toNat ≤ 0xBF := hb
    exact exists_char_of_three (by omega) (by omega) hb' (by omega) (by omega)
  split at h
  · cases h
    obtain ⟨b, b', rfl, hb, hb'⟩ := exists_of_fill_pair hfill
    have hsecond : 0x80 ≤ b.toNat ∧ b.toNat ≤ 0x9F := hb
    exact exists_char_of_three (by omega) (by omega) hb' (by omega) (by omega)
  split at h
  · cases h
    obtain ⟨b, b', rfl, hb, hb'⟩ := exists_of_fill_pair hfill
    exact exists_char_of_three (by omega) hb hb' (by omega) (by omega)
  split at h
  · cases h
    obtain ⟨b, b', b'', rfl, hb, hb', hb''⟩ := exists_of_fill_triple hfill
    have hsecond : 0x90 ≤ b.toNat ∧ b.toNat ≤ 0xBF := hb
    exact exists_char_of_four (by omega) (by omega) hb' hb'' (by omega) (by omega)
  split at h
  · cases h
    obtain ⟨b, b', b'', rfl, hb, hb', hb''⟩ := exists_of_fill_triple hfill
    exact exists_char_of_four (by omega) hb hb' hb'' (by omega) (by omega)
  split at h
  · cases h
    obtain ⟨b, b', b'', rfl, hb, hb', hb''⟩ := exists_of_fill_triple hfill
    have hsecond : 0x80 ≤ b.toNat ∧ b.toNat ≤ 0x8F := hb
    exact exists_char_of_four (by omega) (by omega) hb' hb'' (by omega) (by omega)
  · cases h

/-- The bytes of characters. -/
def spelling (s : List Char) : List UInt8 := s.flatMap String.utf8EncodeChar

private theorem spelling_cons (c : Char) (s : List Char) :
    spelling (c :: s) = String.utf8EncodeChar c ++ spelling s := List.flatMap_cons

private theorem exists_utf8EncodeChar_eq_cons (c : Char) :
    ∃ first more, String.utf8EncodeChar c = first :: more := by
  refine List.exists_cons_of_ne_nil fun h => ?_
  have hlength := String.length_utf8EncodeChar c
  rw [h] at hlength
  exact (Nat.ne_of_lt c.utf8Size_pos) hlength

/-- The bytes finish a character of which bytes in the ranges are still to come, and then spell a
text. -/
private def Completes (ranges : List ByteRange) (bytes : List UInt8) : Prop :=
  ∃ front s, bytes = front ++ spelling s ∧ Fill ranges front

private theorem completes_nil_iff : Completes [] bytes ↔ ∃ s, bytes = spelling s := by
  constructor
  · rintro ⟨front, s, rfl, hfill⟩
    cases hfill
    exact ⟨s, rfl⟩
  · rintro ⟨s, rfl⟩
    exact ⟨[], s, rfl, .nil⟩

private theorem not_completes_cons_nil {range : ByteRange} : ¬ Completes (range :: ranges) [] := by
  rintro ⟨front, s, hbytes, hfill⟩
  obtain ⟨rfl, -⟩ := List.append_eq_nil_iff.mp hbytes.symm
  cases hfill

/-- A text begins with the first byte of a character, and those in its ranges finish it. -/
private theorem completes_nil_cons_iff {b : UInt8} :
    Completes [] (b :: bytes) ↔ ∃ ranges, followers? b = some ranges ∧ Completes ranges bytes := by
  rw [completes_nil_iff]
  constructor
  · rintro ⟨s, hbytes⟩
    cases s with
    | nil => cases hbytes
    | cons c s =>
      obtain ⟨first, more, hc⟩ := exists_utf8EncodeChar_eq_cons c
      rw [spelling_cons, hc] at hbytes
      cases hbytes
      obtain ⟨ranges, hranges, hfill⟩ := followers?_of_char hc
      exact ⟨ranges, hranges, more, s, rfl, hfill⟩
  · rintro ⟨ranges, hranges, front, s, rfl, hfill⟩
    obtain ⟨c, hc⟩ := exists_char hranges hfill
    refine ⟨c :: s, ?_⟩
    rw [spelling_cons, hc]
    rfl

private theorem completes_cons_cons_iff {range : ByteRange} {b : UInt8} :
    Completes (range :: ranges) (b :: bytes) ↔ range.contains b = true ∧ Completes ranges bytes := by
  constructor
  · rintro ⟨front, s, hbytes, hfill⟩
    cases hfill with
    | cons hb hfill =>
      cases hbytes
      exact ⟨hb, _, s, rfl, hfill⟩
  · rintro ⟨hb, front, s, rfl, hfill⟩
    exact ⟨b :: front, s, rfl, .cons hb hfill⟩

/-- Bytes that go on with a character that has begun have no flaw just if they finish it and then
spell a text. -/
private theorem flawWithin?_eq_none_iff {start index : Nat} :
    flawWithin? start index ranges bytes = none ↔ Completes ranges bytes := by
  induction bytes generalizing start index ranges with
  | nil =>
    cases ranges with
    | nil => exact iff_of_true rfl ⟨[], [], rfl, .nil⟩
    | cons range ranges => exact iff_of_false (Option.some_ne_none _) not_completes_cons_nil
  | cons b rest ih =>
    cases ranges with
    | nil =>
      rw [flawWithin?, completes_nil_cons_iff]
      cases followers? b with
      | none => simp
      | some ranges => simp [ih]
    | cons range ranges =>
      rw [flawWithin?, completes_cons_cons_iff]
      split
      · next hb => simp [hb, ih]
      · next hb => simp [hb]

/-- Bytes have no flaw exactly if they are the bytes of a text. -/
theorem flaw?_eq_none_iff : flaw? bytes = none ↔ ∃ s : String, s.toUTF8.data.toList = bytes := by
  rw [flaw?, flawWithin?_eq_none_iff, completes_nil_iff]
  constructor
  · rintro ⟨s, rfl⟩
    refine ⟨.ofList s, ?_⟩
    rw [String.toUTF8_eq_toByteArray, String.toByteArray_ofList, List.utf8Encode,
      List.toList_data_toByteArray]
    rfl
  · rintro ⟨s, rfl⟩
    refine ⟨s.toList, ?_⟩
    rw [String.toUTF8_eq_toByteArray, ← String.ofList_toList (s := s), String.toByteArray_ofList,
      List.utf8Encode, List.toList_data_toByteArray, String.toList_ofList]
    rfl

end Signage.Text
