import Mathlib.Data.List.TakeDrop
import Mathlib.Tactic.IntervalCases
import Signage.Json.Reader
import Signage.Json.Writer
import Signage.Proofs.Text.Numerals

/-!
What is written as a JSON text is read back. Each reader is followed on a text that begins with what
a writer wrote and goes on in any way; of numbers alone it matters how it goes on, for they have no
end of their own.
-/
namespace Signage.Json
open Text

private theorem hexDigit?_hexDigit {n : Nat} (h : n < 16) : hexDigit? (hexDigit n) = some n := by
  interval_cases n <;> decide

private theorem hexQuad?_control {n : Nat} (h : n < 0x20) (rest : List Char) :
    hexQuad? ('0' :: '0' :: hexDigit (n / 16) :: hexDigit (n % 16) :: rest) = some (n, rest) := by
  have hzero : hexDigit? '0' = some 0 := by decide
  have hhigh := hexDigit?_hexDigit (n := n / 16) (by omega)
  have hlow := hexDigit?_hexDigit (n := n % 16) (by omega)
  simp only [hexQuad?, hzero, hhigh, hlow, Option.bind_eq_bind, Option.bind_some, Option.pure_def]
  congr 2
  omega

private theorem stringUnits_escaped {digits rest : List Char} {u : Nat}
    (h : hexQuad? digits = some (u, rest)) (fuel : Nat) (units : List StringUnit) :
    stringUnits (fuel + 1) units ('\\' :: 'u' :: digits) =
      stringUnits fuel (.ofCode u :: units) rest := by
  simp [stringUnits, h]

/-- A written character is read as itself. -/
theorem stringUnits_escapeCharacter (c : Char) (fuel : Nat) (units : List StringUnit)
    (rest : List Char) :
    stringUnits (fuel + 1) units (escapeCharacter c ++ rest) =
      stringUnits fuel (.character c :: units) rest := by
  unfold escapeCharacter
  split_ifs with hquote hslash hback hfeed hline hreturn htab hcontrol
  · rw [beq_iff_eq.mp hquote]
    rfl
  · rw [beq_iff_eq.mp hslash]
    rfl
  · rw [beq_iff_eq.mp hback]
    rfl
  · rw [beq_iff_eq.mp hfeed]
    rfl
  · rw [beq_iff_eq.mp hline]
    rfl
  · rw [beq_iff_eq.mp hreturn]
    rfl
  · rw [beq_iff_eq.mp htab]
    rfl
  · have hunit : StringUnit.ofCode c.toNat = .character c := by
      have hhalf : (isHighSurrogate c.toNat || isLowSurrogate c.toNat) = false := by
        simp only [isHighSurrogate, isLowSurrogate, Bool.or_eq_false_iff, Bool.and_eq_false_iff,
          decide_eq_false_iff_not]
        omega
      rw [StringUnit.ofCode, hhalf, if_neg (by simp), Char.ofNat_toNat]
    rw [← hunit]
    exact stringUnits_escaped (hexQuad?_control hcontrol rest) fuel units
  · simp only [List.singleton_append, stringUnits, if_neg hquote, if_neg hslash, if_neg hcontrol]

private theorem stringUnits_flatMap (s : List Char) {fuel : Nat} (hf : s.length < fuel)
    (units : List StringUnit) (rest : List Char) :
    stringUnits fuel units (s.flatMap escapeCharacter ++ '"' :: rest) =
      some ((s.map .character).reverse ++ units, rest) := by
  induction s generalizing fuel units with
  | nil =>
    obtain ⟨fuel, rfl⟩ := Nat.exists_eq_succ_of_ne_zero (Nat.ne_of_gt hf)
    rfl
  | cons c s ih =>
    obtain ⟨fuel, rfl⟩ := Nat.exists_eq_succ_of_ne_zero (Nat.ne_of_gt (Nat.zero_lt_of_lt hf))
    rw [List.flatMap_cons, List.append_assoc, stringUnits_escapeCharacter,
      ih (Nat.lt_of_succ_lt_succ hf)]
    simp

private theorem joinUnits_characters (s text : List Char) :
    joinUnits text (s.map StringUnit.character) = some (s.reverse ++ text) := by
  induction s generalizing text with
  | nil => rfl
  | cons c s ih => rw [List.map_cons, joinUnits, ih]; simp

private theorem length_le_flatMap_escapeCharacter (s : List Char) :
    s.length ≤ (s.flatMap escapeCharacter).length := by
  induction s with
  | nil => exact Nat.le_refl 0
  | cons c s ih =>
    have hc : 1 ≤ (escapeCharacter c).length := by
      unfold escapeCharacter
      split_ifs <;> simp
    rw [List.flatMap_cons, List.length_append, List.length_cons]
    omega

/-- A written string is read after its opening quote. -/
theorem readString?_flatMap (s rest : List Char) :
    readString? (s.flatMap escapeCharacter ++ '"' :: rest) = some (some (.ofList s), rest) := by
  have hlength := length_le_flatMap_escapeCharacter s
  unfold readString?
  rw [stringUnits_flatMap s (by simp only [List.length_append]; omega)]
  simp [← List.map_reverse, joinUnits_characters]

/-- What may follow a number: nothing, or a character that cannot belong to one. -/
def Closes (rest : List Char) : Prop :=
  ∀ c ∈ rest.head?, c.isDigit = false ∧ c ≠ '.' ∧ c ≠ 'e' ∧ c ≠ 'E'

private theorem closes_nil : Closes [] := fun _ h => nomatch h

private theorem closes_cons {c : Char} (h : c = ',' ∨ c = ']' ∨ c = '\x7d') (rest : List Char) :
    Closes (c :: rest) := by
  rintro d hd
  cases hd
  rcases h with rfl | rfl | rfl <;> decide

private theorem spanDigits_append {digits rest : List Char} (hd : ∀ c ∈ digits, c.isDigit = true)
    (hr : Closes rest) : spanDigits (digits ++ rest) = (digits, rest) := by
  rw [spanDigits, List.span_eq_takeWhile_dropWhile, List.takeWhile_append_of_pos hd,
    List.dropWhile_append_of_pos hd]
  cases rest with
  | nil => simp
  | cons c rest => simp [(hr c rfl).1]

private theorem readFraction?_of_closes {rest : List Char} (hr : Closes rest) :
    readFraction? rest = some (false, rest) := by
  unfold readFraction?
  split
  · exact absurd rfl (hr '.' rfl).2.1
  · rfl

private theorem readExponent?_of_closes {rest : List Char} (hr : Closes rest) :
    readExponent? rest = some (false, rest) := by
  cases rest with
  | nil => rfl
  | cons c rest =>
    obtain ⟨-, -, he, hE⟩ := hr c rfl
    simp [readExponent?, he, hE]

/-- A written number is read; there is no minus before a zero. -/
theorem readMagnitude?_numeral {negative : Bool} {n : Nat} {rest : List Char} (hr : Closes rest)
    (hn : negative = true → n ≠ 0) :
    readMagnitude? negative (numeral n ++ rest) =
      some (.integer (if negative then -(n : Int) else n), rest) := by
  have hd : ∀ c ∈ numeral n, c.isDigit = true := fun c => isDigit_of_mem_numeral
  have hne : numeral n ≠ [] := Nat.toDigits_ne_nil
  obtain ⟨first, more, hdigits⟩ := List.exists_cons_of_ne_nil hne
  have hzero : (first == '0' && !more.isEmpty) = false := by
    by_cases h0 : first = '0'
    · subst h0
      simp [eq_nil_of_numeral_eq_zero hdigits]
    · simp [h0]
  have hvalue : Nat.ofDigitChars 10 (first :: more) 0 = n := by
    rw [← hdigits]
    exact Nat.ofDigitChars_ten_toDigits
  have hsign : (negative && n == 0) = false := by
    cases negative with
    | false => rfl
    | true => simpa using hn rfl
  unfold readMagnitude?
  rw [spanDigits_append hd hr, hdigits]
  simp [hzero, readFraction?_of_closes hr, readExponent?_of_closes hr, hvalue, hsign]

private theorem skipSpace_cons {c : Char} (h : isSpace c = false) (s : List Char) :
    skipSpace (c :: s) = c :: s := by
  rw [skipSpace, List.dropWhile_cons_of_neg (by simp [h])]

/-- A value in which nothing is left open: all of it comes back as it was written. -/
inductive Plain : Json → Prop
  | null : Plain .null
  | boolean (b : Bool) : Plain (.boolean b)
  | integer (n : Int) : Plain (.integer n)
  | string (s : String) : Plain (.string s)
  | array {items : List Json} (h : ∀ item ∈ items, Plain item) : Plain (.array items)
  | object {members : List (Option String × Json)}
      (hnames : ∀ member ∈ members, member.1.isSome = true)
      (h : ∀ member ∈ members, Plain member.2) : Plain (.object members)

/-- The value is read back wherever its text stands, if there is fuel for each character of it. -/
def Returns (json : Json) : Prop :=
  ∀ {rest : List Char} {fuel : Nat}, Closes rest → json.write.length ≤ fuel →
    readValue? fuel (json.write ++ rest) = some (json, rest)

private theorem isSpace_eq_false_of_isDigit {c : Char} (h : c.isDigit = true) :
    isSpace c = false := by
  simp only [isSpace, Bool.or_eq_false_iff, beq_eq_false_iff_ne]
  refine ⟨⟨⟨?_, ?_⟩, ?_⟩, ?_⟩
  all_goals
    rintro rfl
    revert h
    decide

private theorem readValue?_digit {c : Char} (h : c.isDigit = true) (fuel : Nat) (s : List Char) :
    readValue? (fuel + 1) (c :: s) = readMagnitude? false (c :: s) := by
  simp only [readValue?, skipSpace_cons (isSpace_eq_false_of_isDigit h)]
  split
  case h_8 => rfl
  all_goals
    next heq =>
      cases heq
      exact absurd h (by decide)

private theorem returns_integer (n : Int) : Returns (.integer n) := by
  intro rest fuel hr hf
  obtain ⟨c, more, hdigits⟩ :=
    List.exists_cons_of_ne_nil (show numeral n.natAbs ≠ [] from Nat.toDigits_ne_nil)
  have hc : c.isDigit = true := isDigit_of_mem_numeral (hdigits ▸ List.mem_cons_self)
  rw [write, integerNumeral] at hf ⊢
  split at hf
  · next hn =>
    obtain ⟨fuel, rfl⟩ := Nat.exists_eq_succ_of_ne_zero (Nat.ne_of_gt (Nat.zero_lt_of_lt hf))
    rw [if_pos hn, List.cons_append]
    change readMagnitude? true (numeral n.natAbs ++ rest) = _
    rw [readMagnitude?_numeral hr fun _ => by omega]
    simp only [if_true]
    congr 3
    omega
  · next hn =>
    have hpos : 0 < (numeral n.natAbs).length := by simp [hdigits]
    obtain ⟨fuel, rfl⟩ := Nat.exists_eq_succ_of_ne_zero (Nat.ne_of_gt (Nat.lt_of_lt_of_le hpos hf))
    have hread : readMagnitude? false (numeral n.natAbs ++ rest) = _ :=
      readMagnitude?_numeral hr (by simp)
    rw [hdigits, List.cons_append] at hread
    rw [if_neg hn, hdigits, List.cons_append, readValue?_digit hc, hread]
    simp only [Bool.false_eq_true, if_false]
    congr 3
    omega

/-- No text of a value begins with white space or with the end of an array. -/
theorem exists_write_eq_cons (json : Json) :
    ∃ c s, json.write = c :: s ∧ isSpace c = false ∧ c ≠ ']' := by
  cases json with
  | boolean b => cases b <;> exact ⟨_, _, rfl, by decide, by decide⟩
  | integer n =>
    rw [write, integerNumeral]
    split
    · exact ⟨_, _, rfl, by decide, by decide⟩
    · obtain ⟨c, more, hdigits⟩ :=
        List.exists_cons_of_ne_nil (show numeral n.natAbs ≠ [] from Nat.toDigits_ne_nil)
      have hc : c.isDigit = true := isDigit_of_mem_numeral (hdigits ▸ List.mem_cons_self)
      refine ⟨c, more, hdigits, isSpace_eq_false_of_isDigit hc, ?_⟩
      rintro rfl
      revert hc
      decide
  | _ => exact ⟨_, _, rfl, by decide, by decide⟩

private theorem writeItems_cons (item : Json) {items : List Json} (h : items ≠ []) :
    writeItems (item :: items) = item.write ++ ',' :: writeItems items := by
  rw [writeItems]
  exact h

private theorem writeMembers_cons (name : Option String) (value : Json)
    {members : List (Option String × Json)} (h : members ≠ []) :
    writeMembers ((name, value) :: members) =
      writeString (name.getD "") ++ ':' :: value.write ++ ',' :: writeMembers members := by
  rw [writeMembers]
  exact h

private theorem readItems?_writeItems {items : List Json} (hne : items ≠ [])
    (h : ∀ item ∈ items, Returns item) {fuel : Nat} (hf : (writeItems items).length ≤ fuel)
    (rest : List Char) : readItems? fuel (writeItems items ++ rest) = some (items, rest) := by
  induction items generalizing fuel with
  | nil => exact absurd rfl hne
  | cons item items ih =>
    obtain ⟨hitem, hitems⟩ := List.forall_mem_cons.mp h
    by_cases hnil : items = []
    · subst hnil
      simp only [writeItems, List.length_append, List.length_singleton] at hf
      obtain ⟨fuel, rfl⟩ := Nat.exists_eq_succ_of_ne_zero (show fuel ≠ 0 by omega)
      have hread := hitem (closes_cons (.inr (.inl rfl)) rest) (Nat.le_of_succ_le_succ hf)
      simp only [writeItems, List.append_assoc, List.singleton_append, readItems?, hread]
      rfl
    · rw [writeItems_cons item hnil, List.length_append, List.length_cons] at hf
      obtain ⟨fuel, rfl⟩ := Nat.exists_eq_succ_of_ne_zero (show fuel ≠ 0 by omega)
      have hread := hitem (closes_cons (.inl rfl) (writeItems items ++ rest))
        (show item.write.length ≤ fuel by omega)
      have hrest : readItems? fuel (writeItems items ++ rest) = some (items, rest) :=
        ih hnil hitems (by omega)
      have hcomma : skipSpace (',' :: (writeItems items ++ rest)) = ',' :: (writeItems items ++ rest) :=
        skipSpace_cons (by decide) _
      rw [writeItems_cons item hnil]
      simp only [List.append_assoc, List.cons_append, readItems?, hread, Option.bind_eq_bind,
        Option.bind_some, hcomma, hrest, Option.pure_def]

/-- The name and the value of a member are read, and the mark after them tells how to go on. -/
private theorem readMembers?_member (name : String) {value : Json} (h : Returns value)
    {rest : List Char} (hr : Closes rest) {fuel : Nat} (hf : value.write.length ≤ fuel) :
    readMembers? (fuel + 1) (writeString name ++ ':' :: (value.write ++ rest)) =
      match skipSpace rest with
      | ',' :: rest =>
        (readMembers? fuel rest).map fun (members, rest) => ((some name, value) :: members, rest)
      | '\x7d' :: rest => some ([(some name, value)], rest)
      | _ => none := by
  have hquote (s : List Char) : skipSpace ('"' :: s) = '"' :: s := skipSpace_cons (by decide) s
  have hcolon (s : List Char) : skipSpace (':' :: s) = ':' :: s := skipSpace_cons (by decide) s
  simp only [writeString, List.append_assoc, List.cons_append, List.nil_append, readMembers?, hquote,
    readString?_flatMap, String.ofList_toList, Option.bind_eq_bind, Option.bind_some, hcolon, h hr hf]
  simp only [Option.map_eq_bind, Option.pure_def]
  rfl

private theorem readMembers?_writeMembers {members : List (Option String × Json)}
    (hne : members ≠ [])
    (hnames : ∀ member ∈ members, member.1.isSome = true) (h : ∀ member ∈ members, Returns member.2)
    {fuel : Nat} (hf : (writeMembers members).length ≤ fuel) (rest : List Char) :
    readMembers? fuel (writeMembers members ++ rest) = some (members, rest) := by
  induction members generalizing fuel with
  | nil => exact absurd rfl hne
  | cons member members ih =>
    obtain ⟨name, value⟩ := member
    obtain ⟨hname, hothers⟩ := List.forall_mem_cons.mp hnames
    obtain ⟨hvalue, hvalues⟩ := List.forall_mem_cons.mp h
    obtain ⟨name, rfl⟩ := Option.isSome_iff_exists.mp hname
    change Returns value at hvalue
    by_cases hnil : members = []
    · subst hnil
      simp only [writeMembers, List.length_append, List.length_cons] at hf
      obtain ⟨fuel, rfl⟩ := Nat.exists_eq_succ_of_ne_zero (show fuel ≠ 0 by omega)
      simp only [writeMembers, Option.getD_some, List.append_assoc, List.cons_append,
        List.nil_append]
      rw [readMembers?_member name hvalue (closes_cons (.inr (.inr rfl)) rest) (by omega)]
      rfl
    · rw [writeMembers_cons _ value hnil] at hf ⊢
      simp only [List.length_append, List.length_cons] at hf
      obtain ⟨fuel, rfl⟩ := Nat.exists_eq_succ_of_ne_zero (show fuel ≠ 0 by omega)
      have hcomma : skipSpace (',' :: (writeMembers members ++ rest)) =
          ',' :: (writeMembers members ++ rest) := skipSpace_cons (by decide) _
      have hrest : readMembers? fuel (writeMembers members ++ rest) = some (members, rest) :=
        ih hnil hothers hvalues (by omega)
      simp only [Option.getD_some, List.append_assoc, List.cons_append]
      rw [readMembers?_member name hvalue (closes_cons (.inl rfl) _) (by omega), hcomma]
      simp only [hrest, Option.map_some]

private theorem readValue?_array {c : Char} (hspace : isSpace c = false) (hend : c ≠ ']') (fuel :
    Nat)
    (s : List Char) :
    readValue? (fuel + 1) ('[' :: c :: s) =
      (readItems? fuel (c :: s)).map fun (items, rest) => (.array items, rest) := by
  have hopen : skipSpace ('[' :: c :: s) = '[' :: c :: s := skipSpace_cons (by decide) _
  simp only [readValue?, hopen, skipSpace_cons hspace]
  split
  · next heq => exact absurd (List.cons.inj heq).1 hend
  · rfl

private theorem readValue?_object (fuel : Nat) (s : List Char) :
    readValue? (fuel + 1) ('\x7b' :: '"' :: s) =
      (readMembers? fuel ('"' :: s)).map fun (members, rest) => (.object members, rest) := by
  have hopen : skipSpace ('\x7b' :: '"' :: s) = '\x7b' :: '"' :: s := skipSpace_cons (by decide) _
  have hquote : skipSpace ('"' :: s) = '"' :: s := skipSpace_cons (by decide) _
  simp only [readValue?, hopen, hquote]
  rfl

private theorem returns_array {items : List Json} (h : ∀ item ∈ items, Returns item) :
    Returns (.array items) := by
  intro rest fuel _ hf
  rw [write, List.length_cons] at hf
  obtain ⟨fuel, rfl⟩ := Nat.exists_eq_succ_of_ne_zero (show fuel ≠ 0 by omega)
  by_cases hnil : items = []
  · subst hnil
    rfl
  · have hitems := readItems?_writeItems hnil h (Nat.le_of_succ_le_succ hf) rest
    obtain ⟨item, more, rfl⟩ := List.exists_cons_of_ne_nil hnil
    obtain ⟨c, s, hwrite, hspace, hend⟩ := exists_write_eq_cons item
    have hfront : ∃ s', writeItems (item :: more) ++ rest = c :: s' := by
      by_cases hmore : more = []
      · exact ⟨_, by rw [hmore, writeItems, hwrite]; rfl⟩
      · exact ⟨_, by rw [writeItems_cons item hmore, hwrite]; rfl⟩
    obtain ⟨s', hs'⟩ := hfront
    rw [write, List.cons_append, hs', readValue?_array hspace hend, ← hs', hitems]
    rfl

private theorem returns_object {members : List (Option String × Json)}
    (hnames : ∀ member ∈ members, member.1.isSome = true) (h : ∀ member ∈ members, Returns member.2) :
    Returns (.object members) := by
  intro rest fuel _ hf
  rw [write, List.length_cons] at hf
  obtain ⟨fuel, rfl⟩ := Nat.exists_eq_succ_of_ne_zero (show fuel ≠ 0 by omega)
  by_cases hnil : members = []
  · subst hnil
    rfl
  · have hmembers := readMembers?_writeMembers hnil hnames h (Nat.le_of_succ_le_succ hf) rest
    obtain ⟨⟨name, value⟩, more, rfl⟩ := List.exists_cons_of_ne_nil hnil
    have hfront : ∃ s', writeMembers ((name, value) :: more) ++ rest = '"' :: s' := by
      by_cases hmore : more = []
      · exact ⟨_, by rw [hmore, writeMembers]; rfl⟩
      · exact ⟨_, by rw [writeMembers_cons _ _ hmore]; rfl⟩
    obtain ⟨s', hs'⟩ := hfront
    rw [write, List.cons_append, hs', readValue?_object, ← hs', hmembers]
    rfl

private theorem returns_string (s : String) : Returns (.string s) := by
  intro rest fuel _ hf
  rw [write, writeString, List.cons_append, List.length_cons] at hf
  obtain ⟨fuel, rfl⟩ := Nat.exists_eq_succ_of_ne_zero (show fuel ≠ 0 by omega)
  rw [write, writeString, List.append_assoc, List.cons_append]
  change (readString? _).map _ = _
  rw [List.singleton_append, readString?_flatMap, String.ofList_toList]
  rfl

private theorem returns_of_plain {json : Json} (h : Plain json) : Returns json := by
  induction h with
  | null =>
    intro rest fuel _ hf
    obtain ⟨fuel, rfl⟩ := Nat.exists_eq_succ_of_ne_zero (Nat.ne_of_gt (Nat.zero_lt_of_lt hf))
    rfl
  | boolean b =>
    intro rest fuel _ hf
    cases b <;>
    · obtain ⟨fuel, rfl⟩ := Nat.exists_eq_succ_of_ne_zero (Nat.ne_of_gt (Nat.zero_lt_of_lt hf))
      rfl
  | integer n => exact returns_integer n
  | string s => exact returns_string s
  | array _ ih => exact returns_array ih
  | object hnames _ ih => exact returns_object hnames ih

/-- A plain value is read back from its text. -/
theorem ofText?_toText {json : Json} (h : Plain json) : ofText? json.toText = some json := by
  have hlength : json.write.length ≤ 2 * json.toText.length + 2 := by
    rw [toText, ← String.length_toList, String.toList_ofList]
    omega
  have hread := returns_of_plain h closes_nil hlength
  rw [List.append_nil] at hread
  rw [ofText?, toText, String.toList_ofList, ← toText, hread]
  rfl

end Signage.Json
