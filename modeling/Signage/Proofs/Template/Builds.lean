import Signage.Proofs.Text.Numerals
import Signage.Proofs.Text.Runs
import Signage.Template.Family

/-!
The build of a firmware, told by where its digits stand in the text, and the templates that it makes a
device get. Builds that do not fit a word of 32 bits are not read, however new they are.
-/
namespace Signage.Template
open Text
variable {s front digits rest run : List Char} {c : Char}

/-- The last digits of a text: there are some, no digit stands right before them, and none is behind
them. -/
structure LastDigits (s front digits rest : List Char) : Prop where
  split : s = front ++ (digits ++ rest)
  ne_nil : digits ≠ []
  digits : ∀ c ∈ digits, c.isDigit = true
  front : Stops Char.isDigit front.reverse
  rest : ∀ c ∈ rest, c.isDigit = false

/-- Digits go on with the run before them. -/
private theorem digitRunsFrom_digits (h : ∀ c ∈ digits, c.isDigit = true) (run s : List Char) :
    digitRunsFrom run (digits ++ s) = digitRunsFrom (run ++ digits) s := by
  induction digits generalizing run with
  | nil => rw [List.nil_append, List.append_nil]
  | cons c digits ih =>
    obtain ⟨hc, h⟩ := List.forall_mem_cons.mp h
    rw [List.cons_append, digitRunsFrom, if_pos hc, ih h, List.append_assoc, List.singleton_append]

/-- Another character ends the run before it, and the text behind it is cut from its start. -/
private theorem digitRunsFrom_append_cons (hc : c.isDigit = false) (run front s : List Char) :
    digitRunsFrom run (front ++ c :: s) = digitRunsFrom run front ++ digitRuns s := by
  induction front generalizing run with
  | nil =>
    have hcut : digitRunsFrom run (c :: s) =
        if run.isEmpty then digitRunsFrom [] s else run :: digitRunsFrom [] s := by
      rw [digitRunsFrom, hc]
      rfl
    rw [List.nil_append, hcut, ← digitRuns, digitRunsFrom]
    split <;> rfl
  | cons d front ih =>
    rw [List.cons_append, digitRunsFrom, digitRunsFrom, ih, ih]
    split
    · rfl
    · split
      · rfl
      · rfl

private theorem digitRuns_of_none (h : ∀ c ∈ s, c.isDigit = false) : digitRuns s = [] := by
  induction s with
  | nil => rfl
  | cons c s ih =>
    obtain ⟨hc, h⟩ := List.forall_mem_cons.mp h
    exact (digitRunsFrom_append_cons hc [] [] s).trans (ih h)

private theorem digitRuns_append_cons (hc : c.isDigit = false) (front s : List Char) :
    digitRuns (front ++ c :: s) = digitRuns front ++ digitRuns s :=
  digitRunsFrom_append_cons hc [] front s

private theorem digitRuns_run (hne : digits ≠ []) (h : ∀ c ∈ digits, c.isDigit = true) :
    digitRuns digits = [digits] := by
  have hrun := digitRunsFrom_digits h [] []
  rw [List.append_nil, List.nil_append] at hrun
  rw [digitRuns, hrun, digitRunsFrom, if_neg (by simpa using hne)]

/-- What is behind the last digits is of no account. -/
private theorem digitRuns_append (hrest : ∀ c ∈ rest, c.isDigit = false) (s : List Char) :
    digitRuns (s ++ rest) = digitRuns s := by
  cases rest with
  | nil => rw [List.append_nil]
  | cons c rest =>
    obtain ⟨hc, hrest⟩ := List.forall_mem_cons.mp hrest
    rw [digitRuns_append_cons hc, digitRuns_of_none hrest, List.append_nil]

/-- The last run that is cut off are the last digits. -/
theorem LastDigits.getLast?_digitRuns (h : LastDigits s front digits rest) :
    (digitRuns s).getLast? = some digits := by
  have hrun := digitRuns_run h.ne_nil h.digits
  rw [h.split, ← List.append_assoc, digitRuns_append h.rest]
  rcases List.eq_nil_or_concat front with rfl | ⟨init, c, rfl⟩
  · rw [List.nil_append, hrun]
    rfl
  · have hc : c.isDigit = false := h.front c (by simp)
    rw [List.concat_eq_append, List.append_assoc, List.singleton_append, digitRuns_append_cons hc, hrun,
      List.getLast?_append]
    rfl

/-- A text has last digits or none at all. -/
theorem exists_lastDigits (s : List Char) :
    (∀ c ∈ s, c.isDigit = false) ∨ ∃ front digits rest, LastDigits s front digits rest := by
  let skipped := s.reverse.takeWhile fun c => !c.isDigit
  have hskip : s.reverse = skipped ++ s.reverse.dropWhile fun c => !c.isDigit :=
    List.takeWhile_append_dropWhile.symm
  have hskipped : ∀ c ∈ skipped, c.isDigit = false := fun c hc => by
    simpa using List.mem_takeWhile_imp hc
  have hstop := stops_dropWhile (fun c => !c.isDigit) s.reverse
  cases hback : s.reverse.dropWhile fun c => !c.isDigit with
  | nil =>
    rw [hback, List.append_nil] at hskip
    exact .inl fun c hc => hskipped c (hskip ▸ List.mem_reverse.mpr hc)
  | cons c back =>
    rw [hback] at hskip hstop
    have hc : c.isDigit = true := by simpa using stops_cons.mp hstop
    refine .inr ⟨(back.dropWhile Char.isDigit).reverse, (c :: back.takeWhile Char.isDigit).reverse,
      skipped.reverse, ?_, by simp, fun d hd => ?_, ?_, fun d hd => hskipped d (List.mem_reverse.mp hd)⟩
    · rw [← List.reverse_append, ← List.reverse_append, List.append_assoc, List.cons_append,
        List.takeWhile_append_dropWhile, ← hskip, List.reverse_reverse]
    · rcases List.mem_cons.mp (List.mem_reverse.mp hd) with rfl | hd
      · exact hc
      · exact List.mem_takeWhile_imp hd
    · rw [List.reverse_reverse]
      exact stops_dropWhile Char.isDigit back

/-- The number that the last digits stand for is the build, if a word of 32 bits holds it. -/
theorem LastDigits.build?_eq (h : LastDigits s front digits rest) :
    build? s = if Nat.ofDigitChars 10 digits 0 < 2 ^ 32 then some (Nat.ofDigitChars 10 digits 0)
      else none := by
  have hgreatest : greatestBuild = 2 ^ 32 - 1 := rfl
  rw [build?, h.getLast?_digitRuns, Option.bind_some, readNumeral_of_digits h.ne_nil h.digits,
    hgreatest]
  split
  · rw [if_pos (by omega)]
    rfl
  · rw [if_neg (by omega)]
    rfl

private theorem build?_of_none (h : ∀ c ∈ s, c.isDigit = false) : build? s = none := by
  rw [build?, digitRuns_of_none h]
  rfl

/-- Other digits in the place of the last ones are the last ones there. -/
theorem LastDigits.replaced (h : LastDigits s front digits rest) (hne : run ≠ [])
    (hrun : ∀ c ∈ run, c.isDigit = true) : LastDigits (front ++ (run ++ rest)) front run rest :=
  ⟨rfl, hne, hrun, h.front, h.rest⟩

private theorem LastDigits.select_eq_garlic_iff (h : LastDigits s front digits rest) :
    select .garlic s = .garlic ↔
      740 ≤ Nat.ofDigitChars 10 digits 0 ∧ Nat.ofDigitChars 10 digits 0 < 2 ^ 32 := by
  have hfirst : firstFullBuild = 740 := rfl
  rw [select, h.build?_eq, hfirst]
  split_ifs <;> simp_all

/-- Garlic players get their own template exactly when the last number in the firmware is at least 740
and fits a word of 32 bits, and the generic one otherwise. So a newer build keeps the template up to
that word and loses it above. -/
theorem select_garlic_by_build (firmware : List Char) :
    (select .garlic firmware = .garlic ↔ ∃ front digits rest, LastDigits firmware front digits rest ∧
      740 ≤ Nat.ofDigitChars 10 digits 0 ∧ Nat.ofDigitChars 10 digits 0 < 2 ^ 32) ∧
    (select .garlic firmware = .garlic ∨ select .garlic firmware = .generic) ∧
    ∀ front digits rest, LastDigits firmware front digits rest → ∀ build : ℕ,
      (select .garlic (front ++ (numeral build ++ rest)) = .garlic ↔ 740 ≤ build ∧ build < 2 ^ 32) := by
  refine ⟨⟨fun h => ?_, ?_⟩, ?_, fun front digits rest hlast build => ?_⟩
  · rcases exists_lastDigits firmware with hnone | ⟨front, digits, rest, hlast⟩
    · rw [select, build?_of_none hnone] at h
      cases h
    · exact ⟨front, digits, rest, hlast, hlast.select_eq_garlic_iff.mp h⟩
  · rintro ⟨front, digits, rest, hlast, hbuild⟩
    exact hlast.select_eq_garlic_iff.mpr hbuild
  · rw [select]
    split
    · exact ite_eq_or_eq _ _ _
    · exact .inr rfl
  · have hnew : LastDigits (front ++ (numeral build ++ rest)) front (numeral build) rest :=
      hlast.replaced Nat.toDigits_ne_nil fun _ => isDigit_of_mem_numeral
    have hvalue : Nat.ofDigitChars 10 (numeral build) 0 = build := Nat.ofDigitChars_ten_toDigits
    rw [hnew.select_eq_garlic_iff, hvalue]

private theorem lastDigits_version (build : ℕ) :
    LastDigits ("1.0.0.".toList ++ (numeral build ++ [])) "1.0.0.".toList (numeral build) [] :=
  ⟨rfl, Nat.toDigits_ne_nil, fun _ => isDigit_of_mem_numeral,
    stops_cons.mpr (by decide : '.'.isDigit = false), by simp⟩

theorem select_garlic_by_build_of_version :
    LastDigits "1.0.0.745".toList "1.0.0.".toList "745".toList [] ∧
      select .garlic "1.0.0.745".toList = .garlic ∧
      select .garlic ("1.0.0.".toList ++ (numeral 4294967295 ++ [])) = .garlic := by
  have hlast : LastDigits "1.0.0.745".toList "1.0.0.".toList "745".toList [] :=
    lastDigits_version 745
  obtain ⟨hbuild, -, hnewer⟩ := select_garlic_by_build "1.0.0.745".toList
  exact ⟨hlast, hbuild.mpr ⟨_, _, _, hlast, by decide, by decide⟩,
    (hnewer _ _ _ hlast 4294967295).mpr (by decide)⟩

/-- The first build that a word of 32 bits does not hold is newer than the one that is replaced. -/
theorem select_garlic_forgets_great_build :
    LastDigits "1.0.0.745".toList "1.0.0.".toList (numeral 745) [] ∧
      LastDigits "1.0.0.4294967296".toList "1.0.0.".toList (numeral 4294967296) [] ∧
      select .garlic "1.0.0.745".toList = .garlic ∧
      740 ≤ Nat.ofDigitChars 10 (numeral 4294967296) 0 ∧
      select .garlic "1.0.0.4294967296".toList = .generic :=
  ⟨lastDigits_version 745, lastDigits_version 4294967296, by decide, by decide, by decide⟩

end Signage.Template
