import Mathlib.Tactic.Basic
import Signage.Section.Standby

/-!
The gaps that spans leave in a day. Gaps and spans make up the day together, and no other list of
spans in order and apart from each other does so.
-/
namespace Signage.Section
variable {spans others : List Span} {span other : Span} {cursor minute : Nat}

/-- The minute lies in the span. -/
def Span.Covers (span : Span) (minute : Nat) : Prop := span.start ≤ minute ∧ minute < span.stop

/-- The minute lies in one of the spans. -/
def Covered (spans : List Span) (minute : Nat) : Prop := ∃ span ∈ spans, span.Covers minute

/-- The spans lie within a day, and there are minutes in each. -/
def WithinDay (spans : List Span) : Prop :=
  ∀ span ∈ spans, span.start < span.stop ∧ span.stop ≤ minutesPerDay

/-- Each span ends before the next one begins. -/
def Apart (spans : List Span) : Prop := spans.Pairwise fun a b => a.stop < b.start

private theorem covered_cons_iff :
    Covered (span :: spans) minute ↔ span.Covers minute ∨ Covered spans minute := by
  simp [Covered]

private theorem covered_gapsFrom_cons :
    Covered (gapsFrom cursor (span :: spans)) minute ↔
      cursor ≤ minute ∧ minute < span.start ∨ Covered (gapsFrom (max cursor span.stop) spans) minute := by
  rw [gapsFrom]
  split
  · rw [covered_cons_iff, Span.Covers]
  · next h =>
    have hnone : ¬(cursor ≤ minute ∧ minute < span.start) := by omega
    simp only [hnone, false_or]

/-- The gaps are what spans in order leave of the day from the cursor on. -/
theorem covered_gapsFrom_iff (hday : WithinDay spans)
    (hsorted : spans.Pairwise fun a b => a.start ≤ b.start) :
    Covered (gapsFrom cursor spans) minute ↔
      cursor ≤ minute ∧ minute < minutesPerDay ∧ ¬Covered spans minute := by
  induction spans generalizing cursor with
  | nil =>
    rw [gapsFrom]
    split
    · simp [Covered, Span.Covers]
    · simp [Covered]
      omega
  | cons span spans ih =>
    obtain ⟨hlater, hsorted⟩ := List.pairwise_cons.mp hsorted
    obtain ⟨⟨hspan, hstop⟩, hday⟩ := List.forall_mem_cons.mp hday
    have hnext : minute < span.start → ¬Covered spans minute := by
      rintro hminute ⟨other, hother, hcovers⟩
      have := hlater other hother
      have := hcovers.1
      omega
    rw [covered_gapsFrom_cons, ih hday hsorted, covered_cons_iff, Span.Covers, Nat.max_le]
    by_cases hminute : minute < span.start
    · have hfree := hnext hminute
      simp only [hfree, or_false, not_false_eq_true]
      omega
    · simp only [hminute, and_false, false_or, not_or]
      constructor
      · rintro ⟨⟨hcursor, hle⟩, hlast, hfree⟩
        exact ⟨hcursor, hlast, by omega, hfree⟩
      · rintro ⟨hcursor, hlast, hout, hfree⟩
        exact ⟨⟨hcursor, by omega⟩, hlast, hfree⟩

private theorem le_start_of_mem_gapsFrom (h : span ∈ gapsFrom cursor spans) :
    cursor ≤ span.start := by
  induction spans generalizing cursor with
  | nil =>
    rw [gapsFrom] at h
    split at h
    · cases List.mem_singleton.mp h
      exact Nat.le_refl _
    · cases h
  | cons first spans ih =>
    rw [gapsFrom] at h
    split at h
    · rcases List.mem_cons.mp h with rfl | h
      · exact Nat.le_refl _
      · exact Nat.le_trans (Nat.le_max_left _ _) (ih h)
    · exact Nat.le_trans (Nat.le_max_left _ _) (ih h)

/-- The gaps between spans of a day lie within the day. -/
theorem withinDay_gapsFrom (hday : WithinDay spans) : WithinDay (gapsFrom cursor spans) := by
  induction spans generalizing cursor with
  | nil =>
    rw [gapsFrom]
    split
    · next h =>
      intro gap hgap
      cases List.mem_singleton.mp hgap
      exact ⟨h, Nat.le_refl _⟩
    · intro gap hgap
      cases hgap
  | cons span spans ih =>
    obtain ⟨hspan, hday⟩ := List.forall_mem_cons.mp hday
    rw [gapsFrom]
    split
    · next h => exact List.forall_mem_cons.mpr ⟨⟨h, Nat.le_trans (Nat.le_of_lt hspan.1) hspan.2⟩, ih hday⟩
    · exact ih hday

/-- Gaps do not touch one another. -/
theorem apart_gapsFrom (hday : WithinDay spans) : Apart (gapsFrom cursor spans) := by
  induction spans generalizing cursor with
  | nil =>
    rw [gapsFrom]
    split
    · exact List.pairwise_singleton _ _
    · exact List.Pairwise.nil
  | cons span spans ih =>
    obtain ⟨hspan, hday⟩ := List.forall_mem_cons.mp hday
    rw [gapsFrom]
    split
    · refine List.pairwise_cons.mpr ⟨fun gap hgap => ?_, ih hday⟩
      have hstart := le_start_of_mem_gapsFrom hgap
      have := Nat.le_max_right cursor span.stop
      dsimp only
      omega
    · exact ih hday

private theorem Apart.lt_of_mem (h : Apart (span :: spans)) (hother : other ∈ spans) :
    span.stop < other.start :=
  (List.pairwise_cons.mp h).1 other hother

private theorem Apart.start_le (h : Apart (span :: spans)) (hday : WithinDay (span :: spans))
    (hcovered : Covered (span :: spans) minute) : span.start ≤ minute := by
  obtain ⟨other, hother, hcovers⟩ := hcovered
  rcases List.mem_cons.mp hother with rfl | hother
  · exact hcovers.1
  · have hspan := (hday span List.mem_cons_self).1
    have hlt := h.lt_of_mem hother
    have := hcovers.1
    omega

private theorem Apart.not_covered_stop (h : Apart (span :: spans)) :
    ¬Covered (span :: spans) span.stop := by
  rintro ⟨other, hother, hcovers⟩
  rcases List.mem_cons.mp hother with rfl | hother
  · exact Nat.lt_irrefl _ hcovers.2
  · have hlt := h.lt_of_mem hother
    have := hcovers.1
    omega

private theorem Apart.covered_tail_iff (h : Apart (span :: spans)) :
    Covered spans minute ↔ Covered (span :: spans) minute ∧ span.stop ≤ minute := by
  rw [covered_cons_iff]
  constructor
  · intro hcovered
    obtain ⟨other, hother, hcovers⟩ := hcovered
    have hlt := h.lt_of_mem hother
    exact ⟨.inr ⟨other, hother, hcovers⟩, by have := hcovers.1; omega⟩
  · rintro ⟨hcovers | hcovered, hstop⟩
    · exact absurd hcovers.2 (Nat.not_lt.mpr hstop)
    · exact hcovered

/-- Spans in order and apart from each other are told by the minutes they cover. -/
theorem eq_of_covered_iff (hday : WithinDay spans) (hapart : Apart spans) (hday' : WithinDay others)
    (hapart' : Apart others) (h : ∀ minute, Covered spans minute ↔ Covered others minute) :
    spans = others := by
  have covers_start {span : Span} {spans : List Span} (hday : WithinDay (span :: spans)) :
      Covered (span :: spans) span.start :=
    ⟨span, List.mem_cons_self, Nat.le_refl _, (hday span List.mem_cons_self).1⟩
  -- The first spans begin where the covered minutes begin and end at the first gap, so they are the
  -- same; what is covered after them is covered by the others.
  induction spans generalizing others with
  | nil =>
    cases others with
    | nil => rfl
    | cons other others =>
      obtain ⟨span, hspan, -⟩ := (h other.start).mpr (covers_start hday')
      cases hspan
  | cons span spans ih =>
    cases others with
    | nil =>
      obtain ⟨other, hother, -⟩ := (h span.start).mp (covers_start hday)
      cases hother
    | cons other others =>
      have hstart : span.start = other.start := by
        apply Nat.le_antisymm
        · exact hapart.start_le hday ((h _).mpr (covers_start hday'))
        · exact hapart'.start_le hday' ((h _).mp (covers_start hday))
      have hspan := (hday span List.mem_cons_self).1
      have hother := (hday' other List.mem_cons_self).1
      have hstop : span.stop = other.stop := by
        apply Nat.le_antisymm
        · refine Nat.not_lt.mp fun hlt => hapart'.not_covered_stop ((h _).mp ?_)
          exact ⟨span, List.mem_cons_self, by omega, hlt⟩
        · refine Nat.not_lt.mp fun hlt => hapart.not_covered_stop ((h _).mpr ?_)
          exact ⟨other, List.mem_cons_self, by omega, hlt⟩
      have htail : spans = others := by
        refine ih (List.forall_mem_cons.mp hday).2 (List.pairwise_cons.mp hapart).2
          (List.forall_mem_cons.mp hday').2 (List.pairwise_cons.mp hapart').2 fun minute => ?_
        rw [hapart.covered_tail_iff, hapart'.covered_tail_iff, h, hstop]
      obtain ⟨start, stop⟩ := span
      obtain ⟨start', stop'⟩ := other
      cases hstart
      cases hstop
      rw [htail]

end Signage.Section
