import Mathlib.Algebra.Order.Floor.Semiring
import Mathlib.Data.Rat.Floor
import Mathlib.Tactic.Positivity
import Signage.Section.Playback

/-!
The prefetch window against the number of seconds that it is to be: rounding up, stopping at the
greatest word and the shortest window do not get in each other's way.
-/
namespace Signage.Number
variable {a b : UInt64}

private theorem ceil_div_eq {a b : ℕ} (h : 0 < b) :
    ⌈(a / b : ℚ)⌉₊ = if a % b = 0 then a / b else a / b + 1 := by
  have hb : (0 : ℚ) < b := by exact_mod_cast h
  have hsplit := Nat.div_add_mod' a b
  split
  · next hzero =>
    have hexact : (a / b : ℚ) = (a / b : ℕ) := by
      rw [div_eq_iff hb.ne']
      exact_mod_cast (by omega : a = a / b * b)
    rw [hexact, Nat.ceil_natCast]
  · next hrest =>
    have hless := Nat.mod_lt a h
    refine (Nat.ceil_eq_iff (Nat.succ_ne_zero _)).mpr ⟨?_, ?_⟩
    · rw [Nat.succ_sub_one, lt_div_iff₀ hb]
      exact_mod_cast (by omega : a / b * b < a)
    · rw [div_le_iff₀ hb]
      exact_mod_cast (by rw [Nat.succ_mul]; omega : a ≤ (a / b + 1) * b)

/-- The quotient is rounded up without going over: what is added to it is missing before. -/
theorem toNat_divUp (h : b ≠ 0) : (divUp a b).toNat = ⌈(a.toNat / b.toNat : ℚ)⌉₊ := by
  have hb : 0 < b.toNat := Nat.pos_of_ne_zero fun hzero => h (UInt64.toNat_inj.mp hzero)
  have hiff : a % b = 0 ↔ a.toNat % b.toNat = 0 := by
    rw [← UInt64.toNat_inj, UInt64.toNat_mod, UInt64.toNat_zero]
  rw [divUp, ceil_div_eq hb]
  simp only [hiff]
  split
  · exact UInt64.toNat_div a b
  · next hrest =>
    have hone : b.toNat ≠ 1 := fun hone => hrest (by rw [hone, Nat.mod_one])
    have hhalf : a.toNat / b.toNat ≤ a.toNat / 2 := Nat.div_le_div_left (by omega) (by decide)
    have hword := a.toNat_lt
    rw [UInt64.toNat_add, UInt64.toNat_div, UInt64.toNat_one, Nat.mod_eq_of_lt (by omega)]

private theorem max_one_ne_zero (a : UInt64) : max a 1 ≠ 0 := by
  intro hzero
  have hword := congrArg UInt64.toNat hzero
  rw [UInt64.toNat_max, UInt64.toNat_one, UInt64.toNat_zero] at hword
  omega

end Signage.Number

namespace Signage.Section

/-- The seconds to look ahead, before bounds: two intervals for what fits into one, and one interval
more than it takes to play through otherwise. -/
def unboundedWindow (duration interval : ℕ) : ℕ :=
  if duration ≤ interval then 2 * interval else (⌈(duration / interval : ℚ)⌉₊ + 1) * interval

variable {duration other interval : ℕ}

private theorem min_mul_min {factor greatest : ℕ} (h : 1 ≤ factor) (n : ℕ) :
    min (min n greatest * factor) greatest = min (n * factor) greatest := by
  rcases Nat.le_total n greatest with hle | hle
  · rw [min_eq_left hle]
  · -- A factor takes the greatest number no further down, and what is above it neither.
    have hgreatest : greatest ≤ greatest * factor := Nat.le_mul_of_pos_right _ h
    rw [min_eq_right hle, min_eq_right hgreatest,
      min_eq_right (hgreatest.trans (Nat.mul_le_mul_right _ hle))]

private theorem dvd_unboundedWindow (duration interval : ℕ) :
    interval ∣ unboundedWindow duration interval := by
  unfold unboundedWindow
  split
  · exact Nat.dvd_mul_left _ _
  · exact Nat.dvd_mul_left _ _

private theorem le_ceil_mul (h : 1 ≤ interval) (duration : ℕ) :
    duration ≤ ⌈(duration / interval : ℚ)⌉₊ * interval := by
  have hpos : (0 : ℚ) < interval := by exact_mod_cast h
  have hceil := (div_le_iff₀ hpos).mp (Nat.le_ceil (duration / interval : ℚ))
  exact_mod_cast hceil

/-- What is played and one interval more are seen ahead. -/
theorem add_le_unboundedWindow (h : 1 ≤ interval) (duration : ℕ) :
    duration + interval ≤ unboundedWindow duration interval := by
  unfold unboundedWindow
  split
  · omega
  · have hceil := le_ceil_mul h duration
    rw [Nat.succ_mul]
    omega

private theorem unboundedWindow_le (h : 1 ≤ interval) (hle : duration ≤ other) :
    unboundedWindow duration interval ≤ unboundedWindow other interval := by
  by_cases hfits : duration ≤ interval
  · by_cases hother : other ≤ interval
    · rw [unboundedWindow, if_pos hfits, unboundedWindow, if_pos hother]
    · calc unboundedWindow duration interval = 2 * interval := if_pos hfits
        _ ≤ other + interval := by omega
        _ ≤ unboundedWindow other interval := add_le_unboundedWindow h other
  · have hshare : (duration / interval : ℚ) ≤ other / interval :=
      div_le_div_of_nonneg_right (by exact_mod_cast hle) (by positivity)
    rw [unboundedWindow, if_neg hfits, unboundedWindow, if_neg (by omega)]
    exact Nat.mul_le_mul_right _ (Nat.succ_le_succ (Nat.ceil_mono hshare))

/-- Before it is made long enough, the window is the unbounded one as far as a word goes. -/
private theorem toNat_window {duration interval : UInt64} (h : interval ≠ 0) :
    (if duration ≤ interval then Number.mulSaturating interval 2
      else Number.mulSaturating (Number.addSaturating (Number.divUp duration interval) 1)
        interval).toNat = min (unboundedWindow duration.toNat interval.toNat) (2 ^ 64 - 1) := by
  have hpos : 1 ≤ interval.toNat := Nat.pos_of_ne_zero fun hzero => h (UInt64.toNat_inj.mp hzero)
  rw [unboundedWindow]
  simp only [UInt64.le_iff_toNat_le]
  split
  · rw [Number.toNat_mulSaturating, Nat.mul_comm]
    rfl
  · rw [Number.toNat_mulSaturating, Number.toNat_addSaturating, Number.toNat_divUp h]
    exact min_mul_min hpos _

/-- The window is the unbounded one as far as a word goes, and never too short. -/
theorem toNat_prefetchWindow (duration refresh : UInt64) :
    (prefetchWindow duration refresh).toNat =
      min (2 ^ 64 - 1) (max 900 (unboundedWindow duration.toNat (max refresh.toNat 1))) := by
  have hfloor : shortestWindow.toNat = 900 := rfl
  rw [prefetchWindow, UInt64.toNat_max, hfloor, toNat_window (Number.max_one_ne_zero refresh),
    UInt64.toNat_max, UInt64.toNat_one]
  omega

/-- The prefetch window follows its formula for all words: nothing is divided by zero or goes over, it
leaves room for what is played and one interval more, it is a number of intervals within its bounds,
and it grows with what is played. -/
theorem prefetchWindow_exact (refresh : UInt64) :
    max refresh 1 ≠ 0 ∧
    (∀ duration : UInt64,
      (Number.divUp duration (max refresh 1)).toNat =
        ⌈(duration.toNat / (max refresh.toNat 1 : ℕ) : ℚ)⌉₊ ∧
      (prefetchWindow duration refresh).toNat =
        min (2 ^ 64 - 1) (max 900 (unboundedWindow duration.toNat (max refresh.toNat 1))) ∧
      min (2 ^ 64 - 1) (duration.toNat + max refresh.toNat 1) ≤
        (prefetchWindow duration refresh).toNat ∧
      900 ≤ (prefetchWindow duration refresh).toNat ∧
      (max refresh.toNat 1 ∣ (prefetchWindow duration refresh).toNat ∨
        (prefetchWindow duration refresh).toNat = 900 ∨
        (prefetchWindow duration refresh).toNat = 2 ^ 64 - 1)) ∧
    ∀ duration other : UInt64, duration ≤ other →
      prefetchWindow duration refresh ≤ prefetchWindow other refresh := by
  have hpos : 1 ≤ max refresh.toNat 1 := le_max_right _ _
  have hne := Number.max_one_ne_zero refresh
  refine ⟨hne, fun duration => ?_, fun duration other hle => ?_⟩
  · have hroom := add_le_unboundedWindow hpos duration.toNat
    have hdvd := dvd_unboundedWindow duration.toNat (max refresh.toNat 1)
    have hquotient := Number.toNat_divUp (a := duration) hne
    rw [UInt64.toNat_max, UInt64.toNat_one] at hquotient
    rw [toNat_prefetchWindow]
    refine ⟨hquotient, rfl, by omega, by omega, ?_⟩
    rcases min_choice (2 ^ 64 - 1) (max 900 (unboundedWindow duration.toNat (max refresh.toNat 1)))
      with hcap | hcap
    · exact .inr (.inr hcap)
    · rcases max_choice 900 (unboundedWindow duration.toNat (max refresh.toNat 1)) with hfloor | hfloor
      · exact .inr (.inl (hcap.trans hfloor))
      · exact .inl ((hcap.trans hfloor).symm ▸ hdvd)
  · rw [UInt64.le_iff_toNat_le, toNat_prefetchWindow, toNat_prefetchWindow]
    have hmono := unboundedWindow_le hpos (UInt64.le_iff_toNat_le.mp hle)
    exact min_le_min_left _ (max_le_max_left _ hmono)

/-- A second more than four intervals begins a fifth one, and the longest playlist meets the bound. -/
theorem prefetchWindow_exact_of_fifth_interval :
    (4000 : UInt64) ≤ 4001 ∧ prefetchWindow 4000 1000 = 5000 ∧ prefetchWindow 4001 1000 = 6000 ∧
      prefetchWindow 4000 1000 ≤ prefetchWindow 4001 1000 ∧
      prefetchWindow 18446744073709551615 2 = 18446744073709551615 := by
  have hle : (4000 : UInt64) ≤ 4001 := by decide
  obtain ⟨-, -, hmono⟩ := prefetchWindow_exact 1000
  exact ⟨hle, by decide, by decide, hmono 4000 4001 hle, by decide⟩

end Signage.Section
