import Mathlib.Data.Nat.ModEq
import Mathlib.Logic.Function.Iterate

/-!
# A counter that wraps to one

The counter starts anywhere up to `max`, counts on, and goes from `max` to 1, so that it never
returns to zero. `next_iterate_eq_max_iff` says when it stands at `max`, and
`next_iterate_eq_self_iff` when it is back where it started.
-/

namespace WrapCounter

/-- The number after `value`. -/
def next (max value : ℕ) : ℕ := if value < max then value + 1 else 1

variable {max value : ℕ}

theorem next_of_lt (h : value < max) : next max value = value + 1 := if_pos h

theorem next_max (max : ℕ) : next max max = 1 := if_neg (lt_irrefl max)

theorem next_pos (max value : ℕ) : 0 < next max value := by
  unfold next
  split <;> omega

theorem next_le (hmax : 0 < max) (value : ℕ) : next max value ≤ max := by
  unfold next
  split <;> omega

/-- With at least two numbers to count, the next one is another one. -/
theorem next_ne (hmax : 1 < max) (value : ℕ) : next max value ≠ value := by
  unfold next
  split <;> omega

theorem next_mod_eq (h : value ≤ max) : next max value ≡ value + 1 [MOD max] := by
  rcases h.lt_or_eq with hlt | rfl
  · rw [next_of_lt hlt]
  · rw [next_max]
    exact (Nat.add_modEq_left (n := value)).symm

theorem next_iterate_le (hmax : 0 < max) (h : value ≤ max) (count : ℕ) :
    (next max)^[count] value ≤ max := by
  cases count with
  | zero => exact h
  | succ count =>
      rw [Function.iterate_succ_apply']
      exact next_le hmax _

/-- Up to the period, the counter counts. -/
theorem next_iterate_mod_eq (hmax : 0 < max) (h : value ≤ max) (count : ℕ) :
    (next max)^[count] value ≡ value + count [MOD max] := by
  induction count with
  | zero => rfl
  | succ count ih =>
      rw [Function.iterate_succ_apply', ← add_assoc]
      exact (next_mod_eq (next_iterate_le hmax h count)).trans (ih.add_right 1)

/-- Only a counter that starts at zero and has not moved stands at zero. -/
theorem next_iterate_pos_iff (max value count : ℕ) :
    0 < (next max)^[count] value ↔ 0 < value + count := by
  cases count with
  | zero => rfl
  | succ count =>
      rw [Function.iterate_succ_apply']
      exact iff_of_true (next_pos max _) (by omega)

/-- The counter stands at `max` exactly at the positive multiples of `max`. -/
theorem next_iterate_eq_max_iff (hmax : 0 < max) (h : value ≤ max) (count : ℕ) :
    (next max)^[count] value = max ↔ 0 < value + count ∧ max ∣ value + count := by
  rw [← (next_iterate_mod_eq hmax h count).dvd_iff dvd_rfl, ← next_iterate_pos_iff max value count]
  constructor
  · intro htop
    rw [htop]
    exact ⟨hmax, dvd_rfl⟩
  · intro hmultiple
    obtain ⟨hpos, hdvd⟩ := hmultiple
    exact le_antisymm (next_iterate_le hmax h count) (Nat.le_of_dvd hpos hdvd)

/-- The counter is back at its start after a whole number of turns. A start at zero is never
reached again. -/
theorem next_iterate_eq_self_iff (hmax : 0 < max) (h : value ≤ max) (count : ℕ) :
    (next max)^[count] value = value ↔ count = 0 ∨ 0 < value ∧ max ∣ count := by
  have hle := next_iterate_le hmax h count
  have hpos := next_iterate_pos_iff max value count
  constructor
  · intro hsame
    rw [hsame] at hpos
    by_cases hzero : count = 0
    · exact .inl hzero
    · have hmod := next_iterate_mod_eq hmax h count
      rw [hsame] at hmod
      exact .inr ⟨hpos.mpr (by omega), (Nat.left_modEq_add_iff).mp hmod⟩
  · intro hturns
    rcases hturns with rfl | ⟨hstart, hdvd⟩
    · rfl
    · -- two numbers from 1 to `max` that agree modulo `max`
      have hmod : (next max)^[count] value ≡ value [MOD max] :=
        (next_iterate_mod_eq hmax h count).trans (Nat.left_modEq_add_iff.mpr hdvd).symm
      have hreached : 0 < (next max)^[count] value := hpos.mpr (by omega)
      rcases h.lt_or_eq with hlt | rfl
      · rcases hle.lt_or_eq with hlt' | htop
        · exact hmod.eq_of_lt_of_lt hlt' hlt
        · rw [htop] at hmod
          have hdvd := (hmod.dvd_iff dvd_rfl).mp dvd_rfl
          exact absurd (Nat.le_of_dvd hstart hdvd) (by omega)
      · have hdvd := (hmod.dvd_iff dvd_rfl).mpr dvd_rfl
        exact le_antisymm hle (Nat.le_of_dvd hreached hdvd)

end WrapCounter
