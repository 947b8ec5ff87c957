import Mathlib.Algebra.Order.Ring.Rat
import Mathlib.Data.List.Induction
import Mathlib.Tactic.Linarith

/-!
# Readings of a clock that keep a distance

A rate limit lets something through when the clock reads at least `interval` more than the last
time. `Spaced` is the invariant of such a limit, for the readings at which something went through
and the reading that is kept. `Spaced.length_le` bounds how many of them any window of time has. The
clock may be set back: the distance is one of readings.
-/

/-- Each of the readings is at least `interval` after all earlier ones, and `last` is not before any
of them. -/
structure Spaced (interval : ℚ) (readings : List ℚ) (last : ℚ) : Prop where
  pairwise : readings.Pairwise fun earlier later => earlier + interval ≤ later
  le_last : ∀ reading ∈ readings, reading ≤ last

namespace Spaced

variable {interval : ℚ} {readings : List ℚ} {last now : ℚ}

/-- Nothing has gone through at first. -/
theorem start (last : ℚ) : Spaced interval [] last :=
  ⟨.nil, fun _ hreading => absurd hreading List.not_mem_nil⟩

/-- Something goes through when the distance is kept. -/
theorem pass (h : Spaced interval readings last) (hinterval : 0 ≤ interval)
    (hnow : ¬ now - last < interval) : Spaced interval (readings ++ [now]) now := by
  have hlater : ∀ reading ∈ readings, reading + interval ≤ now := by
    intro reading hreading
    have hle := h.le_last reading hreading
    linarith
  refine ⟨List.pairwise_append.mpr ⟨h.pairwise, List.pairwise_singleton _ _, ?_⟩, ?_⟩
  · intro reading hreading later hmem
    rw [List.mem_singleton.mp hmem]
    exact hlater reading hreading
  · intro reading hreading
    rcases List.mem_append.mp hreading with hearlier | hmem
    · linarith [hlater reading hearlier]
    · exact (List.mem_singleton.mp hmem).le

/-- The limit may also be used up without anything going through. -/
theorem use (h : Spaced interval readings last) (hinterval : 0 ≤ interval)
    (hnow : ¬ now - last < interval) : Spaced interval readings now :=
  ⟨h.pairwise, fun reading hreading => by linarith [h.le_last reading hreading]⟩

/-- Readings with the distance between two bounds. -/
theorem pairwise_length_le {low high : ℚ} (hne : readings ≠ [])
    (h : readings.Pairwise fun earlier later => earlier + interval ≤ later)
    (hwindow : ∀ reading ∈ readings, low ≤ reading ∧ reading ≤ high) :
    ((readings.length : ℚ) - 1) * interval ≤ high - low := by
  induction readings generalizing low with
  | nil => exact absurd rfl hne
  | cons first readings ih =>
      obtain ⟨hfirst, hrest⟩ := List.pairwise_cons.mp h
      have hends := hwindow first List.mem_cons_self
      by_cases hlast : readings = []
      · rw [hlast]
        simp only [List.length_singleton, Nat.cast_one, sub_self, zero_mul]
        linarith
      · -- the others are between the first one with the distance and the upper bound
        have hlater := ih hlast hrest fun reading hreading =>
          ⟨hfirst reading hreading, (hwindow reading (List.mem_cons_of_mem _ hreading)).2⟩
        rw [List.length_cons]
        push_cast
        linarith

/-- A window of time has at most one more reading than intervals fit into it. -/
theorem length_le (h : Spaced interval readings last) {low high : ℚ} (hwindow : low ≤ high)
    (hinterval : 0 ≤ interval) :
    ((readings.filter fun reading => low ≤ reading ∧ reading ≤ high).length : ℚ) * interval ≤
      high - low + interval := by
  by_cases hnone : (readings.filter fun reading => low ≤ reading ∧ reading ≤ high) = []
  · rw [hnone, List.length_nil, Nat.cast_zero, zero_mul]
    linarith
  · have hlength := pairwise_length_le hnone (h.pairwise.filter _) fun reading hreading => by
      simpa using (List.mem_filter.mp hreading).2
    linarith

end Spaced
