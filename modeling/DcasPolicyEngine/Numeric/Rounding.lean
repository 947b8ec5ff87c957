import Mathlib.Algebra.Order.BigOperators.Group.List
import Mathlib.Algebra.Order.Ring.Rat
import Mathlib.Data.List.Induction
import Mathlib.Tactic.Linarith

/-!
# Rounded sums

A floating-point addition rounds the exact sum to a number of the format. `Rounding` is what the
comparison of sums needs of it, and `addUp` adds numbers up from left to right as a loop with an
accumulator does. Rounding is monotone, so rounded sums are compared term by term. They are compared
with exact sums by a bound on the error of one addition (`LosesAtMost`).
-/

/-- Rounding to the numbers of a format. -/
class Rounding where
  rounded : ℚ → ℚ
  rounded_mono : Monotone rounded
  rounded_zero : rounded 0 = 0
  rounded_rounded (x : ℚ) : rounded (rounded x) = rounded x

namespace Rounding

/-- Arithmetic without rounding. -/
@[reducible] def exact : Rounding where
  rounded := id
  rounded_mono := monotone_id
  rounded_zero := rfl
  rounded_rounded _ := rfl

variable [Rounding]

/-- The results of this arithmetic are exact. -/
def Exact : Prop := ∀ x, rounded x = x

/-- A number of the format. -/
def IsRounded (x : ℚ) : Prop := rounded x = x

/-- The sum of two numbers in the format. -/
def add (x y : ℚ) : ℚ := rounded (x + y)

theorem is_rounded_zero : IsRounded 0 := rounded_zero

theorem is_rounded_add (x y : ℚ) : IsRounded (add x y) := rounded_rounded _

theorem add_of_exact (hexact : Exact) (x y : ℚ) : add x y = x + y := hexact _

theorem rounded_nonneg {x : ℚ} (h : 0 ≤ x) : 0 ≤ rounded x :=
  rounded_zero.symm.trans_le (rounded_mono h)

/-- A number of the format that is below an exact result is below the rounded one. -/
theorem IsRounded.le_rounded {x y : ℚ} (h : IsRounded x) (hle : x ≤ y) : x ≤ rounded y :=
  h.symm.trans_le (rounded_mono hle)

theorem add_mono {x x' y y' : ℚ} (hx : x ≤ x') (hy : y ≤ y') : add x y ≤ add x' y' :=
  rounded_mono (add_le_add hx hy)

theorem zero_le_add {x y : ℚ} (hx : 0 ≤ x) (hy : 0 ≤ y) : 0 ≤ add x y :=
  rounded_nonneg (add_nonneg hx hy)

/-- Nothing is lost by an addition that is not negative. -/
theorem IsRounded.le_add {x y : ℚ} (h : IsRounded x) (hy : 0 ≤ y) : x ≤ add x y :=
  h.le_rounded (le_add_of_nonneg_right hy)

/-! ## Sums -/

/-- Add numbers to an accumulator. -/
def addUp (start : ℚ) (terms : List ℚ) : ℚ := terms.foldl add start

variable {start : ℚ} {terms : List ℚ}

@[simp] theorem add_up_nil (start : ℚ) : addUp start [] = start := rfl

@[simp] theorem add_up_cons (start term : ℚ) (terms : List ℚ) :
    addUp start (term :: terms) = addUp (add start term) terms := rfl

theorem add_up_append (start : ℚ) (terms more : List ℚ) :
    addUp start (terms ++ more) = addUp (addUp start terms) more :=
  List.foldl_append

@[simp] theorem add_up_concat (start : ℚ) (terms : List ℚ) (term : ℚ) :
    addUp start (terms ++ [term]) = add (addUp start terms) term :=
  add_up_append start terms [term]

theorem IsRounded.add_up (h : IsRounded start) (terms : List ℚ) :
    IsRounded (addUp start terms) := by
  induction terms using List.reverseRecOn with
  | nil => exact h
  | append_singleton terms term _ =>
      rw [add_up_concat]
      exact is_rounded_add _ _

theorem add_up_nonneg (h : 0 ≤ start) (hterms : ∀ term ∈ terms, 0 ≤ term) :
    0 ≤ addUp start terms := by
  induction terms generalizing start with
  | nil => exact h
  | cons term terms ih =>
      obtain ⟨hterm, hrest⟩ := List.forall_mem_cons.mp hterms
      exact ih (zero_le_add h hterm) hrest

/-- Nothing is lost by adding numbers that are not negative. -/
theorem IsRounded.le_add_up (h : IsRounded start) (hterms : ∀ term ∈ terms, 0 ≤ term) :
    start ≤ addUp start terms := by
  induction terms generalizing start with
  | nil => exact le_rfl
  | cons term terms ih =>
      obtain ⟨hterm, hrest⟩ := List.forall_mem_cons.mp hterms
      exact (h.le_add hterm).trans (ih (is_rounded_add start term) hrest)

/-- Adding the same number again and again. -/
theorem iterate_add (start term : ℚ) (count : ℕ) :
    (add · term)^[count] start = addUp start (List.replicate count term) := by
  induction count generalizing start with
  | zero => rfl
  | succ count ih => rw [Function.iterate_succ_apply, ih, List.replicate_succ, add_up_cons]

/-! ## Rounded and exact sums -/

/-- Up to a limit, rounding takes away at most the error. -/
def LosesAtMost (limit error : ℚ) : Prop := ∀ x, 0 ≤ x → x ≤ limit → x - error ≤ rounded x

/-- A sum loses at most the error for each addition until it is at the limit. -/
theorem LosesAtMost.le_add_up {limit error : ℚ} (h : LosesAtMost limit error) (hlimit : 0 ≤ limit)
    (hrounded : IsRounded start) (hstart : 0 ≤ start) (hterms : ∀ term ∈ terms, 0 ≤ term) :
    limit - error ≤ addUp start terms ∨
      start + terms.sum - terms.length * error ≤ addUp start terms := by
  induction terms using List.reverseRecOn with
  | nil => exact .inr (by simp)
  | append_singleton terms term ih =>
      have hearlier : ∀ other ∈ terms, 0 ≤ other := fun other hother =>
        hterms other (List.mem_append_left [term] hother)
      have hterm : 0 ≤ term := hterms term (by simp)
      have hsum := add_up_nonneg hstart hearlier
      rw [add_up_concat]
      by_cases hbelow : addUp start terms + term ≤ limit
      · have hlost : addUp start terms + term - error ≤ add (addUp start terms) term :=
          h _ (add_nonneg hsum hterm) hbelow
        obtain hreached | hkept := ih hearlier
        · exact .inl (hreached.trans ((hrounded.add_up terms).le_add hterm))
        · right
          simp only [List.sum_append, List.sum_singleton, List.length_append, List.length_singleton]
          push_cast
          linarith
      · exact .inl ((h limit hlimit le_rfl).trans (rounded_mono (not_le.mp hbelow).le))

end Rounding
