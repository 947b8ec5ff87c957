import Mathlib.Algebra.Order.Field.Basic

/-!
# Numbers with an unordered element

`WithNaN α` adds one element to the numbers of `α` that stands for a floating-point
NaN. Every comparison with it is false and every arithmetic result it takes part in
is `nan` again. `stdMax` is the two-argument maximum of the C++ library, whose result
depends on the order of its arguments when one of them is unordered: with a number on
the left it always returns a number.
-/

/-- The numbers of `α` and one unordered element. -/
inductive WithNaN (α : Type*) where
  | num (value : α)
  | nan
  deriving DecidableEq

namespace WithNaN

variable {α : Type*}

/-- An operation on numbers, which returns `nan` when an operand is `nan`. -/
def map₂ (f : α → α → α) : WithNaN α → WithNaN α → WithNaN α
  | num a, num b => num (f a b)
  | _, _ => nan

/-- A function of a number, which returns `nan` for `nan`. -/
def map (f : α → α) : WithNaN α → WithNaN α
  | num a => num (f a)
  | nan => nan

instance [Mul α] : Mul (WithNaN α) := ⟨map₂ (· * ·)⟩

instance [Div α] : Div (WithNaN α) := ⟨map₂ (· / ·)⟩

/-- `x < y` holds of numbers only. -/
protected def lt [LT α] : WithNaN α → WithNaN α → Prop
  | num a, num b => a < b
  | _, _ => False

/-- `x ≤ y` holds of numbers only, so it is not reflexive at `nan`. -/
protected def le [LE α] : WithNaN α → WithNaN α → Prop
  | num a, num b => a ≤ b
  | _, _ => False

instance [LT α] : LT (WithNaN α) := ⟨WithNaN.lt⟩

instance [LE α] : LE (WithNaN α) := ⟨WithNaN.le⟩

instance [LT α] [DecidableLT α] (x y : WithNaN α) : Decidable (x < y) :=
  match x, y with
  | num a, num b => inferInstanceAs (Decidable (a < b))
  | nan, num _ => isFalse id
  | num _, nan => isFalse id
  | nan, nan => isFalse id

instance [LE α] [DecidableLE α] (x y : WithNaN α) : Decidable (x ≤ y) :=
  match x, y with
  | num a, num b => inferInstanceAs (Decidable (a ≤ b))
  | nan, num _ => isFalse id
  | num _, nan => isFalse id
  | nan, nan => isFalse id

@[simp] theorem num_mul_num [Mul α] (a b : α) : num a * num b = num (a * b) := rfl

@[simp] theorem nan_mul [Mul α] (x : WithNaN α) : nan * x = nan := rfl

@[simp] theorem num_div_num [Div α] (a b : α) : num a / num b = num (a / b) := rfl

@[simp] theorem nan_div [Div α] (x : WithNaN α) : nan / x = nan := rfl

@[simp] theorem map_num (f : α → α) (a : α) : map f (num a) = num (f a) := rfl

@[simp] theorem num_lt_num [LT α] (a b : α) : num a < num b ↔ a < b := Iff.rfl

@[simp] theorem num_le_num [LE α] (a b : α) : num a ≤ num b ↔ a ≤ b := Iff.rfl

@[simp] theorem not_nan_lt [LT α] (x : WithNaN α) : ¬ nan < x := id

@[simp] theorem not_lt_nan [LT α] (x : WithNaN α) : ¬ x < nan := by
  cases x <;> exact id

/-- `std::max(a, b)`: the second argument when the first one is below it, else the first. -/
def stdMax [LT α] [DecidableLT α] (a b : WithNaN α) : WithNaN α :=
  if a < b then b else a

/-- `std::clamp(v, lo, hi)`. -/
def stdClamp [LT α] [DecidableLT α] (v lo hi : WithNaN α) : WithNaN α :=
  if v < lo then lo else if hi < v then hi else v

@[simp] theorem std_max_nan [LT α] [DecidableLT α] (x : WithNaN α) : stdMax x nan = x := by
  simp [stdMax]

@[simp] theorem std_max_num [LinearOrder α] (a b : α) :
    stdMax (num a) (num b) = num (max a b) := by
  rcases lt_or_ge a b with h | h
  · simp [stdMax, h, max_eq_right h.le]
  · simp [stdMax, h.not_gt, max_eq_left h]

/-- Clamping lets `nan` through, since it is not outside of any bounds. -/
@[simp] theorem std_clamp_nan [LT α] [DecidableLT α] (lo hi : WithNaN α) :
    stdClamp nan lo hi = nan := by
  simp [stdClamp]

/-- Clamping returns the upper bound when it is not above the value raised to the lower one. -/
theorem std_clamp_eq_hi [LinearOrder α] {v lo hi : α} (hle : lo ≤ hi) (hhi : hi ≤ max lo v) :
    stdClamp (num v) (num lo) (num hi) = num hi := by
  simp only [stdClamp, num_lt_num]
  split
  · next hlow =>
      rw [max_eq_left hlow.le] at hhi
      rw [le_antisymm hle hhi]
  · next hlow =>
      rw [max_eq_right (not_lt.mp hlow)] at hhi
      split
      · rfl
      · next hhigh => rw [le_antisymm (not_lt.mp hhigh) hhi]

section Field

variable [Field α] [LinearOrder α] [IsStrictOrderedRing α]

/-- The positive part of a scaled value vanishes exactly when the value is not positive,
provided the scale is. -/
theorem std_max_zero_mul_eq_zero_iff {g : α} (hg : 0 < g) (x : WithNaN α) :
    stdMax (num 0) (x * num g) = num 0 ↔ ¬ num 0 < x := by
  cases x with
  | nan => simp
  | num r =>
      rw [num_mul_num, std_max_num, num.injEq, max_eq_left_iff, num_lt_num, not_lt,
        ← not_lt, mul_pos_iff_of_pos_right hg, not_lt]

/-- A smaller nonnegative scale does not raise the positive part of a value. -/
theorem std_max_zero_mul_le {g h : α} (hg : 0 ≤ g) (hgh : g ≤ h) (x : WithNaN α) :
    stdMax (num 0) (x * num g) ≤ stdMax (num 0) (x * num h) := by
  cases x with
  | nan => simp
  | num r =>
      simp only [num_mul_num, std_max_num, num_le_num]
      rcases le_total 0 r with hr | hr
      · exact max_le_max le_rfl (mul_le_mul_of_nonneg_left hgh hr)
      · rw [max_eq_left (mul_nonpos_of_nonpos_of_nonneg hr hg)]
        exact le_max_left _ _

end Field

end WithNaN
