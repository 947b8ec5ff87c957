import Mathlib.Algebra.Order.Round
import Mathlib.Data.Int.Log
import Mathlib.Data.Rat.Floor
import Mathlib.Tactic.Linarith
import Mathlib.Tactic.Ring
import DcasPolicyEngine.Numeric.Rounding

/-!
# Binary floating-point formats

A format has a number of binary places after the first one, and a lowest place. `nearest` rounds to
the nearest number of the format, and to the one with an even last place of two. There is no
greatest number: an overflow is not rounded to infinity. Rounding to `binary64` is the default
`Rounding`.
-/

/-- A binary format. -/
structure BinaryFormat where
  fraction : ℕ
  lowest : ℤ

namespace BinaryFormat

/-- IEEE 754 binary64. -/
def binary64 : BinaryFormat := ⟨52, -1074⟩

/-- IEEE 754 binary32. -/
def binary32 : BinaryFormat := ⟨23, -149⟩

/-! ## Rounding to an integer -/

/-- The nearest integer, the even one of two. -/
def nearestInt (x : ℚ) : ℤ :=
  if x - ⌊x⌋ < 1 / 2 then ⌊x⌋
  else if 1 / 2 < x - ⌊x⌋ then ⌊x⌋ + 1
  else if ⌊x⌋ % 2 = 0 then ⌊x⌋ else ⌊x⌋ + 1

variable {x y : ℚ}

theorem floor_le_nearest_int (x : ℚ) : ⌊x⌋ ≤ nearestInt x := by
  unfold nearestInt
  split_ifs <;> omega

theorem nearest_int_le_floor (x : ℚ) : nearestInt x ≤ ⌊x⌋ + 1 := by
  unfold nearestInt
  split_ifs <;> omega

theorem nearest_int_cast (n : ℤ) : nearestInt n = n := by
  simp [nearestInt]

/-- Rounding to an integer keeps the order. -/
theorem nearest_int_mono {x y : ℚ} (hle : x ≤ y) : nearestInt x ≤ nearestInt y := by
  rcases (Int.floor_mono hle).lt_or_eq with hlt | heq
  · calc nearestInt x ≤ ⌊x⌋ + 1 := nearest_int_le_floor x
      _ ≤ ⌊y⌋ := hlt
      _ ≤ nearestInt y := floor_le_nearest_int y
  · unfold nearestInt
    rw [heq]
    split_ifs <;> first | omega | linarith

/-- The nearest integer is at most one half away. -/
theorem abs_nearest_int_sub_le (x : ℚ) : |nearestInt x - x| ≤ 1 / 2 := by
  have hfloor := Int.floor_le x
  have hceil := Int.lt_floor_add_one x
  rw [abs_le]
  unfold nearestInt
  split_ifs <;> push_cast <;> constructor <;> linarith

/-- Rounding to an integer does not look at the sign. -/
theorem nearest_int_neg (x : ℚ) : nearestInt (-x) = -nearestInt x := by
  by_cases hint : (⌊x⌋ : ℚ) = x
  · rw [← hint, ← Int.cast_neg, nearest_int_cast, nearest_int_cast]
  · have hfloor : ⌊-x⌋ = -⌊x⌋ - 1 := by
      have hlt := (Int.floor_le x).lt_of_ne hint
      have hceil := Int.lt_floor_add_one x
      rw [Int.floor_eq_iff]
      push_cast
      constructor <;> linarith
    unfold nearestInt
    rw [hfloor]
    push_cast
    split_ifs <;> first | omega | linarith

/-! ## Rounding to the format -/

variable (format : BinaryFormat)

/-- The exponent of the last place of a number. -/
def lastPlace (x : ℚ) : ℤ := max (Int.log 2 |x| - format.fraction) format.lowest

/-- The nearest number of the format. -/
def nearest (x : ℚ) : ℚ :=
  nearestInt (x / 2 ^ format.lastPlace x) * 2 ^ format.lastPlace x

theorem place_pos (place : ℤ) : (0 : ℚ) < 2 ^ place := zpow_pos two_pos place

/-- A power of two, counted in places that are lower by `n`. -/
theorem place_add (place : ℤ) (n : ℕ) : (2 : ℚ) ^ (place + n) = (2 ^ n : ℤ) * 2 ^ place := by
  rw [zpow_add₀ two_ne_zero, zpow_natCast, mul_comm]
  push_cast
  rfl

/-- A number has at most one place more than the fraction. -/
theorem abs_lt_of_last_place (x : ℚ) :
    |x| < (2 ^ (format.fraction + 1) : ℤ) * 2 ^ format.lastPlace x := by
  have hlog : |x| < ((2 : ℕ) : ℚ) ^ (Int.log 2 |x| + 1) := Int.lt_zpow_succ_log_self (by norm_num) _
  rw [← place_add]
  refine hlog.trans_le ?_
  rw [Nat.cast_ofNat]
  refine zpow_le_zpow_right₀ (by norm_num) ?_
  have hplace : Int.log 2 |x| - format.fraction ≤ format.lastPlace x := le_max_left _ _
  omega

/-- A number with a last place above the lowest one has all these places. -/
theorem le_abs_of_last_place (hx : x ≠ 0) (hplace : format.lowest < format.lastPlace x) :
    (2 ^ format.fraction : ℤ) * 2 ^ format.lastPlace x ≤ |x| := by
  have hlog : ((2 : ℕ) : ℚ) ^ Int.log 2 |x| ≤ |x| :=
    Int.zpow_log_le_self (by norm_num) (abs_pos.mpr hx)
  have hexponent : format.lastPlace x + format.fraction = Int.log 2 |x| := by
    unfold lastPlace at hplace ⊢
    omega
  rw [← place_add, hexponent]
  exact_mod_cast hlog

theorem last_place_neg (x : ℚ) : format.lastPlace (-x) = format.lastPlace x := by
  rw [lastPlace, lastPlace, abs_neg]

theorem nearest_neg (x : ℚ) : format.nearest (-x) = -format.nearest x := by
  rw [nearest, nearest, last_place_neg, neg_div, nearest_int_neg, Int.cast_neg, neg_mul]

theorem nearest_zero : format.nearest 0 = 0 := by
  have hzero : nearestInt 0 = 0 := nearest_int_cast 0
  simp [nearest, hzero]

/-- A bound with all places after the last one of a number bounds the rounded number. -/
theorem nearest_le {n : ℤ} (h : x ≤ n * 2 ^ format.lastPlace x) :
    format.nearest x ≤ n * 2 ^ format.lastPlace x := by
  have hpos := place_pos (format.lastPlace x)
  have hint : nearestInt (x / 2 ^ format.lastPlace x) ≤ n := by
    rw [← nearest_int_cast n]
    exact nearest_int_mono ((div_le_iff₀ hpos).mpr h)
  exact mul_le_mul_of_nonneg_right (Int.cast_le.mpr hint) hpos.le

theorem le_nearest {n : ℤ} (h : n * 2 ^ format.lastPlace x ≤ x) :
    n * 2 ^ format.lastPlace x ≤ format.nearest x := by
  have hpos := place_pos (format.lastPlace x)
  have hint : n ≤ nearestInt (x / 2 ^ format.lastPlace x) := by
    rw [← nearest_int_cast n]
    exact nearest_int_mono ((le_div_iff₀ hpos).mpr h)
  exact mul_le_mul_of_nonneg_right (Int.cast_le.mpr hint) hpos.le

theorem nearest_nonneg (h : 0 ≤ x) : 0 ≤ format.nearest x := by
  have hint : ((0 : ℤ) : ℚ) * 2 ^ format.lastPlace x ≤ x := by simpa using h
  simpa using format.le_nearest hint

/-- The last place of a greater number is not lower. -/
theorem last_place_mono (hx : 0 < x) (hle : x ≤ y) : format.lastPlace x ≤ format.lastPlace y := by
  have hlog : Int.log 2 |x| ≤ Int.log 2 |y| := by
    rw [abs_of_pos hx, abs_of_pos (hx.trans_le hle)]
    exact Int.log_mono_right hx hle
  unfold lastPlace
  omega

/-- Rounding positive numbers keeps the order. -/
theorem nearest_le_nearest_of_pos (hx : 0 < x) (hle : x ≤ y) :
    format.nearest x ≤ format.nearest y := by
  rcases (format.last_place_mono hx hle).eq_or_lt with hsame | hlower
  · unfold nearest
    rw [← hsame]
    have hpos := place_pos (format.lastPlace x)
    have hint := nearest_int_mono (div_le_div_of_nonneg_right hle hpos.le)
    exact mul_le_mul_of_nonneg_right (Int.cast_le.mpr hint) hpos.le
  · -- a power of two lies between the two numbers
    have hy : 0 < y := hx.trans_le hle
    have hlow : format.lowest < format.lastPlace y := (le_max_right _ _).trans_lt hlower
    have hbelow := (format.abs_lt_of_last_place x).le
    have habove := format.le_abs_of_last_place hy.ne' hlow
    rw [abs_of_pos hx] at hbelow
    rw [abs_of_pos hy] at habove
    calc format.nearest x
        ≤ (2 ^ (format.fraction + 1) : ℤ) * 2 ^ format.lastPlace x := format.nearest_le hbelow
      _ = 2 ^ (format.lastPlace x + (format.fraction + 1 : ℕ)) := (place_add _ _).symm
      _ ≤ 2 ^ (format.lastPlace y + format.fraction) :=
          zpow_le_zpow_right₀ (by norm_num) (by omega)
      _ = (2 ^ format.fraction : ℤ) * 2 ^ format.lastPlace y := place_add _ _
      _ ≤ format.nearest y := format.le_nearest habove

/-- Rounding keeps the order. -/
theorem nearest_mono : Monotone format.nearest := by
  intro x y hle
  rcases lt_trichotomy x 0 with hx | rfl | hx
  · rcases lt_or_ge y 0 with hy | hy
    · have hopposite :=
        format.nearest_le_nearest_of_pos (neg_pos.mpr hy) (neg_le_neg hle)
      rw [nearest_neg, nearest_neg] at hopposite
      exact neg_le_neg_iff.mp hopposite
    · have hopposite := format.nearest_nonneg (neg_pos.mpr hx).le
      rw [nearest_neg] at hopposite
      exact (neg_nonneg.mp hopposite).trans (format.nearest_nonneg hy)
  · rw [nearest_zero]
    exact format.nearest_nonneg hle
  · exact format.nearest_le_nearest_of_pos hx hle

/-- A whole number of last places is a number of the format. -/
theorem nearest_of_int {n : ℤ} (h : x = n * 2 ^ format.lastPlace x) : format.nearest x = x := by
  have hint : x / 2 ^ format.lastPlace x = n := by
    rw [div_eq_iff (place_pos _).ne']
    exact h
  rw [nearest, hint, nearest_int_cast]
  exact h.symm

/-- So is a number with few enough places above another place. -/
theorem nearest_of_places {place : ℤ} {n : ℤ} (hx : x = n * 2 ^ place)
    (hn : |n| < 2 ^ (format.fraction + 1)) (hplace : format.lowest ≤ place) :
    format.nearest x = x := by
  by_cases hzero : x = 0
  · rw [hzero, nearest_zero]
  have habs : |x| < ((2 : ℕ) : ℚ) ^ (place + (format.fraction + 1 : ℕ)) := by
    have hcast : (|n| : ℚ) < (2 ^ (format.fraction + 1) : ℤ) := by exact_mod_cast hn
    rw [hx, abs_mul, abs_of_pos (place_pos place), Nat.cast_ofNat, place_add]
    exact mul_lt_mul_of_pos_right hcast (place_pos place)
  have hlog : Int.log 2 |x| < place + (format.fraction + 1 : ℕ) :=
    (Int.lt_zpow_iff_log_lt (by norm_num) (abs_pos.mpr hzero)).mp habs
  have hlast : format.lastPlace x ≤ place := max_le (by omega) hplace
  -- the places between the two are zero
  obtain ⟨zeros, hzeros⟩ := Int.eq_ofNat_of_zero_le (sub_nonneg.mpr hlast)
  have hsplit : place = format.lastPlace x + zeros := by omega
  have hint : x = (n * 2 ^ zeros : ℤ) * 2 ^ format.lastPlace x := by
    calc x = n * 2 ^ place := hx
      _ = n * 2 ^ (format.lastPlace x + zeros) := by rw [← hsplit]
      _ = n * ((2 ^ zeros : ℤ) * 2 ^ format.lastPlace x) := by rw [place_add]
      _ = (n * 2 ^ zeros : ℤ) * 2 ^ format.lastPlace x := by
        push_cast
        ring
  exact format.nearest_of_int hint

/-- A number of the format is not rounded. -/
theorem nearest_nearest (x : ℚ) : format.nearest (format.nearest x) = format.nearest x := by
  have hlow : format.lowest ≤ format.lastPlace x := le_max_right _ _
  have hplaces : |nearestInt (x / 2 ^ format.lastPlace x)| ≤ 2 ^ (format.fraction + 1) := by
    have hbound : |x / 2 ^ format.lastPlace x| ≤ (2 ^ (format.fraction + 1) : ℤ) := by
      rw [abs_div, abs_of_pos (place_pos _), div_le_iff₀ (place_pos _)]
      exact (format.abs_lt_of_last_place x).le
    obtain ⟨hneg, hpos⟩ := abs_le.mp hbound
    rw [← Int.cast_neg] at hneg
    refine abs_le.mpr ⟨?_, ?_⟩
    · rw [← nearest_int_cast (-(2 ^ (format.fraction + 1)))]
      exact nearest_int_mono hneg
    · rw [← nearest_int_cast (2 ^ (format.fraction + 1))]
      exact nearest_int_mono hpos
  rcases hplaces.lt_or_eq with hlt | heq
  · exact format.nearest_of_places rfl hlt hlow
  · -- the rounding has reached the next power of two, which has one place less
    obtain ⟨half, hhalf, hint⟩ : ∃ half : ℤ, |half| < 2 ^ (format.fraction + 1) ∧
        nearestInt (x / 2 ^ format.lastPlace x) = half * 2 := by
      have hbelow : |(2 : ℤ) ^ format.fraction| < 2 ^ (format.fraction + 1) := by
        rw [abs_of_pos (by positivity)]
        exact pow_lt_pow_right₀ (by norm_num) (Nat.lt_succ_self _)
      rcases (abs_eq (by positivity)).mp heq with hpos | hneg
      · exact ⟨2 ^ format.fraction, hbelow, by rw [hpos, pow_succ]⟩
      · exact ⟨-2 ^ format.fraction, by rwa [abs_neg], by rw [hneg, pow_succ, neg_mul]⟩
    have hvalue : format.nearest x = half * 2 ^ (format.lastPlace x + 1) := by
      rw [nearest, hint, zpow_add_one₀ two_ne_zero]
      push_cast
      ring
    exact format.nearest_of_places hvalue hhalf (by omega)

/-- Rounding changes a number by at most half a last place. -/
theorem abs_nearest_sub_le (x : ℚ) :
    |format.nearest x - x| ≤ 2 ^ format.lastPlace x / 2 := by
  have hpos := place_pos (format.lastPlace x)
  have hint := abs_nearest_int_sub_le (x / 2 ^ format.lastPlace x)
  have hscale : format.nearest x - x =
      (nearestInt (x / 2 ^ format.lastPlace x) - x / 2 ^ format.lastPlace x) *
        2 ^ format.lastPlace x := by
    rw [sub_mul, div_mul_cancel₀ _ hpos.ne', nearest]
  rw [hscale, abs_mul, abs_of_pos hpos]
  linarith [mul_le_mul_of_nonneg_right hint hpos.le]

/-- Below a power of two rounding changes a number by at most half a last place of the numbers
there. -/
theorem abs_nearest_sub_le_of_lt {place : ℤ}
    (h : |x| < (2 ^ (format.fraction + 1) : ℤ) * 2 ^ place) (hplace : format.lowest ≤ place) :
    |format.nearest x - x| ≤ 2 ^ place / 2 := by
  by_cases hzero : x = 0
  · rw [hzero, nearest_zero, sub_zero, abs_zero]
    exact (half_pos (place_pos _)).le
  rw [← place_add] at h
  have hlog : Int.log 2 |x| < place + (format.fraction + 1 : ℕ) := by
    refine (Int.lt_zpow_iff_log_lt (by norm_num) (abs_pos.mpr hzero)).mp ?_
    exact_mod_cast h
  have hlast : format.lastPlace x ≤ place := max_le (by omega) hplace
  have hgrows : (2 : ℚ) ^ format.lastPlace x ≤ 2 ^ place :=
    zpow_le_zpow_right₀ (by norm_num) hlast
  exact (format.abs_nearest_sub_le x).trans (by linarith)

end BinaryFormat

/-- The arithmetic of binary64 numbers. -/
instance : Rounding where
  rounded := BinaryFormat.binary64.nearest
  rounded_mono := BinaryFormat.binary64.nearest_mono
  rounded_zero := BinaryFormat.binary64.nearest_zero
  rounded_rounded := BinaryFormat.binary64.nearest_nearest

/-- Up to 16 an addition loses at most `2 ^ (-50)`. -/
theorem Rounding.loses_at_most_binary64 : LosesAtMost 16 (2 ^ (-50 : ℤ)) := by
  intro x hx hlimit
  show x - _ ≤ BinaryFormat.binary64.nearest x
  rcases hlimit.lt_or_eq with hlt | rfl
  · have hbelow : |x| < (2 ^ (BinaryFormat.binary64.fraction + 1) : ℤ) * 2 ^ (-49 : ℤ) := by
      rw [abs_of_nonneg hx]
      exact hlt.trans_eq (by norm_num [BinaryFormat.binary64])
    have herror := BinaryFormat.binary64.abs_nearest_sub_le_of_lt hbelow (by decide)
    have hhalf : (2 : ℚ) ^ (-49 : ℤ) / 2 = 2 ^ (-50 : ℤ) := by norm_num
    rw [hhalf, abs_le] at herror
    linarith [herror.1]
  · have hplaces : (16 : ℚ) = (1 : ℤ) * 2 ^ (4 : ℤ) := by norm_num
    rw [BinaryFormat.binary64.nearest_of_places hplaces (by decide) (by decide)]
    exact sub_le_self _ (BinaryFormat.place_pos _).le
