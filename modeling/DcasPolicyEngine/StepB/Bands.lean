import DcasPolicyEngine.StepB.Timers

/-!
# Speed bands

A higher speed is in a higher band, and a higher band has earlier thresholds. Under earlier
thresholds the same inattention time has a more severe level. The bounds that hold at every
speed come from the two extreme bands.
-/

namespace DcasPolicyEngine

namespace SpeedBand

/-- The position of a band in the enumeration. -/
def rank : SpeedBand → Nat
  | low => 0
  | mid => 1
  | high => 2

theorem rank_injective : Function.Injective rank := by
  intro a b h
  cases a <;> cases b <;> first | rfl | cases h

/-- Speed bands are ordered by speed. -/
instance : LinearOrder SpeedBand := LinearOrder.lift' rank rank_injective

theorem low_le (band : SpeedBand) : low ≤ band := Nat.zero_le band.rank

theorem le_high (band : SpeedBand) : band ≤ high := by
  cases band <;> decide

end SpeedBand

/-! ## Earlier thresholds -/

namespace Thresholds

/-- Every state applies from the same time on or earlier. -/
def Earlier (early late : Thresholds) : Prop :=
  ∀ state, early.threshold state ≤ late.threshold state

variable {early late : Thresholds}

/-- Earlier thresholds give a level that is at least as severe. -/
theorem Earlier.level_le (h : early.Earlier late) (hearly : early.Ordered) (hlate : late.Ordered)
    {elapsed : ℚ} (helapsed : 0 ≤ elapsed) : late.level elapsed ≤ early.level elapsed := by
  have hreached := (hlate.le_level_iff helapsed _).mp le_rfl
  exact (hearly.le_level_iff helapsed _).mpr ((h _).trans hreached)

end Thresholds

/-- A higher band has earlier thresholds. -/
theorem schedule_antitone {slower faster : SpeedBand} (h : slower ≤ faster) :
    (schedule faster).Earlier (schedule slower) := by
  intro state
  revert h
  cases slower <;> cases faster <;> cases state <;> decide +kernel

/-- `ESCALATION` applies in no band before `WARNING` applies in every band. -/
theorem schedule_warn_le_esc (warned escalated : SpeedBand) :
    (schedule warned).tWarnEffS ≤ (schedule escalated).tEscEffS := by
  cases warned <;> cases escalated <;> decide +kernel

/-- Milliseconds in seconds, as a conversion to `double` and a division give them. -/
def roundedSeconds (ms : ℤ) : ℚ := BinaryFormat.binary64.nearest (literal ms / 1000)

theorem rounded_seconds_mono {first second : ℤ} (hle : first ≤ second) :
    roundedSeconds first ≤ roundedSeconds second := by
  have hcast : literal first ≤ literal second :=
    BinaryFormat.binary64.nearest_mono (Int.cast_le.mpr hle)
  exact BinaryFormat.binary64.nearest_mono (div_le_div_of_nonneg_right hcast (by norm_num))

/-- Rounding the time of a camera block does not matter for the comparison with `T_absent`. -/
theorem absent_le_rounded_iff (band : SpeedBand) (elapsedMs : ℤ) :
    (schedule band).tAbsentEffS ≤ roundedSeconds elapsedMs ↔
      (schedule band).tAbsentEffS ≤ (elapsedMs : ℚ) / 1000 := by
  -- the last millisecond below `T_absent` and the first one from there on
  obtain ⟨absentMs, habsent, hfirst, hlast⟩ : ∃ absentMs : ℤ,
      (schedule band).tAbsentEffS = absentMs / 1000 ∧
      (schedule band).tAbsentEffS ≤ roundedSeconds absentMs ∧
      roundedSeconds (absentMs - 1) < (schedule band).tAbsentEffS := by
    cases band with
    | low => exact ⟨10000, by decide +kernel⟩
    | mid => exact ⟨8000, by decide +kernel⟩
    | high => exact ⟨6000, by decide +kernel⟩
  by_cases hreached : absentMs ≤ elapsedMs
  · refine iff_of_true (hfirst.trans (rounded_seconds_mono hreached)) ?_
    rw [habsent]
    exact div_le_div_of_nonneg_right (Int.cast_le.mpr hreached) (by norm_num)
  · have hbelow : elapsedMs ≤ absentMs - 1 := by omega
    refine iff_of_false ((rounded_seconds_mono hbelow).trans_lt hlast).not_ge ?_
    rw [habsent, div_le_div_iff_of_pos_right (by norm_num), Int.cast_le]
    exact hreached

/-! ## The estimate -/

/-- The band of a share of the highest speed. -/
def bandOfShare (share : ℚ) : SpeedBand :=
  if share < literal 0.30 then .low else if share < literal 0.65 then .mid else .high

/-- A higher share is not in a lower band. -/
theorem band_of_share_mono : Monotone bandOfShare := by
  intro low high hle
  have hbounds : literal 0.30 ≤ literal 0.65 := BinaryFormat.binary64.nearest_mono (by norm_num)
  unfold bandOfShare
  split
  · exact SpeedBand.low_le _
  · next hmid =>
      rw [if_neg (not_lt.mpr ((not_lt.mp hmid).trans hle))]
      split
      · split <;> decide
      · next hhigh => rw [if_neg (not_lt.mpr ((not_lt.mp hhigh).trans hle))]

/-- A speed between standstill and the highest one. -/
def clampSpeed (speed : ℚ) : ℚ :=
  if speed < 0 then 0 else if literal 0.4 < speed then literal 0.4 else speed

theorem literal_max_speed_pos : 0 < literal 0.4 := by
  decide +kernel

theorem clamp_speed_mono : Monotone clampSpeed := by
  intro slow fast hle
  have hmax := literal_max_speed_pos
  unfold clampSpeed
  split_ifs <;> linarith

variable [Rounding]

/-- The band of a number. -/
theorem estimate_num (speed : ℚ) :
    estimate (.num speed) =
      bandOfShare (Rounding.rounded (clampSpeed speed / literal 0.4)) := by
  unfold estimate clampSpeed
  simp only [WithNaN.num_lt_num]
  split
  · rfl
  · split <;> rfl

/-- A higher speed is not in a lower band. -/
theorem estimate_mono {slow fast : Double} (h : slow ≤ fast) : estimate slow ≤ estimate fast := by
  cases slow with
  | nan => exact absurd h id
  | num a =>
      cases fast with
      | nan => exact absurd h id
      | num b =>
          have hshare : clampSpeed a / literal 0.4 ≤ clampSpeed b / literal 0.4 :=
            div_le_div_of_nonneg_right (clamp_speed_mono h) literal_max_speed_pos.le
          rw [estimate_num, estimate_num]
          exact band_of_share_mono (Rounding.rounded_mono hshare)

namespace StepBInput

variable (input : StepBInput)

/-- At every speed the thresholds come no later than those of the low band. -/
theorem thresholds_earlier_low : input.thresholds.Earlier (schedule .low) :=
  schedule_antitone (SpeedBand.low_le _)

/-- At every speed the thresholds come no earlier than those of the high band. -/
theorem high_earlier_thresholds : (schedule .high).Earlier input.thresholds :=
  schedule_antitone (SpeedBand.le_high _)

end StepBInput

end DcasPolicyEngine
