import DcasPolicyEngine.StepC.Policy

/-!
# Two evaluations of Step C

The throttle limit grows with the requested throttle and with the share that the driver state and
the reason leave of it. The overlay of a reason is smaller than the step between two states: under
a more severe state the share is never larger, whatever the two reasons are.
-/

namespace DcasPolicyEngine

namespace StepC

/-! ## Shares -/

/-- The share of a more severe state is at most that of a less severe one with any overlay. -/
theorem base_throttle_gain_le_gain {less more : DriverState} (h : less < more) (reason : Reason) :
    baseThrottleGain more ≤ gain less reason := by
  have hstep : baseThrottleGain more ≤ baseThrottleGain less * 0.9 := by
    cases less <;> cases more <;>
      first | exact absurd h (by decide) | norm_num [baseThrottleGain]
  have hbase : 0 ≤ baseThrottleGain less := by
    cases less <;> norm_num [baseThrottleGain]
  have hoverlay : 0.9 ≤ reasonOverlayGain less reason := by
    unfold reasonOverlayGain
    split <;> norm_num
  exact hstep.trans (mul_le_mul_of_nonneg_left hoverlay hbase)

/-- No two reasons make up for a step between two states. -/
theorem gain_le_of_lt {less more : DriverState} (h : less < more) (moreReason lessReason : Reason) :
    gain more moreReason ≤ gain less lessReason :=
  (gain_le_base_throttle_gain more moreReason).trans (base_throttle_gain_le_gain h lessReason)

/-- `DROWSY` leaves the smallest share of a state. -/
theorem gain_drowsy_le (state : DriverState) (reason : Reason) :
    gain state .drowsy ≤ gain state reason := by
  by_cases hdrowsy : reason = .drowsy
  · rw [hdrowsy]
  · have hplain : gain state reason = baseThrottleGain state := by
      simp [gain, reasonOverlayGain, hdrowsy]
    rw [hplain]
    exact gain_le_base_throttle_gain state .drowsy

/-! ## Limits -/

/-- The scaled throttle grows with the request and with the share. -/
theorem scaled_throttle_mono {a b : ℚ} (hab : a ≤ b) {more less : DriverState}
    {moreReason lessReason : Reason} (hgain : gain more moreReason ≤ gain less lessReason) :
    scaledThrottle (.num a) more moreReason ≤ scaledThrottle (.num b) less lessReason := by
  have hnonneg := gain_nonneg more moreReason
  simp only [scaled_throttle_eq, WithNaN.num_mul_num, WithNaN.std_max_num, WithNaN.num_le_num]
  refine max_le (le_max_left 0 _) ?_
  calc a * gain more moreReason
      ≤ max 0 b * gain more moreReason :=
        mul_le_mul_of_nonneg_right (hab.trans (le_max_right 0 b)) hnonneg
    _ ≤ max 0 b * gain less lessReason := mul_le_mul_of_nonneg_left hgain (le_max_left 0 b)
    _ = max 0 (b * gain less lessReason) := by
        rw [max_mul_of_nonneg 0 b (hnonneg.trans hgain), zero_mul]

/-- Two inputs that agree on the override and on the latched state, with requests that are
numbers. -/
structure Comparable (first second : StepCInput) (a b : ℚ) : Prop where
  override_eq : first.driverOverride = second.driverOverride
  latched_eq : first.latchedState = second.latchedState
  first_throttle : first.lkasThrottle = .num a
  second_throttle : second.lkasThrottle = .num b

variable {first second : StepCInput} {a b : ℚ}

/-- The throttle limit grows with the request and with the share. -/
theorem throttle_limit_mono (h : Comparable first second a b) (hab : a ≤ b)
    (hgain : gain first.driverState first.reason ≤ gain second.driverState second.reason) :
    (evaluate first).throttleLimit ≤ (evaluate second).throttleLimit := by
  have hoverridden : Overridden first ↔ Overridden second := by
    unfold Overridden
    rw [h.override_eq, h.latched_eq]
  rw [throttle_limit_eq_scaled, throttle_limit_eq_scaled, if_congr hoverridden rfl rfl,
    h.first_throttle, h.second_throttle]
  split
  · exact (WithNaN.num_le_num 0 0).mpr le_rfl
  · exact scaled_throttle_mono hab hgain

/-- The throttle limit of Step C is monotone. Of two inputs that agree on the override and on the
latched state, where the first does not request more, a strictly more severe state gets no larger
limit with any reasons, and neither does the same state with the same reason, or with `DROWSY` in
the place of any reason. -/
theorem throttle_limit_monotone (h : Comparable first second a b) (hab : a ≤ b) :
    (second.driverState < first.driverState →
      (evaluate first).throttleLimit ≤ (evaluate second).throttleLimit) ∧
    (first.driverState = second.driverState → first.reason = second.reason →
      (evaluate first).throttleLimit ≤ (evaluate second).throttleLimit) ∧
    (first.driverState = second.driverState → first.reason = .drowsy →
      (evaluate first).throttleLimit ≤ (evaluate second).throttleLimit) := by
  refine ⟨?_, ?_, ?_⟩
  · intro hstate
    exact throttle_limit_mono h hab (gain_le_of_lt hstate first.reason second.reason)
  · intro hstate hreason
    refine throttle_limit_mono h hab ?_
    rw [hstate, hreason]
  · intro hstate hdrowsy
    refine throttle_limit_mono h hab ?_
    rw [hstate, hdrowsy]
    exact gain_drowsy_le second.driverState second.reason

/-- Half of the throttle in `ESCALATION`, and more of it in `WARNING` with the overlay. -/
theorem throttle_limit_monotone_drowsy :
    (evaluate { driverState := .escalation, lkasThrottle := .num 0.5 }).throttleLimit ≤
      (evaluate
        { driverState := .warning
          reason := .drowsy
          lkasThrottle := .num 0.6 }).throttleLimit :=
  have hcomparable : Comparable { driverState := .escalation, lkasThrottle := .num 0.5 }
      { driverState := .warning, reason := .drowsy, lkasThrottle := .num 0.6 } 0.5 0.6 :=
    ⟨rfl, rfl, rfl, rfl⟩
  (throttle_limit_monotone hcomparable (by norm_num)).1 (by decide)

end StepC

end DcasPolicyEngine
