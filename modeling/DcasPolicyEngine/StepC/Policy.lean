import Mathlib.Tactic.NormNum
import DcasPolicyEngine.StepC.Engine

/-!
# What Step C decides

One lemma for each output of `StepC.evaluate`, in terms of the driver state, of the override
branch (`Overridden`) and of the activation count. Callers use these lemmas and do not unfold
the engine.
-/

namespace DcasPolicyEngine

namespace StepC

/-- The override branch is taken: the driver overrides and the lock is not set. -/
def Overridden (input : StepCInput) : Prop :=
  input.driverOverride = true ∧ input.latchedState.driverOverrideLock = false

instance (input : StepCInput) : Decidable (Overridden input) :=
  inferInstanceAs (Decidable (_ ∧ _))

/-- The throttle limit of a driver state when the driver does not override. -/
def scaledThrottle (throttle : Double) (state : DriverState) (reason : Reason) : Double :=
  WithNaN.stdMax (.num 0)
    (throttle * WithNaN.num (baseThrottleGain state) *
      WithNaN.num (reasonOverlayGain state reason))

/-- The HMI action of a driver state when the driver does not override. -/
def hmiOfState (state : DriverState) (reengagementConfirmed : Bool) : HmiAction :=
  match state with
  | .ok => .info
  | .warning => if reengagementConfirmed then .info else .eor
  | .escalation => if reengagementConfirmed then .info else .dca
  | .absent => .mrm

/-! ## The lockout test -/

/-- The lockout test changes the mode and the lock only. -/
theorem apply_lockout_frame (output : StepCOutput) :
    (applyLockout output).throttleLimit = output.throttleLimit ∧
      (applyLockout output).hmiAction = output.hmiAction ∧
      (applyLockout output).mrmActive = output.mrmActive ∧
      (applyLockout output).nextLatchedState.mrmActivationCountRunCycle =
        output.nextLatchedState.mrmActivationCountRunCycle := by
  unfold applyLockout
  split <;> simp

theorem apply_lockout_mode (output : StepCOutput) :
    (applyLockout output).nextLkasMode =
      if 2 ≤ output.nextLatchedState.mrmActivationCountRunCycle then .off
      else output.nextLkasMode := by
  unfold applyLockout
  split <;> rfl

theorem apply_lockout_lock (output : StepCOutput) :
    (applyLockout output).nextLatchedState.driverOverrideLock = true ↔
      output.nextLatchedState.driverOverrideLock = true ∨
        2 ≤ output.nextLatchedState.mrmActivationCountRunCycle := by
  unfold applyLockout
  split
  · next hcount => simp [hcount]
  · next hcount => exact (or_iff_left hcount).symm

/-! ## The branches of the driver state -/

/-- The output before the lockout test. -/
def decided (input : StepCInput) : StepCOutput :=
  applyDriverState input
    { nextLatchedState := input.latchedState, nextLkasMode := requestedLkasMode input }

variable {input : StepCInput}

theorem decided_overridden (h : Overridden input) :
    decided input =
      { nextLatchedState := input.latchedState, nextLkasMode := .off } := by
  simp [decided, applyDriverState, h.1, h.2]

theorem decided_not_overridden (h : ¬ Overridden input) :
    (decided input).nextLkasMode = requestedLkasMode input ∧
      (decided input).throttleLimit =
        (if input.driverState = .absent then .num 0
          else scaledThrottle input.lkasThrottle input.driverState input.reason) ∧
      (decided input).hmiAction =
        hmiOfState input.driverState input.reengagementConfirmed200ms ∧
      ((decided input).mrmActive = true ↔ input.driverState = .absent) ∧
      (decided input).nextLatchedState.driverOverrideLock =
        input.latchedState.driverOverrideLock ∧
      (decided input).nextLatchedState.mrmActivationCountRunCycle =
        input.latchedState.mrmActivationCountRunCycle +
          if input.driverState = .absent then 1 else 0 := by
  unfold decided applyDriverState
  rw [if_neg (by simpa [Overridden] using h)]
  cases hstate : input.driverState <;> simp [hmiOfState, scaledThrottle]

/-- MRM is active exactly in `ABSENT` without an effective override. -/
theorem mrm_active_iff :
    (evaluate input).mrmActive = true ↔ input.driverState = .absent ∧ ¬ Overridden input := by
  show (applyLockout (decided input)).mrmActive = true ↔ _
  rw [(apply_lockout_frame _).2.2.1]
  by_cases hoverride : Overridden input
  · simp [decided_overridden hoverride, hoverride]
  · rw [(decided_not_overridden hoverride).2.2.2.1]
    simp [hoverride]

/-- The activation count grows by one on every tick with an active MRM. -/
theorem mrm_activation_count_run_cycle_eq :
    (evaluate input).nextLatchedState.mrmActivationCountRunCycle =
      input.latchedState.mrmActivationCountRunCycle +
        if (evaluate input).mrmActive = true then 1 else 0 := by
  rw [if_congr mrm_active_iff rfl rfl]
  show (applyLockout (decided input)).nextLatchedState.mrmActivationCountRunCycle = _
  rw [(apply_lockout_frame _).2.2.2]
  by_cases hoverride : Overridden input
  · simp [decided_overridden hoverride, hoverride]
  · rw [(decided_not_overridden hoverride).2.2.2.2.2]
    simp [hoverride]

/-- The lock is kept, and it is set from the second counted activation on. -/
theorem driver_override_lock_iff :
    (evaluate input).nextLatchedState.driverOverrideLock = true ↔
      input.latchedState.driverOverrideLock = true ∨
        2 ≤ (evaluate input).nextLatchedState.mrmActivationCountRunCycle := by
  show (applyLockout (decided input)).nextLatchedState.driverOverrideLock = true ↔
    _ ∨ 2 ≤ (applyLockout (decided input)).nextLatchedState.mrmActivationCountRunCycle
  rw [apply_lockout_lock, (apply_lockout_frame _).2.2.2]
  by_cases hoverride : Overridden input
  · simp [decided_overridden hoverride]
  · rw [(decided_not_overridden hoverride).2.2.2.2.1]

/-- The mode is the requested one, unless an override or the lockout switches LKAS off. -/
theorem next_lkas_mode_eq :
    (evaluate input).nextLkasMode =
      if Overridden input ∨ 2 ≤ (evaluate input).nextLatchedState.mrmActivationCountRunCycle then
        .off
      else requestedLkasMode input := by
  have hcount : (evaluate input).nextLatchedState.mrmActivationCountRunCycle =
      (decided input).nextLatchedState.mrmActivationCountRunCycle :=
    (apply_lockout_frame _).2.2.2
  simp only [hcount]
  show (applyLockout (decided input)).nextLkasMode = _
  rw [apply_lockout_mode]
  by_cases hoverride : Overridden input
  · simp [decided_overridden hoverride, hoverride]
  · simp [(decided_not_overridden hoverride).1, hoverride]

@[simp] theorem scaled_throttle_absent (throttle : Double) (reason : Reason) :
    scaledThrottle throttle .absent reason = .num 0 := by
  cases throttle <;> simp [scaledThrottle, baseThrottleGain]

/-- The throttle limit is zero under an effective override and in `ABSENT`, and otherwise the
scaled throttle of the driver state. -/
theorem throttle_limit_eq :
    (evaluate input).throttleLimit =
      if Overridden input ∨ input.driverState = .absent then .num 0
      else scaledThrottle input.lkasThrottle input.driverState input.reason := by
  show (applyLockout (decided input)).throttleLimit = _
  rw [(apply_lockout_frame _).1]
  by_cases hoverride : Overridden input
  · simp [decided_overridden hoverride, hoverride]
  · simp [(decided_not_overridden hoverride).2.1, hoverride]

/-- In `ABSENT` the scaled throttle is zero too, so that only an override cuts it off. -/
theorem throttle_limit_eq_scaled (input : StepCInput) :
    (evaluate input).throttleLimit =
      if Overridden input then .num 0
      else scaledThrottle input.lkasThrottle input.driverState input.reason := by
  rw [throttle_limit_eq]
  by_cases hoverride : Overridden input
  · rw [if_pos (.inl hoverride), if_pos hoverride]
  · by_cases habsent : input.driverState = .absent
    · rw [if_pos (.inr habsent), if_neg hoverride, habsent, scaled_throttle_absent]
    · rw [if_neg (not_or.mpr ⟨hoverride, habsent⟩), if_neg hoverride]

/-- The HMI shows `INFO` under an effective override, and otherwise the action of the driver
state. -/
theorem hmi_action_eq :
    (evaluate input).hmiAction =
      if Overridden input then .info
      else hmiOfState input.driverState input.reengagementConfirmed200ms := by
  show (applyLockout (decided input)).hmiAction = _
  rw [(apply_lockout_frame _).2.1]
  by_cases hoverride : Overridden input
  · simp [decided_overridden hoverride, hoverride]
  · simp [(decided_not_overridden hoverride).2.2.1, hoverride]

/-! ## The LKAS mode -/

theorem demote_ne_on_active (mode : LkasMode) :
    (if mode = .onActive then LkasMode.onInactive else mode) ≠ .onActive := by
  cases mode <;> decide

/-- A mode that is requested active means that the driver state is `OK` and the notebook input
is alive. -/
theorem requested_lkas_mode_on_active (h : requestedLkasMode input = .onActive) :
    input.driverState = .ok ∧ input.notebookInputAlive = true := by
  by_contra hkept
  have hlost : input.driverState ≠ .ok ∨ (!input.notebookInputAlive) = true := by
    simpa [or_iff_not_imp_left] using hkept
  simp only [requestedLkasMode, hlost, and_true] at h
  exact demote_ne_on_active _ h

/-- LKAS is active after an evaluation only in the state `OK`. -/
theorem next_lkas_mode_on_active (h : (evaluate input).nextLkasMode = .onActive) :
    input.driverState = .ok := by
  rw [next_lkas_mode_eq] at h
  split at h
  · cases h
  · exact (requested_lkas_mode_on_active h).1

/-- Without a switch event a mode that is off stays off, and so it does after `OFF`. -/
theorem requested_lkas_mode_off (hswitch : input.lkasSwitchEvent ≠ .on)
    (hmode : input.previousLkasMode = .off ∨ input.lkasSwitchEvent = .off) :
    requestedLkasMode input = .off := by
  have happly : applySwitchEvent input.previousLkasMode input.lkasSwitchEvent = .off := by
    cases hevent : input.lkasSwitchEvent with
    | on => exact absurd hevent hswitch
    | off => rfl
    | none => simpa [applySwitchEvent, hevent] using hmode
  simp [requestedLkasMode, hswitch, happly]

/-- A mode that is requested active was active before or comes with `ON`, and not with `OFF`. -/
theorem requested_lkas_mode_on_active_origin (h : requestedLkasMode input = .onActive) :
    input.lkasSwitchEvent ≠ .off ∧
      (input.lkasSwitchEvent = .on ∨ input.previousLkasMode = .onActive) := by
  cases hevent : input.lkasSwitchEvent with
  | on => exact ⟨by decide, .inl rfl⟩
  | off =>
      have hoff := requested_lkas_mode_off (by rw [hevent]; decide) (.inr hevent)
      rw [hoff] at h
      cases h
  | none =>
      refine ⟨by decide, .inr ?_⟩
      by_contra hmode
      simp [requestedLkasMode, applySwitchEvent, hevent, hmode] at h

/-- LKAS that is off before an evaluation without `ON`, or that receives `OFF`, is off after
it. -/
theorem next_lkas_mode_off (hswitch : input.lkasSwitchEvent ≠ .on)
    (hmode : input.previousLkasMode = .off ∨ input.lkasSwitchEvent = .off) :
    (evaluate input).nextLkasMode = .off := by
  rw [next_lkas_mode_eq, requested_lkas_mode_off hswitch hmode, ite_self]

/-- An effective override switches LKAS off. -/
theorem next_lkas_mode_overridden (h : Overridden input) :
    (evaluate input).nextLkasMode = .off := by
  rw [next_lkas_mode_eq, if_pos (.inl h)]

/-! ## Throttle limits -/

theorem base_throttle_gain_pos {state : DriverState} (h : state ≠ .absent) :
    0 < baseThrottleGain state := by
  cases state with
  | absent => exact absurd rfl h
  | _ => norm_num [baseThrottleGain]

theorem reason_overlay_gain_pos (state : DriverState) (reason : Reason) :
    0 < reasonOverlayGain state reason := by
  unfold reasonOverlayGain
  split <;> norm_num

/-- A driver state other than `ABSENT` takes all throttle away only if none is requested. -/
theorem scaled_throttle_eq_zero_iff {state : DriverState} (h : state ≠ .absent)
    (throttle : Double) (reason : Reason) :
    scaledThrottle throttle state reason = .num 0 ↔ ¬ .num 0 < throttle := by
  unfold scaledThrottle
  rw [WithNaN.std_max_zero_mul_eq_zero_iff (reason_overlay_gain_pos state reason)]
  cases throttle with
  | nan => simp
  | num r => simp [base_throttle_gain_pos h]

/-- The share of the throttle that a driver state and a reason leave. -/
def gain (state : DriverState) (reason : Reason) : ℚ :=
  baseThrottleGain state * reasonOverlayGain state reason

theorem scaled_throttle_eq (throttle : Double) (state : DriverState) (reason : Reason) :
    scaledThrottle throttle state reason =
      WithNaN.stdMax (.num 0) (throttle * WithNaN.num (gain state reason)) := by
  cases throttle with
  | nan => rfl
  | num r => simp [scaledThrottle, gain, mul_assoc]

theorem gain_nonneg (state : DriverState) (reason : Reason) : 0 ≤ gain state reason := by
  refine mul_nonneg ?_ (reason_overlay_gain_pos state reason).le
  cases state <;> norm_num [baseThrottleGain]

theorem base_throttle_gain_le_one (state : DriverState) : baseThrottleGain state ≤ 1 := by
  cases state <;> norm_num [baseThrottleGain]

/-- The overlay leaves at most the share of the state. -/
theorem gain_le_base_throttle_gain (state : DriverState) (reason : Reason) :
    gain state reason ≤ baseThrottleGain state := by
  have hbase : 0 ≤ baseThrottleGain state := by
    cases state <;> norm_num [baseThrottleGain]
  have hoverlay : reasonOverlayGain state reason ≤ 1 := by
    unfold reasonOverlayGain
    split <;> norm_num
  exact mul_le_of_le_one_right hbase hoverlay

@[simp] theorem gain_ok (reason : Reason) : gain .ok reason = 1 := by
  simp [gain, baseThrottleGain, reasonOverlayGain]

/-- A more severe state leaves a smaller share, whatever the reason is. -/
theorem gain_antitone {less more : DriverState} (h : less ≤ more) (reason : Reason) :
    gain more reason ≤ gain less reason := by
  revert h
  by_cases hdrowsy : reason = .drowsy <;> cases less <;> cases more <;>
    simp [gain, baseThrottleGain, reasonOverlayGain, hdrowsy, DriverState.le_iff_severity,
      DriverState.severity] <;> norm_num

/-- Under a more severe state Step C does not grant more throttle. -/
theorem throttle_limit_antitone {less more : DriverState} (h : less ≤ more) (input : StepCInput) :
    (evaluate { input with driverState := more }).throttleLimit ≤
      (evaluate { input with driverState := less }).throttleLimit := by
  rw [throttle_limit_eq_scaled, throttle_limit_eq_scaled]
  show (if Overridden input then _ else _) ≤ (if Overridden input then _ else _)
  split
  · exact (WithNaN.num_le_num 0 0).mpr le_rfl
  · rw [scaled_throttle_eq, scaled_throttle_eq]
    exact WithNaN.std_max_zero_mul_le (gain_nonneg more input.reason)
      (gain_antitone h input.reason) input.lkasThrottle

/-! ## The reason -/

/-- `evaluate` with the output before the lockout test named. -/
theorem evaluate_eq (input : StepCInput) :
    evaluate input =
      { applyLockout (decided input) with
        dashboardState :=
          { driverState := input.driverState
            reason := input.reason
            lkasMode := (applyLockout (decided input)).nextLkasMode
            currentManoeuvreType := input.currentManoeuvreType } } := rfl

/-- Before the lockout test the reason decides the throttle limit only. -/
theorem decided_with_reason (input : StepCInput) (reason : Reason) :
    decided { input with reason := reason } =
      { decided input with
        throttleLimit := (decided { input with reason := reason }).throttleLimit } := by
  have hmode : requestedLkasMode { input with reason := reason } = requestedLkasMode input := rfl
  unfold decided applyDriverState
  rw [hmode]
  dsimp only
  split
  · rfl
  · cases input.driverState <;> rfl

/-- The lockout test does not look at the throttle limit. -/
theorem apply_lockout_with_throttle (output : StepCOutput) (limit : Double) :
    applyLockout { output with throttleLimit := limit } =
      { applyLockout output with throttleLimit := limit } := by
  unfold applyLockout
  split <;> rfl

/-- The reason decides the throttle limit and is shown on the dashboard. Nothing else depends on
it. -/
theorem evaluate_with_reason (input : StepCInput) (reason : Reason) :
    evaluate { input with reason := reason } =
      { evaluate input with
        throttleLimit := (evaluate { input with reason := reason }).throttleLimit
        dashboardState := { (evaluate input).dashboardState with reason := reason } } := by
  have hdecided := decided_with_reason input reason
  have hlockout : applyLockout (decided { input with reason := reason }) =
      { applyLockout (decided input) with
        throttleLimit :=
          (applyLockout (decided { input with reason := reason })).throttleLimit } := by
    rw [hdecided, apply_lockout_with_throttle]
  rw [evaluate_eq, evaluate_eq, hlockout]

/-- What does not depend on the reason. -/
theorem evaluate_with_reason_frame (input : StepCInput) (reason : Reason) :
    (evaluate { input with reason := reason }).hmiAction = (evaluate input).hmiAction ∧
      (evaluate { input with reason := reason }).mrmActive = (evaluate input).mrmActive ∧
      (evaluate { input with reason := reason }).nextLkasMode = (evaluate input).nextLkasMode ∧
      (evaluate { input with reason := reason }).nextLatchedState =
        (evaluate input).nextLatchedState := by
  rw [evaluate_with_reason input reason]
  exact ⟨rfl, rfl, rfl, rfl⟩

/-- Two throttle limits differ by the overlay factor at most. -/
def WithinOverlay (left right : Double) : Prop :=
  left = right ∨ left = right * .num 0.9 ∨ right = left * .num 0.9

theorem WithinOverlay.symm {left right : Double} (h : WithinOverlay left right) :
    WithinOverlay right left := by
  obtain hsame | hleft | hright := h
  · exact .inl hsame.symm
  · exact .inr (.inr hleft)
  · exact .inr (.inl hright)

/-- Only `DROWSY` changes the overlay gain. -/
theorem reason_overlay_gain_congr (state : DriverState) {left right : Reason}
    (h : left = .drowsy ↔ right = .drowsy) :
    reasonOverlayGain state left = reasonOverlayGain state right := by
  simp only [reasonOverlayGain, h]

/-- The overlay gain scales the throttle that a driver state leaves. -/
theorem scaled_throttle_drowsy (throttle : Double) (state : DriverState) {reason : Reason}
    (h : reason ≠ .drowsy) :
    scaledThrottle throttle state .drowsy = scaledThrottle throttle state reason ∨
      scaledThrottle throttle state .drowsy = scaledThrottle throttle state reason * .num 0.9 := by
  have hplain : reasonOverlayGain state reason = 1 := if_neg fun hoverlay => h hoverlay.2
  by_cases hstate : state = .warning ∨ state = .escalation
  · have hoverlay : reasonOverlayGain state .drowsy = 0.9 := if_pos ⟨hstate, rfl⟩
    right
    rw [scaledThrottle, scaledThrottle, hplain, hoverlay]
    cases throttle with
    | nan => simp
    | num r =>
        simp only [WithNaN.num_mul_num, WithNaN.std_max_num, mul_one]
        rw [max_mul_of_nonneg _ _ (by norm_num), zero_mul]
  · left
    rw [scaledThrottle, scaledThrottle, reasonOverlayGain, if_neg fun hoverlay => hstate hoverlay.1,
      hplain]

/-- For two reasons the throttle differs by the overlay factor at most. -/
theorem scaled_throttle_within_overlay (throttle : Double) (state : DriverState)
    (left right : Reason) :
    WithinOverlay (scaledThrottle throttle state left) (scaledThrottle throttle state right) := by
  by_cases hleft : left = .drowsy
  · by_cases hright : right = .drowsy
    · rw [hleft, hright]
      exact .inl rfl
    · rw [hleft]
      exact (scaled_throttle_drowsy throttle state hright).imp_right .inl
  · by_cases hright : right = .drowsy
    · rw [hright]
      exact WithinOverlay.symm ((scaled_throttle_drowsy throttle state hleft).imp_right .inl)
    · rw [scaledThrottle, scaledThrottle,
        reason_overlay_gain_congr state (iff_of_false hleft hright)]
      exact .inl rfl

/-- Without a switch event only the loss of a precondition changes the mode. -/
theorem requested_lkas_mode_of_no_event {input : StepCInput}
    (hevent : input.lkasSwitchEvent = .none) :
    requestedLkasMode input =
      if input.previousLkasMode = .onActive ∧
          (input.driverState ≠ .ok ∨ input.notebookInputAlive = false) then .onInactive
      else input.previousLkasMode := by
  simp [requestedLkasMode, applySwitchEvent, hevent]

end StepC

end DcasPolicyEngine
