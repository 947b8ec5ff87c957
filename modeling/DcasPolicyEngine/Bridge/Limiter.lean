import DcasPolicyEngine.Bridge.Loop

/-!
# The bridge as a limiter

The bridge clamps the LKAS throttle between zero and the throttle limit of the tick. For a
throttle that is a number, the limit never exceeds its positive part, so that the clamp returns
the limit itself. `bridge_limits` bounds what the bridge writes by the share of the driver state.
-/

namespace DcasPolicyEngine

namespace PolicyRuntime

/-- What a tick leaves of a requested throttle. -/
def permitted (self : PolicyRuntime) (input : RuntimeTickInput) (request : ℚ) : ℚ :=
  if self.Overridden input ∨ (self.tick input).1.stepB.nextState = .absent then 0
  else max 0 (request *
    StepC.gain (self.tick input).1.stepB.nextState (self.tick input).1.stepB.reason)

variable {self : PolicyRuntime} {input : RuntimeTickInput}

/-- The throttle limit is what the tick leaves of the request. -/
theorem tick_throttle_limit_num {request : ℚ} (h : input.stepC.lkasThrottle = .num request) :
    (self.tick input).1.stepC.throttleLimit = .num (self.permitted input request) := by
  rw [tick_throttle_limit, permitted, StepC.scaled_throttle_eq, h]
  split
  · rfl
  · rw [WithNaN.num_mul_num, WithNaN.std_max_num]

theorem permitted_nonneg (self : PolicyRuntime) (input : RuntimeTickInput) (request : ℚ) :
    0 ≤ self.permitted input request := by
  unfold permitted
  split
  · exact le_rfl
  · exact le_max_left 0 _

/-- A tick leaves at most the share of its state. -/
theorem permitted_le_share (self : PolicyRuntime) (input : RuntimeTickInput) (request : ℚ) :
    self.permitted input request ≤
      baseThrottleGain (self.tick input).1.stepB.nextState * max 0 request := by
  have hgain := StepC.gain_nonneg (self.tick input).1.stepB.nextState
    (self.tick input).1.stepB.reason
  have hbase := StepC.gain_le_base_throttle_gain (self.tick input).1.stepB.nextState
    (self.tick input).1.stepB.reason
  have hrequest : 0 ≤ max 0 request := le_max_left 0 request
  have hshare := mul_nonneg (hgain.trans hbase) hrequest
  unfold permitted
  split
  · exact hshare
  · refine max_le hshare ?_
    calc request * StepC.gain _ _
        ≤ max 0 request * StepC.gain (self.tick input).1.stepB.nextState
            (self.tick input).1.stepB.reason :=
          mul_le_mul_of_nonneg_right (le_max_right 0 request) hgain
      _ ≤ max 0 request * baseThrottleGain (self.tick input).1.stepB.nextState :=
          mul_le_mul_of_nonneg_left hbase hrequest
      _ = baseThrottleGain (self.tick input).1.stepB.nextState * max 0 request := mul_comm _ _

/-- A tick leaves at most the positive part of the request. -/
theorem permitted_le_request (self : PolicyRuntime) (input : RuntimeTickInput) (request : ℚ) :
    self.permitted input request ≤ max 0 request :=
  (self.permitted_le_share input request).trans
    (mul_le_of_le_one_left (le_max_left 0 request) (StepC.base_throttle_gain_le_one _))

/-- In `OK` without an effective override a tick leaves the whole request. -/
theorem permitted_ok (hok : (self.tick input).1.stepB.nextState = .ok)
    (hoverride : ¬ self.Overridden input) (request : ℚ) :
    self.permitted input request = max 0 request := by
  have hlimit : ¬ (self.Overridden input ∨ (self.tick input).1.stepB.nextState = .absent) := by
    rw [hok]
    simpa using hoverride
  rw [permitted, if_neg hlimit, hok, StepC.gain_ok, mul_one]

end PolicyRuntime

variable {config : BridgeConfig} {self : BridgeState} {input : BridgeInput}
  {output : BridgeOutput}

/-- The limit and the command of an iteration that ticks with a throttle that is a number. -/
theorem limit_and_command_num
    (houtput : ((bridge config).step self input).1 = some output) {request : ℚ}
    (hrequest : (self.read input).lkasSample.lkasThrottle = .num request) :
    output.output = (self.runtime.tick output.tick).1 ∧
      output.output.stepC.throttleLimit = .num (self.runtime.permitted output.tick request) ∧
      output.command.finalThrottle =
        if (self.read input).speedSample.hardwareFault ≠ 0 then .num 0
        else .num (self.runtime.permitted output.tick request) := by
  obtain ⟨hinput, htick, _⟩ := tick_of_output houtput
  have hthrottle : output.tick.stepC.lkasThrottle = .num request := by
    rw [hinput]
    exact hrequest
  have hlimit : output.output.stepC.throttleLimit =
      .num (self.runtime.permitted output.tick request) := by
    rw [htick]
    exact PolicyRuntime.tick_throttle_limit_num hthrottle
  have hcommand : output.command = (self.read input).command input output.output := by
    rw [output_eq_tick_and_send houtput]
    rfl
  refine ⟨htick, hlimit, ?_⟩
  rw [hcommand, BridgeState.command]
  dsimp only
  rw [hlimit, hrequest, WithNaN.std_clamp_eq_hi
    (self.runtime.permitted_nonneg output.tick request)
    (self.runtime.permitted_le_request output.tick request)]

/-- The command is at most the share of the driver state. -/
theorem final_throttle_le_share (houtput : ((bridge config).step self input).1 = some output)
    {request final : ℚ} (hrequest : (self.read input).lkasSample.lkasThrottle = .num request)
    (hfinal : output.command.finalThrottle = .num final) :
    final ≤ baseThrottleGain output.output.stepB.nextState * max 0 request := by
  obtain ⟨htick, _, hcommand⟩ := limit_and_command_num houtput hrequest
  have hnonneg := self.runtime.permitted_nonneg output.tick request
  have hshare := self.runtime.permitted_le_share output.tick request
  rw [← htick] at hshare
  rw [hcommand] at hfinal
  split at hfinal
  · obtain rfl := WithNaN.num.inj hfinal
    exact hnonneg.trans hshare
  · obtain rfl := WithNaN.num.inj hfinal
    exact hshare

/-- The bridge is a pure limiter. In every state of the loop, an iteration that ticks with a
throttle request that is a number has a limit that is not negative. The throttle that it writes
is zero under a hardware fault, in `ABSENT` and under an effective override. It is never negative
and at most the positive part of the request, at most 0.6 of it in `WARNING` and at most 0.2 of it
in `ESCALATION`, and it is that part in `OK` without a fault or an override. -/
theorem bridge_limits (houtput : ((bridge config).step self input).1 = some output) {request : ℚ}
    (hrequest : (self.read input).lkasSample.lkasThrottle = .num request) :
    ∃ limit final : ℚ, output.output.stepC.throttleLimit = .num limit ∧
      output.command.finalThrottle = .num final ∧ 0 ≤ limit ∧
      ((self.read input).speedSample.hardwareFault ≠ 0 ∨
        output.output.stepB.nextState = .absent ∨ self.runtime.Overridden output.tick →
          final = 0) ∧
      0 ≤ final ∧ final ≤ 1 * max 0 request ∧
      (output.output.stepB.nextState = .warning → final ≤ 0.6 * max 0 request) ∧
      (output.output.stepB.nextState = .escalation → final ≤ 0.2 * max 0 request) ∧
      (output.output.stepB.nextState = .ok → (self.read input).speedSample.hardwareFault = 0 →
        ¬ self.runtime.Overridden output.tick → final = max 0 request) := by
  obtain ⟨htick, hlimit, hcommand⟩ := limit_and_command_num houtput hrequest
  have hnonneg := self.runtime.permitted_nonneg output.tick request
  have hrequested := self.runtime.permitted_le_request output.tick request
  obtain ⟨final, hfinal, hzero, hbounds, hwhole⟩ :
      ∃ final, output.command.finalThrottle = .num final ∧
        ((self.read input).speedSample.hardwareFault ≠ 0 ∨
          output.output.stepB.nextState = .absent ∨ self.runtime.Overridden output.tick →
            final = 0) ∧
        (0 ≤ final ∧ final ≤ max 0 request) ∧
        (output.output.stepB.nextState = .ok → (self.read input).speedSample.hardwareFault = 0 →
          ¬ self.runtime.Overridden output.tick → final = max 0 request) := by
    by_cases hfault : (self.read input).speedSample.hardwareFault ≠ 0
    · rw [if_pos hfault] at hcommand
      exact ⟨0, hcommand, fun _ => rfl, ⟨le_rfl, le_max_left 0 request⟩,
        fun _ hnone => absurd hnone hfault⟩
    · rw [if_neg hfault] at hcommand
      refine ⟨_, hcommand, ?_, ⟨hnonneg, hrequested⟩, ?_⟩
      · intro hzero
        have hstopped : self.runtime.Overridden output.tick ∨
            (self.runtime.tick output.tick).1.stepB.nextState = .absent := by
          rw [← htick]
          exact (hzero.resolve_left hfault).symm
        exact if_pos hstopped
      · intro hok _ hoverride
        rw [htick] at hok
        exact PolicyRuntime.permitted_ok hok hoverride request
  have hshare := final_throttle_le_share houtput hrequest hfinal
  refine ⟨_, final, hlimit, hfinal, hnonneg, hzero, hbounds.1, ?_, ?_, ?_, hwhole⟩
  · rw [one_mul]
    exact hbounds.2
  · intro hwarning
    rw [hwarning] at hshare
    exact hshare
  · intro hescalation
    rw [hescalation] at hshare
    exact hshare

/-- An iteration that reads an inattentive driver and a request for half of the throttle. -/
def requestHalf : BridgeInput :=
  { speed := some {}
    lkas := some { lkasThrottle := .num 0.5 }
    perception := some { isAttentive := 0 }
    graceNowUs := 3500000
    tickNowUs := 3500000
    outNowUs := 3500000 }

/-- The output of an iteration whose delta is long enough for `WARNING` at standstill. -/
def warnedHalf : BridgeOutput :=
  (((BridgeState.start { deltaS := 3.5 } 0).read requestHalf).tickAndSend { deltaS := 3.5 }
    requestHalf).1

/-- In `WARNING` the bridge writes at most three fifths of the request. -/
theorem bridge_limits_warning :
    warnedHalf.output.stepB.nextState = .warning ∧
      ∃ final : ℚ, warnedHalf.command.finalThrottle = .num final ∧ 0 ≤ final ∧
        final ≤ 0.6 * 0.5 := by
  have hstep : ((bridge { deltaS := 3.5 }).step (.start { deltaS := 3.5 } 0) requestHalf).1 =
      some warnedHalf := rfl
  have hrequest : ((BridgeState.start { deltaS := 3.5 } 0).read
      requestHalf).lkasSample.lkasThrottle = .num 0.5 := rfl
  have hwarning : warnedHalf.output.stepB.nextState = .warning := by decide +kernel
  obtain ⟨_, final, _, hfinal, _, _, hnonneg, _, hshare, _⟩ := bridge_limits hstep hrequest
  exact ⟨hwarning, final, hfinal, hnonneg, (hshare hwarning).trans (by decide +kernel)⟩

end DcasPolicyEngine
