import DcasPolicyEngine.Bridge.Limiter

/-!
# Valid commands

A command that is marked valid should carry a number, and zero in `ABSENT`. The limit of Step C is a
number whatever is requested, but the bridge clamps the requested throttle itself, and a clamp lets
NaN through. `valid_command_iff` says that this is the only way to a valid command that is not a
number, and `valid_commands_iff` says it of runs.
-/

namespace DcasPolicyEngine

/-- A command that is marked valid carries a number, and zero in `ABSENT`. -/
def BridgeOutput.SafeWhenValid (output : BridgeOutput) : Prop :=
  output.command.isValid = 1 →
    (∃ final : ℚ, output.command.finalThrottle = .num final) ∧
      (output.output.stepB.nextState = .absent → output.command.finalThrottle = .num 0)

namespace BridgeState

/-- The iteration ticks: iterations are left, and a speed and an LKAS sample have been read. -/
def Ticks (self : BridgeState) (input : BridgeInput) : Prop :=
  self.iterations ≠ 0 ∧ (self.readSamples input).haveSpeed = true ∧
    (self.readSamples input).haveLkas = true

instance (self : BridgeState) (input : BridgeInput) : Decidable (self.Ticks input) :=
  inferInstanceAs (Decidable (_ ∧ _ ∧ _))

/-- The iteration ticks with an LKAS throttle that is not a number, and without a hardware
fault. -/
def PassesNaN (self : BridgeState) (input : BridgeInput) : Prop :=
  self.Ticks input ∧ (self.read input).lkasSample.lkasThrottle = .nan ∧
    (self.read input).speedSample.hardwareFault = 0

instance (self : BridgeState) (input : BridgeInput) : Decidable (self.PassesNaN input) :=
  inferInstanceAs (Decidable (_ ∧ _ ∧ _))

variable {config : BridgeConfig} {self : BridgeState} {input : BridgeInput}

/-- An iteration has an output exactly when it ticks. -/
theorem iterate_output_eq (config : BridgeConfig) (self : BridgeState) (input : BridgeInput) :
    (iterate config self input).1 =
      if self.Ticks input then some ((self.read input).tickAndSend config input).1 else none := by
  unfold iterate
  split
  · next hleft => exact (if_neg fun hticks : self.Ticks input => hticks.1 hleft).symm
  · next hleft =>
      dsimp only
      split
      · next hmissing =>
          refine (if_neg fun hticks : self.Ticks input => ?_).symm
          simp [hticks.2.1, hticks.2.2] at hmissing
      · next hpresent =>
          have hticks : self.Ticks input := ⟨hleft, by simpa using hpresent⟩
          exact (if_pos hticks).symm

end BridgeState

variable {config : BridgeConfig} {self : BridgeState} {input : BridgeInput}
  {output : BridgeOutput}

/-- What an iteration that ticks marks as valid. -/
theorem is_valid_eq_one_iff (houtput : ((bridge config).step self input).1 = some output) :
    output.command.isValid = 1 ↔ (self.read input).speedSample.hardwareFault = 0 := by
  rw [output_eq_tick_and_send houtput]
  show (if _ then _ else _) = _ ↔ _
  by_cases hfault : (self.read input).speedSample.hardwareFault = 0
  · simp [hfault]
  · simp [hfault]

/-- A throttle that is not a number is written as it is. -/
theorem final_throttle_nan (houtput : ((bridge config).step self input).1 = some output)
    (hnan : (self.read input).lkasSample.lkasThrottle = .nan)
    (hfault : (self.read input).speedSample.hardwareFault = 0) :
    output.command.finalThrottle = .nan := by
  rw [output_eq_tick_and_send houtput]
  show (if (self.read input).speedSample.hardwareFault ≠ 0 then _ else
    WithNaN.stdClamp (self.read input).lkasSample.lkasThrottle _ _) = _
  rw [if_neg (not_not.mpr hfault), hnan, WithNaN.std_clamp_nan]

/-- A throttle that is a number is clamped to a number, and to zero in `ABSENT`. -/
theorem safe_of_num (houtput : ((bridge config).step self input).1 = some output) {request : ℚ}
    (hrequest : (self.read input).lkasSample.lkasThrottle = .num request) :
    output.SafeWhenValid := by
  obtain ⟨htick, _, hfinal⟩ := limit_and_command_num houtput hrequest
  intro hvalid
  have hfault := (is_valid_eq_one_iff houtput).mp hvalid
  rw [if_neg (not_not.mpr hfault)] at hfinal
  refine ⟨⟨_, hfinal⟩, ?_⟩
  intro habsent
  rw [htick] at habsent
  rw [hfinal, PolicyRuntime.permitted, if_pos (.inr habsent)]

/-- The command of an iteration is safe when it is valid, exactly when the iteration does not pass
NaN. -/
theorem valid_command_iff (config : BridgeConfig) (self : BridgeState) (input : BridgeInput) :
    (∀ output, ((bridge config).step self input).1 = some output → output.SafeWhenValid) ↔
      ¬ self.PassesNaN input := by
  constructor
  · intro hsafe hpasses
    obtain ⟨hticks, hnan, hfault⟩ := hpasses
    have houtput : ((bridge config).step self input).1 =
        some ((self.read input).tickAndSend config input).1 :=
      (BridgeState.iterate_output_eq config self input).trans (if_pos hticks)
    obtain ⟨⟨final, hfinal⟩, _⟩ :=
      hsafe _ houtput ((is_valid_eq_one_iff houtput).mpr hfault)
    rw [final_throttle_nan houtput hnan hfault] at hfinal
    cases hfinal
  · intro hpasses output houtput
    cases hthrottle : (self.read input).lkasSample.lkasThrottle with
    | num request => exact safe_of_num houtput hthrottle
    | nan =>
        intro hvalid
        have hticks : self.Ticks input := by
          by_contra hnot
          have hnone := (BridgeState.iterate_output_eq config self input).trans (if_neg hnot)
          rw [show (BridgeState.iterate config self input).1 = some output from houtput] at hnone
          cases hnone
        exact absurd ⟨hticks, hthrottle, (is_valid_eq_one_iff houtput).mp hvalid⟩ hpasses

/-- In every run of the bridge, all commands that are marked valid carry a number, and zero in
`ABSENT`, exactly when no iteration ticks without a hardware fault and with an LKAS throttle that is
not a number. -/
theorem valid_commands_iff (config : BridgeConfig) (startupUs : UInt64)
    (inputs : List BridgeInput) :
    (∀ e ∈ (bridge config).trace (.start config startupUs) inputs,
        ∀ output, e.output = some output → output.SafeWhenValid) ↔
      ∀ e ∈ (bridge config).trace (.start config startupUs) inputs,
        ¬ e.before.PassesNaN e.input := by
  refine forall₂_congr ?_
  intro e he
  rw [(bridge config).event_of_mem_trace he]
  exact valid_command_iff config e.before e.input

/-- An iteration that reads `INTOXICATED` and an LKAS throttle that is not a number. -/
def requestNaN : BridgeInput :=
  { speed := some {}
    lkas := some { lkasThrottle := .nan }
    perception := some { isAttentive := 1, reason := 4 }
    graceNowUs := 3500000
    tickNowUs := 3500000
    outNowUs := 3500000 }

/-- The first command is marked valid and carries NaN, in `ABSENT` and with a limit of zero. -/
theorem valid_command_nan :
    ∃ output, ((bridge {}).step (.start {} 0) requestNaN).1 = some output ∧
      output.command.isValid = 1 ∧ output.output.stepB.nextState = .absent ∧
      output.output.stepC.throttleLimit = .num 0 ∧ output.command.finalThrottle = .nan ∧
      ¬ output.SafeWhenValid := by
  have hvalid : (((BridgeState.start {} 0).read requestNaN).tickAndSend {}
      requestNaN).1.command.isValid = 1 := by decide +kernel
  have hnan : (((BridgeState.start {} 0).read requestNaN).tickAndSend {}
      requestNaN).1.command.finalThrottle = .nan := by decide +kernel
  refine ⟨_, rfl, hvalid, by decide +kernel, by decide +kernel, hnan, ?_⟩
  intro hsafe
  obtain ⟨⟨final, hfinal⟩, _⟩ := hsafe hvalid
  cases hnan.symm.trans hfinal

end DcasPolicyEngine
