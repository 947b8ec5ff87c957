import DcasPolicyEngine.Bridge.Loop
import DcasPolicyEngine.Machine.Simulation
import DcasPolicyEngine.StepC.Policy

/-!
# The policy does not look at the actuation

The LKAS sample and the hardware fault pass through the loop on their way to the actuator. `policed`
takes them out of every part of the system, with all that is computed from them, and each part does
the same without them: Step C, the runtime and the loop. So the driver states, the modes, the HMI,
the MRM events and the status of a run are the same whatever LKAS asks for and whichever faults the
actuator reports.
-/

namespace DcasPolicyEngine

/-! ## Step C and the runtime -/

namespace StepC

/-- Nothing asked for leaves nothing. -/
theorem scaled_throttle_zero (state : DriverState) (reason : Reason) :
    scaledThrottle (.num 0) state reason = .num 0 := by
  rw [scaledThrottle]
  show WithNaN.stdMax (.num 0)
    (.num (0 * baseThrottleGain state * reasonOverlayGain state reason)) = .num 0
  rw [zero_mul, zero_mul]
  rfl

/-- Before the lockout test the throttle decides the limit only. -/
theorem decided_no_throttle (input : StepCInput) :
    decided { input with lkasThrottle := .num 0 } =
      { decided input with throttleLimit := .num 0 } := by
  have hmode : requestedLkasMode { input with lkasThrottle := .num 0 } =
    requestedLkasMode input := rfl
  have hlimit := scaled_throttle_zero input.driverState input.reason
  unfold scaledThrottle at hlimit
  unfold decided applyDriverState
  rw [hmode]
  dsimp only
  rw [hlimit]
  split
  · rfl
  · cases input.driverState <;> rfl

/-- Step C reads the throttle for the limit only. -/
theorem evaluate_no_throttle (input : StepCInput) :
    evaluate { input with lkasThrottle := .num 0 } =
      { evaluate input with throttleLimit := .num 0 } := by
  rw [evaluate_eq, evaluate_eq, decided_no_throttle, apply_lockout_with_throttle]

end StepC

/-- A tick without the throttle that LKAS asks for. -/
def RuntimeTickInput.policed (input : RuntimeTickInput) : RuntimeTickInput :=
  { input with stepC := { input.stepC with lkasThrottle := .num 0 } }

/-- What a tick returns without the throttle limit. -/
def RuntimeTickOutput.policed (output : RuntimeTickOutput) : RuntimeTickOutput :=
  { output with stepC := { output.stepC with throttleLimit := .num 0 } }

/-- The runtime keeps nothing of the throttle. -/
theorem PolicyRuntime.tick_policed (self : PolicyRuntime) (input : RuntimeTickInput) :
    self.tick input.policed = ((self.tick input).1.policed, (self.tick input).2) := by
  have hpolicy := StepC.evaluate_no_throttle
    (self.stepCInput input.stepC (evaluate input.stepB self.stepBStateStore).1)
  have hinput : self.stepCInput input.policed.stepC (evaluate input.stepB self.stepBStateStore).1 =
      { self.stepCInput input.stepC (evaluate input.stepB self.stepBStateStore).1 with
        lkasThrottle := .num 0 } := rfl
  have hstep : input.policed.stepB = input.stepB := rfl
  unfold PolicyRuntime.tick
  rw [hstep]
  dsimp only
  rw [hinput, hpolicy]
  rfl

/-! ## The loop of the bridge -/

/-- What an iteration reads, without the values of the LKAS sample and without the fault. -/
def BridgeInput.policed (input : BridgeInput) : BridgeInput :=
  { input with
    speed := input.speed.map fun sample => { sample with hardwareFault := 0 }
    lkas := input.lkas.map fun _ => {} }

/-- The loop without them. -/
def BridgeState.policed (self : BridgeState) : BridgeState :=
  { self with
    speedSample := { self.speedSample with hardwareFault := 0 }
    lkasSample := {} }

/-- An output without the throttle limit and without the command that is made of them. -/
def BridgeOutput.policed (output : BridgeOutput) : BridgeOutput :=
  { output with
    tick := output.tick.policed
    output := output.output.policed
    command := { timestampUs := output.command.timestampUs, isValid := 1 } }

namespace BridgeState

variable (config : BridgeConfig) (self : BridgeState) (input : BridgeInput)

theorem read_samples_policed :
    self.policed.readSamples input.policed = (self.readSamples input).policed := by
  obtain ⟨speed, lkas⟩ := input
  cases speed <;> cases lkas <;> rfl

theorem read_perception_policed :
    self.policed.readPerception input.policed = (self.readPerception input).policed := by
  have hgrace : self.policed.startupUs = self.startupUs := rfl
  have hnow : input.policed.graceNowUs = input.graceNowUs := rfl
  have hperception : input.policed.perception = input.perception := rfl
  unfold readPerception
  rw [hgrace, hnow, hperception]
  split
  · cases input.perception <;> rfl
  · rfl

/-- The part of an iteration after the reads. -/
theorem tick_and_send_policed :
    self.policed.tickAndSend config input.policed =
      ((self.tickAndSend config input).1.policed, (self.tickAndSend config input).2.policed) := by
  have htick : self.policed.runtime.tick (self.policed.tickInput config input.policed) =
      ((self.runtime.tick (self.tickInput config input)).1.policed,
        (self.runtime.tick (self.tickInput config input)).2) :=
    PolicyRuntime.tick_policed self.runtime (self.tickInput config input)
  unfold tickAndSend
  dsimp only
  rw [htick]
  rfl

/-- An iteration. -/
theorem iterate_policed :
    iterate config self.policed input.policed =
      ((iterate config self input).1.map BridgeOutput.policed,
        (iterate config self input).2.policed) := by
  have hiterations : self.policed.iterations = self.iterations := rfl
  have hspeed : (self.readSamples input).policed.haveSpeed = (self.readSamples input).haveSpeed :=
    rfl
  have hlkas : (self.readSamples input).policed.haveLkas = (self.readSamples input).haveLkas := rfl
  unfold iterate
  rw [hiterations, read_samples_policed]
  dsimp only
  rw [hspeed, hlkas, read_perception_policed, tick_and_send_policed]
  split
  · rfl
  · split <;> rfl

end BridgeState

/-- The loop without the actuation simulates the loop. -/
def bridgePoliced (config : BridgeConfig) : Machine.Simulation (bridge config) (bridge config) where
  inv _ := True
  state := BridgeState.policed
  input _ := BridgeInput.policed
  output output := output.map BridgeOutput.policed
  inv_step _ _ _ := trivial
  step_eq self input _ := BridgeState.iterate_policed config self input

/-- The policy part of the outputs of a run. -/
theorem outputs_policed (config : BridgeConfig) (startupUs : UInt64) (inputs : List BridgeInput) :
    ((bridge config).outputs (.start config startupUs) inputs).map
        (Option.map BridgeOutput.policed) =
      (bridge config).outputs (.start config startupUs) (inputs.map BridgeInput.policed) := by
  have hinv : (bridgePoliced config).inv (.start config startupUs) := trivial
  have hruns := (bridgePoliced config).outputs_eq hinv inputs
  have hstart : (bridgePoliced config).state (.start config startupUs) =
      .start config startupUs := rfl
  rw [hstart, (bridgePoliced config).inputs_eq_map (fun _ _ => rfl) _ inputs] at hruns
  exact hruns.symm

/-- Two runs of the bridge that differ in what the LKAS samples say and in the hardware faults only
have the same driver states, latches, HMI actions, modes, MRM events and status texts, in the same
iterations. -/
theorem actuator_isolation (config : BridgeConfig) (startupUs : UInt64)
    {first second : List BridgeInput}
    (hinputs : first.map BridgeInput.policed = second.map BridgeInput.policed) :
    ((bridge config).outputs (.start config startupUs) first).map
        (Option.map BridgeOutput.policed) =
      ((bridge config).outputs (.start config startupUs) second).map
        (Option.map BridgeOutput.policed) := by
  rw [outputs_policed, outputs_policed, hinputs]

/-- A full throttle and a fault leave the policy as it is without them. -/
theorem actuator_isolation_fault :
    ((bridge {}).outputs (.start {} 0)
        [{ speed := some { hardwareFault := 1 }, lkas := some { lkasThrottle := .num 1 } }]).map
        (Option.map BridgeOutput.policed) =
      ((bridge {}).outputs (.start {} 0) [{ speed := some {}, lkas := some {} }]).map
        (Option.map BridgeOutput.policed) :=
  actuator_isolation {} 0 rfl

end DcasPolicyEngine
