import DcasPolicyEngine.Bridge.Loop
import DcasPolicyEngine.StepB.Timers

/-!
# Reason codes without a name

The bridge casts the reason field of the shared memory unchecked, so that a code above 6 becomes a
reason that no enumerator names. Such a reason behaves like `UNKNOWN`. `named` puts `UNKNOWN` in
its place in every part of the system, and each part does the same to named data: Step B, Step C,
the runtime and the loop of the bridge. `bridgeNamed` is the simulation that carries this to runs.
-/

namespace DcasPolicyEngine

/-! ## Data with named reasons -/

/-- `UNKNOWN` in the place of a reason without a name. -/
def Reason.named : Reason → Reason
  | .unnamed _ => .unknown
  | reason => reason

def PerceptionInput.named (perception : PerceptionInput) : PerceptionInput :=
  { perception with reason := perception.reason.named }

def StepBInput.named (input : StepBInput) : StepBInput :=
  { input with perception := input.perception.named }

def StepBStateStore.named (store : StepBStateStore) : StepBStateStore :=
  { store with latestReason := store.latestReason.named }

def StepBOutput.named (output : StepBOutput) : StepBOutput :=
  { output with reason := output.reason.named }

def RuntimeTickInput.named (input : RuntimeTickInput) : RuntimeTickInput :=
  { input with stepB := input.stepB.named }

/-- Of the output of Step C, only the dashboard shows the reason. -/
def RuntimeTickOutput.named (output : RuntimeTickOutput) : RuntimeTickOutput :=
  { stepB := output.stepB.named
    stepC :=
      { output.stepC with
        dashboardState :=
          { output.stepC.dashboardState with
            reason := output.stepC.dashboardState.reason.named } } }

/-- The reason is only in the store of Step B. -/
def PolicyRuntime.named (self : PolicyRuntime) : PolicyRuntime :=
  { self with stepBStateStore := StepBStateStore.named self.stepBStateStore }

/-! ## Reasons -/

namespace Reason

@[simp] theorem is_critical_reason_named (reason : Reason) :
    isCriticalReason reason.named = isCriticalReason reason := by
  cases reason <;> rfl

@[simp] theorem to_string_named (reason : Reason) :
    reason.named.toString = reason.toString := by
  cases reason <;> rfl

@[simp] theorem named_eq_none_iff (reason : Reason) : reason.named = .none ↔ reason = .none := by
  cases reason <;> simp [named]

@[simp] theorem named_eq_blocked_camera_iff (reason : Reason) :
    reason.named = .blockedCamera ↔ reason = .blockedCamera := by
  cases reason <;> simp [named]

@[simp] theorem named_eq_drowsy_iff (reason : Reason) :
    reason.named = .drowsy ↔ reason = .drowsy := by
  cases reason <;> simp [named]

end Reason

/-! ## Step B -/

/-- A report with a name is accepted exactly when the report is. -/
theorem accepts_reason_named (store : StateTimerStore) (perception : PerceptionInput) :
    AcceptsReason (StepBStateStore.named store) perception.named ↔
      AcceptsReason store perception := by
  simp [AcceptsReason, PerceptionInput.named, StepBStateStore.named]

/-- The reason update of named data. -/
theorem accept_reason_named (store : StateTimerStore) (perception : PerceptionInput) :
    acceptReason (StepBStateStore.named store) perception.named =
      StepBStateStore.named (acceptReason store perception) := by
  unfold acceptReason
  rw [if_congr (accepts_reason_named store perception) rfl rfl]
  split <;> rfl

/-- The reason that the critical exit stores for named data. -/
theorem critical_reason_named (input : StepBInput) (store : StateTimerStore) :
    criticalReason input.named (StepBStateStore.named store) =
      (criticalReason input store).named := by
  have haccept : acceptReason (StepBStateStore.named store) input.named.perception = _ :=
    accept_reason_named store input.perception
  have hblocked : input.named.perception.cameraBlocked = input.perception.cameraBlocked := rfl
  unfold criticalReason
  rw [haccept, hblocked]
  split <;> rfl

/-- Step B of named data. -/
theorem evaluate_named (input : StepBInput) (store : StateTimerStore) :
    evaluate input.named (StepBStateStore.named store) =
      ((evaluate input store).1.named, StepBStateStore.named (evaluate input store).2) := by
  have haccept : acceptReason (StepBStateStore.named store) input.named.perception = _ :=
    accept_reason_named store input.perception
  have hcritical : isCriticalReason (acceptReason (StepBStateStore.named store)
      input.named.perception).latestReason =
        isCriticalReason (acceptReason store input.perception).latestReason := by
    rw [haccept]
    exact Reason.is_critical_reason_named _
  -- nothing else that the exits look at reads the reason
  have hlatchEq : (StepBStateStore.named store).absentLatchedRunCycle =
      store.absentLatchedRunCycle := rfl
  have hblockedEq : input.named.perception.cameraBlocked = input.perception.cameraBlocked := rfl
  have hattentiveEq : input.named.perception.isAttentive = input.perception.isAttentive := rfl
  have hbelowIff : BlockedBelowAbsent input.named ↔ BlockedBelowAbsent input := Iff.rfl
  cases exits input store with
  | latched hlatch =>
      rw [evaluate_latched hlatch, evaluate_latched (hlatchEq.trans hlatch), haccept]
      rfl
  | camera hlatch hbelow =>
      rw [evaluate_camera hlatch hbelow,
        evaluate_camera (hlatchEq.trans hlatch) (hbelowIff.mpr hbelow), haccept]
      rfl
  | critical hlatch hbelow hstored =>
      rw [evaluate_critical hlatch hbelow hstored,
        evaluate_critical (hlatchEq.trans hlatch) (mt hbelowIff.mp hbelow)
          (hstored.imp_right hcritical.trans), haccept, critical_reason_named]
      rfl
  | timers hlatch hopen hnone =>
      cases hattentive : input.perception.isAttentive with
      | true =>
          rw [evaluate_attentive hlatch hopen hnone hattentive,
            evaluate_attentive (hlatchEq.trans hlatch) (hblockedEq.trans hopen)
              (hcritical.trans hnone) (hattentiveEq.trans hattentive), haccept]
          dsimp only [StepBOutput.named]
          rw [apply_ite Reason.named]
          rfl
      | false =>
          rw [evaluate_inattentive hlatch hopen hnone hattentive,
            evaluate_inattentive (hlatchEq.trans hlatch) (hblockedEq.trans hopen)
              (hcritical.trans hnone) (hattentiveEq.trans hattentive), haccept]
          dsimp only [StepBOutput.named]
          rw [apply_ite Reason.named]
          rfl

/-! ## Step C and the runtime -/

/-- Step C reads only from the reason whether it is `DROWSY`. -/
theorem StepC.evaluate_reason_named (input : StepCInput) :
    StepC.evaluate { input with reason := input.reason.named } =
      { StepC.evaluate input with
        dashboardState :=
          { (StepC.evaluate input).dashboardState with reason := input.reason.named } } := by
  have hoverlay : reasonOverlayGain input.driverState input.reason.named =
      reasonOverlayGain input.driverState input.reason :=
    StepC.reason_overlay_gain_congr input.driverState (Reason.named_eq_drowsy_iff input.reason)
  have hlimit : (StepC.evaluate { input with reason := input.reason.named }).throttleLimit =
      (StepC.evaluate input).throttleLimit := by
    rw [StepC.throttle_limit_eq_scaled, StepC.throttle_limit_eq_scaled]
    show (if StepC.Overridden input then _ else StepC.scaledThrottle _ _ input.reason.named) = _
    rw [StepC.scaledThrottle, StepC.scaledThrottle, hoverlay]
  rw [StepC.evaluate_with_reason, hlimit]

/-- A tick of named data. -/
theorem PolicyRuntime.tick_named (self : PolicyRuntime) (input : RuntimeTickInput) :
    self.named.tick input.named =
      ((self.tick input).1.named, (self.tick input).2.named) := by
  have hstep : evaluate input.named.stepB self.named.stepBStateStore =
      ((evaluate input.stepB self.stepBStateStore).1.named,
        StepBStateStore.named (evaluate input.stepB self.stepBStateStore).2) :=
    evaluate_named input.stepB self.stepBStateStore
  have hpolicy := StepC.evaluate_reason_named
    (self.stepCInput input.stepC (evaluate input.stepB self.stepBStateStore).1)
  have hinput : self.named.stepCInput input.named.stepC
      (evaluate input.stepB self.stepBStateStore).1.named =
        { self.stepCInput input.stepC (evaluate input.stepB self.stepBStateStore).1 with
          reason := (self.stepCInput input.stepC
            (evaluate input.stepB self.stepBStateStore).1).reason.named } := rfl
  unfold PolicyRuntime.tick
  rw [hstep]
  dsimp only
  rw [hinput, hpolicy]
  rfl

/-! ## The loop of the bridge -/

/-- A sample with the code of `UNKNOWN` in the place of a code above 6. -/
def PerceptionToDcasSample.named (sample : PerceptionToDcasSample) : PerceptionToDcasSample :=
  { sample with reason := if 6 < sample.reason then 5 else sample.reason }

def BridgeInput.named (input : BridgeInput) : BridgeInput :=
  { input with perception := input.perception.map PerceptionToDcasSample.named }

def BridgeOutput.named (output : BridgeOutput) : BridgeOutput :=
  { output with tick := output.tick.named, output := output.output.named }

/-- The loop holds the reason of its last read and the runtime. -/
def BridgeState.named (self : BridgeState) : BridgeState :=
  { self with runtime := self.runtime.named, tickReason := self.tickReason.named }

/-- The codes above 6 are those without a name. -/
theorem Reason.of_code_named (code : UInt32) :
    Reason.ofCode (if 6 < code then 5 else code) = (Reason.ofCode code).named := by
  by_cases hcode : 6 < code
  · have hunnamed : 7 ≤ code.toNat := UInt32.lt_iff_toNat_lt.mp hcode
    rw [if_pos hcode, Reason.ofCode, Reason.ofCode, dif_pos hunnamed]
    rfl
  · have hnamed : ¬ 7 ≤ code.toNat := fun hunnamed => hcode (UInt32.lt_iff_toNat_lt.mpr hunnamed)
    rw [if_neg hcode, Reason.ofCode, dif_neg hnamed]
    split <;> rfl

namespace BridgeState

variable (config : BridgeConfig) (self : BridgeState) (input : BridgeInput)

theorem read_samples_named :
    self.named.readSamples input.named = (self.readSamples input).named := by
  obtain ⟨speed, lkas⟩ := input
  cases speed <;> cases lkas <;> rfl

theorem read_perception_named :
    self.named.readPerception input.named = (self.readPerception input).named := by
  have hgrace : self.named.startupUs = self.startupUs := rfl
  have hnow : input.named.graceNowUs = input.graceNowUs := rfl
  unfold readPerception
  rw [hgrace, hnow]
  split
  · cases hperception : input.perception with
    | none => simp [BridgeInput.named, hperception]
    | some sample =>
        have hreason := Reason.of_code_named sample.reason
        simp only [BridgeInput.named, hperception, Option.map_some, named,
          PerceptionToDcasSample.named, hreason]
  · rfl

/-- The status does not tell a reason without a name from `UNKNOWN`. -/
theorem status_named (output : RuntimeTickOutput) :
    self.named.status output.named = self.status output := by
  have hreason : output.named.stepB.reason.toString = output.stepB.reason.toString :=
    Reason.to_string_named output.stepB.reason
  unfold status
  rw [hreason]
  rfl

/-- The part of an iteration after the reads, on named data. -/
theorem tick_and_send_named :
    self.named.tickAndSend config input.named =
      ((self.tickAndSend config input).1.named, (self.tickAndSend config input).2.named) := by
  have htick : self.named.runtime.tick (self.named.tickInput config input.named) =
      ((self.runtime.tick (self.tickInput config input)).1.named,
        (self.runtime.tick (self.tickInput config input)).2.named) :=
    PolicyRuntime.tick_named self.runtime (self.tickInput config input)
  unfold tickAndSend
  dsimp only
  rw [htick]
  dsimp only
  rw [status_named]
  rfl

/-- An iteration on named data. -/
theorem iterate_named :
    iterate config self.named input.named =
      ((iterate config self input).1.map BridgeOutput.named,
        (iterate config self input).2.named) := by
  have hiterations : self.named.iterations = self.iterations := rfl
  have hspeed : (self.readSamples input).named.haveSpeed = (self.readSamples input).haveSpeed := rfl
  have hlkas : (self.readSamples input).named.haveLkas = (self.readSamples input).haveLkas := rfl
  unfold iterate
  rw [hiterations, read_samples_named]
  dsimp only
  rw [hspeed, hlkas, read_perception_named, tick_and_send_named]
  split
  · rfl
  · split <;> rfl

end BridgeState

/-- The loop on named data simulates the loop. -/
def bridgeNamed (config : BridgeConfig) : Machine.Simulation (bridge config) (bridge config) where
  inv _ := True
  state := BridgeState.named
  input _ := BridgeInput.named
  output output := output.map BridgeOutput.named
  inv_step _ _ _ := trivial
  step_eq self input _ := BridgeState.iterate_named config self input

/-! ## What is visible -/

/-- What can be seen of an iteration from outside. -/
structure Visible where
  driverState : DriverState
  absentLatchedRunCycle : Bool
  throttleLimit : Double
  hmiAction : HmiAction
  lkasMode : LkasMode
  command : DcasToActuatorSample
  mrmEvent : Option MrmEvent
  status : String

/-- What can be seen of an output. -/
def BridgeOutput.visible (output : BridgeOutput) : Visible where
  driverState := output.output.stepB.nextState
  absentLatchedRunCycle := output.output.stepB.absentLatchedRunCycle
  throttleLimit := output.output.stepC.throttleLimit
  hmiAction := output.output.stepC.hmiAction
  lkasMode := output.output.stepC.nextLkasMode
  command := output.command
  mrmEvent := output.mrmEvent
  status := output.status

/-- For every run of the bridge, `UNKNOWN` in the place of every reason code above 6 leaves what is
visible of every iteration unchanged. -/
theorem unnamed_reason_invisible (config : BridgeConfig) (startupUs : UInt64)
    (inputs : List BridgeInput) :
    ((bridge config).outputs (.start config startupUs) (inputs.map BridgeInput.named)).map
        (Option.map BridgeOutput.visible) =
      ((bridge config).outputs (.start config startupUs) inputs).map
        (Option.map BridgeOutput.visible) := by
  have hinv : (bridgeNamed config).inv (.start config startupUs) := trivial
  have hruns := (bridgeNamed config).outputs_eq hinv inputs
  have hstart : (bridgeNamed config).state (.start config startupUs) =
      .start config startupUs := rfl
  have hinputs : (bridgeNamed config).inputs (.start config startupUs) inputs =
      inputs.map BridgeInput.named :=
    (bridgeNamed config).inputs_eq_map (fun _ _ => rfl) (.start config startupUs) inputs
  rw [hstart, hinputs] at hruns
  rw [hruns, List.map_map]
  refine List.map_congr_left ?_
  intro output _
  cases output <;> rfl

end DcasPolicyEngine
