import DcasPolicyEngine.Runtime.LkasFeedback

/-!
# The real-time bridge

`iterate` is one iteration of the main loop of `dcas_rt_bridge`: it reads the shared memory and
the clock, ticks the runtime and returns what it writes and sends. What the reads return is the
input of the iteration. An iteration that lacks a speed or an LKAS sample ends before the tick.
`bridge` is the machine of the iterations and `fed_run` says that its ticks are a run of the fed
runtime.
-/

namespace DcasPolicyEngine

/-! ## Samples in shared memory -/

/-- `ActuatorToDcasSample`. -/
structure ActuatorToDcasSample where
  currentSpeedKmh : Double := .num 0
  hardwareFault : UInt32 := 0

/-- `LkasToDcasSample`. -/
structure LkasToDcasSample where
  lkasThrottle : Double := .num 0
  lkasSteering : Double := .num 0

/-- `PerceptionToDcasSample`. -/
structure PerceptionToDcasSample where
  isAttentive : UInt32 := 0
  cameraBlocked : UInt32 := 0
  reason : UInt32 := 0
  deriving DecidableEq

/-- `DcasToActuatorSample`. -/
structure DcasToActuatorSample where
  timestampUs : UInt64 := 0
  finalThrottle : Double := .num 0
  finalSteering : Double := .num 0
  isValid : UInt32 := 0

/-- `MrmEvent`. -/
structure MrmEvent where
  mrmRequest : Bool
  targetMode : UInt8

/-- The cast of the 32-bit reason field. -/
def Reason.ofCode (code : UInt32) : Reason :=
  if h : 7 ≤ code.toNat then
    .unnamed ⟨code.toNat - 7, by
      have := code.toNat_lt
      omega⟩
  else
    match code.toNat with
    | 0 => .none
    | 1 => .phone
    | 2 => .drowsy
    | 3 => .unresponsive
    | 4 => .intoxicated
    | 5 => .unknown
    | _ => .blockedCamera

/-- The cast of an LKAS mode to the byte of the MRM event. -/
def LkasMode.toUInt8 : LkasMode → UInt8
  | .off => 0
  | .onInactive => 1
  | .onActive => 2

/-- `speed_to_jetracer_input`, which computes with `float`s. -/
def speedToJetracerInput (speedKmh : Double) : Double :=
  let maxKmh : Double := .num 40
  let scaled := ((speedKmh * .num (toFloat 0.4)).map toFloat / maxKmh).map toFloat
  if scaled < .num 0 then .num 0
  else if .num (toFloat 0.4) < scaled then .num (toFloat 0.4)
  else scaled

/-! ## The loop -/

/-- The options of the command line that the loop uses. -/
structure BridgeConfig where
  notebookInputAlive : Bool := true
  driverOverride : Bool := false
  deltaS : ℚ := literal 0.02
  iterations : ℤ := -1
  lkasMode : LkasMode := .onActive

/-- What one iteration reads: the samples that are new, and the three readings of the clock, for
the grace period, for the tick and for the command. -/
structure BridgeInput where
  speed : Option ActuatorToDcasSample := none
  lkas : Option LkasToDcasSample := none
  perception : Option PerceptionToDcasSample := none
  graceNowUs : UInt64 := 0
  tickNowUs : UInt64 := 0
  outNowUs : UInt64 := 0

/-- What one iteration ticks, writes and sends. -/
structure BridgeOutput where
  tick : RuntimeTickInput
  output : RuntimeTickOutput
  command : DcasToActuatorSample
  mrmEvent : Option MrmEvent
  status : String

/-- The variables of the loop. -/
structure BridgeState where
  runtime : PolicyRuntime
  lkasMode : LkasMode
  iterations : ℤ
  speedSample : ActuatorToDcasSample := {}
  lkasSample : LkasToDcasSample := {}
  haveSpeed : Bool := false
  haveLkas : Bool := false
  tickIsAttentive : Bool := true
  tickReason : Reason := .none
  tickCameraBlocked : Bool := false
  startupUs : UInt64

/-- `kGracePeriodUs`. -/
def gracePeriodUs : UInt64 := 3000000

/-- `tick_ts`. -/
def BridgeInput.tickTs (input : BridgeInput) : ℤ := (input.tickNowUs / 1000).toNat

namespace BridgeState

/-- The variables before the loop. -/
def start (config : BridgeConfig) (startupUs : UInt64) : BridgeState :=
  { runtime := (PolicyRuntime.new 1).resetForNewRunCycle 1
    lkasMode := config.lkasMode
    iterations := config.iterations
    startupUs := startupUs }

/-- Read the speed and the LKAS sample. -/
def readSamples (self : BridgeState) (input : BridgeInput) : BridgeState :=
  let self :=
    match input.speed with
    | some sample => { self with speedSample := sample, haveSpeed := true }
    | none => self
  match input.lkas with
  | some sample => { self with lkasSample := sample, haveLkas := true }
  | none => self

/-- Read the perception sample, after the grace period. -/
def readPerception (self : BridgeState) (input : BridgeInput) : BridgeState :=
  if input.graceNowUs - self.startupUs ≥ gracePeriodUs then
    -- without a new sample the last values are held
    match input.perception with
    | some sample =>
        { self with
          tickIsAttentive := sample.isAttentive ≠ 0
          tickReason := .ofCode sample.reason
          tickCameraBlocked := sample.cameraBlocked ≠ 0 }
    | none => self
  else self

/-- The tick. The source leaves `camera_blocked_ts_ms` at its default. -/
def tickInput (self : BridgeState) (config : BridgeConfig) (input : BridgeInput) :
    RuntimeTickInput :=
  { stepB :=
      { perception :=
          { isAttentive := self.tickIsAttentive
            isAttentiveTsMs := input.tickTs
            reason := self.tickReason
            reasonTsMs := input.tickTs
            cameraBlocked := self.tickCameraBlocked }
        jetracerInput04 := speedToJetracerInput self.speedSample.currentSpeedKmh
        deltaS := config.deltaS }
    stepC :=
      { previousLkasMode := self.lkasMode
        lkasSwitchEvent := .none
        notebookInputAlive := config.notebookInputAlive
        driverOverride := config.driverOverride
        lkasThrottle := self.lkasSample.lkasThrottle } }

/-- The command for the actuator. -/
def command (self : BridgeState) (input : BridgeInput) (output : RuntimeTickOutput) :
    DcasToActuatorSample :=
  { timestampUs := input.outNowUs
    finalThrottle :=
      if self.speedSample.hardwareFault ≠ 0 then .num 0
      else WithNaN.stdClamp self.lkasSample.lkasThrottle (.num 0) output.stepC.throttleLimit
    finalSteering := self.lkasSample.lkasSteering
    isValid := if self.speedSample.hardwareFault ≠ 0 then 0 else 1 }

/-- The MRM event, sent while the MRM is active. -/
def mrmEvent (output : RuntimeTickOutput) : Option MrmEvent :=
  if output.stepC.mrmActive then
    some { mrmRequest := true, targetMode := output.stepC.nextLkasMode.toUInt8 }
  else none

/-- The published status. -/
def status (self : BridgeState) (output : RuntimeTickOutput) : String :=
  "\x7b\"driver_state\":\"" ++ output.stepB.nextState.toString ++
    "\",\"hmi_action\":\"" ++ output.stepC.hmiAction.toString ++
    "\",\"lkas_mode\":\"" ++ output.stepC.nextLkasMode.toString ++
    "\",\"reason\":\"" ++ output.stepB.reason.toString ++
    "\",\"mrm_active\":" ++ (if output.stepC.mrmActive then "true" else "false") ++
    ",\"is_attentive\":" ++ (if self.tickIsAttentive then "true" else "false") ++ "\x7d"

/-- The part of an iteration after the reads. -/
def tickAndSend (self : BridgeState) (config : BridgeConfig) (input : BridgeInput) :
    BridgeOutput × BridgeState :=
  let tick := self.tickInput config input
  let (output, runtime) := self.runtime.tick tick
  ({ tick := tick
     output := output
     command := self.command input output
     mrmEvent := mrmEvent output
     status := self.status output },
   { self with
     runtime := runtime
     lkasMode := output.stepC.nextLkasMode
     iterations := if self.iterations > 0 then self.iterations - 1 else self.iterations })

/-- One iteration of the loop, which ends when no iterations are left. -/
def iterate (config : BridgeConfig) (self : BridgeState) (input : BridgeInput) :
    Option BridgeOutput × BridgeState :=
  if self.iterations = 0 then (none, self)
  else
    let self := self.readSamples input
    if !self.haveSpeed || !self.haveLkas then (none, self)
    else
      let (output, self) := (self.readPerception input).tickAndSend config input
      (some output, self)

end BridgeState

/-- The loop as a machine. -/
def bridge (config : BridgeConfig) : Machine BridgeState BridgeInput (Option BridgeOutput) :=
  ⟨BridgeState.iterate config⟩

/-! ## The ticks of the bridge -/

/-- The ticks that the bridge performs while it reads the inputs. -/
def bridgeTicks (config : BridgeConfig) (self : BridgeState) (inputs : List BridgeInput) :
    List RuntimeTickInput :=
  ((bridge config).outputs self inputs).flatMap fun output =>
    (output.map BridgeOutput.tick).toList

namespace BridgeState

/-- The runtime and the LKAS mode of the loop. -/
def fed (self : BridgeState) : FedRuntime := { runtime := self.runtime, lkasMode := self.lkasMode }

variable {config : BridgeConfig} {self : BridgeState} {input : BridgeInput}

@[simp] theorem read_samples_fed : (self.readSamples input).fed = self.fed := by
  unfold readSamples
  cases input.speed <;> cases input.lkas <;> rfl

@[simp] theorem read_perception_fed : (self.readPerception input).fed = self.fed := by
  unfold readPerception
  split
  · cases input.perception <;> rfl
  · rfl

/-- The state of the loop after the reads of an iteration. -/
def read (self : BridgeState) (input : BridgeInput) : BridgeState :=
  (self.readSamples input).readPerception input

@[simp] theorem read_fed : (self.read input).fed = self.fed := by
  rw [read, read_perception_fed, read_samples_fed]

/-- An iteration performs no tick, or it ticks after the reads. -/
theorem iterate_cases (config : BridgeConfig) (self : BridgeState) (input : BridgeInput) :
    ((iterate config self input).1 = none ∧ (iterate config self input).2.fed = self.fed) ∨
      iterate config self input =
        (some ((self.read input).tickAndSend config input).1,
          ((self.read input).tickAndSend config input).2) := by
  unfold iterate
  split
  · exact .inl ⟨rfl, rfl⟩
  · dsimp only
    split
    · exact .inl ⟨rfl, read_samples_fed⟩
    · exact .inr rfl

/-- The tick of an iteration is a tick of the fed runtime. -/
theorem tick_and_send_fed (config : BridgeConfig) (self : BridgeState) (input : BridgeInput) :
    fedRuntime.step self.fed (.tick ((self.read input).tickInput config input)) =
      (some ((self.read input).tickAndSend config input).1.output,
        ((self.read input).tickAndSend config input).2.fed) := by
  have hfed : (self.read input).fed = self.fed := read_fed
  rw [← hfed]
  rfl

end BridgeState

variable {config : BridgeConfig} {self : BridgeState}

/-- An iteration with an output has ticked after its reads. -/
theorem output_eq_tick_and_send {input : BridgeInput} {output : BridgeOutput}
    (houtput : (BridgeState.iterate config self input).1 = some output) :
    output = ((self.read input).tickAndSend config input).1 := by
  rcases BridgeState.iterate_cases config self input with ⟨hnone, _⟩ | htick
  · rw [hnone] at houtput
    cases houtput
  · rw [htick] at houtput
    exact (Option.some.inj houtput).symm

/-- The reads leave the runtime alone. -/
@[simp] theorem BridgeState.read_runtime (self : BridgeState) (input : BridgeInput) :
    (self.read input).runtime = self.runtime :=
  congrArg FedRuntime.runtime BridgeState.read_fed

/-- An iteration with an output has ticked the runtime on the input that the output shows. -/
theorem tick_of_output {input : BridgeInput} {output : BridgeOutput}
    (houtput : (BridgeState.iterate config self input).1 = some output) :
    output.tick = (self.read input).tickInput config input ∧
      output.output = (self.runtime.tick output.tick).1 ∧
      (BridgeState.iterate config self input).2.runtime = (self.runtime.tick output.tick).2 := by
  rcases BridgeState.iterate_cases config self input with ⟨hnone, _⟩ | htick
  · rw [hnone] at houtput
    cases houtput
  · rw [output_eq_tick_and_send houtput, htick, ← BridgeState.read_runtime self input]
    exact ⟨rfl, rfl, rfl⟩

theorem bridge_ticks_cons (input : BridgeInput) (inputs : List BridgeInput) :
    bridgeTicks config self (input :: inputs) =
      ((BridgeState.iterate config self input).1.map BridgeOutput.tick).toList ++
        bridgeTicks config (BridgeState.iterate config self input).2 inputs := rfl

/-- Every run of the bridge is a run of the fed runtime on the ticks of the bridge. -/
theorem fed_run (config : BridgeConfig) (self : BridgeState) (inputs : List BridgeInput) :
    ((bridge config).run self inputs).fed =
      fedRuntime.run self.fed ((bridgeTicks config self inputs).map .tick) := by
  induction inputs generalizing self with
  | nil => rfl
  | cons input inputs ih =>
      rw [bridge_ticks_cons]
      rcases BridgeState.iterate_cases config self input with ⟨hnone, hfed⟩ | htick
      · -- no tick: neither the runtime nor the kept mode changes
        show ((bridge config).run (BridgeState.iterate config self input).2 inputs).fed = _
        rw [ih, hfed, hnone]
        rfl
      · have hstep := BridgeState.tick_and_send_fed config self input
        show ((bridge config).run (BridgeState.iterate config self input).2 inputs).fed = _
        rw [ih, htick]
        show _ = fedRuntime.run
          (fedRuntime.step self.fed (.tick ((self.read input).tickInput config input))).2 _
        rw [hstep]
        rfl

/-- The runtime of the bridge is reachable at every point. -/
theorem bridge_reachable (config : BridgeConfig) (startupUs : UInt64)
    (inputs : List BridgeInput) :
    ((bridge config).run (.start config startupUs) inputs).runtime.Reachable := by
  show ((bridge config).run (.start config startupUs) inputs).fed.runtime.Reachable
  rw [fed_run]
  exact FedRuntime.reachable_run (.new 1) _

end DcasPolicyEngine
