import DcasPolicyEngine.Runtime.Invariants

/-!
# The mock runner

`main.cpp` repeats one tick with the values of the command line and prints a line for each. What
the iterations have between them is the runtime, the LKAS mode that the last tick returned, and the
switch event, which the first tick uses up. `runner` is the machine of the loop, which reads the
loop counter.
-/

namespace DcasPolicyEngine

/-- The variables that the command line sets. -/
structure RunnerOptions where
  isAttentive : Bool := false
  reason : Reason := .drowsy
  isAttentiveTsMs : ℤ := 1000
  reasonTsMs : ℤ := 1000
  reasonTsOverridden : Bool := false
  deltaS : ℚ := 2.5
  ticks : ℤ := 1
  jetracerInput04 : Double := .num (literal 0.2)
  lkasThrottle : Double := .num 0.5
  lkasMode : LkasMode := .onActive
  switchEvent : LkasSwitchEvent := .none
  driverOverride : Bool := false
  notebookAlive : Bool := true
  cameraBlocked : Bool := false
  cameraBlockedTsMs : ℤ := 0

/-- What the loop changes. -/
structure RunnerState where
  runtime : PolicyRuntime := .new 1
  lkasMode : LkasMode
  switchEvent : LkasSwitchEvent

/-- The fields of a printed line. -/
structure RunnerLine where
  tick : ℕ
  stepBNextState : DriverState
  reason : Reason
  absentLatched : Bool
  reengagementConfirmed200ms : Bool
  hmiAction : HmiAction
  nextLkasMode : LkasMode
  throttleLimit : Double
  mrmActive : Bool
  driverOverrideLock : Bool

namespace RunnerOptions

variable (options : RunnerOptions)

/-- `tick_ts`. -/
def tickTs (i : ℕ) : ℤ := options.isAttentiveTsMs + i

/-- `reason_ts_ms` of a tick. -/
def tickReasonTs (i : ℕ) : ℤ :=
  if options.reasonTsOverridden then options.reasonTsMs else options.tickTs i

/-- `tick.step_b`, which no earlier tick has a part in. -/
def stepBInput (i : ℕ) : StepBInput :=
  { perception :=
      { isAttentive := options.isAttentive
        isAttentiveTsMs := options.tickTs i
        reason := options.reason
        reasonTsMs := options.tickReasonTs i
        cameraBlocked := options.cameraBlocked
        cameraBlockedTsMs := options.cameraBlockedTsMs }
    jetracerInput04 := options.jetracerInput04
    deltaS := options.deltaS }

end RunnerOptions

namespace RunnerState

/-- The variables before the loop. -/
def start (options : RunnerOptions) : RunnerState :=
  { lkasMode := options.lkasMode, switchEvent := options.switchEvent }

/-- `tick`. -/
def tickInput (self : RunnerState) (options : RunnerOptions) (i : ℕ) : RuntimeTickInput :=
  { stepB := options.stepBInput i
    stepC :=
      { previousLkasMode := self.lkasMode
        lkasSwitchEvent := self.switchEvent
        notebookInputAlive := options.notebookAlive
        driverOverride := options.driverOverride
        lkasThrottle := options.lkasThrottle } }

/-- One iteration and the line that it prints. -/
def iterate (options : RunnerOptions) (self : RunnerState) (i : ℕ) : RunnerLine × RunnerState :=
  let (output, runtime) := self.runtime.tick (self.tickInput options i)
  ({ tick := i
     stepBNextState := output.stepB.nextState
     reason := output.stepB.reason
     absentLatched := output.stepB.absentLatchedRunCycle
     reengagementConfirmed200ms := output.stepB.reengagementConfirmed200ms
     hmiAction := output.stepC.hmiAction
     nextLkasMode := output.stepC.nextLkasMode
     throttleLimit := output.stepC.throttleLimit
     mrmActive := output.stepC.mrmActive
     driverOverrideLock := output.stepC.nextLatchedState.driverOverrideLock },
   { runtime := runtime
     lkasMode := output.stepC.nextLkasMode
     switchEvent := .none })

end RunnerState

/-- The loop as a machine. -/
def runner (options : RunnerOptions) : Machine RunnerState ℕ RunnerLine :=
  ⟨RunnerState.iterate options⟩

/-- The lines of a run of the program. -/
def runnerLines (options : RunnerOptions) : List RunnerLine :=
  (runner options).outputs (.start options) (List.range options.ticks.toNat)

end DcasPolicyEngine
