import Mathlib.Data.Rat.Cast.Order
import DcasPolicyEngine.Types

/-!
# Step C: the policy engine

`StepC.evaluate` is `StepCPolicyEngine::Evaluate`: it maps the driver state to a throttle
limit, an HMI action and the LKAS mode, and updates the latched state of the run cycle.
-/

namespace DcasPolicyEngine

/-- `StepCInput`. -/
structure StepCInput where
  driverState : DriverState := .ok
  reason : Reason := .none
  notebookInputAlive : Bool := true
  driverOverride : Bool := false
  lkasThrottle : Double := .num 0
  previousLkasMode : LkasMode := .off
  lkasSwitchEvent : LkasSwitchEvent := .none
  reengagementConfirmed200ms : Bool := false
  currentManoeuvreType : ManoeuvreType := .none
  latchedState : StepCLatchedState := {}

/-- `StepCOutput`. -/
structure StepCOutput where
  throttleLimit : Double := .num 0
  hmiAction : HmiAction := .info
  mrmActive : Bool := false
  nextLkasMode : LkasMode := .off
  dashboardState : DashboardState := {}
  nextLatchedState : StepCLatchedState := {}

/-- `ApplySwitchEvent`. -/
def applySwitchEvent (currentMode : LkasMode) : LkasSwitchEvent → LkasMode
  | .on => if currentMode = .off then .onInactive else currentMode
  | .off => .off
  | .none => currentMode

/-- `BaseThrottleGain`. -/
def baseThrottleGain : DriverState → ℚ
  | .ok => 1
  | .warning => 0.6
  | .escalation => 0.2
  | .absent => 0

/-- `ReasonOverlayGain`. -/
def reasonOverlayGain (state : DriverState) (reason : Reason) : ℚ :=
  if (state = .warning ∨ state = .escalation) ∧ reason = .drowsy then 0.9 else 1

namespace StepC

/-- The LKAS mode after the switch event, the activation and the loss of a precondition. -/
def requestedLkasMode (input : StepCInput) : LkasMode :=
  let nextLkasMode := applySwitchEvent input.previousLkasMode input.lkasSwitchEvent
  let nextLkasMode :=
    if input.lkasSwitchEvent = .on ∧ input.driverState = .ok ∧ input.notebookInputAlive then
      .onActive
    else nextLkasMode
  if nextLkasMode = .onActive ∧
      (input.driverState ≠ .ok ∨ !input.notebookInputAlive) then
    .onInactive
  else nextLkasMode

/-- The driver override branch and the branch of the driver state. The mode requested so far
is in `output`, and so is the latched state. -/
def applyDriverState (input : StepCInput) (output : StepCOutput) : StepCOutput :=
  if input.driverOverride ∧ !output.nextLatchedState.driverOverrideLock then
    { output with
      nextLkasMode := .off
      throttleLimit := .num 0
      hmiAction := .info
      mrmActive := false }
  else
    let output :=
      { output with
        throttleLimit := WithNaN.stdMax (.num 0)
          (input.lkasThrottle * WithNaN.num (baseThrottleGain input.driverState) *
            WithNaN.num (reasonOverlayGain input.driverState input.reason)) }
    match input.driverState with
    | .ok => { output with hmiAction := .info }
    | .warning =>
        { output with hmiAction := if input.reengagementConfirmed200ms then .info else .eor }
    | .escalation =>
        { output with hmiAction := if input.reengagementConfirmed200ms then .info else .dca }
    | .absent =>
        { output with
          hmiAction := .mrm
          mrmActive := true
          throttleLimit := .num 0
          -- counted on every tick in `ABSENT`, not on the first one only
          nextLatchedState :=
            { output.nextLatchedState with
              mrmActivationCountRunCycle :=
                output.nextLatchedState.mrmActivationCountRunCycle + 1 } }

/-- The lockout test on the activation count. -/
def applyLockout (output : StepCOutput) : StepCOutput :=
  if output.nextLatchedState.mrmActivationCountRunCycle ≥ 2 then
    { output with
      nextLatchedState := { output.nextLatchedState with driverOverrideLock := true }
      nextLkasMode := .off }
  else output

/-- `StepCPolicyEngine::Evaluate`. -/
def evaluate (input : StepCInput) : StepCOutput :=
  let output : StepCOutput :=
    { nextLatchedState := input.latchedState, nextLkasMode := requestedLkasMode input }
  let output := applyLockout (applyDriverState input output)
  { output with
    dashboardState :=
      { driverState := input.driverState
        reason := input.reason
        lkasMode := output.nextLkasMode
        currentManoeuvreType := input.currentManoeuvreType } }

end StepC

end DcasPolicyEngine
