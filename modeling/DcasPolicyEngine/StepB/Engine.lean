import Mathlib.Data.Rat.Cast.Order
import DcasPolicyEngine.Machine.Run
import DcasPolicyEngine.Types

/-!
# Step B: the state transition engine

`evaluate` is `StepBTransitionEngine::Evaluate` with the perception adapter, the speed band
estimator, the threshold scheduler and the state store it uses. The three helpers hold no
state, so the engine is the function `evaluate`, and `stepB` is the machine that a store and
a sequence of inputs make of it. The rounding of the arithmetic is a parameter: what is called
without naming one is the engine with `double`s.
-/

namespace DcasPolicyEngine

open Rounding

variable [Rounding]

/-- `PerceptionAdapter::Normalize`. -/
def normalize (input : PerceptionInput) : NormalizedSnapshot :=
  { snapshotValid := true
    isAttentive := input.isAttentive
    reason := input.reason
    inputSnapshotTsMs := input.isAttentiveTsMs }

/-- `SpeedBandEstimator::Estimate`. A NaN fails both tests and is in the `high` band. -/
def estimate (jetracerInput04 : Double) : SpeedBand :=
  let clamped : Double :=
    if jetracerInput04 < .num 0 then .num 0
    else if .num (literal 0.4) < jetracerInput04 then .num (literal 0.4)
    else jetracerInput04
  let rhoV := (clamped / .num (literal 0.4)).map rounded
  if rhoV < .num (literal 0.30) then .low
  else if rhoV < .num (literal 0.65) then .mid
  else .high

/-- `ThresholdScheduler::Schedule`. -/
def schedule (speedBand : SpeedBand) : Thresholds :=
  let thresholds : Thresholds :=
    match speedBand with
    | .low => { tWarnEffS := 3, tEscEffS := 6, tAbsentEffS := 10 }
    | .mid => { tWarnEffS := 2, tEscEffS := 4, tAbsentEffS := 8 }
    | .high => { tWarnEffS := 1.5, tEscEffS := 3, tAbsentEffS := 6 }
  let thresholds :=
    if thresholds.tWarnEffS > 5 then { thresholds with tWarnEffS := 5 } else thresholds
  { thresholds with tRecoverHoldS := 3 }

/-! ## The state store -/

/-- `StateTimerStore`, whose only member is the Step B state. -/
abbrev StateTimerStore := StepBStateStore

namespace StateTimerStore

/-- `Get`. -/
def get (store : StateTimerStore) : StepBStateStore := store

/-- `Replace`. -/
def replace (_store : StateTimerStore) (state : StepBStateStore) : StateTimerStore := state

/-- `AdvanceInattentive`. -/
def advanceInattentive (store : StateTimerStore) (deltaS : ℚ) : StateTimerStore :=
  { store with
    inattentiveElapsedS := add store.inattentiveElapsedS (max 0 deltaS)
    recoverElapsedS := 0 }

/-- `AdvanceRecover`. -/
def advanceRecover (store : StateTimerStore) (deltaS : ℚ) : StateTimerStore :=
  { store with
    recoverElapsedS := add store.recoverElapsedS (max 0 deltaS)
    inattentiveElapsedS := 0 }

/-- `LatchAbsentRunCycle`. -/
def latchAbsentRunCycle (store : StateTimerStore) : StateTimerStore :=
  { store with absentLatchedRunCycle := true, currentState := .absent }

/-- `ResetForNewRunCycle`. -/
def resetForNewRunCycle (_store : StateTimerStore) : StateTimerStore := {}

end StateTimerStore

/-! ## Evaluation -/

/-- `StepBInput`. -/
structure StepBInput where
  perception : PerceptionInput := {}
  jetracerInput04 : Double := .num 0
  deltaS : ℚ := 0

/-- `StepBOutput`. -/
structure StepBOutput where
  nextState : DriverState := .ok
  reason : Reason := .none
  absentLatchedRunCycle : Bool := false
  inputSnapshotTsMs : ℤ := 0
  reengagementConfirmed200ms : Bool := false

/-- The state chosen from the advanced timers at the end of `Evaluate`. -/
def nextStateFromTimers (isAttentive : Bool) (thresholds : Thresholds)
    (state : StepBStateStore) : DriverState :=
  if isAttentive then
    if state.currentState ≠ .ok ∧ state.recoverElapsedS ≥ thresholds.tRecoverHoldS then .ok
    else state.currentState
  else if state.inattentiveElapsedS ≥ thresholds.tAbsentEffS then .absent
  else if state.inattentiveElapsedS ≥ thresholds.tEscEffS then .escalation
  else if state.inattentiveElapsedS ≥ thresholds.tWarnEffS then .warning
  else state.currentState

/-- The last part of `Evaluate`, which advances one timer and reads the next state off it. -/
def evaluateTimers (input : StepBInput) (snapshot : NormalizedSnapshot)
    (thresholds : Thresholds) (stateStore : StateTimerStore) :
    StepBOutput × StateTimerStore :=
  let stateStore :=
    if !snapshot.isAttentive then stateStore.advanceInattentive input.deltaS
    else stateStore.advanceRecover input.deltaS
  let state := stateStore.get
  let nextState := nextStateFromTimers snapshot.isAttentive thresholds state
  let state := { state with currentState := nextState }
  let state :=
    if nextState = .absent then { state with absentLatchedRunCycle := true } else state
  let stateStore := stateStore.replace state
  let effectiveReason :=
    if nextState = .ok ∨
        (snapshot.isAttentive ∧ state.recoverElapsedS ≥ thresholds.tRecoverHoldS) then .none
    else state.latestReason
  ({ nextState := nextState
     reason := effectiveReason
     absentLatchedRunCycle := state.absentLatchedRunCycle
     inputSnapshotTsMs := snapshot.inputSnapshotTsMs
     reengagementConfirmed200ms :=
       nextState ≠ .ok ∧ snapshot.isAttentive ∧ state.recoverElapsedS ≥ literal 0.2 },
   stateStore)

/-- The critical reason test of `Evaluate` and what follows it. `state` is the local copy of
the store. -/
def evaluateCritical (input : StepBInput) (snapshot : NormalizedSnapshot)
    (thresholds : Thresholds) (state : StepBStateStore) (stateStore : StateTimerStore) :
    StepBOutput × StateTimerStore :=
  if isCriticalReason state.latestReason then
    let stateStore := stateStore.latchAbsentRunCycle
    let state := stateStore.get
    ({ nextState := .absent
       reason := state.latestReason
       absentLatchedRunCycle := true
       inputSnapshotTsMs := snapshot.inputSnapshotTsMs
       reengagementConfirmed200ms := false },
     stateStore)
  else
    evaluateTimers input snapshot thresholds stateStore

/-- The time since the camera was first blocked, in seconds. The difference of two `int64_t` that
does not fit into one is undefined behaviour and out of scope. Rounding the quotient does not matter
(`absent_le_rounded_iff`). -/
def blockedElapsedS (perception : PerceptionInput) : ℚ :=
  ((normalize perception).inputSnapshotTsMs - perception.cameraBlockedTsMs : ℤ) / 1000

/-- `StepBTransitionEngine::Evaluate`: the output and the store it leaves behind. -/
def evaluate (input : StepBInput) (stateStore : StateTimerStore) :
    StepBOutput × StateTimerStore :=
  let snapshot := normalize input.perception
  let state := stateStore.get
  let thresholds := schedule (estimate input.jetracerInput04)
  if !snapshot.snapshotValid then
    ({ nextState := state.currentState
       reason := .none
       absentLatchedRunCycle := state.absentLatchedRunCycle
       inputSnapshotTsMs := 0
       reengagementConfirmed200ms := false },
     stateStore)
  else
    -- the reason is stored before the latch, the camera and the reason itself are tested
    let stateStore :=
      if snapshot.reason ≠ .none ∧ snapshot.reason ≠ .blockedCamera ∧
          input.perception.reasonTsMs ≥ state.latestReasonTsMs then
        stateStore.replace
          { state with
            latestReason := snapshot.reason
            latestReasonTsMs := input.perception.reasonTsMs }
      else stateStore
    let state := stateStore.get
    if state.absentLatchedRunCycle then
      let state := { state with currentState := .absent }
      ({ nextState := .absent
         reason := state.latestReason
         absentLatchedRunCycle := true
         inputSnapshotTsMs := snapshot.inputSnapshotTsMs
         reengagementConfirmed200ms := false },
       stateStore.replace state)
    else if input.perception.cameraBlocked then
      if blockedElapsedS input.perception ≥ thresholds.tAbsentEffS then
        let state := { state with latestReason := .blockedCamera }
        let stateStore := stateStore.replace state
        evaluateCritical input snapshot thresholds state stateStore
      else
        -- whatever state was held
        let state := { state with currentState := .warning }
        ({ nextState := .warning
           reason := .blockedCamera
           absentLatchedRunCycle := false
           inputSnapshotTsMs := snapshot.inputSnapshotTsMs
           reengagementConfirmed200ms := false },
         stateStore.replace state)
    else
      evaluateCritical input snapshot thresholds state stateStore

/-- Step B as a machine over its store. -/
def stepB : Machine StateTimerStore StepBInput StepBOutput :=
  ⟨fun store input => evaluate input store⟩

end DcasPolicyEngine
