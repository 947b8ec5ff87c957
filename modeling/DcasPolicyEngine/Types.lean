import Mathlib.Data.Rat.Defs
import Mathlib.Order.BoundedOrder.Basic
import DcasPolicyEngine.Numeric.BinaryFormat
import DcasPolicyEngine.Numeric.WithNaN

/-!
# The data types of the policy engine

The enumerations and records of `types.hpp`. A `double` or `float` is the rational number that it
stands for, and what is computed from times and speeds is rounded. Throttle values are not rounded.
The two quantities that the bridge reads unchecked from shared memory, the speed and the LKAS
throttle, and what is computed from them can also be NaN. There are no infinities. Timestamps in
milliseconds are integers.
-/

namespace DcasPolicyEngine

/-- A `double` that may be NaN. -/
abbrev Double := WithNaN ℚ

/-- A number in the text of the source, which stands for the `double` next to it. -/
def literal (value : ℚ) : ℚ := BinaryFormat.binary64.nearest value

/-- The `float` next to a number, for a literal with the suffix `f` or the result of an operation on
`float`s. -/
def toFloat (value : ℚ) : ℚ := BinaryFormat.binary32.nearest value

/-- `DriverState`, from the least to the most severe. -/
inductive DriverState where
  | ok
  | warning
  | escalation
  | absent
  deriving DecidableEq

namespace DriverState

/-- The value of the enumerator. -/
def severity : DriverState → Nat
  | ok => 0
  | warning => 1
  | escalation => 2
  | absent => 3

theorem severity_injective : Function.Injective severity := by
  intro a b h
  cases a <;> cases b <;> first | rfl | cases h

/-- Driver states are ordered by severity. -/
instance : LinearOrder DriverState := LinearOrder.lift' severity severity_injective

theorem le_iff_severity {a b : DriverState} : a ≤ b ↔ a.severity ≤ b.severity := Iff.rfl

theorem ok_le (a : DriverState) : ok ≤ a := Nat.zero_le a.severity

theorem le_absent (a : DriverState) : a ≤ absent := by
  cases a <;> decide

instance : BoundedOrder DriverState where
  bot := ok
  bot_le := ok_le
  top := absent
  le_top := le_absent

/-- `to_string(DriverState)`. -/
def toString : DriverState → String
  | ok => "OK"
  | warning => "WARNING"
  | escalation => "ESCALATION"
  | absent => "ABSENT"

end DriverState

/-- `Reason`. The enumeration has a fixed underlying type, so a cast from the 32-bit shared
memory field can also produce each of the `2 ^ 32 - 7` codes that no enumerator names:
`unnamed k` is the code `k + 7`. -/
inductive Reason where
  | none
  | phone
  | drowsy
  | unresponsive
  | intoxicated
  | unknown
  | blockedCamera
  | unnamed (offset : Fin (2 ^ 32 - 7))
  deriving DecidableEq

/-- `is_critical_reason`. -/
def isCriticalReason (reason : Reason) : Bool :=
  reason == .unresponsive || reason == .intoxicated || reason == .blockedCamera

/-- `to_string(Reason)`. -/
def Reason.toString : Reason → String
  | .none => "none"
  | .phone => "phone"
  | .drowsy => "drowsy"
  | .unresponsive => "unresponsive"
  | .intoxicated => "intoxicated"
  | .unknown => "unknown"
  | .blockedCamera => "blocked_camera"
  | .unnamed _ => "unknown"

/-- `HmiAction`. -/
inductive HmiAction where
  | info
  | eor
  | dca
  | mrm
  deriving DecidableEq

/-- `to_string(HmiAction)`. -/
def HmiAction.toString : HmiAction → String
  | .info => "INFO"
  | .eor => "EOR"
  | .dca => "DCA"
  | .mrm => "MRM"

/-- `LkasMode`. -/
inductive LkasMode where
  | off
  | onInactive
  | onActive
  deriving DecidableEq

/-- `to_string(LkasMode)`. -/
def LkasMode.toString : LkasMode → String
  | .off => "OFF"
  | .onInactive => "ON_INACTIVE"
  | .onActive => "ON_ACTIVE"

/-- `LkasSwitchEvent`. -/
inductive LkasSwitchEvent where
  | none
  | on
  | off
  deriving DecidableEq

/-- `ManoeuvreType`. -/
inductive ManoeuvreType where
  | none
  | curveFollow
  | laneChange
  | turn
  | mrm
  deriving DecidableEq

/-- `SpeedBand`. -/
inductive SpeedBand where
  | low
  | mid
  | high
  deriving DecidableEq

/-- `PerceptionInput`. -/
structure PerceptionInput where
  isAttentive : Bool := true
  isAttentiveTsMs : ℤ := 0
  reason : Reason := .none
  reasonTsMs : ℤ := 0
  cameraBlocked : Bool := false
  cameraBlockedTsMs : ℤ := 0

/-- `NormalizedSnapshot`. -/
structure NormalizedSnapshot where
  snapshotValid : Bool := false
  isAttentive : Bool := true
  reason : Reason := .none
  inputSnapshotTsMs : ℤ := 0

/-- `Thresholds`, in seconds. -/
structure Thresholds where
  tWarnEffS : ℚ := 3
  tEscEffS : ℚ := 6
  tAbsentEffS : ℚ := 10
  tRecoverHoldS : ℚ := 3

/-- `StepBStateStore`: the state and the timers that Step B keeps between ticks. -/
structure StepBStateStore where
  currentState : DriverState := .ok
  inattentiveElapsedS : ℚ := 0
  recoverElapsedS : ℚ := 0
  absentLatchedRunCycle : Bool := false
  latestReason : Reason := .none
  latestReasonTsMs : ℤ := 0

/-- `DashboardState`. -/
structure DashboardState where
  driverState : DriverState := .ok
  reason : Reason := .none
  lkasMode : LkasMode := .off
  currentManoeuvreType : ManoeuvreType := .none

/-- `StepCLatchedState`. The activation count is an unbounded number. -/
structure StepCLatchedState where
  driverOverrideLock : Bool := false
  mrmActivationCountRunCycle : ℕ := 0
  runCycleId : UInt64 := 0

end DcasPolicyEngine
