import DcasPolicyEngine.Machine.Simulation
import DcasPolicyEngine.StepB.Engine
import DcasPolicyEngine.StepC.Engine

/-!
# The policy runtime

`PolicyRuntime` owns the Step B store and the Step C latched state. A tick evaluates Step B,
hands its result to Step C and keeps both states. `runtime` is the machine of the ticks of one
run cycle, and `runtimeCalls` also resets for a new run cycle; `Reachable` states are those that
calls reach from a new runtime.
-/

namespace DcasPolicyEngine

/-- `RuntimeTickInput`. -/
structure RuntimeTickInput where
  stepB : StepBInput := {}
  stepC : StepCInput := {}

/-- `RuntimeTickOutput`. -/
structure RuntimeTickOutput where
  stepB : StepBOutput := {}
  stepC : StepCOutput := {}

/-- `PolicyRuntime`. The two engines hold no state. -/
structure PolicyRuntime where
  stepBStateStore : StateTimerStore := {}
  stepCLatchedState : StepCLatchedState := {}

namespace PolicyRuntime

/-- The constructor `PolicyRuntime(run_cycle_id)`. -/
def new (runCycleId : UInt64) : PolicyRuntime :=
  { stepBStateStore := {}, stepCLatchedState := { runCycleId := runCycleId } }

/-- The input that `Tick` hands to Step C after Step B returned `output`. -/
def stepCInput (self : PolicyRuntime) (input : StepCInput) (output : StepBOutput) : StepCInput :=
  { input with
    driverState := output.nextState
    reason := output.reason
    reengagementConfirmed200ms := output.reengagementConfirmed200ms
    latchedState := self.stepCLatchedState }

/-- `Tick`. -/
def tick (self : PolicyRuntime) (input : RuntimeTickInput) : RuntimeTickOutput × PolicyRuntime :=
  let (stepBOutput, stepBStateStore) := evaluate input.stepB self.stepBStateStore
  let stepCOutput := StepC.evaluate (self.stepCInput input.stepC stepBOutput)
  ({ stepB := stepBOutput, stepC := stepCOutput },
   { stepBStateStore := stepBStateStore, stepCLatchedState := stepCOutput.nextLatchedState })

/-- `ResetForNewRunCycle`. -/
def resetForNewRunCycle (self : PolicyRuntime) (runCycleId : UInt64) : PolicyRuntime :=
  { stepBStateStore := self.stepBStateStore.resetForNewRunCycle
    stepCLatchedState := { runCycleId := runCycleId } }

/-- The driver state that the runtime holds between ticks. -/
def held (self : PolicyRuntime) : DriverState := self.stepBStateStore.currentState

end PolicyRuntime

/-- The ticks of a runtime within one run cycle. -/
def runtime : Machine PolicyRuntime RuntimeTickInput RuntimeTickOutput :=
  ⟨PolicyRuntime.tick⟩

/-- One tick of a runtime within a run. -/
abbrev RuntimeEvent := Machine.Event PolicyRuntime RuntimeTickInput RuntimeTickOutput

/-- A call of the public interface of a runtime. -/
inductive RuntimeCall where
  | tick (input : RuntimeTickInput)
  | resetForNewRunCycle (runCycleId : UInt64)

/-- All calls of a runtime. Only a tick returns something. -/
def runtimeCalls : Machine PolicyRuntime RuntimeCall (Option RuntimeTickOutput) where
  step
    | self, .tick input => ((self.tick input).1, (self.tick input).2)
    | self, .resetForNewRunCycle runCycleId => (none, self.resetForNewRunCycle runCycleId)

/-- The runtime states that some sequence of calls reaches from a new runtime. -/
def PolicyRuntime.Reachable (self : PolicyRuntime) : Prop :=
  runtimeCalls.Reachable (fun start => ∃ runCycleId, start = PolicyRuntime.new runCycleId) self

namespace PolicyRuntime

variable {self : PolicyRuntime}

/-- A new runtime is reachable. -/
theorem Reachable.new (runCycleId : UInt64) : (PolicyRuntime.new runCycleId).Reachable :=
  ⟨PolicyRuntime.new runCycleId, [], ⟨runCycleId, rfl⟩, rfl⟩

/-- A tick keeps a runtime reachable. -/
theorem Reachable.tick (h : self.Reachable) (input : RuntimeTickInput) :
    (self.tick input).2.Reachable :=
  Machine.Reachable.step h (.tick input)

/-- Calls keep a runtime reachable. -/
theorem Reachable.calls (h : self.Reachable) (calls : List RuntimeCall) :
    (runtimeCalls.run self calls).Reachable :=
  Machine.Reachable.run h calls

/-- Ticks keep a runtime reachable. -/
theorem Reachable.run (h : self.Reachable) (inputs : List RuntimeTickInput) :
    (runtime.run self inputs).Reachable :=
  runtime.run_invariant Reachable (fun _ input hself => Reachable.tick hself input) h inputs

/-- The states around every tick of a run from a reachable state are reachable. -/
theorem Reachable.trace (h : self.Reachable) (inputs : List RuntimeTickInput) :
    ∀ e ∈ runtime.trace self inputs, e.before.Reachable ∧ e.after.Reachable :=
  runtime.trace_invariant Reachable (fun _ input hself => Reachable.tick hself input) h inputs

/-- What holds of a new runtime and is preserved by every tick holds of every reachable one. -/
theorem Reachable.induction {inv : PolicyRuntime → Prop} (h : self.Reachable)
    (hnew : ∀ runCycleId, inv (PolicyRuntime.new runCycleId))
    (htick : ∀ self input, inv self → inv (self.tick input).2) : inv self := by
  refine Machine.Reachable.invariant h ?_ ?_
  · intro start hstart
    obtain ⟨runCycleId, rfl⟩ := hstart
    exact hnew runCycleId
  · intro self call hself
    cases call with
    | tick input => exact htick self input hself
    | resetForNewRunCycle runCycleId => exact hnew runCycleId

/-- A reset runtime is a new runtime. -/
theorem reset_eq_new (self : PolicyRuntime) (runCycleId : UInt64) :
    self.resetForNewRunCycle runCycleId = PolicyRuntime.new runCycleId := rfl

@[simp] theorem tick_step_b (self : PolicyRuntime) (input : RuntimeTickInput) :
    (self.tick input).1.stepB = (evaluate input.stepB self.stepBStateStore).1 := rfl

@[simp] theorem tick_step_c (self : PolicyRuntime) (input : RuntimeTickInput) :
    (self.tick input).1.stepC = StepC.evaluate
      (self.stepCInput input.stepC (evaluate input.stepB self.stepBStateStore).1) := rfl

@[simp] theorem tick_step_b_state_store (self : PolicyRuntime) (input : RuntimeTickInput) :
    (self.tick input).2.stepBStateStore = (evaluate input.stepB self.stepBStateStore).2 := rfl

end PolicyRuntime

/-- Step B inside the runtime is Step B on its own: the store of a runtime runs through the
states of the machine `stepB`. -/
def stepBOfRuntime : Machine.Simulation runtime stepB where
  inv _ := True
  state := PolicyRuntime.stepBStateStore
  input _ := RuntimeTickInput.stepB
  output := RuntimeTickOutput.stepB
  inv_step _ _ _ := trivial
  step_eq _ _ _ := rfl

end DcasPolicyEngine
