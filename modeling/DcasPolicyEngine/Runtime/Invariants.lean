import DcasPolicyEngine.Runtime.PolicyRuntime
import DcasPolicyEngine.StepB.Monitor
import DcasPolicyEngine.StepC.Policy

/-!
# What every reachable runtime satisfies

`PolicyRuntime.Sound` couples the two components: the Step B store is sound, the override lock
is set exactly from the second counted MRM tick on, and an MRM tick is counted only with the
`ABSENT` latch on. Every reachable runtime is sound. The `tick_*` lemmas restate the outputs of
Step C for a whole tick. `driver_states_eq` says that the runtime shows the driver states of the
escalation monitor.
-/

namespace DcasPolicyEngine

namespace PolicyRuntime

/-- The override of this tick takes effect: the lock is not set. -/
def Overridden (self : PolicyRuntime) (input : RuntimeTickInput) : Prop :=
  input.stepC.driverOverride = true ∧ self.stepCLatchedState.driverOverrideLock = false

instance (self : PolicyRuntime) (input : RuntimeTickInput) : Decidable (self.Overridden input) :=
  inferInstanceAs (Decidable (_ ∧ _))

/-- The invariant of the runtime. -/
structure Sound (rt : PolicyRuntime) : Prop where
  store : rt.stepBStateStore.Sound
  lock_iff : rt.stepCLatchedState.driverOverrideLock = true ↔
    2 ≤ rt.stepCLatchedState.mrmActivationCountRunCycle
  latched_of_count : 0 < rt.stepCLatchedState.mrmActivationCountRunCycle →
    rt.stepBStateStore.absentLatchedRunCycle = true

variable {self : PolicyRuntime} {input : RuntimeTickInput}

/-! ## The outputs of a tick -/

/-- MRM is active exactly on an `ABSENT` tick that is not overridden. -/
theorem tick_mrm_active_iff :
    (self.tick input).1.stepC.mrmActive = true ↔
      (self.tick input).1.stepB.nextState = .absent ∧ ¬ self.Overridden input :=
  StepC.mrm_active_iff

/-- Every tick with an active MRM is counted. -/
theorem tick_count :
    (self.tick input).2.stepCLatchedState.mrmActivationCountRunCycle =
      self.stepCLatchedState.mrmActivationCountRunCycle +
        if (self.tick input).1.stepC.mrmActive = true then 1 else 0 :=
  StepC.mrm_activation_count_run_cycle_eq

/-- The lock after a tick. -/
theorem tick_lock_iff :
    (self.tick input).2.stepCLatchedState.driverOverrideLock = true ↔
      self.stepCLatchedState.driverOverrideLock = true ∨
        2 ≤ (self.tick input).2.stepCLatchedState.mrmActivationCountRunCycle :=
  StepC.driver_override_lock_iff

/-- The throttle limit of a tick. -/
theorem tick_throttle_limit :
    (self.tick input).1.stepC.throttleLimit =
      if self.Overridden input ∨ (self.tick input).1.stepB.nextState = .absent then .num 0
      else StepC.scaledThrottle input.stepC.lkasThrottle (self.tick input).1.stepB.nextState
        (self.tick input).1.stepB.reason :=
  StepC.throttle_limit_eq

/-- The HMI action of a tick. -/
theorem tick_hmi_action :
    (self.tick input).1.stepC.hmiAction =
      if self.Overridden input then .info
      else StepC.hmiOfState (self.tick input).1.stepB.nextState
        (self.tick input).1.stepB.reengagementConfirmed200ms :=
  StepC.hmi_action_eq

/-- The LKAS mode of a tick. -/
theorem tick_next_lkas_mode :
    (self.tick input).1.stepC.nextLkasMode =
      if self.Overridden input ∨
          2 ≤ (self.tick input).2.stepCLatchedState.mrmActivationCountRunCycle then .off
      else StepC.requestedLkasMode (self.stepCInput input.stepC (self.tick input).1.stepB) :=
  StepC.next_lkas_mode_eq

/-- LKAS is active after a tick only in the state `OK`. -/
theorem tick_on_active (h : (self.tick input).1.stepC.nextLkasMode = .onActive) :
    (self.tick input).1.stepB.nextState = .ok :=
  StepC.next_lkas_mode_on_active h

/-! ## The invariant -/

/-- The state that a tick returns is the one it stores. -/
theorem tick_next_state_eq (self : PolicyRuntime) (input : RuntimeTickInput) :
    (self.tick input).1.stepB.nextState = (self.tick input).2.stepBStateStore.currentState :=
  evaluate_next_state_eq _ _

/-- A new runtime is sound. -/
theorem sound_new (runCycleId : UInt64) : (PolicyRuntime.new runCycleId).Sound :=
  ⟨StepBStateStore.sound_default, by simp [PolicyRuntime.new], by simp [PolicyRuntime.new]⟩

/-- A tick keeps a runtime sound. -/
theorem Sound.tick (h : self.Sound) (input : RuntimeTickInput) : (self.tick input).2.Sound := by
  have hstore : (self.tick input).2.stepBStateStore.Sound := evaluate_sound h.store input.stepB
  refine ⟨hstore, ?_, ?_⟩
  · rw [tick_lock_iff, h.lock_iff, tick_count]
    omega
  · intro hcount
    rw [tick_count] at hcount
    by_cases hmrm : (self.tick input).1.stepC.mrmActive = true
    · have habsent := (tick_mrm_active_iff.mp hmrm).1
      rw [tick_next_state_eq] at habsent
      exact hstore.latch_iff.mp habsent
    · -- no activation on this tick, so an earlier one has set the latch
      rw [if_neg hmrm, Nat.add_zero] at hcount
      exact (evaluate_of_latched (h.latched_of_count hcount) input.stepB).2.2.2

/-- Every reachable runtime is sound. -/
theorem Reachable.sound (h : self.Reachable) : self.Sound :=
  h.induction sound_new (fun _ input hself => hself.tick input)

/-- The runtimes on both sides of every tick of a run from a sound one are sound. -/
theorem Sound.trace (h : self.Sound) (inputs : List RuntimeTickInput) :
    ∀ e ∈ runtime.trace self inputs, e.before.Sound ∧ e.after.Sound :=
  runtime.trace_invariant Sound (fun _ input hself => hself.tick input) h inputs

/-- The held state is `ABSENT` only with the latch on. -/
theorem Sound.held_ne_absent (h : self.Sound)
    (hlatch : self.stepBStateStore.absentLatchedRunCycle = false) : self.held ≠ .absent :=
  h.store.ne_absent hlatch

/-! ## The monitor -/

/-- The runtime as the escalation monitor that its Step B is. -/
def monitorOfRuntime : Machine.Simulation runtime driverMonitor :=
  stepBOfRuntime.comp stepBMonitor

/-- The driver states of a run are the levels that the escalation monitor shows for what the
ticks observe. -/
theorem Sound.driver_states_eq (h : self.Sound) (inputs : List RuntimeTickInput) :
    ((runtime.outputs self inputs).map fun output => output.stepB.nextState) =
      driverMonitor.outputs self.stepBStateStore.watch (monitorOfRuntime.inputs self inputs) :=
  (monitorOfRuntime.outputs_eq ⟨trivial, h.store⟩ inputs).symm

end PolicyRuntime

end DcasPolicyEngine
