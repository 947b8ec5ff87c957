import DcasPolicyEngine.Machine.RisingEdges
import DcasPolicyEngine.Runtime.Invariants

/-!
# MRM activations

An activation of the MRM is a rising edge of `mrm_active` within a run cycle. Step C counts
ticks: `count_run` says that the count after a run is the number of its MRM ticks. The two
numbers agree exactly for the runs in which no MRM lasts for two ticks.
-/

namespace DcasPolicyEngine

namespace PolicyRuntime

/-- The values of `mrm_active` along a run. -/
def mrmFlags (self : PolicyRuntime) (inputs : List RuntimeTickInput) : List Bool :=
  (runtime.outputs self inputs).map fun output => output.stepC.mrmActive

/-- The number of MRM activations of the run cycle that begins in `self`. -/
def mrmActivations (self : PolicyRuntime) (inputs : List RuntimeTickInput) : ℕ :=
  risingEdges false (self.mrmFlags inputs)

variable {self : PolicyRuntime} {input : RuntimeTickInput}

@[simp] theorem mrm_flags_nil : self.mrmFlags [] = [] := rfl

@[simp] theorem mrm_flags_cons (inputs : List RuntimeTickInput) :
    self.mrmFlags (input :: inputs) =
      (self.tick input).1.stepC.mrmActive :: (self.tick input).2.mrmFlags inputs := rfl

/-- The count grows by the number of MRM ticks of a run. -/
theorem count_run (self : PolicyRuntime) (inputs : List RuntimeTickInput) :
    (runtime.run self inputs).stepCLatchedState.mrmActivationCountRunCycle =
      self.stepCLatchedState.mrmActivationCountRunCycle +
        (self.mrmFlags inputs).count true := by
  induction inputs generalizing self with
  | nil => simp
  | cons input inputs ih =>
      have hrest := ih (self.tick input).2
      rw [tick_count] at hrest
      rw [mrm_flags_cons, List.count_cons]
      simp only [beq_iff_eq]
      show (runtime.run (self.tick input).2 inputs).stepCLatchedState.mrmActivationCountRunCycle = _
      omega

/-- The MRM is active on two ticks in a row exactly when the second one starts with the latch
on and neither is overridden. -/
theorem mrm_active_twice_iff (h : self.Sound) (first second : RuntimeTickInput) :
    ((self.tick first).1.stepC.mrmActive = true ∧
        ((self.tick first).2.tick second).1.stepC.mrmActive = true) ↔
      (self.tick first).2.stepBStateStore.absentLatchedRunCycle = true ∧
        ¬ self.Overridden first ∧ ¬ (self.tick first).2.Overridden second := by
  have hlatch := (h.tick first).store.latch_iff
  rw [tick_mrm_active_iff, tick_mrm_active_iff, tick_next_state_eq, hlatch]
  constructor
  · intro htwice
    obtain ⟨⟨hlatched, hfirst⟩, _, hsecond⟩ := htwice
    exact ⟨hlatched, hfirst, hsecond⟩
  · intro hkept
    obtain ⟨hlatched, hfirst, hsecond⟩ := hkept
    exact ⟨⟨hlatched, hfirst⟩, (evaluate_of_latched hlatched second.stepB).1, hsecond⟩

/-- Two ticks in a row do not both perform an MRM: the second one starts without the latch, or
an override takes effect on one of them. -/
def Interrupts (first second : RuntimeEvent) : Prop :=
  second.before.stepBStateStore.absentLatchedRunCycle = true →
    first.before.Overridden first.input ∨ second.before.Overridden second.input

/-- The flag is never set twice in a row exactly when every two ticks in a row interrupt. -/
theorem is_chain_mrm_flags_iff (h : self.Sound) (inputs : List RuntimeTickInput) :
    ((self.mrmFlags inputs).IsChain fun a b => ¬ (a = true ∧ b = true)) ↔
      (runtime.trace self inputs).IsChain Interrupts := by
  unfold mrmFlags Machine.outputs
  rw [List.map_map, List.isChain_map]
  refine runtime.is_chain_trace_iff Sound (fun _ input hrt => hrt.tick input) ?_ h inputs
  intro rt first second hrt
  show ¬ ((rt.tick first).1.stepC.mrmActive = true ∧
      ((rt.tick first).2.tick second).1.stepC.mrmActive = true) ↔
    ((rt.tick first).2.stepBStateStore.absentLatchedRunCycle = true →
      rt.Overridden first ∨ (rt.tick first).2.Overridden second)
  rw [mrm_active_twice_iff hrt, not_and, not_and_or, not_not, not_not]

/-- After a run of ticks from the start of a run cycle, the count is the number of MRM
activations and the lock is set from the second activation on, exactly when every two ticks in
a row of the run interrupt the MRM. -/
theorem activation_count_iff (runCycleId : UInt64) (inputs : List RuntimeTickInput) :
    ((runtime.run (.new runCycleId)
            inputs).stepCLatchedState.mrmActivationCountRunCycle =
          (PolicyRuntime.new runCycleId).mrmActivations inputs ∧
        ((runtime.run (.new runCycleId) inputs).stepCLatchedState.driverOverrideLock = true ↔
          2 ≤ (PolicyRuntime.new runCycleId).mrmActivations inputs)) ↔
      (runtime.trace (.new runCycleId) inputs).IsChain Interrupts := by
  have hcount := count_run (.new runCycleId) inputs
  have hsound : (runtime.run (.new runCycleId) inputs).Sound :=
    ((Reachable.new runCycleId).run inputs).sound
  rw [← is_chain_mrm_flags_iff (sound_new runCycleId), ← rising_edges_eq_count_iff, hsound.lock_iff,
    hcount]
  show 0 + _ = _ ∧ (2 ≤ 0 + _ ↔ _) ↔ _
  rw [Nat.zero_add]
  constructor
  · intro hcounted
    obtain ⟨hactivations, _⟩ := hcounted
    exact hactivations.symm
  · intro hactivations
    exact ⟨hactivations.symm, by rw [mrmActivations, hactivations]⟩

/-- A tick that reports `UNRESPONSIVE`. -/
def unresponsiveTick : RuntimeTickInput :=
  { stepB := { perception := { reason := .unresponsive } } }

/-- One MRM of two ticks is counted twice and sets the lock. -/
theorem activation_counted_twice :
    (PolicyRuntime.new 1).mrmFlags [unresponsiveTick, unresponsiveTick] = [true, true] ∧
      (PolicyRuntime.new 1).mrmActivations [unresponsiveTick, unresponsiveTick] = 1 ∧
      (runtime.run (.new 1)
        [unresponsiveTick, unresponsiveTick]).stepCLatchedState.mrmActivationCountRunCycle = 2 ∧
      (runtime.run (.new 1)
        [unresponsiveTick, unresponsiveTick]).stepCLatchedState.driverOverrideLock = true := by
  decide +kernel

end PolicyRuntime

end DcasPolicyEngine
