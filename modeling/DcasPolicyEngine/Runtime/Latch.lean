import DcasPolicyEngine.Runtime.Invariants

/-!
# The `ABSENT` latch

Once a tick returns `ABSENT`, the rest of the run cycle consists of `AbsentTick`s, whatever the
inputs are. Only a reset ends it, and a reset runtime cannot be told from a new one.
-/

namespace DcasPolicyEngine

/-- A tick in latched `ABSENT`: no throttle, no active LKAS, no confirmed re-engagement, and an
MRM unless the driver overrides it with the lock not set. -/
structure AbsentTick (e : RuntimeEvent) : Prop where
  nextState : e.output.stepB.nextState = .absent
  latched : e.output.stepB.absentLatchedRunCycle = true
  not_reengaged : e.output.stepB.reengagementConfirmed200ms = false
  throttleLimit : e.output.stepC.throttleLimit = .num 0
  not_onActive : e.output.stepC.nextLkasMode ≠ .onActive
  mrm : ¬ e.before.Overridden e.input →
    e.output.stepC.mrmActive = true ∧ e.output.stepC.hmiAction = .mrm

namespace PolicyRuntime

variable {self : PolicyRuntime}

/-- Every tick that starts with the latch on is an `AbsentTick`. -/
theorem absent_tick_of_latched (hlatch : self.stepBStateStore.absentLatchedRunCycle = true)
    (input : RuntimeTickInput) : AbsentTick (runtime.event self input) := by
  obtain ⟨habsent, hlatched, hreengaged, _⟩ := evaluate_of_latched hlatch input.stepB
  have hstate : (self.tick input).1.stepB.nextState = .absent := habsent
  refine ⟨habsent, hlatched, hreengaged, ?_, ?_, ?_⟩
  · show (self.tick input).1.stepC.throttleLimit = .num 0
    rw [tick_throttle_limit, if_pos (.inr hstate)]
  · intro hactive
    have hok : (self.tick input).1.stepB.nextState = .ok := tick_on_active hactive
    rw [hstate] at hok
    cases hok
  · intro (hoverride : ¬ self.Overridden input)
    refine ⟨tick_mrm_active_iff.mpr ⟨hstate, hoverride⟩, ?_⟩
    show (self.tick input).1.stepC.hmiAction = .mrm
    rw [tick_hmi_action, if_neg hoverride, hstate]
    rfl

/-- The latch stays on through every run of ticks. -/
theorem latched_run (hlatch : self.stepBStateStore.absentLatchedRunCycle = true)
    (inputs : List RuntimeTickInput) :
    ∀ e ∈ runtime.trace self inputs, e.before.stepBStateStore.absentLatchedRunCycle = true := by
  intro e he
  refine (runtime.trace_invariant
    (fun rt => rt.stepBStateStore.absentLatchedRunCycle = true) ?_ hlatch inputs e he).1
  intro rt input hrt
  exact (evaluate_of_latched hrt input.stepB).2.2.2

/-- Every tick of a run that starts with the latch on is an `AbsentTick`. -/
theorem absent_tick_run (hlatch : self.stepBStateStore.absentLatchedRunCycle = true)
    (inputs : List RuntimeTickInput) : ∀ e ∈ runtime.trace self inputs, AbsentTick e := by
  intro e he
  rw [runtime.event_of_mem_trace he]
  exact absent_tick_of_latched (latched_run hlatch inputs e he) e.input

/-- Eight inattentive seconds in the middle speed band end in `ABSENT`, and an attentive tick does
not end it. -/
example : (runtime.outputs (.new 1) (List.replicate 8
      { stepB := { perception := { isAttentive := false }
                   jetracerInput04 := .num (literal 0.2)
                   deltaS := 1 } } ++
      [{ stepB := { deltaS := 2 } }])).map (fun output => output.stepB.nextState) =
    [.ok, .warning, .warning, .escalation, .escalation, .escalation, .escalation, .absent,
      .absent] := by
  decide +kernel

/-- In every reachable runtime the state is `ABSENT` exactly with the latch on, and a tick
returns the state and the latch that it stores. After a tick that returns `ABSENT` every later
tick of the run cycle is an `AbsentTick`, and after a reset all calls answer as those of a new
runtime. -/
theorem absent_until_reset (h : self.Reachable) :
    (self.stepBStateStore.currentState = .absent ↔
        self.stepBStateStore.absentLatchedRunCycle = true) ∧
      (∀ input,
        (self.tick input).1.stepB.nextState = (self.tick input).2.stepBStateStore.currentState ∧
        (self.tick input).1.stepB.absentLatchedRunCycle =
          (self.tick input).2.stepBStateStore.absentLatchedRunCycle) ∧
      (∀ input inputs, (self.tick input).1.stepB.nextState = .absent →
        ∀ e ∈ runtime.trace (self.tick input).2 inputs, AbsentTick e) ∧
      ∀ runCycleId calls,
        runtimeCalls.outputs (self.resetForNewRunCycle runCycleId) calls =
          runtimeCalls.outputs (PolicyRuntime.new runCycleId) calls := by
  refine ⟨h.sound.store.latch_iff, ?_, ?_, ?_⟩
  · intro input
    exact ⟨tick_next_state_eq self input, evaluate_absent_latched_run_cycle_eq _ _⟩
  · intro input inputs habsent
    rw [tick_next_state_eq] at habsent
    exact absent_tick_run ((h.sound.tick input).store.latch_iff.mp habsent) inputs
  · intro runCycleId calls
    rw [reset_eq_new]

/-- Ten seconds of inattention latch `ABSENT`, and the next tick of an attentive driver who
overrides is an `AbsentTick`. -/
theorem absent_until_reset_attentive :
    AbsentTick (runtime.event
      ((PolicyRuntime.new 1).tick
        { stepB := { perception := { isAttentive := false }, deltaS := 10 } }).2
      { stepC := { driverOverride := true } }) :=
  (absent_until_reset (Reachable.new 1)).2.2.1
    { stepB := { perception := { isAttentive := false }, deltaS := 10 } }
    [{ stepC := { driverOverride := true } }] (by decide +kernel) _ (by simp)

end PolicyRuntime

end DcasPolicyEngine
