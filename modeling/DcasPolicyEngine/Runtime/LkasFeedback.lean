import DcasPolicyEngine.Runtime.Invariants

/-!
# Feeding the LKAS mode back

The callers of the runtime keep the LKAS mode that a tick returned and hand it to the next tick.
`fedRuntime` is that system. Once an `OFF` event or an effective override has switched LKAS off,
the mode stays off until the driver switches it on. The throttle limit does not look at the
mode: `tick_throttle_limit_eq_zero_iff` says what makes it zero.
-/

namespace DcasPolicyEngine

/-- A runtime and the LKAS mode that its last tick returned. -/
structure FedRuntime where
  runtime : PolicyRuntime := {}
  lkasMode : LkasMode := .onActive

namespace FedRuntime

/-- The input of a tick with the kept mode in it. -/
def fed (self : FedRuntime) (input : RuntimeTickInput) : RuntimeTickInput :=
  { input with stepC := { input.stepC with previousLkasMode := self.lkasMode } }

/-- A tick of the runtime on the fed input. -/
def tick (self : FedRuntime) (input : RuntimeTickInput) : RuntimeTickOutput × FedRuntime :=
  let (output, runtime) := self.runtime.tick (self.fed input)
  (output, { runtime := runtime, lkasMode := output.stepC.nextLkasMode })

end FedRuntime

/-- The calls of a fed runtime. A reset does not touch the mode that the caller keeps. -/
def fedRuntime : Machine FedRuntime RuntimeCall (Option RuntimeTickOutput) where
  step
    | self, .tick input => ((self.tick input).1, (self.tick input).2)
    | self, .resetForNewRunCycle runCycleId =>
        (none, { self with runtime := self.runtime.resetForNewRunCycle runCycleId })

/-- One call of a fed runtime within a run. -/
abbrev FedEvent := Machine.Event FedRuntime RuntimeCall (Option RuntimeTickOutput)

/-- The call carries the switch event `ON`. -/
def RuntimeCall.SwitchesOn : RuntimeCall → Prop
  | .tick input => input.stepC.lkasSwitchEvent = .on
  | .resetForNewRunCycle _ => False

/-- The tick takes the throttle authority away: its switch event is `OFF`, or its override takes
effect. -/
def PolicyRuntime.Revokes (self : PolicyRuntime) (input : RuntimeTickInput) : Prop :=
  input.stepC.lkasSwitchEvent = .off ∨ self.Overridden input

instance (self : PolicyRuntime) (input : RuntimeTickInput) : Decidable (self.Revokes input) :=
  inferInstanceAs (Decidable (_ ∨ _))

/-- The tick leaves no throttle: its override takes effect, its state is `ABSENT`, or no
throttle is asked for. -/
def PolicyRuntime.NoThrottle (self : PolicyRuntime) (input : RuntimeTickInput) : Prop :=
  self.Overridden input ∨ AbsentDue self.stepBStateStore input.stepB ∨
    ¬ .num 0 < input.stepC.lkasThrottle

/-- A call leaves no throttle. A reset grants none. -/
def RuntimeCall.NoThrottle (call : RuntimeCall) (self : PolicyRuntime) : Prop :=
  match call with
  | .tick input => self.NoThrottle input
  | .resetForNewRunCycle _ => True

/-- The throttle limit of a tick is zero exactly when the tick leaves no throttle. -/
theorem PolicyRuntime.Sound.tick_throttle_limit_eq_zero_iff {self : PolicyRuntime} (h : self.Sound)
    (input : RuntimeTickInput) :
    (self.tick input).1.stepC.throttleLimit = .num 0 ↔ self.NoThrottle input := by
  have habsent : (self.tick input).1.stepB.nextState = .absent ↔
      AbsentDue self.stepBStateStore input.stepB := next_state_eq_absent_iff h.store input.stepB
  rw [tick_throttle_limit, NoThrottle, ← habsent, ← or_assoc]
  split
  · next hzero => exact iff_of_true rfl (.inl hzero)
  · next hlimit =>
      obtain ⟨hoverride, hstate⟩ := not_or.mp hlimit
      rw [StepC.scaled_throttle_eq_zero_iff hstate]
      exact (or_iff_right hlimit).symm

namespace FedRuntime

variable {self : FedRuntime} {input : RuntimeTickInput}

/-- LKAS is off after a tick without `ON` that starts with it off. -/
theorem lkas_mode_off_of_off (hmode : self.lkasMode = .off)
    (hswitch : input.stepC.lkasSwitchEvent ≠ .on) : (self.tick input).2.lkasMode = .off :=
  StepC.next_lkas_mode_off hswitch (.inl hmode)

/-- LKAS is off after a tick that revokes it. -/
theorem lkas_mode_off_of_revokes (h : self.runtime.Revokes input) :
    (self.tick input).2.lkasMode = .off := by
  rcases h with hevent | hoverride
  · refine StepC.next_lkas_mode_off ?_ (.inr hevent)
    show input.stepC.lkasSwitchEvent ≠ .on
    rw [hevent]
    decide
  · exact StepC.next_lkas_mode_overridden hoverride

/-- LKAS stays off through all calls without `ON`. -/
theorem lkas_mode_off_run (hmode : self.lkasMode = .off) {calls : List RuntimeCall}
    (hcalls : ∀ call ∈ calls, ¬ call.SwitchesOn) :
    ∀ e ∈ fedRuntime.trace self calls, e.before.lkasMode = .off ∧ e.after.lkasMode = .off := by
  refine fedRuntime.trace_invariant_of_mem (fun state => state.lkasMode = .off) ?_ hmode
  intro state call hcall hstate
  cases call with
  | tick input => exact lkas_mode_off_of_off hstate (hcalls _ hcall)
  | resetForNewRunCycle runCycleId => exact hstate

/-- A call keeps the runtime reachable. -/
theorem reachable_step (h : self.runtime.Reachable) (call : RuntimeCall) :
    (fedRuntime.step self call).2.runtime.Reachable := by
  cases call with
  | tick input => exact PolicyRuntime.Reachable.tick h (self.fed input)
  | resetForNewRunCycle runCycleId =>
      exact Machine.Reachable.step h (.resetForNewRunCycle runCycleId)

/-- The runtime is reachable around every call of a run. -/
theorem reachable_trace (h : self.runtime.Reachable) (calls : List RuntimeCall) :
    ∀ e ∈ fedRuntime.trace self calls,
      e.before.runtime.Reachable ∧ e.after.runtime.Reachable :=
  fedRuntime.trace_invariant (fun state => state.runtime.Reachable)
    (fun _ call hstate => reachable_step hstate call) h calls

/-- The runtime is reachable after every run. -/
theorem reachable_run (h : self.runtime.Reachable) (calls : List RuntimeCall) :
    (fedRuntime.run self calls).runtime.Reachable :=
  fedRuntime.run_invariant (fun state => state.runtime.Reachable)
    (fun _ call hstate => reachable_step hstate call) h calls

/-- The tick returns the mode `OFF`. -/
def ModeOff (e : FedEvent) : Prop :=
  ∀ output, e.output = some output → output.stepC.nextLkasMode = .off

/-- The tick returns the throttle limit zero. -/
def ThrottleZero (e : FedEvent) : Prop :=
  ∀ output, e.output = some output → output.stepC.throttleLimit = .num 0

/-- LKAS is off from a tick that revokes it until the next `ON`. -/
theorem mode_off_window (hrevokes : self.runtime.Revokes input) {window : List RuntimeCall}
    (hwindow : ∀ call ∈ window, ¬ call.SwitchesOn) :
    ∀ e ∈ fedRuntime.trace self (.tick input :: window), ModeOff e := by
  have hfirst := lkas_mode_off_of_revokes hrevokes
  intro e he
  rcases List.mem_cons.mp he with rfl | hlater
  · rintro output ⟨⟩
    exact hfirst
  · -- the mode that a tick returns is the one that is kept after it
    have hafter := (lkas_mode_off_run hfirst hwindow e hlater).2
    rw [fedRuntime.event_of_mem_trace hlater] at hafter ⊢
    cases hcall : e.input with
    | tick later =>
        rw [hcall] at hafter
        rintro output ⟨⟩
        exact hafter
    | resetForNewRunCycle runCycleId =>
        rintro output ⟨⟩

/-- A call returns no throttle limit but zero exactly when it leaves no throttle. -/
theorem throttle_zero_iff (h : self.runtime.Sound) (call : RuntimeCall) :
    ThrottleZero (fedRuntime.event self call) ↔ call.NoThrottle self.runtime := by
  cases call with
  | tick input =>
      have hzero := h.tick_throttle_limit_eq_zero_iff (self.fed input)
      refine Iff.trans ?_ hzero
      constructor
      · intro hall
        exact hall _ rfl
      · rintro hlimit output ⟨⟩
        exact hlimit
  | resetForNewRunCycle runCycleId =>
      refine iff_of_true ?_ trivial
      rintro output ⟨⟩

/-- From a tick that revokes LKAS until the next `ON`, every tick returns the mode `OFF`, and
they all return the throttle limit zero exactly when none of them leaves a throttle. -/
theorem no_automatic_resume_iff (h : self.runtime.Reachable)
    (hrevokes : self.runtime.Revokes input) {window : List RuntimeCall}
    (hwindow : ∀ call ∈ window, ¬ call.SwitchesOn) :
    (∀ e ∈ fedRuntime.trace self (.tick input :: window), ModeOff e) ∧
      ((∀ e ∈ fedRuntime.trace self (.tick input :: window), ThrottleZero e) ↔
        ∀ e ∈ fedRuntime.trace self (.tick input :: window),
          e.input.NoThrottle e.before.runtime) := by
  refine ⟨mode_off_window hrevokes hwindow, forall₂_congr ?_⟩
  intro e he
  have hsound := (reachable_trace h _ e he).1.sound
  rw [fedRuntime.event_of_mem_trace he]
  exact throttle_zero_iff hsound e.input

/-- A tick that asks for half of the throttle. -/
def halfThrottle (event : LkasSwitchEvent) (driverOverride : Bool) : RuntimeTickInput :=
  { stepC :=
      { lkasThrottle := .num 0.5
        lkasSwitchEvent := event
        driverOverride := driverOverride } }

/-- An override that lasts for two ticks leaves no throttle on either. -/
theorem no_automatic_resume_override :
    (PolicyRuntime.new 1).Revokes (halfThrottle .none true) ∧
      ∀ e ∈ fedRuntime.trace { runtime := .new 1 }
        [.tick (halfThrottle .none true), .tick (halfThrottle .none true)], ThrottleZero e := by
  refine ⟨.inr ⟨rfl, rfl⟩, (no_automatic_resume_iff (.new 1) (.inr ⟨rfl, rfl⟩) ?_).2.mpr ?_⟩
  · intro call hcall
    rw [List.mem_singleton.mp hcall]
    exact LkasSwitchEvent.noConfusion
  · simp only [Machine.trace_cons, Machine.trace_nil, List.forall_mem_cons]
    exact ⟨.inl ⟨rfl, rfl⟩, .inl (by decide +kernel), by simp⟩

/-- The tick that switches LKAS off grants the whole throttle, and so does the tick after an
override. -/
theorem throttle_resumes_without_on :
    ({ runtime := .new 1 : FedRuntime }.tick (halfThrottle .off false)).2.lkasMode = .off ∧
      ({ runtime := .new 1 : FedRuntime }.tick
        (halfThrottle .off false)).1.stepC.throttleLimit = .num 0.5 ∧
      (({ runtime := .new 1 : FedRuntime }.tick (halfThrottle .none true)).2.tick
        (halfThrottle .none false)).2.lkasMode = .off ∧
      (({ runtime := .new 1 : FedRuntime }.tick (halfThrottle .none true)).2.tick
        (halfThrottle .none false)).1.stepC.throttleLimit = .num 0.5 := by
  decide +kernel

end FedRuntime

end DcasPolicyEngine
