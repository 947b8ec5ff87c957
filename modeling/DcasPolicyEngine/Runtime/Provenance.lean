import DcasPolicyEngine.Runtime.LkasFeedback

/-!
# Where an active LKAS comes from

LKAS is active only as long as nothing takes a precondition away: the state is `OK`, the notebook
input is alive and the driver neither overrides nor switches it off. `on_active_provenance` follows
an active LKAS back to the `ON` event that activated it, or to the start of the run.
-/

namespace DcasPolicyEngine

/-- The preconditions of an active LKAS on a tick. -/
structure SustainsLkas (input : RuntimeTickInput) (output : RuntimeTickOutput) : Prop where
  ok : output.stepB.nextState = .ok
  alive : input.stepC.notebookInputAlive = true
  no_override : input.stepC.driverOverride = false
  not_off : input.stepC.lkasSwitchEvent ≠ .off

/-- A tick that returns `ON_ACTIVE` meets the preconditions, and LKAS was active before it or it
carries `ON`. -/
theorem PolicyRuntime.Sound.sustains_of_on_active {self : PolicyRuntime} (h : self.Sound)
    {input : RuntimeTickInput} (hactive : (self.tick input).1.stepC.nextLkasMode = .onActive) :
    SustainsLkas input (self.tick input).1 ∧
      (input.stepC.lkasSwitchEvent = .on ∨ input.stepC.previousLkasMode = .onActive) := by
  rw [tick_next_lkas_mode] at hactive
  split at hactive
  · cases hactive
  · next hgranted =>
      obtain ⟨hoverridden, hcount⟩ := not_or.mp hgranted
      obtain ⟨hok, halive⟩ := StepC.requested_lkas_mode_on_active hactive
      obtain ⟨hswitch, horigin⟩ := StepC.requested_lkas_mode_on_active_origin hactive
      refine ⟨⟨hok, halive, ?_, hswitch⟩, horigin⟩
      cases hoverride : input.stepC.driverOverride with
      | false => rfl
      | true =>
          -- the override is not effective, so the lock is set, and then LKAS is off
          have hlock : self.stepCLatchedState.driverOverrideLock = true := by
            simpa [Overridden, hoverride] using hoverridden
          have hafter := (h.tick input).lock_iff.mp (tick_lock_iff.mpr (.inl hlock))
          exact absurd hafter hcount

namespace FedRuntime

variable {self : FedRuntime}

/-- A tick that meets the preconditions of an active LKAS. A reset has none to meet. -/
def Sustains (e : FedEvent) : Prop :=
  ∀ input output, e.input = .tick input → e.output = some output → SustainsLkas input output

/-- The calls end with a stretch that begins with `ON`, or at the start with LKAS active, and all
of whose ticks meet the preconditions of an active LKAS. -/
def Sustained (self : FedRuntime) (calls : List RuntimeCall) : Prop :=
  ∃ front stretch, calls = front ++ stretch ∧
    ((∃ first rest, stretch = first :: rest ∧ first.SwitchesOn) ∨
      (front = [] ∧ self.lkasMode = .onActive)) ∧
    ∀ e ∈ fedRuntime.trace (fedRuntime.run self front) stretch, Sustains e

/-- One more call that meets the preconditions continues the stretch. -/
theorem Sustained.concat {calls : List RuntimeCall} (h : self.Sustained calls) {call : RuntimeCall}
    (hcall : Sustains (fedRuntime.event (fedRuntime.run self calls) call)) :
    self.Sustained (calls ++ [call]) := by
  obtain ⟨front, stretch, rfl, hstart, hsustains⟩ := h
  refine ⟨front, stretch ++ [call], List.append_assoc front stretch [call], ?_, ?_⟩
  · obtain ⟨first, rest, rfl, hon⟩ | hinitial := hstart
    · exact .inl ⟨first, rest ++ [call], rfl, hon⟩
    · exact .inr hinitial
  · intro e he
    rw [fedRuntime.trace_append] at he
    obtain hearlier | hlast := List.mem_append.mp he
    · exact hsustains e hearlier
    · rw [List.mem_singleton.mp hlast, ← fedRuntime.run_append]
      exact hcall

/-- A tick with `ON` that meets the preconditions begins a stretch. -/
theorem sustained_of_on {calls : List RuntimeCall} {call : RuntimeCall} (hon : call.SwitchesOn)
    (hcall : Sustains (fedRuntime.event (fedRuntime.run self calls) call)) :
    self.Sustained (calls ++ [call]) := by
  refine ⟨calls, [call], rfl, .inl ⟨call, [], rfl, hon⟩, ?_⟩
  intro e he
  rw [List.mem_singleton.mp he]
  exact hcall

/-- Calls after which LKAS is kept active end with such a stretch. -/
theorem sustained_of_on_active (h : self.runtime.Reachable) {calls : List RuntimeCall}
    (hactive : (fedRuntime.run self calls).lkasMode = .onActive) : self.Sustained calls := by
  induction calls using List.reverseRecOn with
  | nil =>
      refine ⟨[], [], rfl, .inr ⟨rfl, hactive⟩, ?_⟩
      simp
  | append_singleton calls call ih =>
      rw [fedRuntime.run_concat] at hactive
      cases call with
      | resetForNewRunCycle runCycleId =>
          refine (ih hactive).concat ?_
          rintro input output ⟨⟩
      | tick input =>
          have hreturned : ((fedRuntime.run self calls).runtime.tick
              ((fedRuntime.run self calls).fed input)).1.stepC.nextLkasMode = .onActive := hactive
          obtain ⟨⟨hok, halive, hoverride, hswitch⟩, horigin⟩ :=
            (reachable_run h calls).sound.sustains_of_on_active hreturned
          have hcall : Sustains (fedRuntime.event (fedRuntime.run self calls) (.tick input)) := by
            rintro input output ⟨⟩ ⟨⟩
            exact ⟨hok, halive, hoverride, hswitch⟩
          obtain hon | hkept := horigin
          · exact sustained_of_on hon hcall
          · exact (ih hkept).concat hcall

/-- When a tick returns `ON_ACTIVE`, the run up to it ends with a stretch of calls that begins with
a tick carrying `ON`, or is the whole run after LKAS was active at its start. On every tick of the
stretch the state is `OK`, the notebook input is alive, and the driver neither overrides nor
switches LKAS off. -/
theorem on_active_provenance (h : self.runtime.Reachable) (calls : List RuntimeCall)
    (input : RuntimeTickInput)
    (hactive : ((fedRuntime.run self calls).tick input).1.stepC.nextLkasMode = .onActive) :
    self.Sustained (calls ++ [.tick input]) := by
  refine sustained_of_on_active h ?_
  rw [fedRuntime.run_concat]
  exact hactive

/-- An attentive tick with a switch event. -/
def switchTick (event : LkasSwitchEvent) : RuntimeTickInput :=
  { stepC := { lkasSwitchEvent := event } }

/-- LKAS that is switched on and stays on for a tick has come from the `ON` event or from the
start. -/
theorem on_active_provenance_on :
    FedRuntime.Sustained { runtime := .new 1, lkasMode := .off }
      [.tick (switchTick .on), .tick (switchTick .none)] :=
  have hreachable : ({ runtime := .new 1, lkasMode := .off } : FedRuntime).runtime.Reachable :=
    .new 1
  on_active_provenance hreachable [.tick (switchTick .on)] (switchTick .none) (by decide +kernel)

end FedRuntime

end DcasPolicyEngine
