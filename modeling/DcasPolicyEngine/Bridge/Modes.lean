import DcasPolicyEngine.Bridge.Outputs

/-!
# The LKAS modes and the MRM events of the bridge

The loop feeds the LKAS mode back and never switches LKAS on, so the modes of a run only go down.
`bridge_modes_and_events` says more: the mode and the MRM event of every tick are functions of the
options and of the driver states up to that tick, `modeAfter` and `eventAfter`. Neither the speed,
the reasons, the throttle nor the clock has any other part in them.
-/

namespace DcasPolicyEngine

/-- The LKAS mode after ticks in these driver states: off after an override or two `ABSENT` ticks,
and active as long as all of them are `OK`. -/
def modeAfter (config : BridgeConfig) (states : List DriverState) : LkasMode :=
  if states = [] then config.lkasMode
  else if config.driverOverride = true ∨ config.lkasMode = .off ∨ 2 ≤ states.count .absent then .off
  else if config.lkasMode = .onInactive ∨ config.notebookInputAlive = false ∨
      ∃ state ∈ states, state ≠ .ok then .onInactive
  else .onActive

/-- The MRM event that ends ticks in these driver states: one for every `ABSENT` tick, unless the
override is on. -/
def eventAfter (config : BridgeConfig) (states : List DriverState) : Option MrmEvent :=
  if states.getLast? = some .absent ∧ config.driverOverride = false then
    some { mrmRequest := true, targetMode := (modeAfter config states).toUInt8 }
  else none

section ModeAfter

variable {config : BridgeConfig} {states : List DriverState}

/-- A mode that is off at first is off. -/
theorem mode_after_of_off (hmode : config.lkasMode = .off) : modeAfter config states = .off := by
  unfold modeAfter
  split
  · exact hmode
  · exact if_pos (.inr (.inl hmode))

/-- The mode of ticks that do not switch LKAS off. -/
theorem mode_after_of_kept (hnil : states ≠ []) (hoverride : ¬ config.driverOverride = true)
    (hmode : config.lkasMode ≠ .off) (hfew : ¬ 2 ≤ states.count .absent) :
    modeAfter config states =
      if config.lkasMode = .onInactive ∨ config.notebookInputAlive = false ∨
        ∃ state ∈ states, state ≠ .ok then .onInactive
      else .onActive := by
  rw [modeAfter, if_neg hnil, if_neg (by simp [hoverride, hmode, hfew])]

/-- The mode after one more tick. -/
theorem mode_after_concat (state : DriverState) :
    modeAfter config (states ++ [state]) =
      if config.driverOverride = true ∨ 2 ≤ (states ++ [state]).count .absent then .off
      else if modeAfter config states = .onActive ∧
          (state ≠ .ok ∨ config.notebookInputAlive = false) then .onInactive
      else modeAfter config states := by
  have hne : states ++ [state] ≠ [] := by simp
  by_cases hoff : config.driverOverride = true ∨ 2 ≤ (states ++ [state]).count .absent
  · rw [if_pos hoff, modeAfter, if_neg hne, if_pos (hoff.imp_right .inr)]
  rw [if_neg hoff]
  by_cases hmode : config.lkasMode = .off
  · rw [mode_after_of_off hmode, mode_after_of_off hmode]
    rfl
  obtain ⟨hoverride, hfew⟩ := not_or.mp hoff
  have hbefore : ¬ 2 ≤ states.count .absent := by
    rw [List.count_append] at hfew
    omega
  rw [mode_after_of_kept hne hoverride hmode hfew]
  simp only [List.mem_append, List.mem_singleton, or_and_right, exists_or, exists_eq_left]
  by_cases hnil : states = []
  · -- before the first tick the mode is that of the options
    subst hnil
    cases hinitial : config.lkasMode <;> cases config.notebookInputAlive <;>
      by_cases hok : state = .ok <;> simp_all [modeAfter]
  · rw [mode_after_of_kept hnil hoverride hmode hbefore]
    by_cases hlost : config.lkasMode = .onInactive ∨ config.notebookInputAlive = false ∨
        ∃ earlier ∈ states, earlier ≠ .ok
    · rw [if_pos hlost, if_pos (hlost.imp_right (Or.imp_right .inl))]
      rfl
    · obtain ⟨hactive, halive, hnone⟩ : _ ∧ _ ∧ _ := by simpa only [not_or] using hlost
      rw [if_neg hlost]
      simp only [hactive, halive, hnone, false_or, true_and]
      simp

end ModeAfter

/-! ## The loop -/

/-- What the loop has published for a tick. -/
def BridgeOutput.published (output : BridgeOutput) : LkasMode × Option MrmEvent :=
  (output.output.stepC.nextLkasMode, output.mrmEvent)

/-- The invariant of the loop: the counted MRM ticks and the mode that it feeds back are those of
the driver states that it has shown. -/
structure Tracks (config : BridgeConfig) (outputs : List BridgeOutput) (loop : BridgeState) :
    Prop where
  sound : loop.runtime.Sound
  count_eq : loop.runtime.stepCLatchedState.mrmActivationCountRunCycle =
    if config.driverOverride = true then 0
    else (outputs.map BridgeOutput.driverState).count .absent
  mode_eq : loop.lkasMode = modeAfter config (outputs.map BridgeOutput.driverState)
  published_eq : outputs.map BridgeOutput.published =
    (fronts (outputs.map BridgeOutput.driverState)).map fun states =>
      (modeAfter config states, eventAfter config states)

variable {config : BridgeConfig} {self : BridgeState} {input : BridgeInput}

/-- What the tick of an iteration takes from the options and from the loop, and what the loop keeps
and sends of its output. -/
theorem step_c_of_output {output : BridgeOutput}
    (houtput : (BridgeState.iterate config self input).1 = some output) :
    output.tick.stepC.previousLkasMode = self.lkasMode ∧
      output.tick.stepC.lkasSwitchEvent = .none ∧
      output.tick.stepC.notebookInputAlive = config.notebookInputAlive ∧
      output.tick.stepC.driverOverride = config.driverOverride ∧
      (BridgeState.iterate config self input).2.lkasMode = output.output.stepC.nextLkasMode ∧
      output.mrmEvent = BridgeState.mrmEvent output.output := by
  have hmode : (self.read input).lkasMode = self.lkasMode :=
    congrArg FedRuntime.lkasMode BridgeState.read_fed
  rcases BridgeState.iterate_cases config self input with ⟨hnone, _⟩ | htick
  · rw [hnone] at houtput
    cases houtput
  · rw [output_eq_tick_and_send houtput, htick]
    exact ⟨hmode, rfl, rfl, rfl, rfl, rfl⟩

section Tracks

variable {before : List BridgeOutput} {output : BridgeOutput}

/-- In the loop the override takes effect exactly when the option is on. -/
theorem Tracks.overridden_iff (h : Tracks config before self)
    (houtput : (BridgeState.iterate config self input).1 = some output) :
    self.runtime.Overridden output.tick ↔ config.driverOverride = true := by
  obtain ⟨_, _, _, hoverride, _⟩ := step_c_of_output houtput
  rw [PolicyRuntime.Overridden, hoverride]
  refine and_iff_left_of_imp fun hon => ?_
  -- with the option on no MRM tick is ever counted
  have hcount := h.count_eq
  rw [if_pos hon] at hcount
  rw [← Bool.not_eq_true, h.sound.lock_iff, hcount]
  omega

/-- The MRM is active on an `ABSENT` tick unless the option is on. -/
theorem Tracks.mrm_active_iff (h : Tracks config before self)
    (houtput : (BridgeState.iterate config self input).1 = some output) :
    output.output.stepC.mrmActive = true ↔
      output.driverState = .absent ∧ ¬ config.driverOverride = true := by
  obtain ⟨_, hresult, _⟩ := tick_of_output houtput
  have hmrm : (self.runtime.tick output.tick).1.stepC.mrmActive = true ↔ _ :=
    PolicyRuntime.tick_mrm_active_iff
  rw [h.overridden_iff houtput, ← hresult] at hmrm
  exact hmrm

/-- The HMI shows the MRM on the same ticks. -/
theorem Tracks.hmi_action_iff (h : Tracks config before self)
    (houtput : (BridgeState.iterate config self input).1 = some output) :
    output.output.stepC.hmiAction = .mrm ↔
      output.driverState = .absent ∧ ¬ config.driverOverride = true := by
  obtain ⟨_, hresult, _⟩ := tick_of_output houtput
  have haction : (self.runtime.tick output.tick).1.stepC.hmiAction = _ :=
    PolicyRuntime.tick_hmi_action
  rw [if_congr (h.overridden_iff houtput) rfl rfl, ← hresult] at haction
  rw [haction]
  show _ ↔ output.output.stepB.nextState = .absent ∧ _
  by_cases hon : config.driverOverride = true
  · simp [hon]
  · rw [if_neg hon, and_iff_left hon]
    unfold StepC.hmiOfState
    cases output.output.stepB.nextState <;> simp <;> split <;> decide

/-- The count after an iteration. -/
theorem Tracks.count_step (h : Tracks config before self)
    (houtput : (BridgeState.iterate config self input).1 = some output) :
    (BridgeState.iterate config self
        input).2.runtime.stepCLatchedState.mrmActivationCountRunCycle =
      if config.driverOverride = true then 0
      else ((before ++ [output]).map BridgeOutput.driverState).count .absent := by
  obtain ⟨_, hresult, hruntime⟩ := tick_of_output houtput
  have hmrm := h.mrm_active_iff houtput
  rw [hruntime, PolicyRuntime.tick_count, ← hresult, h.count_eq]
  by_cases hon : config.driverOverride = true
  · rw [if_pos hon, if_pos hon, if_neg (by simp [hmrm, hon])]
  · rw [if_neg hon, if_neg hon, List.map_append, List.count_append]
    by_cases habsent : output.driverState = .absent
    · rw [if_pos (hmrm.mpr ⟨habsent, hon⟩)]
      simp [habsent]
    · rw [if_neg fun hactive => habsent (hmrm.mp hactive).1]
      simp [habsent]

/-- The mode after an iteration. -/
theorem Tracks.mode_step (h : Tracks config before self)
    (houtput : (BridgeState.iterate config self input).1 = some output) :
    output.output.stepC.nextLkasMode =
      modeAfter config ((before ++ [output]).map BridgeOutput.driverState) := by
  obtain ⟨_, hresult, hruntime⟩ := tick_of_output houtput
  obtain ⟨hprevious, hevent, halive, _⟩ := step_c_of_output houtput
  have hcount := h.count_step houtput
  rw [hruntime] at hcount
  have hoff : self.runtime.Overridden output.tick ∨
        2 ≤ (self.runtime.tick output.tick).2.stepCLatchedState.mrmActivationCountRunCycle ↔
      config.driverOverride = true ∨
        2 ≤ ((before ++ [output]).map BridgeOutput.driverState).count .absent := by
    rw [h.overridden_iff houtput, hcount]
    by_cases hon : config.driverOverride = true <;> simp [hon]
  have hmode : (self.runtime.tick output.tick).1.stepC.nextLkasMode = _ :=
    PolicyRuntime.tick_next_lkas_mode
  let stepC := self.runtime.stepCInput output.tick.stepC output.output.stepB
  have hstate : stepC.driverState = output.driverState := rfl
  have hnone : stepC.lkasSwitchEvent = .none := hevent
  have hprevious : stepC.previousLkasMode = self.lkasMode := hprevious
  have halive : stepC.notebookInputAlive = config.notebookInputAlive := halive
  rw [if_congr hoff rfl rfl, ← hresult, StepC.requested_lkas_mode_of_no_event hnone, hstate,
    hprevious, halive] at hmode
  rw [hmode, List.map_append, List.map_singleton, mode_after_concat, ← h.mode_eq]

/-- An iteration with an output keeps the invariant. -/
theorem Tracks.step (h : Tracks config before self)
    (houtput : (BridgeState.iterate config self input).1 = some output) :
    Tracks config (before ++ [output]) (BridgeState.iterate config self input).2 := by
  obtain ⟨_, _, hruntime⟩ := tick_of_output houtput
  obtain ⟨_, _, _, _, hkept, hsent⟩ := step_c_of_output houtput
  have hmode := h.mode_step houtput
  refine ⟨?_, h.count_step houtput, hkept.trans hmode, ?_⟩
  · rw [hruntime]
    exact h.sound.tick output.tick
  · have hlast : output.published =
        (modeAfter config ((before ++ [output]).map BridgeOutput.driverState),
          eventAfter config ((before ++ [output]).map BridgeOutput.driverState)) := by
      rw [BridgeOutput.published, hsent, hmode]
      refine congrArg _ ?_
      rw [BridgeState.mrmEvent, eventAfter, hmode, List.map_append, List.map_singleton,
        List.getLast?_concat]
      refine if_congr ?_ rfl rfl
      rw [h.mrm_active_iff houtput, Bool.not_eq_true, Option.some_inj]
    rw [List.map_append, List.map_singleton, h.published_eq, hlast, List.map_append,
      List.map_singleton, fronts_concat, List.map_append, List.map_singleton]

/-- The invariant looks at the runtime and at the mode only. -/
theorem Tracks.of_fed (h : Tracks config before self) {loop : BridgeState}
    (hfed : loop.fed = self.fed) : Tracks config before loop := by
  have hruntime : loop.runtime = self.runtime := congrArg FedRuntime.runtime hfed
  have hmode : loop.lkasMode = self.lkasMode := congrArg FedRuntime.lkasMode hfed
  refine ⟨?_, ?_, ?_, h.published_eq⟩
  · rw [hruntime]
    exact h.sound
  · rw [hruntime]
    exact h.count_eq
  · rw [hmode]
    exact h.mode_eq

end Tracks

/-- Before the loop nothing has been shown. -/
theorem tracks_start (config : BridgeConfig) (startupUs : UInt64) :
    Tracks config [] (.start config startupUs) :=
  ⟨PolicyRuntime.sound_new 1, (ite_self 0).symm, rfl, rfl⟩

/-- The loop of every run tracks what it has shown. -/
theorem tracks_run (config : BridgeConfig) (startupUs : UInt64) (inputs : List BridgeInput) :
    Tracks config ((bridge config).shown (.start config startupUs) inputs)
      ((bridge config).run (.start config startupUs) inputs) := by
  refine (bridge config).shown_induction (Tracks config) (tracks_start config startupUs) ?_
  intro before self input _ htracks
  show Tracks config (before ++ (BridgeState.iterate config self input).1.toList) _
  cases houtput : (BridgeState.iterate config self input).1 with
  | some output => exact htracks.step houtput
  | none =>
      rcases BridgeState.iterate_cases config self input with ⟨_, hfed⟩ | htick
      · rw [Option.toList_none, List.append_nil]
        exact htracks.of_fed hfed
      · rw [htick] at houtput
        cases houtput

/-- Over every run of the bridge, the mode and the MRM event of each tick are those that the options
and the driver states up to that tick give. -/
theorem bridge_modes_and_events (config : BridgeConfig) (startupUs : UInt64)
    (inputs : List BridgeInput) :
    ((bridge config).shown (.start config startupUs) inputs).map BridgeOutput.published =
      (fronts (((bridge config).shown (.start config startupUs) inputs).map
        BridgeOutput.driverState)).map fun states =>
          (modeAfter config states, eventAfter config states) :=
  (tracks_run config startupUs inputs).published_eq

/-- In every run the MRM is active on the `ABSENT` ticks, and the HMI shows it, unless the option is
on. -/
theorem mrm_of_shown {config : BridgeConfig} {startupUs : UInt64} {inputs : List BridgeInput}
    {output : BridgeOutput}
    (houtput : output ∈ (bridge config).shown (.start config startupUs) inputs) :
    (output.output.stepC.mrmActive = true ↔
        output.driverState = .absent ∧ ¬ config.driverOverride = true) ∧
      (output.output.stepC.hmiAction = .mrm ↔
        output.driverState = .absent ∧ ¬ config.driverOverride = true) := by
  obtain ⟨e, he, hshown⟩ := (bridge config).exists_of_mem_shown houtput
  obtain ⟨pre, input, post, _, rfl⟩ := (bridge config).mem_trace_iff.mp he
  have htracks := tracks_run config startupUs pre
  exact ⟨htracks.mrm_active_iff hshown, htracks.hmi_action_iff hshown⟩

end DcasPolicyEngine
