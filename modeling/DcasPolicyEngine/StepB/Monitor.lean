import DcasPolicyEngine.Machine.Simulation
import DcasPolicyEngine.StepB.Recovery

/-!
# Step B as an escalation monitor

What Step B is for: it watches an inattentive driver. A sound store is a `Watch` over the driver
states with times in `ℚ≥0`, and an evaluation is one observation of the monitor. `stepBMonitor`
is the simulation. The reason register is the only part of the store that the watch leaves out.
It decides, with the input, which observation is made.
-/

namespace DcasPolicyEngine

open Escalation Rounding

/-- The watch that a store keeps. -/
def StepBStateStore.watch (store : StepBStateStore) : Watch DriverState ℚ≥0 :=
  if store.absentLatchedRunCycle then .final
  else .enter store.currentState store.inattentiveElapsedS.toNNRat store.recoverElapsedS.toNNRat

/-- Recovery as the monitor decides it. -/
theorem recover_eq_ite (held : DriverState) {elapsed : ℚ} (helapsed : 0 ≤ elapsed) :
    recover held elapsed = if 3 ≤ elapsed.toNNRat then .ok else held := by
  have hhold : 3 ≤ elapsed.toNNRat ↔ 3 ≤ elapsed := Rat.le_toNNRat_iff_coe_le helapsed
  by_cases hreached : 3 ≤ elapsed
  · rw [if_pos (hhold.mpr hreached)]
    by_cases hheld : held = .ok
    · rw [hheld, recover_ok]
    · exact (recover_eq_ok_iff hheld elapsed).mpr hreached
  · rw [if_neg (mt hhold.mp hreached), recover_eq_held (not_le.mp hreached)]

variable [Rounding]

/-- A time in the format, advanced by another one. -/
def advanceTime (elapsed duration : ℚ≥0) : ℚ≥0 :=
  ⟨add elapsed duration, zero_le_add elapsed.coe_nonneg duration.coe_nonneg⟩

/-- The escalation monitor of a driver: `T_recover_hold` of attention leads back to `OK`. -/
def driverMonitor : Machine (Watch DriverState ℚ≥0) (Observation DriverState ℚ≥0) DriverState :=
  monitor advanceTime 3

/-- The observation that an evaluation makes. -/
def observation (store : StateTimerStore) (input : StepBInput) : Observation DriverState ℚ≥0 :=
  if BlockedBelowAbsent input then .blind .warning (by decide)
  else if input.perception.cameraBlocked ∨
      isCriticalReason (acceptReason store input.perception).latestReason then .alarm
  else if input.perception.isAttentive then .cleared input.deltaS.toNNRat
  else .present input.thresholds_ordered.ladder input.deltaS.toNNRat

/-! ## The simulation -/

variable {store : StateTimerStore} {input : StepBInput}

/-- A timer advanced by a delta, as a time. -/
theorem to_nnrat_advance {elapsed : ℚ} (helapsed : 0 ≤ elapsed) (delta : ℚ) :
    (add elapsed (max 0 delta)).toNNRat = advanceTime elapsed.toNNRat delta.toNNRat := by
  have hnonneg := zero_le_add helapsed (le_max_left 0 delta)
  have hdelta : (delta.toNNRat : ℚ) = max 0 delta := max_comm delta 0
  ext
  rw [Rat.coe_toNNRat _ hnonneg]
  show _ = add _ _
  rw [Rat.coe_toNNRat _ helapsed, hdelta]

/-- The watch of a sound store with the latch off. -/
theorem StepBStateStore.Sound.watch_of_unlatched (h : store.Sound)
    (hlatch : store.absentLatchedRunCycle = false) :
    store.watch = .watching store.currentState (h.ne_absent hlatch)
      store.inattentiveElapsedS.toNNRat store.recoverElapsedS.toNNRat := by
  unfold StepBStateStore.watch
  rw [hlatch]
  exact Watch.enter_of_ne_top _ _ _

/-- The watch of a sound store is at its state. -/
theorem StepBStateStore.Sound.watch_eq_enter (h : store.Sound) :
    store.watch = .enter store.currentState store.inattentiveElapsedS.toNNRat
      store.recoverElapsedS.toNNRat := by
  unfold StepBStateStore.watch
  split
  · next hlatch =>
      rw [h.latch_iff.mpr hlatch]
      exact (Watch.enter_top _ _).symm
  · rfl

/-- The monitor shows the state of the store. -/
theorem StepBStateStore.Sound.level_watch (h : store.Sound) :
    store.watch.level = store.currentState := by
  rw [h.watch_eq_enter, Watch.level_enter]

/-- An evaluation moves the watch of a sound store by the observation that it makes. -/
theorem observe_watch (h : store.Sound) (input : StepBInput) :
    observe advanceTime 3 store.watch (observation store input) =
      (evaluate input store).2.watch := by
  rw [(evaluate_sound h input).watch_eq_enter]
  cases exits input store with
  | latched hlatch =>
      -- a final watch ignores the observation, whichever it is
      rw [evaluate_latched hlatch, StepBStateStore.watch, if_pos hlatch]
      exact (Watch.enter_top _ _).symm
  | camera hlatch hbelow =>
      have hblind : observation store input = .blind .warning (by decide) := if_pos hbelow
      rw [evaluate_camera hlatch hbelow, h.watch_of_unlatched hlatch, hblind]
      simp [observe, Watch.enter_of_ne_top]
  | critical hlatch hbelow hcritical =>
      have halarm : observation store input = .alarm := by
        rw [observation, if_neg hbelow, if_pos hcritical]
      rw [evaluate_critical hlatch hbelow hcritical, h.watch_of_unlatched hlatch, halarm]
      exact (Watch.enter_top _ _).symm
  | timers hlatch hblocked hcritical =>
      have hbelow := not_blocked_below_absent hblocked
      rw [h.watch_of_unlatched hlatch]
      cases hattentive : input.perception.isAttentive with
      | true =>
          have hcleared : observation store input = .cleared input.deltaS.toNNRat := by
            simp [observation, hbelow, hblocked, hcritical, hattentive]
          rw [evaluate_attentive hlatch hblocked hcritical hattentive, hcleared]
          have hadvance : (recoverAfter store input).toNNRat =
              advanceTime store.recoverElapsedS.toNNRat input.deltaS.toNNRat :=
            to_nnrat_advance h.recover_nonneg input.deltaS
          simp only [recover_eq_ite _ (recover_after_nonneg h input), hadvance]
          rfl
      | false =>
          have hpresent : observation store input =
              .present input.thresholds_ordered.ladder input.deltaS.toNNRat := by
            simp [observation, hbelow, hblocked, hcritical, hattentive]
          rw [evaluate_inattentive hlatch hblocked hcritical hattentive, hpresent]
          have hadvance : (inattentiveAfter store input).toNNRat =
              advanceTime store.inattentiveElapsedS.toNNRat input.deltaS.toNNRat :=
            to_nnrat_advance h.inattentive_nonneg input.deltaS
          have hnonneg := inattentive_after_nonneg h input
          simp only [escalate_eq_climb input.thresholds_ordered _ hnonneg, hadvance]
          rfl

/-- Step B on sound stores is the escalation monitor of the driver. -/
def stepBMonitor : Machine.Simulation stepB driverMonitor where
  inv := StepBStateStore.Sound
  state := StepBStateStore.watch
  input := observation
  output := StepBOutput.nextState
  inv_step _ input h := evaluate_sound h input
  step_eq store input h := by
    have hobserve := observe_watch h input
    have hlevel := (evaluate_sound h input).level_watch
    show ((observe advanceTime 3 _ _).level, observe advanceTime 3 _ _) = _
    rw [hobserve, hlevel, ← evaluate_next_state_eq]
    rfl

end DcasPolicyEngine
