import DcasPolicyEngine.Runtime.CriticalReason

/-!
# Escalation in a fixed speed band

While the driver stays inattentive in one speed band, the state is a function of the time: it is the
level of the inattention timer, to which the ticks are added in the format of the timer. `Escalated`
is the invariant. The state is the level of a time that is not later than the timer, since the first
tick can find a timer that has passed a threshold in another band, and the latch stops the timer.
The exact sum of the ticks has another level when rounding comes between (`escalation_rounded`).
-/

namespace DcasPolicyEngine

open Rounding

/-- An inattentive driver in a speed band, with the camera open and without a critical report. -/
structure InattentiveInBand (band : SpeedBand) (input : StepBInput) : Prop where
  inattentive : input.perception.isAttentive = false
  camera_open : input.perception.cameraBlocked = false
  not_critical : ¬ CriticalReport input.perception
  in_band : estimate input.jetracerInput04 = band

/-- The time from `start` on after some inputs, each added in the format. A negative delta counts as
zero. -/
def elapsedS (start : ℚ) (inputs : List StepBInput) : ℚ :=
  addUp start (inputs.map fun input => max 0 input.deltaS)

/-- The state is the level of the time `counted`, and the timer stands at `elapsed` until the latch
is set. -/
structure Escalated (band : SpeedBand) (counted elapsed : ℚ) (store : StateTimerStore) : Prop where
  sound : store.Sound
  not_critical : isCriticalReason store.latestReason = false
  counted_nonneg : 0 ≤ counted
  counted_le : counted ≤ elapsed
  elapsed_rounded : IsRounded elapsed
  state_eq : store.currentState = (schedule band).level counted
  elapsed_eq : store.absentLatchedRunCycle = false → store.inattentiveElapsedS = elapsed

variable {band : SpeedBand} {counted elapsed : ℚ} {store : StateTimerStore} {input : StepBInput}

/-- A store in `OK` shows the level of the time zero. -/
theorem StepBStateStore.Reachable.escalated (h : store.Reachable) (hok : store.currentState = .ok)
    (hnone : isCriticalReason store.latestReason = false) (band : SpeedBand) :
    Escalated band 0 store.inattentiveElapsedS store where
  sound := h.sound
  not_critical := hnone
  counted_nonneg := le_rfl
  counted_le := h.sound.inattentive_nonneg
  elapsed_rounded := h.sound.inattentive_rounded
  state_eq := by
    have hordered := schedule_ordered band
    rw [hok, hordered.level_eq_ok hordered.warn_pos]
  elapsed_eq _ := rfl

/-- The time counted before a tick is not later than the time after it. -/
theorem Escalated.counted_le_after (h : Escalated band counted elapsed store)
    (input : StepBInput) : counted ≤ add elapsed (max 0 input.deltaS) :=
  h.counted_le.trans (h.elapsed_rounded.le_add (le_max_left 0 input.deltaS))

/-- With the latch off, a tick in the band escalates to the level of the timer. -/
theorem Escalated.escalate_eq (h : Escalated band counted elapsed store)
    (hlatch : store.absentLatchedRunCycle = false) (hinput : InattentiveInBand band input) :
    escalate input.thresholds store.currentState (add elapsed (max 0 input.deltaS)) =
      (schedule band).level (add elapsed (max 0 input.deltaS)) ∧
    inattentiveAfter store input = add elapsed (max 0 input.deltaS) := by
  have hthresholds : input.thresholds = schedule band := congrArg schedule hinput.in_band
  constructor
  · rw [hthresholds, h.state_eq, escalate_level_eq_iff (schedule_ordered band) h.counted_nonneg
      (h.counted_le_after input)]
    exact .inl rfl
  · rw [inattentiveAfter, h.elapsed_eq hlatch]

/-- With the latch on, the level of the time that goes on is `ABSENT` too. -/
theorem Escalated.level_eq_absent (h : Escalated band counted elapsed store)
    (hlatch : store.absentLatchedRunCycle = true) (input : StepBInput) :
    (schedule band).level (add elapsed (max 0 input.deltaS)) = .absent := by
  have hgrows := (schedule_ordered band).level_mono h.counted_nonneg (h.counted_le_after input)
  rw [← h.state_eq, h.sound.latch_iff.mpr hlatch] at hgrows
  exact le_antisymm (DriverState.le_absent _) hgrows

/-- What a tick in the band leaves: the level of the timer, the timer unless the latch stops it,
and the reason that belongs to the state. -/
theorem Escalated.evaluate_eq (h : Escalated band counted elapsed store)
    (hinput : InattentiveInBand band input) :
    (evaluate input store).2.currentState =
        (schedule band).level (add elapsed (max 0 input.deltaS)) ∧
      ((evaluate input store).2.absentLatchedRunCycle = false →
        (evaluate input store).2.inattentiveElapsedS = add elapsed (max 0 input.deltaS)) ∧
      (evaluate input store).1.reason =
        if (evaluate input store).2.currentState = .ok then .none
        else (evaluate input store).2.latestReason := by
  cases hlatch : store.absentLatchedRunCycle with
  | true =>
      rw [evaluate_latched hlatch, h.level_eq_absent hlatch input]
      refine ⟨rfl, ?_, rfl⟩
      intro hunlatched
      rw [accept_reason_absent_latched_run_cycle, hlatch] at hunlatched
      cases hunlatched
  | false =>
      have hnone := accept_reason_not_critical h.not_critical hinput.not_critical
      obtain ⟨hlevel, htimer⟩ := h.escalate_eq hlatch hinput
      rw [evaluate_inattentive hlatch hinput.camera_open hnone hinput.inattentive]
      dsimp only
      rw [htimer]
      exact ⟨hlevel, fun _ => rfl, rfl⟩

/-- After a tick in the band, the state is the level of the timer. -/
theorem Escalated.step (h : Escalated band counted elapsed store)
    (hinput : InattentiveInBand band input) :
    Escalated band (add elapsed (max 0 input.deltaS)) (add elapsed (max 0 input.deltaS))
      (evaluate input store).2 where
  sound := evaluate_sound h.sound input
  not_critical := evaluate_not_critical h.not_critical hinput.not_critical hinput.camera_open
  counted_nonneg := h.counted_nonneg.trans (h.counted_le_after input)
  counted_le := le_rfl
  elapsed_rounded := is_rounded_add _ _
  state_eq := (h.evaluate_eq hinput).1
  elapsed_eq := (h.evaluate_eq hinput).2.1

/-- The state stays the level of a time while ticks in the band follow. -/
theorem Escalated.run (h : Escalated band counted elapsed store) {inputs : List StepBInput}
    (hinputs : ∀ input ∈ inputs, InattentiveInBand band input) :
    ∃ counted', Escalated band counted' (elapsedS elapsed inputs) (stepB.run store inputs) := by
  induction inputs generalizing counted elapsed store with
  | nil => exact ⟨counted, h⟩
  | cons input inputs ih =>
      rw [List.forall_mem_cons] at hinputs
      obtain ⟨hinput, hrest⟩ := hinputs
      exact ih (h.step hinput) hrest

/-- From every reachable store in `OK` without a critical reason, after inattentive ticks in one
speed band the state is the level of the timer with the ticks added to it. The latch is set exactly
when that time has reached `T_absent`. The last tick returns this state and this latch, with no
reason in `OK` and the stored one otherwise. -/
theorem escalation_in_fixed_band (h : store.Reachable) (hok : store.currentState = .ok)
    (hnone : isCriticalReason store.latestReason = false) {inputs : List StepBInput}
    (hne : inputs ≠ []) (hinputs : ∀ input ∈ inputs, InattentiveInBand band input) :
    (stepB.run store inputs).currentState =
        (schedule band).level (elapsedS store.inattentiveElapsedS inputs) ∧
      ((stepB.run store inputs).absentLatchedRunCycle = true ↔
        (schedule band).tAbsentEffS ≤ elapsedS store.inattentiveElapsedS inputs) ∧
      ∃ last, (stepB.outputs store inputs).getLast? = some last ∧
        last.nextState = (stepB.run store inputs).currentState ∧
        last.absentLatchedRunCycle = (stepB.run store inputs).absentLatchedRunCycle ∧
        last.reason =
          if (stepB.run store inputs).currentState = .ok then .none
          else (stepB.run store inputs).latestReason := by
  obtain ⟨earlier, input, rfl⟩ := (List.eq_nil_or_concat' inputs).resolve_left hne
  obtain ⟨counted, hearlier⟩ := (h.escalated hok hnone band).run
    fun other hother => hinputs other (List.mem_append_left [input] hother)
  have hinput := hinputs input (by simp)
  have helapsed : elapsedS store.inattentiveElapsedS (earlier ++ [input]) =
      add (elapsedS store.inattentiveElapsedS earlier) (max 0 input.deltaS) := by
    simp [elapsedS]
  have hstep := hearlier.step hinput
  rw [Machine.run_concat, Machine.outputs_concat, List.getLast?_concat, helapsed]
  refine ⟨hstep.state_eq, ?_, _, rfl, evaluate_next_state_eq _ _,
    evaluate_absent_latched_run_cycle_eq _ _, (hearlier.evaluate_eq hinput).2.2⟩
  rw [← Thresholds.level_eq_absent_iff, ← hstep.state_eq]
  exact hstep.sound.latch_iff.symm

/-- An inattentive tick at high speed that reports `PHONE`. -/
def inattentiveHigh (deltaS : ℚ) : StepBInput :=
  { perception := { isAttentive := false, reason := .phone }
    jetracerInput04 := .num (literal 0.4)
    deltaS := deltaS }

/-- The ticks of a high speed are in the high band. -/
theorem inattentive_high (deltas : List ℚ) :
    ∀ input ∈ deltas.map inattentiveHigh, InattentiveInBand .high input := by
  intro input hinput
  obtain ⟨deltaS, _, rfl⟩ := List.mem_map.mp hinput
  have hband : estimate (.num (literal 0.4)) = .high := by decide +kernel
  exact ⟨rfl, rfl, by simp [CriticalReport, inattentiveHigh], hband⟩

/-- At high speed, half a second and a step back in time do not warn, and five more seconds
escalate. -/
theorem escalation_in_fixed_band_high :
    (stepB.run {} ([0.5, -1].map inattentiveHigh)).currentState = .ok ∧
      (stepB.run {} ([0.5, -1, 5].map inattentiveHigh)).currentState = .escalation :=
  have hreachable : StepBStateStore.Reachable {} := ⟨{}, [], rfl, rfl⟩
  ⟨(escalation_in_fixed_band hreachable rfl rfl (by simp) (inattentive_high _)).1.trans
      (by decide +kernel),
    (escalation_in_fixed_band hreachable rfl rfl (by simp) (inattentive_high _)).1.trans
      (by decide +kernel)⟩

/-- Ten inattentive ticks of 200 ms at a middle speed last for `T_warn`, but the timer that adds
them up is just below it. -/
theorem escalation_rounded :
    estimate (.num (literal 0.2)) = .mid ∧ (schedule .mid).tWarnEffS = 2 ∧
      2 ≤ ((List.replicate 10 (literal 0.2)).map (max 0)).sum ∧
      (stepB.run {} ((List.replicate 10 (literal 0.2)).map fun deltaS =>
        { perception := { isAttentive := false }
          jetracerInput04 := .num (literal 0.2)
          deltaS := deltaS })).currentState = .ok := by
  decide +kernel

end DcasPolicyEngine
