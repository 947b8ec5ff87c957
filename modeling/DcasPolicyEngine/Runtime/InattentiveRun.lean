import DcasPolicyEngine.Runtime.Invariants

/-!
# Runs of inattentive ticks

While the driver stays inattentive the state should only grow. The state of an inattentive tick
is the level of the inattention timer under the thresholds of the current speed band, and the
level `WARNING` replaces a held `ESCALATION`. `held_grows_iff` says that this is the only way
down.
-/

namespace DcasPolicyEngine

/-- An inattentive driver with the camera open. -/
def RuntimeTickInput.Inattentive (input : RuntimeTickInput) : Prop :=
  input.stepB.perception.isAttentive = false ∧ input.stepB.perception.cameraBlocked = false

instance (input : RuntimeTickInput) : Decidable input.Inattentive :=
  inferInstanceAs (Decidable (_ ∧ _))

/-- The store holds `ESCALATION` while the timer is between `T_warn` and `T_esc` of the current
speed band. -/
def Relapses (store : StateTimerStore) (input : StepBInput) : Prop :=
  store.currentState = .escalation ∧ NoCriticalReason store input ∧
    input.thresholds.tWarnEffS ≤ inattentiveAfter store input ∧
    inattentiveAfter store input < input.thresholds.tEscEffS

instance (store : StateTimerStore) (input : StepBInput) : Decidable (Relapses store input) :=
  inferInstanceAs (Decidable (_ ∧ _ ∧ _ ∧ _))

/-- Escalation from a state below `ABSENT` goes down exactly from `ESCALATION` to `WARNING`. -/
theorem le_escalate_iff {thresholds : Thresholds} (h : thresholds.Ordered) {held : DriverState}
    (hheld : held ≠ .absent) (elapsed : ℚ) :
    held ≤ escalate thresholds held elapsed ↔
      ¬ (held = .escalation ∧ thresholds.tWarnEffS ≤ elapsed ∧
        elapsed < thresholds.tEscEffS) := by
  have hwarn := h.warn_pos
  rcases escalate_cases thresholds held elapsed with ⟨hreached, hlevel⟩ | ⟨hlow, hkept⟩
  · rw [hlevel, h.le_level_iff (hwarn.le.trans hreached)]
    cases held with
    | ok => simpa [Thresholds.threshold] using hwarn.le.trans hreached
    | warning => simpa [Thresholds.threshold] using hreached
    | escalation => simp [Thresholds.threshold, hreached]
    | absent => exact absurd rfl hheld
  · rw [hkept]
    refine iff_of_true le_rfl ?_
    intro hrelapse
    obtain ⟨_, hreached, _⟩ := hrelapse
    exact absurd hreached hlow.not_ge

namespace PolicyRuntime

variable {self : PolicyRuntime} {input : RuntimeTickInput}

/-- On an inattentive tick the state does not go down, exactly when the tick does not relapse. -/
theorem held_grows_iff (h : self.Sound) (hinattentive : input.Inattentive) :
    self.held ≤ (self.tick input).2.held ↔ ¬ Relapses self.stepBStateStore input.stepB := by
  obtain ⟨hattentive, hopen⟩ := hinattentive
  show self.stepBStateStore.currentState ≤ (evaluate _ _).2.currentState ↔ _
  rw [← evaluate_next_state_eq]
  cases exits input.stepB self.stepBStateStore with
  | latched hlatch =>
      -- the held state is `ABSENT`, so there is no `ESCALATION` to relapse from
      rw [evaluate_latched hlatch]
      refine iff_of_true (DriverState.le_absent _) ?_
      intro hrelapse
      obtain ⟨hescalation, _⟩ := hrelapse
      rw [h.store.latch_iff.mpr hlatch] at hescalation
      cases hescalation
  | camera hlatch hbelow => exact absurd hbelow (not_blocked_below_absent hopen)
  | critical hlatch hbelow hcritical =>
      rw [evaluate_critical hlatch hbelow hcritical]
      refine iff_of_true (DriverState.le_absent _) ?_
      intro hrelapse
      obtain ⟨_, hnone, _⟩ := hrelapse
      have hreason := hcritical.resolve_left (by simp [hopen])
      rw [hnone] at hreason
      cases hreason
  | timers hlatch hblocked hnone =>
      rw [evaluate_inattentive hlatch hblocked hnone hattentive]
      have hheld : self.stepBStateStore.currentState ≠ .absent := h.held_ne_absent hlatch
      show _ ≤ escalate _ _ _ ↔ _
      rw [le_escalate_iff input.stepB.thresholds_ordered hheld]
      simp [Relapses, NoCriticalReason, hnone]

/-- Along a run of inattentive ticks the state never goes down, exactly when no tick of the run
relapses. -/
theorem inattentive_run_grows_iff (h : self.Reachable) {inputs : List RuntimeTickInput}
    (hinputs : ∀ input ∈ inputs, input.Inattentive) :
    (self.held :: (runtime.trace self inputs).map fun e => e.output.stepB.nextState).IsChain
        (· ≤ ·) ↔
      ∀ e ∈ runtime.trace self inputs, ¬ Relapses e.before.stepBStateStore e.input.stepB := by
  have hstored : ((runtime.trace self inputs).map fun e => e.output.stepB.nextState) =
      (runtime.trace self inputs).map fun e => e.after.held := by
    refine List.map_congr_left ?_
    intro e he
    rw [runtime.event_of_mem_trace he]
    exact tick_next_state_eq e.before e.input
  rw [hstored, runtime.is_chain_observations_iff]
  refine forall₂_congr ?_
  intro e he
  have hsound := (h.sound.trace inputs e he).1
  have hinattentive := hinputs e.input (runtime.input_mem_of_mem_trace he)
  rw [runtime.event_of_mem_trace he]
  exact held_grows_iff hsound hinattentive

/-- An inattentive tick at a speed input, for a time. -/
def inattentiveAt (jetracerInput04 deltaS : ℚ) : RuntimeTickInput :=
  { stepB :=
      { perception := { isAttentive := false }
        jetracerInput04 := .num (literal jetracerInput04)
        deltaS := literal deltaS } }

/-- At a constant high speed the state grows. -/
theorem inattentive_run_grows_high :
    ((PolicyRuntime.new 1).held ::
        (runtime.trace (.new 1) [inattentiveAt 0.4 3, inattentiveAt 0.4 3]).map
          fun e => e.output.stepB.nextState).IsChain (· ≤ ·) :=
  (inattentive_run_grows_iff (Reachable.new 1)
    (by simp [RuntimeTickInput.Inattentive, inattentiveAt])).mpr (by decide +kernel)

/-- After three seconds at high speed, an inattentive tick at low speed takes `ESCALATION` down
to `WARNING`. -/
theorem inattentive_run_relapses :
    (runtime.trace (.new 1) [inattentiveAt 0.4 3, inattentiveAt 0 0.02]).map
        (fun e => e.output.stepB.nextState) = [.escalation, .warning] ∧
      ¬ DriverState.escalation ≤ .warning := by
  decide +kernel

end PolicyRuntime

end DcasPolicyEngine
