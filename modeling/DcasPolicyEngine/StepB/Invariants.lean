import DcasPolicyEngine.StepB.Timers

/-!
# What every evaluation of Step B preserves

A store is `Sound` when its state is `ABSENT` exactly with the latch on and its timers are numbers
of the format that are not negative. `evaluate_sound` shows that every exit keeps a store sound.
`AbsentDue` says, in terms of the store and the input, when an evaluation ends in `ABSENT`.
-/

namespace DcasPolicyEngine

open Rounding

/-! ## Which states are reached -/

/-- Escalation reaches `ABSENT` from a lower state exactly at `T_absent`. -/
theorem escalate_eq_absent_iff {thresholds : Thresholds} (h : thresholds.Ordered)
    {held : DriverState} (hheld : held ≠ .absent) (elapsed : ℚ) :
    escalate thresholds held elapsed = .absent ↔ thresholds.tAbsentEffS ≤ elapsed := by
  rcases escalate_cases thresholds held elapsed with ⟨_, hlevel⟩ | ⟨hlow, hkept⟩
  · rw [hlevel]
    exact thresholds.level_eq_absent_iff elapsed
  · rw [hkept]
    have hbelow : elapsed < thresholds.tAbsentEffS :=
      hlow.trans (h.warn_lt_esc.trans h.esc_lt_absent)
    exact iff_of_false hheld hbelow.not_ge

/-- Recovery does not go up. -/
theorem recover_le (held : DriverState) (elapsed : ℚ) : recover held elapsed ≤ held := by
  unfold recover
  split
  · exact held.ok_le
  · exact le_rfl

/-- Recovery never reaches `ABSENT` from a lower state. -/
theorem recover_ne_absent {held : DriverState} (hheld : held ≠ .absent) (elapsed : ℚ) :
    recover held elapsed ≠ .absent := by
  unfold recover
  split
  · simp
  · exact hheld

/-! ## Soundness -/

variable [Rounding]

/-- The invariant of the Step B store. -/
structure StepBStateStore.Sound (store : StepBStateStore) : Prop where
  latch_iff : store.currentState = .absent ↔ store.absentLatchedRunCycle = true
  inattentive_nonneg : 0 ≤ store.inattentiveElapsedS
  recover_nonneg : 0 ≤ store.recoverElapsedS
  inattentive_rounded : IsRounded store.inattentiveElapsedS
  recover_rounded : IsRounded store.recoverElapsedS

/-- The store of a new run cycle is sound. -/
theorem StepBStateStore.sound_default : ({} : StepBStateStore).Sound :=
  ⟨by simp, le_rfl, le_rfl, is_rounded_zero, is_rounded_zero⟩

variable {input : StepBInput} {store : StateTimerStore}

/-- With the latch off, the state of a sound store is below `ABSENT`. -/
theorem StepBStateStore.Sound.ne_absent (h : store.Sound)
    (hlatch : store.absentLatchedRunCycle = false) : store.currentState ≠ .absent := by
  intro habsent
  rw [h.latch_iff.mp habsent] at hlatch
  cases hlatch

/-- The state and the latch that an evaluation returns are those that it stores. -/
theorem evaluate_returns_stored (input : StepBInput) (store : StateTimerStore) :
    (evaluate input store).1.nextState = (evaluate input store).2.currentState ∧
      (evaluate input store).1.absentLatchedRunCycle =
        (evaluate input store).2.absentLatchedRunCycle := by
  cases exits input store with
  | latched hlatch => simp [evaluate_latched hlatch, hlatch]
  | camera hlatch hbelow => simp [evaluate_camera hlatch hbelow, hlatch]
  | critical hlatch hbelow hcritical => simp [evaluate_critical hlatch hbelow hcritical]
  | timers hlatch hblocked hcritical =>
      cases hattentive : input.perception.isAttentive with
      | true => simp [evaluate_attentive hlatch hblocked hcritical hattentive]
      | false => simp [evaluate_inattentive hlatch hblocked hcritical hattentive]

theorem evaluate_next_state_eq (input : StepBInput) (store : StateTimerStore) :
    (evaluate input store).1.nextState = (evaluate input store).2.currentState :=
  (evaluate_returns_stored input store).1

theorem evaluate_absent_latched_run_cycle_eq (input : StepBInput) (store : StateTimerStore) :
    (evaluate input store).1.absentLatchedRunCycle =
      (evaluate input store).2.absentLatchedRunCycle :=
  (evaluate_returns_stored input store).2

/-- An advanced timer is not negative. -/
theorem recover_after_nonneg (h : store.Sound) (input : StepBInput) :
    0 ≤ recoverAfter store input :=
  zero_le_add h.recover_nonneg (le_max_left 0 input.deltaS)

theorem inattentive_after_nonneg (h : store.Sound) (input : StepBInput) :
    0 ≤ inattentiveAfter store input :=
  zero_le_add h.inattentive_nonneg (le_max_left 0 input.deltaS)

/-- Every evaluation keeps the store sound. -/
theorem evaluate_sound (h : store.Sound) (input : StepBInput) :
    (evaluate input store).2.Sound := by
  have ⟨_, hinattentive, hrecover, hinattentiveRounded, hrecoverRounded⟩ := h
  cases exits input store with
  | latched hlatch =>
      rw [evaluate_latched hlatch]
      exact ⟨by simp [hlatch], by simpa using hinattentive, by simpa using hrecover,
        by simpa using hinattentiveRounded, by simpa using hrecoverRounded⟩
  | camera hlatch hbelow =>
      rw [evaluate_camera hlatch hbelow]
      exact ⟨by simp [hlatch], by simpa using hinattentive, by simpa using hrecover,
        by simpa using hinattentiveRounded, by simpa using hrecoverRounded⟩
  | critical hlatch hbelow hcritical =>
      rw [evaluate_critical hlatch hbelow hcritical]
      exact ⟨by simp, by simpa using hinattentive, by simpa using hrecover,
        by simpa using hinattentiveRounded, by simpa using hrecoverRounded⟩
  | timers hlatch hblocked hcritical =>
      cases hattentive : input.perception.isAttentive with
      | true =>
          rw [evaluate_attentive hlatch hblocked hcritical hattentive]
          exact ⟨by simp, le_rfl, recover_after_nonneg h input, is_rounded_zero,
            is_rounded_add _ _⟩
      | false =>
          rw [evaluate_inattentive hlatch hblocked hcritical hattentive]
          exact ⟨by simp, inattentive_after_nonneg h input, le_rfl, is_rounded_add _ _,
            is_rounded_zero⟩

/-- The store after a run from a sound store is sound. -/
theorem StepBStateStore.Sound.run (h : store.Sound) (inputs : List StepBInput) :
    (stepB.run store inputs).Sound :=
  stepB.run_invariant StepBStateStore.Sound (fun _ input hstore => evaluate_sound hstore input) h
    inputs

/-- The stores that some sequence of inputs reaches from the store of a new run cycle. -/
def StepBStateStore.Reachable (store : StepBStateStore) : Prop :=
  stepB.Reachable (fun start => start = {}) store

/-- Every reachable store is sound. -/
theorem StepBStateStore.Reachable.sound (h : store.Reachable) : store.Sound :=
  Machine.Reachable.invariant h (fun _ hstart => hstart ▸ StepBStateStore.sound_default)
    (fun _ input hstore => evaluate_sound hstore input)

/-- With the latch on, every evaluation returns `ABSENT` and keeps the latch. -/
theorem evaluate_of_latched (hlatch : store.absentLatchedRunCycle = true) (input : StepBInput) :
    (evaluate input store).1.nextState = .absent ∧
      (evaluate input store).1.absentLatchedRunCycle = true ∧
      (evaluate input store).1.reengagementConfirmed200ms = false ∧
      (evaluate input store).2.absentLatchedRunCycle = true := by
  simp [evaluate_latched hlatch, hlatch]

/-! ## When the state is `ABSENT` -/

/-- The store and the input make the next state `ABSENT`: the latch is on, or the camera has
been blocked for `T_absent`, or with an open camera a critical reason is stored or accepted, or
an inattentive driver's timer reaches `T_absent`. -/
def AbsentDue (store : StateTimerStore) (input : StepBInput) : Prop :=
  store.absentLatchedRunCycle = true ∨
    ¬ BlockedBelowAbsent input ∧
      (input.perception.cameraBlocked = true ∨
        isCriticalReason (acceptReason store input.perception).latestReason = true ∨
        input.perception.isAttentive = false ∧
          input.thresholds.tAbsentEffS ≤ inattentiveAfter store input)

/-- From a sound store the next state is `ABSENT` exactly when that is due. -/
theorem next_state_eq_absent_iff (h : store.Sound) (input : StepBInput) :
    (evaluate input store).1.nextState = .absent ↔ AbsentDue store input := by
  cases exits input store with
  | latched hlatch => simp [evaluate_latched hlatch, AbsentDue, hlatch]
  | camera hlatch hbelow => simp [evaluate_camera hlatch hbelow, AbsentDue, hlatch, hbelow]
  | critical hlatch hbelow hcritical =>
      refine iff_of_true (by simp [evaluate_critical hlatch hbelow hcritical]) ?_
      exact .inr ⟨hbelow, hcritical.imp_right .inl⟩
  | timers hlatch hblocked hcritical =>
      have hbelow := not_blocked_below_absent hblocked
      cases hattentive : input.perception.isAttentive with
      | true =>
          rw [evaluate_attentive hlatch hblocked hcritical hattentive]
          simp [AbsentDue, hlatch, hblocked, hcritical, hattentive,
            recover_ne_absent (h.ne_absent hlatch)]
      | false =>
          rw [evaluate_inattentive hlatch hblocked hcritical hattentive]
          simp [AbsentDue, hlatch, hblocked, hcritical, hattentive, hbelow,
            escalate_eq_absent_iff input.thresholds_ordered (h.ne_absent hlatch)]

end DcasPolicyEngine
