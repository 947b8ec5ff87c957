import DcasPolicyEngine.Machine.TwoRuns
import DcasPolicyEngine.Runtime.InattentiveRun
import DcasPolicyEngine.StepB.Bands

/-!
# A faster run beside a slower one

Two runs that differ in the speed only should differ in one direction: the faster one is at least
as severe. Until the faster run latches, the two stores differ in the state alone (`Ahead`). The
earlier thresholds of the faster run can be a step back, because they replace a held `ESCALATION`
by `WARNING` while the slower run still holds it. `faster_at_least_as_severe_iff` says that this is
the only way in which the faster run is less severe.
-/

namespace DcasPolicyEngine

/-! ## Two inputs and two stores -/

/-- The same input of Step B at a speed that is at least as high. -/
structure StepBInput.Faster (fast slow : StepBInput) : Prop where
  speed_le : slow.jetracerInput04 ≤ fast.jetracerInput04
  perception_eq : fast.perception = slow.perception
  delta_eq : fast.deltaS = slow.deltaS

/-- The same tick at a speed that is at least as high. -/
structure RuntimeTickInput.Faster (fast slow : RuntimeTickInput) : Prop where
  stepB : fast.stepB.Faster slow.stepB
  step_c_eq : fast.stepC = slow.stepC

/-- The first store is at least as severe, and until it is latched the two stores differ in the
state only. -/
structure Ahead (fast slow : StateTimerStore) : Prop where
  sound_fast : fast.Sound
  sound_slow : slow.Sound
  held_le : slow.currentState ≤ fast.currentState
  agree : fast.absentLatchedRunCycle = false →
    slow = { fast with currentState := slow.currentState }

/-- The slower run holds `ESCALATION` with a timer below its first threshold, while the timer has
reached the first threshold of the faster run and decides its state. -/
def Undercuts (fast slow : StateTimerStore) (fastInput slowInput : StepBInput) : Prop :=
  fast.absentLatchedRunCycle = false ∧ fastInput.perception.cameraBlocked = false ∧
    fastInput.perception.isAttentive = false ∧ NoCriticalReason fast fastInput ∧
    slow.currentState = .escalation ∧
    fastInput.thresholds.tWarnEffS ≤ inattentiveAfter fast fastInput ∧
    inattentiveAfter fast fastInput < slowInput.thresholds.tWarnEffS

instance (fast slow : StateTimerStore) (fastInput slowInput : StepBInput) :
    Decidable (Undercuts fast slow fastInput slowInput) :=
  inferInstanceAs (Decidable (_ ∧ _ ∧ _ ∧ _ ∧ _ ∧ _ ∧ _))

/-! ## One step -/

/-- Escalation under later thresholds is not more severe, exactly unless the later run holds
`ESCALATION` between the first thresholds of the two. -/
theorem escalate_le_escalate_iff {early late : Thresholds} (hearlier : early.Earlier late)
    (hearly : early.Ordered) (hlate : late.Ordered) (hbetween : late.tWarnEffS ≤ early.tEscEffS)
    {fast slow : DriverState} (hheld : slow ≤ fast) (hslow : slow ≠ .absent) (elapsed : ℚ) :
    escalate late slow elapsed ≤ escalate early fast elapsed ↔
      ¬ (slow = .escalation ∧ early.tWarnEffS ≤ elapsed ∧ elapsed < late.tWarnEffS) := by
  have hwarn : early.tWarnEffS ≤ late.tWarnEffS := hearlier .warning
  have hpos := hearly.warn_pos
  rcases escalate_cases late slow elapsed with ⟨hlateReached, hlevel⟩ | ⟨hlateLow, hkept⟩
  · -- both states are levels of the timer
    rcases escalate_cases early fast elapsed with ⟨hreached, hfast⟩ | ⟨hlow, _⟩
    · rw [hlevel, hfast]
      refine iff_of_true (hearlier.level_le hearly hlate (hpos.le.trans hreached)) ?_
      intro hbelow
      exact absurd hbelow.2.2 hlateReached.not_gt
    · linarith
  · rcases escalate_cases early fast elapsed with ⟨hreached, hfast⟩ | ⟨hlow, hfast⟩
    · -- the slower run still holds its state, and the faster one is at `WARNING`
      rw [hkept, hfast, hearly.le_level_iff (hpos.le.trans hreached)]
      have hesc : elapsed < early.tEscEffS := hlateLow.trans_le hbetween
      cases slow with
      | ok => simpa [Thresholds.threshold] using hpos.le.trans hreached
      | warning => simpa [Thresholds.threshold] using hreached
      | escalation => simp [Thresholds.threshold, hesc, hreached, hlateLow]
      | absent => exact absurd rfl hslow
    · rw [hkept, hfast]
      exact iff_of_true hheld fun hreached => absurd hreached.2.1 hlow.not_ge

/-- Recovery keeps the order of two states. -/
theorem recover_mono {slow fast : DriverState} (h : slow ≤ fast) (elapsed : ℚ) :
    recover slow elapsed ≤ recover fast elapsed := by
  by_cases hreached : 3 ≤ elapsed
  · by_cases hslow : slow = .ok
    · rw [hslow, recover_ok]
      exact DriverState.ok_le _
    · rw [(recover_eq_ok_iff hslow elapsed).mpr hreached]
      exact DriverState.ok_le _
  · rw [recover_eq_held (not_le.mp hreached), recover_eq_held (not_le.mp hreached)]
    exact h

/-- The reason update does not look at the state. -/
theorem accept_reason_with_current_state (store : StateTimerStore) (held : DriverState)
    (perception : PerceptionInput) :
    acceptReason { store with currentState := held } perception =
      { acceptReason store perception with currentState := held } := by
  by_cases haccepts : AcceptsReason store perception
  · have hsame : AcceptsReason { store with currentState := held } perception := haccepts
    rw [acceptReason, if_pos hsame, acceptReason, if_pos haccepts]
  · have hsame : ¬ AcceptsReason { store with currentState := held } perception := haccepts
    rw [acceptReason, if_neg hsame, acceptReason, if_neg haccepts]

variable {fast slow : StateTimerStore} {fastInput slowInput : StepBInput}

/-- The thresholds of the faster input are earlier. -/
theorem StepBInput.Faster.earlier (h : fastInput.Faster slowInput) :
    fastInput.thresholds.Earlier slowInput.thresholds :=
  schedule_antitone (estimate_mono h.speed_le)

/-- What one pair of evaluations does to two stores, the first of which is ahead and not latched.
The state of the slower one is not more severe exactly unless it undercuts, and if the first one
does not latch, the stores differ in the state and the latch only. -/
theorem Ahead.evaluate_of_unlatched (h : Ahead fast slow) (hinput : fastInput.Faster slowInput)
    (hlatch : fast.absentLatchedRunCycle = false) :
    ((evaluate slowInput slow).2.currentState ≤ (evaluate fastInput fast).2.currentState ↔
        ¬ Undercuts fast slow fastInput slowInput) ∧
      ((evaluate fastInput fast).2.absentLatchedRunCycle = false →
        (evaluate slowInput slow).2 =
          { (evaluate fastInput fast).2 with
            currentState := (evaluate slowInput slow).2.currentState
            absentLatchedRunCycle := (evaluate slowInput slow).2.absentLatchedRunCycle }) := by
  have hagree := h.agree hlatch
  have hslowLatch : slow.absentLatchedRunCycle = false := by rw [hagree]; exact hlatch
  have hperception := hinput.perception_eq
  have haccept : acceptReason slow slowInput.perception =
      { acceptReason fast fastInput.perception with currentState := slow.currentState } := by
    rw [hagree, hperception, accept_reason_with_current_state]
  cases exits fastInput fast with
  | latched hlatched =>
      rw [hlatched] at hlatch
      cases hlatch
  | camera _ hbelow =>
      -- the later `T_absent` is not reached either
      have hslowBelow : BlockedBelowAbsent slowInput := by
        obtain ⟨hblocked, htime⟩ := hbelow
        rw [hperception] at hblocked htime
        exact ⟨hblocked, htime.trans_le (hinput.earlier .absent)⟩
      rw [evaluate_camera hlatch hbelow, evaluate_camera hslowLatch hslowBelow, haccept]
      refine ⟨iff_of_true le_rfl ?_, ?_⟩
      · intro hundercut
        obtain ⟨_, hopen, _⟩ := hundercut
        exact not_blocked_below_absent hopen hbelow
      · intro _
        simp [hlatch]
  | critical _ hbelow hcritical =>
      rw [evaluate_critical hlatch hbelow hcritical]
      refine ⟨iff_of_true (DriverState.le_absent _) ?_, fun hunlatched => by simp at hunlatched⟩
      intro hundercut
      obtain ⟨_, hopen, _, hnone, _⟩ := hundercut
      have hreason := hcritical.resolve_left (by simp [hopen])
      rw [hnone] at hreason
      cases hreason
  | timers _ hblocked hnone =>
      have hslowBlocked : slowInput.perception.cameraBlocked = false := by rwa [← hperception]
      have hslowNone : isCriticalReason (acceptReason slow slowInput.perception).latestReason =
          false := by rwa [haccept]
      have hheld : slow.currentState ≠ .absent := h.sound_slow.ne_absent hslowLatch
      cases hattentive : fastInput.perception.isAttentive with
      | true =>
          have hslowAttentive : slowInput.perception.isAttentive = true := by rwa [← hperception]
          have helapsed : recoverAfter slow slowInput = recoverAfter fast fastInput := by
            rw [recoverAfter, recoverAfter, hinput.delta_eq, hagree]
          rw [evaluate_attentive hlatch hblocked hnone hattentive,
            evaluate_attentive hslowLatch hslowBlocked hslowNone hslowAttentive, helapsed, haccept]
          refine ⟨iff_of_true (recover_mono h.held_le _) ?_, fun _ => rfl⟩
          intro hundercut
          obtain ⟨_, _, hinattentive, _⟩ := hundercut
          rw [hattentive] at hinattentive
          cases hinattentive
      | false =>
          have hslowAttentive : slowInput.perception.isAttentive = false := by rwa [← hperception]
          have helapsed : inattentiveAfter slow slowInput = inattentiveAfter fast fastInput := by
            rw [inattentiveAfter, inattentiveAfter, hinput.delta_eq, hagree]
          rw [evaluate_inattentive hlatch hblocked hnone hattentive,
            evaluate_inattentive hslowLatch hslowBlocked hslowNone hslowAttentive, helapsed,
            haccept]
          refine ⟨?_, fun _ => rfl⟩
          show escalate _ slow.currentState _ ≤ escalate _ fast.currentState _ ↔ _
          rw [escalate_le_escalate_iff hinput.earlier fastInput.thresholds_ordered
            slowInput.thresholds_ordered (schedule_warn_le_esc _ _) h.held_le hheld]
          simp [Undercuts, NoCriticalReason, hlatch, hblocked, hattentive, hnone]

/-- The state of the slower store is not more severe after one pair of evaluations, exactly unless
it undercuts. -/
theorem Ahead.held_le_evaluate_iff (h : Ahead fast slow) (hinput : fastInput.Faster slowInput) :
    (evaluate slowInput slow).2.currentState ≤ (evaluate fastInput fast).2.currentState ↔
      ¬ Undercuts fast slow fastInput slowInput := by
  cases hlatch : fast.absentLatchedRunCycle with
  | true =>
      have hlatched := (evaluate_of_latched hlatch fastInput).2.2.2
      rw [(evaluate_sound h.sound_fast fastInput).latch_iff.mpr hlatched]
      refine iff_of_true (DriverState.le_absent _) ?_
      intro hundercut
      obtain ⟨hunlatched, _⟩ := hundercut
      rw [hlatch] at hunlatched
      cases hunlatched
  | false => exact (h.evaluate_of_unlatched hinput hlatch).1

/-- A pair of evaluations after which the first store is at least as severe keeps it ahead. -/
theorem Ahead.step (h : Ahead fast slow) (hinput : fastInput.Faster slowInput)
    (hle : (evaluate slowInput slow).2.currentState ≤ (evaluate fastInput fast).2.currentState) :
    Ahead (evaluate fastInput fast).2 (evaluate slowInput slow).2 := by
  have hfast := evaluate_sound h.sound_fast fastInput
  have hslow := evaluate_sound h.sound_slow slowInput
  refine ⟨hfast, hslow, hle, ?_⟩
  intro hunlatched
  have hlatch : fast.absentLatchedRunCycle = false := by
    cases hlatch : fast.absentLatchedRunCycle with
    | false => rfl
    | true => rw [← hunlatched, (evaluate_of_latched hlatch fastInput).2.2.2]
  -- the slower store is below `ABSENT`, so it is not latched either
  have hslowLatch : (evaluate slowInput slow).2.absentLatchedRunCycle = false := by
    rw [← Bool.not_eq_true, ← hslow.latch_iff]
    intro habsent
    rw [habsent] at hle
    exact hfast.ne_absent hunlatched (le_antisymm (DriverState.le_absent _) hle)
  have hagree := (h.evaluate_of_unlatched hinput hlatch).2 hunlatched
  rw [hslowLatch, ← hunlatched] at hagree
  exact hagree

/-! ## Two runs -/

namespace PolicyRuntime

/-- The first driver state is at least as severe as the second. -/
def AtLeastAsSevere (fast slow : RuntimeEvent) : Prop :=
  slow.output.stepB.nextState ≤ fast.output.stepB.nextState

/-- The slower run undercuts the faster one on this tick. -/
def UndercutsTick (fast slow : RuntimeEvent) : Prop :=
  Undercuts fast.before.stepBStateStore slow.before.stepBStateStore fast.input.stepB
    slow.input.stepB

instance (fast slow : RuntimeEvent) : Decidable (AtLeastAsSevere fast slow) :=
  inferInstanceAs (Decidable (_ ≤ _))

instance (fast slow : RuntimeEvent) : Decidable (UndercutsTick fast slow) :=
  inferInstanceAs (Decidable (Undercuts _ _ _ _))

/-- Of two runs from the same fresh state that differ in the speed only, the faster one is at least
as severe on every tick exactly when the slower one undercuts it on none. -/
theorem faster_at_least_as_severe_iff (runCycleId : UInt64) {fast slow : List RuntimeTickInput}
    (hinputs : List.Forall₂ RuntimeTickInput.Faster fast slow) :
    List.Forall₂ AtLeastAsSevere (runtime.trace (.new runCycleId) fast)
        (runtime.trace (.new runCycleId) slow) ↔
      List.Forall₂ (fun e e' => ¬ UndercutsTick e e') (runtime.trace (.new runCycleId) fast)
        (runtime.trace (.new runCycleId) slow) := by
  have hnew : Ahead (PolicyRuntime.new runCycleId).stepBStateStore
      (PolicyRuntime.new runCycleId).stepBStateStore :=
    ⟨StepBStateStore.sound_default, StepBStateStore.sound_default, le_rfl, fun _ => rfl⟩
  refine Machine.forall₂_trace_iff
    (fun rt rt' => Ahead rt.stepBStateStore rt'.stepBStateStore) ?_ ?_ hnew hinputs
  · intro rt rt' input input' hahead hfaster
    show (evaluate _ _).1.nextState ≤ (evaluate _ _).1.nextState ↔ _
    rw [evaluate_next_state_eq, evaluate_next_state_eq]
    exact hahead.held_le_evaluate_iff hfaster.stepB
  · intro rt rt' input input' hahead hfaster hsevere
    have hle : (evaluate input'.stepB rt'.stepBStateStore).1.nextState ≤
      (evaluate input.stepB rt.stepBStateStore).1.nextState := hsevere
    rw [evaluate_next_state_eq, evaluate_next_state_eq] at hle
    exact hahead.step hfaster.stepB hle

/-- The tick at the highest speed is faster than the same tick at standstill. -/
theorem faster_inattentive_at (deltaS : ℚ) :
    (inattentiveAt 0.4 deltaS).Faster (inattentiveAt 0 deltaS) :=
  have hspeed : (WithNaN.num (literal 0) : Double) ≤ .num (literal 0.4) := by decide +kernel
  ⟨⟨hspeed, rfl, rfl⟩, rfl⟩

/-- Without a glance the faster run stays at least as severe. -/
theorem faster_at_least_as_severe_inattentive :
    List.Forall₂ AtLeastAsSevere
      (runtime.trace (.new 1) [inattentiveAt 0.4 2, inattentiveAt 0.4 2])
      (runtime.trace (.new 1) [inattentiveAt 0 2, inattentiveAt 0 2]) :=
  (faster_at_least_as_severe_iff 1
    (.cons (faster_inattentive_at 2) (.cons (faster_inattentive_at 2) .nil))).mpr
    (.cons (by decide +kernel) (.cons (by decide +kernel) .nil))

/-- An attentive tick of 100 ms. -/
def glance : RuntimeTickInput := { stepB := { deltaS := literal 0.1 } }

/-- After six seconds of inattention at standstill and a glance, two more inattentive seconds at
the highest speed give `WARNING`, and at standstill `ESCALATION`. -/
theorem faster_less_severe_after_glance :
    List.Forall₂ RuntimeTickInput.Faster
        [inattentiveAt 0 6, glance, inattentiveAt 0.4 2]
        [inattentiveAt 0 6, glance, inattentiveAt 0 2] ∧
      (runtime.trace (.new 1) [inattentiveAt 0 6, glance, inattentiveAt 0.4 2]).map
          (fun e => e.output.stepB.nextState) = [.escalation, .escalation, .warning] ∧
      (runtime.trace (.new 1) [inattentiveAt 0 6, glance, inattentiveAt 0 2]).map
          (fun e => e.output.stepB.nextState) = [.escalation, .escalation, .escalation] ∧
      ¬ List.Forall₂ AtLeastAsSevere
        (runtime.trace (.new 1) [inattentiveAt 0 6, glance, inattentiveAt 0.4 2])
        (runtime.trace (.new 1) [inattentiveAt 0 6, glance, inattentiveAt 0 2]) := by
  refine ⟨?_, by decide +kernel, by decide +kernel, ?_⟩
  · exact .cons ⟨⟨by decide +kernel, rfl, rfl⟩, rfl⟩
      (.cons ⟨⟨by decide +kernel, rfl, rfl⟩, rfl⟩ (.cons (faster_inattentive_at 2) .nil))
  · intro hsevere
    obtain ⟨_, _, hlast, _⟩ : _ ∧ _ ∧ _ ∧ _ := by
      simpa only [Machine.trace_cons, List.forall₂_cons] using hsevere
    exact absurd hlast (by decide +kernel)

end PolicyRuntime

end DcasPolicyEngine
