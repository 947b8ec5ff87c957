import DcasPolicyEngine.Machine.TwoRuns
import DcasPolicyEngine.Runtime.SpeedMonotone

/-!
# A more attentive driver beside a less attentive one

Two runs that differ in the attention only should differ in one direction: the run of the driver
who is attentive whenever the other one is should never be more severe. Its inattention timer is
behind, its recovery timer is ahead (`Calmer`). But an inattentive driver is taken from
`ESCALATION` back to `WARNING` as soon as the timer has reached `T_warn`, while an attentive one
stays in `ESCALATION` for three seconds. `attentive_at_most_as_severe_iff` says that this is the
only way in which attention makes the state more severe.
-/

namespace DcasPolicyEngine

open Rounding

/-! ## Two inputs and two stores -/

/-- The same input of Step B with a driver who is at least as attentive. -/
structure StepBInput.MoreAttentive (calm tense : StepBInput) : Prop where
  attentive : tense.perception.isAttentive = true → calm.perception.isAttentive = true
  perception_eq : tense.perception =
    { calm.perception with isAttentive := tense.perception.isAttentive }
  speed_eq : calm.jetracerInput04 = tense.jetracerInput04
  delta_eq : calm.deltaS = tense.deltaS

/-- The same tick with a driver who is at least as attentive. -/
structure RuntimeTickInput.MoreAttentive (calm tense : RuntimeTickInput) : Prop where
  stepB : calm.stepB.MoreAttentive tense.stepB
  step_c_eq : calm.stepC = tense.stepC

/-- The timers of the first store are those of a driver who was at least as attentive, and both
stores have taken up the same reason. -/
structure Agrees (calm tense : StateTimerStore) : Prop where
  inattentive_le : calm.inattentiveElapsedS ≤ tense.inattentiveElapsedS
  recover_le : tense.recoverElapsedS ≤ calm.recoverElapsedS
  reason_eq : calm.latestReason = tense.latestReason
  reason_ts_eq : calm.latestReasonTsMs = tense.latestReasonTsMs

/-- The first store is not more severe, and the two agree until the second is latched. -/
structure Calmer (calm tense : StateTimerStore) : Prop where
  sound_calm : calm.Sound
  sound_tense : tense.Sound
  held_le : calm.currentState ≤ tense.currentState
  agrees : tense.absentLatchedRunCycle = false → Agrees calm tense

/-- The store keeps `ESCALATION`: an attentive driver has not recovered yet, and the timer of an
inattentive one is below `T_warn`. -/
def KeepsEscalation (store : StateTimerStore) (input : StepBInput) : Prop :=
  store.currentState = .escalation ∧
    if input.perception.isAttentive = true then recoverAfter store input < 3
    else inattentiveAfter store input < input.thresholds.tWarnEffS

instance (store : StateTimerStore) (input : StepBInput) : Decidable (KeepsEscalation store input) :=
  inferInstanceAs (Decidable (_ ∧ ite _ _ _))

/-- The less attentive driver is taken back to `WARNING` while the more attentive one stays in
`ESCALATION`. -/
def Overtakes (calm tense : StateTimerStore) (calmInput tenseInput : StepBInput) : Prop :=
  tense.absentLatchedRunCycle = false ∧ tenseInput.perception.cameraBlocked = false ∧
    tenseInput.perception.isAttentive = false ∧ Relapses tense tenseInput ∧
    KeepsEscalation calm calmInput

instance (calm tense : StateTimerStore) (calmInput tenseInput : StepBInput) :
    Decidable (Overtakes calm tense calmInput tenseInput) :=
  inferInstanceAs (Decidable (_ ∧ _ ∧ _ ∧ _ ∧ _))

/-! ## Two states -/

/-- A state below the held one is not above what escalation makes of the held one, exactly unless
both are `ESCALATION` and the timer counts up to `WARNING` only. -/
theorem le_escalate_of_le_iff {thresholds : Thresholds} (h : thresholds.Ordered)
    {lower held : DriverState} (hle : lower ≤ held) (hheld : held ≠ .absent) (elapsed : ℚ) :
    lower ≤ escalate thresholds held elapsed ↔
      ¬ (lower = .escalation ∧ held = .escalation ∧ thresholds.tWarnEffS ≤ elapsed ∧
        elapsed < thresholds.tEscEffS) := by
  have hwarn := h.warn_pos
  rcases escalate_cases thresholds held elapsed with ⟨hreached, hlevel⟩ | ⟨hlow, hkept⟩
  · rw [hlevel, h.le_level_iff (hwarn.le.trans hreached)]
    cases lower with
    | ok => simpa [Thresholds.threshold] using hwarn.le.trans hreached
    | warning => simpa [Thresholds.threshold] using hreached
    | escalation =>
        have hescalation : held = .escalation := by
          cases held with
          | ok => exact absurd hle (by decide)
          | warning => exact absurd hle (by decide)
          | escalation => rfl
          | absent => exact absurd rfl hheld
        simp [Thresholds.threshold, hescalation, hreached]
    | absent => exact absurd (le_antisymm (DriverState.le_absent held) hle) hheld
  · rw [hkept]
    exact iff_of_true hle fun hreached => absurd hreached.2.2.1 hlow.not_ge

/-- Escalation by an earlier timer does not give more, exactly unless the earlier timer still keeps
`ESCALATION` while the later one counts up to `WARNING` only. -/
theorem escalate_le_escalate_of_timer_iff {thresholds : Thresholds} (h : thresholds.Ordered)
    {lower held : DriverState} (hle : lower ≤ held) (hheld : held ≠ .absent) {earlier later : ℚ}
    (htimer : earlier ≤ later) :
    escalate thresholds lower earlier ≤ escalate thresholds held later ↔
      ¬ (lower = .escalation ∧ earlier < thresholds.tWarnEffS ∧ held = .escalation ∧
        thresholds.tWarnEffS ≤ later ∧ later < thresholds.tEscEffS) := by
  rcases escalate_cases thresholds lower earlier with ⟨hreached, hlevel⟩ | ⟨hlow, hkept⟩
  · -- both timers count
    have hlater : escalate thresholds held later = thresholds.level later :=
      if_pos (hreached.trans htimer)
    rw [hlevel, hlater]
    refine iff_of_true (h.level_mono (h.warn_pos.le.trans hreached) htimer) ?_
    intro hkeeps
    exact absurd hkeeps.2.1 hreached.not_gt
  · rw [hkept, le_escalate_of_le_iff h hle hheld]
    simp [hlow]

/-- Recovery is not above escalation, exactly unless it still keeps `ESCALATION` while the timer
counts up to `WARNING` only. -/
theorem recover_le_escalate_iff {thresholds : Thresholds} (h : thresholds.Ordered)
    {lower held : DriverState} (hle : lower ≤ held) (hheld : held ≠ .absent)
    (recovered elapsed : ℚ) :
    recover lower recovered ≤ escalate thresholds held elapsed ↔
      ¬ (lower = .escalation ∧ recovered < 3 ∧ held = .escalation ∧
        thresholds.tWarnEffS ≤ elapsed ∧ elapsed < thresholds.tEscEffS) := by
  by_cases hlow : recovered < 3
  · rw [recover_eq_held hlow, le_escalate_of_le_iff h hle hheld]
    simp [hlow]
  · refine iff_of_true ?_ fun hkeeps => hlow hkeeps.2.1
    by_cases hok : lower = .ok
    · rw [hok, recover_ok]
      exact DriverState.ok_le _
    · rw [(recover_eq_ok_iff hok recovered).mpr (not_lt.mp hlow)]
      exact DriverState.ok_le _

/-- Recovery keeps the order of two states when the lower one has recovered for longer. -/
theorem recover_le_recover {lower held : DriverState} (hle : lower ≤ held) {longer shorter : ℚ}
    (htimer : shorter ≤ longer) : recover lower longer ≤ recover held shorter := by
  refine le_trans ?_ (recover_mono hle shorter)
  by_cases hok : lower = .ok
  · rw [hok, recover_ok, recover_ok]
  · by_cases hrecovered : 3 ≤ longer
    · rw [(recover_eq_ok_iff hok longer).mpr hrecovered]
      exact DriverState.ok_le _
    · rw [recover_eq_held (not_le.mp hrecovered),
        recover_eq_held (htimer.trans_lt (not_le.mp hrecovered))]

/-! ## One step -/

variable {calm tense : StateTimerStore} {calmInput tenseInput : StepBInput}

namespace StepBInput.MoreAttentive

variable (h : calmInput.MoreAttentive tenseInput)

include h

theorem thresholds_eq : calmInput.thresholds = tenseInput.thresholds :=
  congrArg (fun speed => schedule (estimate speed)) h.speed_eq

theorem camera_blocked_eq :
    calmInput.perception.cameraBlocked = tenseInput.perception.cameraBlocked := by
  rw [h.perception_eq]

theorem blocked_below_absent_iff :
    BlockedBelowAbsent calmInput ↔ BlockedBelowAbsent tenseInput := by
  have helapsed : blockedElapsedS calmInput.perception = blockedElapsedS tenseInput.perception := by
    rw [h.perception_eq]
    rfl
  rw [BlockedBelowAbsent, BlockedBelowAbsent, h.camera_blocked_eq, h.thresholds_eq, helapsed]

/-- Stores that have taken up the same reason take up the same reason again. -/
theorem accept_reason_eq (hreason : calm.latestReason = tense.latestReason)
    (hts : calm.latestReasonTsMs = tense.latestReasonTsMs) :
    (acceptReason calm calmInput.perception).latestReason =
        (acceptReason tense tenseInput.perception).latestReason ∧
      (acceptReason calm calmInput.perception).latestReasonTsMs =
        (acceptReason tense tenseInput.perception).latestReasonTsMs := by
  have hsame : AcceptsReason calm calmInput.perception ↔
      AcceptsReason tense tenseInput.perception := by
    rw [AcceptsReason, AcceptsReason, hts, h.perception_eq]
  by_cases haccepts : AcceptsReason tense tenseInput.perception
  · rw [acceptReason, if_pos (hsame.mpr haccepts), acceptReason, if_pos haccepts, h.perception_eq]
    exact ⟨rfl, rfl⟩
  · rw [acceptReason, if_neg fun hcalm => haccepts (hsame.mp hcalm), acceptReason,
      if_neg haccepts]
    exact ⟨hreason, hts⟩

end StepBInput.MoreAttentive

/-- While the more severe store is not latched, neither is the other one. -/
theorem Calmer.unlatched (h : Calmer calm tense) (hlatch : tense.absentLatchedRunCycle = false) :
    calm.absentLatchedRunCycle = false := by
  rw [← Bool.not_eq_true, ← h.sound_calm.latch_iff]
  intro habsent
  have hle := h.held_le
  rw [habsent] at hle
  exact h.sound_tense.ne_absent hlatch (le_antisymm (DriverState.le_absent _) hle)

/-- What one pair of evaluations does to two stores, the first of which is calmer while the second
is not latched. The first one stays at most as severe exactly unless it overtakes, and if the second
one does not latch, the two agree again. -/
theorem Calmer.evaluate_of_unlatched (h : Calmer calm tense)
    (hinput : calmInput.MoreAttentive tenseInput) (hlatch : tense.absentLatchedRunCycle = false) :
    ((evaluate calmInput calm).2.currentState ≤ (evaluate tenseInput tense).2.currentState ↔
        ¬ Overtakes calm tense calmInput tenseInput) ∧
      ((evaluate tenseInput tense).2.absentLatchedRunCycle = false →
        Agrees (evaluate calmInput calm).2 (evaluate tenseInput tense).2) := by
  have hcalmLatch := h.unlatched hlatch
  have hagrees := h.agrees hlatch
  have hdelta := hinput.delta_eq
  obtain ⟨hreason, hts⟩ := hinput.accept_reason_eq hagrees.reason_eq hagrees.reason_ts_eq
  cases exits tenseInput tense with
  | latched hlatched =>
      rw [hlatched] at hlatch
      cases hlatch
  | camera _ hbelow =>
      rw [evaluate_camera hlatch hbelow,
        evaluate_camera hcalmLatch (hinput.blocked_below_absent_iff.mpr hbelow)]
      refine ⟨iff_of_true le_rfl ?_, fun _ => ⟨?_, ?_, hreason, hts⟩⟩
      · intro hovertakes
        exact not_blocked_below_absent hovertakes.2.1 hbelow
      · simpa using hagrees.inattentive_le
      · simpa using hagrees.recover_le
  | critical _ hbelow hcritical =>
      rw [evaluate_critical hlatch hbelow hcritical]
      refine ⟨iff_of_true (DriverState.le_absent _) ?_, fun hunlatched => by simp at hunlatched⟩
      intro hovertakes
      obtain ⟨_, hopen, _, hrelapses, _⟩ := hovertakes
      have hnone := hrelapses.2.1
      have hstored := hcritical.resolve_left (by simp [hopen])
      rw [hnone] at hstored
      cases hstored
  | timers _ hblocked hnone =>
      have hcalmBlocked : calmInput.perception.cameraBlocked = false := by
        rwa [hinput.camera_blocked_eq]
      have hcalmNone : isCriticalReason (acceptReason calm calmInput.perception).latestReason =
          false := by rwa [hreason]
      have hheld : tense.currentState ≠ .absent := h.sound_tense.ne_absent hlatch
      cases hattentive : tenseInput.perception.isAttentive with
      | true =>
          have hcalmAttentive := hinput.attentive hattentive
          have htimer : recoverAfter tense tenseInput ≤ recoverAfter calm calmInput := by
            unfold recoverAfter
            rw [hdelta]
            exact add_mono hagrees.recover_le le_rfl
          rw [evaluate_attentive hlatch hblocked hnone hattentive,
            evaluate_attentive hcalmLatch hcalmBlocked hcalmNone hcalmAttentive]
          refine ⟨iff_of_true (recover_le_recover h.held_le htimer) ?_,
            fun _ => ⟨le_rfl, htimer, hreason, hts⟩⟩
          intro hovertakes
          obtain ⟨_, _, hinattentive, _⟩ := hovertakes
          rw [hattentive] at hinattentive
          cases hinattentive
      | false =>
          have htense := inattentive_after_nonneg h.sound_tense tenseInput
          rw [evaluate_inattentive hlatch hblocked hnone hattentive]
          cases hcalmAttentive : calmInput.perception.isAttentive with
          | true =>
              have hrecovered := recover_after_nonneg h.sound_calm calmInput
              rw [evaluate_attentive hcalmLatch hcalmBlocked hcalmNone hcalmAttentive]
              refine ⟨?_, fun _ => ⟨htense, hrecovered, hreason, hts⟩⟩
              show recover _ _ ≤ escalate _ _ _ ↔ _
              rw [recover_le_escalate_iff tenseInput.thresholds_ordered h.held_le hheld]
              simp only [Overtakes, Relapses, KeepsEscalation, NoCriticalReason, hlatch, hblocked,
                hattentive, hnone, hcalmAttentive, true_and, if_true]
              tauto
          | false =>
              have htimer :
                  inattentiveAfter calm calmInput ≤ inattentiveAfter tense tenseInput := by
                unfold inattentiveAfter
                rw [hdelta]
                exact add_mono hagrees.inattentive_le le_rfl
              rw [evaluate_inattentive hcalmLatch hcalmBlocked hcalmNone hcalmAttentive]
              refine ⟨?_, fun _ => ⟨htimer, le_rfl, hreason, hts⟩⟩
              show escalate _ _ _ ≤ escalate _ _ _ ↔ _
              rw [hinput.thresholds_eq, escalate_le_escalate_of_timer_iff
                tenseInput.thresholds_ordered h.held_le hheld htimer]
              simp only [Overtakes, Relapses, KeepsEscalation, NoCriticalReason, hlatch, hblocked,
                hattentive, hnone, hcalmAttentive, hinput.thresholds_eq, true_and,
                Bool.false_eq_true, if_false]
              tauto

/-- The first store is not more severe after one pair of evaluations, exactly unless it
overtakes. -/
theorem Calmer.held_le_evaluate_iff (h : Calmer calm tense)
    (hinput : calmInput.MoreAttentive tenseInput) :
    (evaluate calmInput calm).2.currentState ≤ (evaluate tenseInput tense).2.currentState ↔
      ¬ Overtakes calm tense calmInput tenseInput := by
  cases hlatch : tense.absentLatchedRunCycle with
  | true =>
      have hlatched := (evaluate_of_latched hlatch tenseInput).2.2.2
      rw [(evaluate_sound h.sound_tense tenseInput).latch_iff.mpr hlatched]
      refine iff_of_true (DriverState.le_absent _) ?_
      intro hovertakes
      rw [hovertakes.1] at hlatch
      cases hlatch
  | false => exact (h.evaluate_of_unlatched hinput hlatch).1

/-- A pair of evaluations after which the first store is not more severe keeps it calmer. -/
theorem Calmer.step (h : Calmer calm tense) (hinput : calmInput.MoreAttentive tenseInput)
    (hle : (evaluate calmInput calm).2.currentState ≤
      (evaluate tenseInput tense).2.currentState) :
    Calmer (evaluate calmInput calm).2 (evaluate tenseInput tense).2 := by
  refine ⟨evaluate_sound h.sound_calm calmInput, evaluate_sound h.sound_tense tenseInput, hle, ?_⟩
  intro hunlatched
  have hlatch : tense.absentLatchedRunCycle = false := by
    cases hlatch : tense.absentLatchedRunCycle with
    | false => rfl
    | true => rw [← hunlatched, (evaluate_of_latched hlatch tenseInput).2.2.2]
  exact (h.evaluate_of_unlatched hinput hlatch).2 hunlatched

/-! ## Two runs -/

namespace PolicyRuntime

/-- The first driver state is at most as severe as the second. -/
def AtMostAsSevere (calm tense : RuntimeEvent) : Prop :=
  calm.output.stepB.nextState ≤ tense.output.stepB.nextState

/-- The more attentive run overtakes the other one on this tick. -/
def OvertakesTick (calm tense : RuntimeEvent) : Prop :=
  Overtakes calm.before.stepBStateStore tense.before.stepBStateStore calm.input.stepB
    tense.input.stepB

instance (calm tense : RuntimeEvent) : Decidable (AtMostAsSevere calm tense) :=
  inferInstanceAs (Decidable (_ ≤ _))

instance (calm tense : RuntimeEvent) : Decidable (OvertakesTick calm tense) :=
  inferInstanceAs (Decidable (Overtakes _ _ _ _))

/-- Of two runs from the same fresh state that differ in the attention only, the more attentive one
is at most as severe on every tick exactly when it overtakes the other one on none. -/
theorem attentive_at_most_as_severe_iff (runCycleId : UInt64) {calm tense : List RuntimeTickInput}
    (hinputs : List.Forall₂ RuntimeTickInput.MoreAttentive calm tense) :
    List.Forall₂ AtMostAsSevere (runtime.trace (.new runCycleId) calm)
        (runtime.trace (.new runCycleId) tense) ↔
      List.Forall₂ (fun e e' => ¬ OvertakesTick e e') (runtime.trace (.new runCycleId) calm)
        (runtime.trace (.new runCycleId) tense) := by
  have hnew : Calmer (PolicyRuntime.new runCycleId).stepBStateStore
      (PolicyRuntime.new runCycleId).stepBStateStore :=
    ⟨StepBStateStore.sound_default, StepBStateStore.sound_default, le_rfl,
      fun _ => ⟨le_rfl, le_rfl, rfl, rfl⟩⟩
  refine Machine.forall₂_trace_iff
    (fun rt rt' => Calmer rt.stepBStateStore rt'.stepBStateStore) ?_ ?_ hnew hinputs
  · intro rt rt' input input' hcalmer hattentive
    show (evaluate _ _).1.nextState ≤ (evaluate _ _).1.nextState ↔ _
    rw [evaluate_next_state_eq, evaluate_next_state_eq]
    exact hcalmer.held_le_evaluate_iff hattentive.stepB
  · intro rt rt' input input' hcalmer hattentive hsevere
    have hle : (evaluate input.stepB rt.stepBStateStore).1.nextState ≤
      (evaluate input'.stepB rt'.stepBStateStore).1.nextState := hsevere
    rw [evaluate_next_state_eq, evaluate_next_state_eq] at hle
    exact hcalmer.step hattentive.stepB hle

/-- A tick at standstill. -/
def tickAt (isAttentive : Bool) (deltaS : ℚ) : RuntimeTickInput :=
  { stepB := { perception := { isAttentive := isAttentive }, deltaS := deltaS } }

/-- A driver who looks up for the last two of eight seconds is at most as severe as one who never
looks up. -/
theorem attentive_at_most_as_severe_glance :
    List.Forall₂ AtMostAsSevere
      (runtime.trace (.new 1) [tickAt false 6, tickAt true 2])
      (runtime.trace (.new 1) [tickAt false 6, tickAt false 2]) := by
  have hinputs : List.Forall₂ RuntimeTickInput.MoreAttentive [tickAt false 6, tickAt true 2]
      [tickAt false 6, tickAt false 2] :=
    .cons ⟨⟨id, rfl, rfl, rfl⟩, rfl⟩ (.cons ⟨⟨fun _ => rfl, rfl, rfl, rfl⟩, rfl⟩ .nil)
  refine (attentive_at_most_as_severe_iff 1 hinputs).mpr ?_
  exact .cons (by decide +kernel) (.cons (by decide +kernel) .nil)

/-- After six inattentive seconds and a glance, three more inattentive seconds give `WARNING`, but a
driver who looks at the road for the last of them is still in `ESCALATION`. -/
example :
    ((runtime.outputs (.new 1)
        [tickAt false 6, tickAt true (literal 0.1), tickAt false 2, tickAt false 1]).map
          fun output => output.stepB.nextState) =
      [.escalation, .escalation, .escalation, .warning] ∧
    ((runtime.outputs (.new 1)
        [tickAt false 6, tickAt true (literal 0.1), tickAt false 2, tickAt true 1]).map
          fun output => output.stepB.nextState) =
      [.escalation, .escalation, .escalation, .escalation] := by
  decide +kernel

end PolicyRuntime

end DcasPolicyEngine
