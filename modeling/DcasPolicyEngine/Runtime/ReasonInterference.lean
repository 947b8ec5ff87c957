import DcasPolicyEngine.Machine.TwoRuns
import DcasPolicyEngine.Runtime.CriticalReason

/-!
# Reports that are not critical

A reason explains the state to the driver and scales the throttle, and only a critical one decides
anything else. Two runs that differ in reports that are not critical keep stores that differ in the
reason register alone, and `reason_non_interference` says what of their outputs is the same.
-/

namespace DcasPolicyEngine

/-! ## Data that differ in the reason -/

/-- The same perception with another report of the reason. -/
def PerceptionInput.SameButReason (left right : PerceptionInput) : Prop :=
  right = { left with reason := right.reason, reasonTsMs := right.reasonTsMs }

/-- The same input of Step B with another report of the reason, where neither report is critical. -/
structure StepBInput.SameButReason (left right : StepBInput) : Prop where
  perception : left.perception.SameButReason right.perception
  speed_eq : right.jetracerInput04 = left.jetracerInput04
  delta_eq : right.deltaS = left.deltaS
  left_not_critical : ¬ CriticalReport left.perception
  right_not_critical : ¬ CriticalReport right.perception

/-- The same tick with another report of the reason, where neither report is critical. -/
structure RuntimeTickInput.SameButReason (left right : RuntimeTickInput) : Prop where
  stepB : left.stepB.SameButReason right.stepB
  step_c_eq : right.stepC = left.stepC

/-- The same store with another content of the reason register. -/
def StepBStateStore.SameButReason (left right : StepBStateStore) : Prop :=
  right =
    { left with
      latestReason := right.latestReason
      latestReasonTsMs := right.latestReasonTsMs }

/-- The same output with another reason. -/
def StepBOutput.SameButReason (left right : StepBOutput) : Prop :=
  right = { left with reason := right.reason }

/-- The decision in such an output is the same. -/
theorem StepBOutput.SameButReason.decision_eq {left right : StepBOutput}
    (h : left.SameButReason right) :
    right.nextState = left.nextState ∧
      right.absentLatchedRunCycle = left.absentLatchedRunCycle ∧
      right.reengagementConfirmed200ms = left.reengagementConfirmed200ms := by
  unfold StepBOutput.SameButReason at h
  rw [h]
  exact ⟨rfl, rfl, rfl⟩

/-- Two stores that differ in the reason register, neither of which holds a critical reason without
the latch. -/
structure AgreeButReason (left right : StateTimerStore) : Prop where
  same : StepBStateStore.SameButReason left right
  no_pending_left : NoPendingReason left
  no_pending_right : NoPendingReason right

/-! ## One evaluation -/

/-- The reason update changes the reason register only. -/
theorem accept_reason_same_but_reason (store : StateTimerStore) (perception : PerceptionInput) :
    StepBStateStore.SameButReason store (acceptReason store perception) := by
  unfold StepBStateStore.SameButReason acceptReason
  split <;> rfl

variable {left right : StateTimerStore} {leftInput rightInput : StepBInput}

/-- The reason update keeps two stores equal but for the reason register. -/
theorem accept_reason_agree (h : StepBStateStore.SameButReason left right)
    (leftPerception rightPerception : PerceptionInput) :
    StepBStateStore.SameButReason (acceptReason left leftPerception)
      (acceptReason right rightPerception) := by
  have hleft := accept_reason_same_but_reason left leftPerception
  have hright := accept_reason_same_but_reason right rightPerception
  unfold StepBStateStore.SameButReason at h hleft hright ⊢
  rw [hright, hleft, h]

/-- Evaluations of two such stores on two such inputs give outputs and stores that differ in the
reason only. -/
theorem evaluate_same_but_reason (h : AgreeButReason left right)
    (hinput : leftInput.SameButReason rightInput) :
    StepBOutput.SameButReason (evaluate leftInput left).1 (evaluate rightInput right).1 ∧
      StepBStateStore.SameButReason (evaluate leftInput left).2 (evaluate rightInput right).2 := by
  have haccept := accept_reason_agree h.same leftInput.perception rightInput.perception
  unfold StepBStateStore.SameButReason at haccept
  have hperception : rightInput.perception = _ := hinput.perception
  have hthresholds : rightInput.thresholds = leftInput.thresholds := by
    rw [StepBInput.thresholds, StepBInput.thresholds, hinput.speed_eq]
  have hrightLatch : right.absentLatchedRunCycle = left.absentLatchedRunCycle := by rw [h.same]
  have hheld : right.currentState = left.currentState := by rw [h.same]
  have hblocked : rightInput.perception.cameraBlocked = leftInput.perception.cameraBlocked := by
    rw [hperception]
  have hattentive : rightInput.perception.isAttentive = leftInput.perception.isAttentive := by
    rw [hperception]
  have hts : rightInput.perception.isAttentiveTsMs = leftInput.perception.isAttentiveTsMs := by
    rw [hperception]
  have hbelow : BlockedBelowAbsent rightInput ↔ BlockedBelowAbsent leftInput := by
    unfold BlockedBelowAbsent
    rw [hthresholds, hperception]
    rfl
  cases exits leftInput left with
  | latched hlatch =>
      rw [evaluate_latched hlatch, evaluate_latched (hrightLatch.trans hlatch), haccept, hts]
      exact ⟨rfl, rfl⟩
  | camera hlatch hcamera =>
      rw [evaluate_camera hlatch hcamera,
        evaluate_camera (hrightLatch.trans hlatch) (hbelow.mpr hcamera), haccept, hts]
      exact ⟨rfl, rfl⟩
  | critical hlatch hcamera hcritical =>
      -- no critical reason is stored, so the camera is blocked
      have hnone := accept_reason_not_critical (h.no_pending_left.not_critical hlatch)
        hinput.left_not_critical
      have hcovered := hcritical.resolve_right (by simp [hnone])
      rw [evaluate_critical hlatch hcamera hcritical,
        evaluate_critical (hrightLatch.trans hlatch) (mt hbelow.mp hcamera)
          (.inl (hblocked.trans hcovered)), haccept, hts]
      exact ⟨rfl, rfl⟩
  | timers hlatch hopen hnone =>
      have hrightNone := accept_reason_not_critical
        (h.no_pending_right.not_critical (hrightLatch.trans hlatch)) hinput.right_not_critical
      cases hleft : leftInput.perception.isAttentive with
      | true =>
          have helapsed : recoverAfter right rightInput = recoverAfter left leftInput := by
            rw [recoverAfter, recoverAfter, hinput.delta_eq, h.same]
          rw [evaluate_attentive hlatch hopen hnone hleft,
            evaluate_attentive (hrightLatch.trans hlatch) (hblocked.trans hopen) hrightNone
              (hattentive.trans hleft), haccept, hts, helapsed, hheld]
          exact ⟨rfl, rfl⟩
      | false =>
          have helapsed : inattentiveAfter right rightInput = inattentiveAfter left leftInput := by
            rw [inattentiveAfter, inattentiveAfter, hinput.delta_eq, h.same]
          rw [evaluate_inattentive hlatch hopen hnone hleft,
            evaluate_inattentive (hrightLatch.trans hlatch) (hblocked.trans hopen) hrightNone
              (hattentive.trans hleft), haccept, hts, helapsed, hheld, hthresholds]
          exact ⟨rfl, rfl⟩

/-- Two such evaluations keep the stores equal but for the reason register. -/
theorem AgreeButReason.step (h : AgreeButReason left right)
    (hinput : leftInput.SameButReason rightInput) :
    AgreeButReason (evaluate leftInput left).2 (evaluate rightInput right).2 := by
  refine ⟨(evaluate_same_but_reason h hinput).2, ?_, ?_⟩
  · rw [no_pending_reason_evaluate_iff h.no_pending_left]
    exact fun hwithheld => hinput.left_not_critical hwithheld.1
  · rw [no_pending_reason_evaluate_iff h.no_pending_right]
    exact fun hwithheld => hinput.right_not_critical hwithheld.1

/-! ## Two runs -/

namespace PolicyRuntime

/-- The two ticks decide the same. Their throttle limits are equal when both or neither of the
reasons is `DROWSY`, and otherwise differ by the overlay factor at most. -/
structure SameDecision (left right : RuntimeEvent) : Prop where
  nextState : right.output.stepB.nextState = left.output.stepB.nextState
  latch : right.output.stepB.absentLatchedRunCycle = left.output.stepB.absentLatchedRunCycle
  reengagementConfirmed : right.output.stepB.reengagementConfirmed200ms =
    left.output.stepB.reengagementConfirmed200ms
  hmiAction : right.output.stepC.hmiAction = left.output.stepC.hmiAction
  mrmActive : right.output.stepC.mrmActive = left.output.stepC.mrmActive
  nextLkasMode : right.output.stepC.nextLkasMode = left.output.stepC.nextLkasMode
  nextLatchedState : right.output.stepC.nextLatchedState = left.output.stepC.nextLatchedState
  throttle_eq : (left.output.stepB.reason = .drowsy ↔ right.output.stepB.reason = .drowsy) →
    right.output.stepC.throttleLimit = left.output.stepC.throttleLimit
  throttle_within : StepC.WithinOverlay left.output.stepC.throttleLimit
    right.output.stepC.throttleLimit

/-- The two runtimes are equal but for the reason register of Step B. -/
def Parallel (left right : PolicyRuntime) : Prop :=
  AgreeButReason left.stepBStateStore right.stepBStateStore ∧
    right.stepCLatchedState = left.stepCLatchedState

variable {left right : PolicyRuntime} {leftInput rightInput : RuntimeTickInput}

/-- Step C of the second tick is Step C of the first one with another reason. -/
theorem Parallel.step_c_input_eq (h : Parallel left right)
    (hinput : leftInput.SameButReason rightInput) :
    right.stepCInput rightInput.stepC (right.tick rightInput).1.stepB =
      { left.stepCInput leftInput.stepC (left.tick leftInput).1.stepB with
        reason := (right.tick rightInput).1.stepB.reason } := by
  have houtput : (right.tick rightInput).1.stepB = _ :=
    (evaluate_same_but_reason h.1 hinput.stepB).1
  unfold stepCInput
  rw [houtput, h.2, hinput.step_c_eq]
  rfl

/-- Two such ticks decide the same. -/
theorem Parallel.same_decision (h : Parallel left right)
    (hinput : leftInput.SameButReason rightInput) :
    SameDecision (runtime.event left leftInput) (runtime.event right rightInput) := by
  obtain ⟨hstate, hlatch, hreengaged⟩ :=
    (evaluate_same_but_reason h.1 hinput.stepB).1.decision_eq
  obtain ⟨hhmi, hmrm, hmode, hlatched⟩ := StepC.evaluate_with_reason_frame
    (left.stepCInput leftInput.stepC (left.tick leftInput).1.stepB)
    (right.tick rightInput).1.stepB.reason
  rw [← h.step_c_input_eq hinput] at hhmi hmrm hmode hlatched
  have hoverridden : right.Overridden rightInput ↔ left.Overridden leftInput := by
    unfold Overridden
    rw [h.2, hinput.step_c_eq]
  have hlimit : (right.tick rightInput).1.stepC.throttleLimit =
      if left.Overridden leftInput ∨ (left.tick leftInput).1.stepB.nextState = .absent then .num 0
      else StepC.scaledThrottle leftInput.stepC.lkasThrottle
        (left.tick leftInput).1.stepB.nextState (right.tick rightInput).1.stepB.reason := by
    rw [tick_throttle_limit, tick_step_b, tick_step_b, hstate, hinput.step_c_eq,
      if_congr (or_congr_left hoverridden) rfl rfl]
  refine ⟨hstate, hlatch, hreengaged, hhmi, hmrm, hmode, hlatched, ?_, ?_⟩
  · intro hdrowsy
    have hoverlay : reasonOverlayGain (left.tick leftInput).1.stepB.nextState
          (right.tick rightInput).1.stepB.reason =
        reasonOverlayGain (left.tick leftInput).1.stepB.nextState
          (left.tick leftInput).1.stepB.reason :=
      StepC.reason_overlay_gain_congr _ hdrowsy.symm
    show (right.tick rightInput).1.stepC.throttleLimit = (left.tick leftInput).1.stepC.throttleLimit
    rw [hlimit, tick_throttle_limit, StepC.scaledThrottle, StepC.scaledThrottle, hoverlay]
  · show StepC.WithinOverlay (left.tick leftInput).1.stepC.throttleLimit
      (right.tick rightInput).1.stepC.throttleLimit
    rw [hlimit, tick_throttle_limit]
    split
    · exact .inl rfl
    · exact StepC.scaled_throttle_within_overlay _ _ _ _

/-- Two such ticks keep the runtimes equal but for the reason register. -/
theorem Parallel.step (h : Parallel left right) (hinput : leftInput.SameButReason rightInput) :
    Parallel (left.tick leftInput).2 (right.tick rightInput).2 :=
  ⟨h.1.step hinput.stepB, (h.same_decision hinput).nextLatchedState⟩

/-- Two runs from the same fresh state that differ in reports that are not critical decide the same
on every tick. -/
theorem reason_non_interference (runCycleId : UInt64) {left right : List RuntimeTickInput}
    (hinputs : List.Forall₂ RuntimeTickInput.SameButReason left right) :
    List.Forall₂ SameDecision (runtime.trace (.new runCycleId) left)
      (runtime.trace (.new runCycleId) right) := by
  have hnone : NoPendingReason (PolicyRuntime.new runCycleId).stepBStateStore :=
    (by decide : NoPendingReason {})
  have hnew : Parallel (.new runCycleId) (.new runCycleId) := ⟨⟨rfl, hnone, hnone⟩, rfl⟩
  refine Machine.forall₂_trace Parallel ?_ hnew hinputs
  intro rt rt' input input' hparallel hinput
  exact ⟨hparallel.same_decision hinput, hparallel.step hinput⟩

/-- An inattentive tick of three seconds that reports a reason and asks for the whole throttle. -/
def reportedTick (reason : Reason) : RuntimeTickInput :=
  { stepB := { perception := { isAttentive := false, reason := reason }, deltaS := 3 }
    stepC := { lkasThrottle := .num 1 } }

/-- Two such ticks with reasons that are not critical are the same but for the reason. -/
theorem reported_tick_same_but_reason {left right : Reason}
    (hleft : ¬ (left = .unresponsive ∨ left = .intoxicated))
    (hright : ¬ (right = .unresponsive ∨ right = .intoxicated)) :
    (reportedTick left).SameButReason (reportedTick right) :=
  ⟨⟨rfl, rfl, rfl, hleft, hright⟩, rfl⟩

/-- Three ticks with `PHONE`, no report and `UNKNOWN` decide the same as with `DROWSY`, no report
and `DROWSY`. The overlay factor is between the throttle limits. -/
theorem reason_non_interference_drowsy :
    List.Forall₂ SameDecision
        (runtime.trace (.new 1) ([.phone, .none, .unknown].map reportedTick))
        (runtime.trace (.new 1) ([.drowsy, .none, .drowsy].map reportedTick)) ∧
      (runtime.outputs (.new 1) ([.phone, .none, .unknown].map reportedTick)).map
        (fun output => output.stepC.throttleLimit) = [.num 0.6, .num 0.2, .num 0.2] ∧
      (runtime.outputs (.new 1) ([.drowsy, .none, .drowsy].map reportedTick)).map
        (fun output => output.stepC.throttleLimit) = [.num 0.54, .num 0.18, .num 0.18] :=
  ⟨reason_non_interference 1
      (.cons (reported_tick_same_but_reason (by decide) (by decide))
        (.cons (reported_tick_same_but_reason (by decide) (by decide))
          (.cons (reported_tick_same_but_reason (by decide) (by decide)) .nil))),
    by decide +kernel, by decide +kernel⟩

end PolicyRuntime

end DcasPolicyEngine
