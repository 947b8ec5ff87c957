import DcasPolicyEngine.Runtime.Latch

/-!
# The reason of a running MRM

A critical reason that latches `ABSENT` is the cause of the MRM that follows. The reason update runs
before the latch is tested, so a later report replaces the cause although it decides nothing any
more. `latched_reason_kept_iff` says that a report that is not critical and is taken up is the only
way to lose the cause.
-/

namespace DcasPolicyEngine

/-- The evaluation latches `ABSENT` because of a critical reason: the camera has been blocked for
`T_absent`, or a critical reason is stored or taken up. -/
def LatchesForReason (store : StateTimerStore) (input : StepBInput) : Prop :=
  store.absentLatchedRunCycle = false ∧ ¬ BlockedBelowAbsent input ∧
    (input.perception.cameraBlocked = true ∨
      isCriticalReason (acceptReason store input.perception).latestReason = true)

instance (store : StateTimerStore) (input : StepBInput) :
    Decidable (LatchesForReason store input) :=
  inferInstanceAs (Decidable (_ ∧ _ ∧ _))

/-- A report that is not critical is taken up. -/
def ReplacesCause (store : StateTimerStore) (perception : PerceptionInput) : Prop :=
  AcceptsReason store perception ∧ isCriticalReason perception.reason = false

instance (store : StateTimerStore) (perception : PerceptionInput) :
    Decidable (ReplacesCause store perception) :=
  inferInstanceAs (Decidable (_ ∧ _))

/-- The latch is on and a critical reason is stored. -/
def CauseKept (store : StateTimerStore) : Prop :=
  store.absentLatchedRunCycle = true ∧ isCriticalReason store.latestReason = true

/-- The tick hands a critical reason to Step C and to the dashboard. -/
def ShowsCritical (e : RuntimeEvent) : Prop :=
  isCriticalReason e.output.stepB.reason = true ∧
    isCriticalReason e.output.stepC.dashboardState.reason = true

variable {store : StateTimerStore} {input : StepBInput}

/-- The register keeps a critical reason exactly when the update does not replace it. -/
theorem accept_reason_keeps_critical_iff {perception : PerceptionInput}
    (hstore : isCriticalReason store.latestReason = true) :
    isCriticalReason (acceptReason store perception).latestReason = true ↔
      ¬ ReplacesCause store perception := by
  by_cases haccepts : AcceptsReason store perception
  · rw [accept_reason_latest_reason _ _ haccepts]
    simp [ReplacesCause, haccepts]
  · rw [acceptReason, if_neg haccepts]
    exact iff_of_true hstore fun hreplaces => haccepts hreplaces.1

/-- An evaluation keeps the cause exactly when it does not replace it. -/
theorem cause_kept_evaluate_iff (h : CauseKept store) (input : StepBInput) :
    CauseKept (evaluate input store).2 ↔ ¬ ReplacesCause store input.perception := by
  obtain ⟨hlatch, hcritical⟩ := h
  rw [← accept_reason_keeps_critical_iff hcritical, evaluate_latched hlatch]
  simp [CauseKept, hlatch]

/-- An evaluation that latches for a reason stores that reason. -/
theorem LatchesForReason.cause_kept (h : LatchesForReason store input) :
    CauseKept (evaluate input store).2 ∧
      isCriticalReason (evaluate input store).1.reason = true := by
  obtain ⟨hlatch, hbelow, hcritical⟩ := h
  have hreason : isCriticalReason (criticalReason input store) = true := by
    unfold criticalReason
    split
    · rfl
    · next hopen => exact hcritical.resolve_left hopen
  rw [evaluate_critical hlatch hbelow hcritical]
  exact ⟨⟨rfl, hreason⟩, hreason⟩

/-- With the latch on, the reason of the output is the one that is stored. -/
theorem evaluate_reason_of_latched (hlatch : store.absentLatchedRunCycle = true)
    (input : StepBInput) :
    (evaluate input store).1.reason = (evaluate input store).2.latestReason := by
  rw [evaluate_latched hlatch]

namespace PolicyRuntime

variable {self : PolicyRuntime} {input : RuntimeTickInput}

/-- Step C shows the reason of Step B on the dashboard. -/
theorem shows_critical_iff (self : PolicyRuntime) (input : RuntimeTickInput) :
    ShowsCritical (runtime.event self input) ↔
      isCriticalReason (self.tick input).1.stepB.reason = true :=
  and_iff_left_of_imp id

/-- Once the cause is kept, the later ticks show a critical reason exactly when none of them
replaces it. -/
theorem shows_critical_run_iff (h : CauseKept self.stepBStateStore)
    (inputs : List RuntimeTickInput) :
    (∀ e ∈ runtime.trace self inputs, ShowsCritical e) ↔
      ∀ e ∈ runtime.trace self inputs,
        ¬ ReplacesCause e.before.stepBStateStore e.input.stepB.perception := by
  rw [← runtime.trace_forall_after_iff (fun rt => CauseKept rt.stepBStateStore)
    (fun rt input => ¬ ReplacesCause rt.stepBStateStore input.stepB.perception)
    (fun rt input hrt => cause_kept_evaluate_iff hrt input.stepB) h]
  refine forall₂_congr ?_
  intro e he
  have hlatch := latched_run h.1 inputs e he
  have hafter := (evaluate_of_latched hlatch e.input.stepB).2.2.2
  rw [runtime.event_of_mem_trace he, shows_critical_iff, tick_step_b,
    evaluate_reason_of_latched hlatch]
  exact (and_iff_right hafter).symm

/-- After a tick that latches `ABSENT` for a critical reason, it and all later ticks of the run
cycle show a critical reason exactly when no later tick takes up a report that is not critical. -/
theorem latched_reason_kept_iff (hcause : LatchesForReason self.stepBStateStore input.stepB)
    (later : List RuntimeTickInput) :
    (∀ e ∈ runtime.trace self (input :: later), ShowsCritical e) ↔
      ∀ e ∈ runtime.trace (self.tick input).2 later,
        ¬ ReplacesCause e.before.stepBStateStore e.input.stepB.perception := by
  obtain ⟨hkept, hreason⟩ := hcause.cause_kept
  rw [← shows_critical_run_iff hkept, Machine.trace_cons, List.forall_mem_cons]
  exact and_iff_right ((shows_critical_iff self input).mpr hreason)

/-- A tick that reports a reason at a time. -/
def reportAt (reason : Reason) (reasonTsMs : ℤ) : RuntimeTickInput :=
  { stepB := { perception := { reason := reason, reasonTsMs := reasonTsMs } } }

/-- A tick without a report keeps the cause, and so does the critical report sent again. -/
theorem latched_reason_kept_intoxicated :
    LatchesForReason (PolicyRuntime.new 1).stepBStateStore (reportAt .intoxicated 1).stepB ∧
      ∀ e ∈ runtime.trace (.new 1) [reportAt .intoxicated 1, reportAt .none 0,
        reportAt .intoxicated 1], ShowsCritical e := by
  have hcause : LatchesForReason (PolicyRuntime.new 1).stepBStateStore
      (reportAt .intoxicated 1).stepB := by decide +kernel
  refine ⟨hcause, (latched_reason_kept_iff hcause _).mpr ?_⟩
  simp only [Machine.trace_cons, Machine.trace_nil, List.forall_mem_cons]
  exact ⟨by decide +kernel, by decide +kernel, by simp⟩

/-- A later `PHONE` report replaces the intoxication that latched `ABSENT`, while the MRM goes
on. -/
theorem latched_reason_replaced :
    LatchesForReason (PolicyRuntime.new 1).stepBStateStore (reportAt .intoxicated 1).stepB ∧
      (runtime.trace (.new 1) [reportAt .intoxicated 1, reportAt .phone 2]).map
          (fun e => (e.output.stepB.reason, e.output.stepC.dashboardState.reason,
            e.output.stepC.mrmActive)) =
        [(.intoxicated, .intoxicated, true), (.phone, .phone, true)] ∧
      ¬ ∀ e ∈ runtime.trace (.new 1) [reportAt .intoxicated 1, reportAt .phone 2],
        ShowsCritical e := by
  refine ⟨by decide +kernel, by decide +kernel, ?_⟩
  intro hshows
  simp only [Machine.trace_cons, Machine.trace_nil, List.forall_mem_cons] at hshows
  obtain ⟨_, ⟨hreason, _⟩, _⟩ := hshows
  have hphone : isCriticalReason .phone = true := hreason
  cases hphone

end PolicyRuntime

end DcasPolicyEngine
