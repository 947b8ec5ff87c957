import DcasPolicyEngine.Runtime.Invariants

/-!
# Critical reasons

A critical report is meant to force `ABSENT` at once. Step B stores the report first and tests
it last, and a camera that has been blocked for less than `T_absent` makes it return in
between. `next_state_of_critical_report_iff` says that this exit is the only way to withhold
`ABSENT`, and `withheld_run_iff` that it is the only way to a store that keeps a critical
reason without the latch, where a later report can overwrite it.
-/

namespace DcasPolicyEngine

/-- The perception reports `UNRESPONSIVE` or `INTOXICATED`. -/
def CriticalReport (perception : PerceptionInput) : Prop :=
  perception.reason = .unresponsive ∨ perception.reason = .intoxicated

instance (perception : PerceptionInput) : Decidable (CriticalReport perception) :=
  inferInstanceAs (Decidable (_ ∨ _))

/-- A critical reason in the store has latched `ABSENT`. -/
def NoPendingReason (store : StateTimerStore) : Prop :=
  isCriticalReason store.latestReason = true → store.absentLatchedRunCycle = true

instance (store : StateTimerStore) : Decidable (NoPendingReason store) :=
  inferInstanceAs (Decidable (_ → _))

/-- A critical report is stored on a tick that leaves through the camera exit. -/
def Withheld (store : StateTimerStore) (input : StepBInput) : Prop :=
  CriticalReport input.perception ∧ store.latestReasonTsMs ≤ input.perception.reasonTsMs ∧
    CameraExit store input

variable {store : StateTimerStore} {input : StepBInput}

/-- A critical report that is not outdated is accepted. -/
theorem accepts_reason_of_critical_report (hreport : CriticalReport input.perception)
    (hts : store.latestReasonTsMs ≤ input.perception.reasonTsMs) :
    AcceptsReason store input.perception := by
  refine ⟨?_, ?_, hts⟩ <;> rcases hreport with h | h <;> simp [h]

/-- The reason register turns critical through an accepted critical report only. -/
theorem accept_reason_critical_iff (hstore : isCriticalReason store.latestReason = false) :
    isCriticalReason (acceptReason store input.perception).latestReason = true ↔
      CriticalReport input.perception ∧
        store.latestReasonTsMs ≤ input.perception.reasonTsMs := by
  constructor
  · intro hcritical
    by_cases haccepts : AcceptsReason store input.perception
    · rw [accept_reason_latest_reason _ _ haccepts] at hcritical
      obtain ⟨_, hcamera, hts⟩ := haccepts
      refine ⟨?_, hts⟩
      simpa [CriticalReport, isCriticalReason, hcamera, or_assoc] using hcritical
    · rw [acceptReason, if_neg haccepts, hstore] at hcritical
      cases hcritical
  · intro haccepted
    obtain ⟨hreport, hts⟩ := haccepted
    rw [accept_reason_latest_reason _ _ (accepts_reason_of_critical_report hreport hts)]
    rcases hreport with h | h <;> rw [h] <;> rfl

/-- Without a critical report the reason register does not turn critical. -/
theorem accept_reason_not_critical (hstore : isCriticalReason store.latestReason = false)
    (hreport : ¬ CriticalReport input.perception) :
    isCriticalReason (acceptReason store input.perception).latestReason = false := by
  rw [← Bool.not_eq_true, accept_reason_critical_iff hstore]
  intro haccepted
  exact hreport haccepted.1

/-- With the camera open and without a critical report, an evaluation stores no critical reason. -/
theorem evaluate_not_critical (hstore : isCriticalReason store.latestReason = false)
    (hreport : ¬ CriticalReport input.perception)
    (hopen : input.perception.cameraBlocked = false) :
    isCriticalReason (evaluate input store).2.latestReason = false := by
  have hnone := accept_reason_not_critical hstore hreport
  cases exits input store with
  | latched hlatch => simpa [evaluate_latched hlatch] using hnone
  | camera hlatch hbelow => exact absurd hbelow (not_blocked_below_absent hopen)
  | critical hlatch hbelow hcritical =>
      have hreason := hcritical.resolve_left (by simp [hopen])
      rw [hnone] at hreason
      cases hreason
  | timers hlatch hblocked _ =>
      cases hattentive : input.perception.isAttentive with
      | true => simpa [evaluate_attentive hlatch hblocked hnone hattentive] using hnone
      | false => simpa [evaluate_inattentive hlatch hblocked hnone hattentive] using hnone

/-- An accepted critical report forces latched `ABSENT` except through the camera exit. -/
theorem next_state_of_critical_report_iff (hreport : CriticalReport input.perception)
    (hts : store.latestReasonTsMs ≤ input.perception.reasonTsMs) :
    ((evaluate input store).1.nextState = .absent ∧
        (evaluate input store).1.absentLatchedRunCycle = true) ↔
      ¬ CameraExit store input := by
  cases exits input store with
  | latched hlatch => simp [evaluate_latched hlatch, CameraExit, hlatch]
  | camera hlatch hbelow => simp [evaluate_camera hlatch hbelow, CameraExit, hlatch, hbelow]
  | critical hlatch hbelow hcritical =>
      simp [evaluate_critical hlatch hbelow hcritical, CameraExit, hbelow]
  | timers hlatch hblocked hcritical =>
      -- the report was taken up, so the critical exit came first
      have haccepts := accepts_reason_of_critical_report hreport hts
      rw [accept_reason_latest_reason _ _ haccepts] at hcritical
      rcases hreport with h | h <;> rw [h] at hcritical <;> cases hcritical

/-- Without the latch, a store without a pending reason holds no critical reason. -/
theorem NoPendingReason.not_critical (h : NoPendingReason store)
    (hlatch : store.absentLatchedRunCycle = false) :
    isCriticalReason store.latestReason = false := by
  rw [← Bool.not_eq_true]
  intro hcritical
  rw [h hcritical] at hlatch
  cases hlatch

/-- From a store without a pending reason, only a withheld report leads to one with it. -/
theorem no_pending_reason_evaluate_iff (h : NoPendingReason store) :
    NoPendingReason (evaluate input store).2 ↔ ¬ Withheld store input := by
  cases exits input store with
  | latched hlatch =>
      simp [evaluate_latched hlatch, NoPendingReason, Withheld, CameraExit, hlatch]
  | camera hlatch hbelow =>
      -- the one exit that stores the report and leaves the latch off
      have hreport : isCriticalReason (acceptReason store input.perception).latestReason = true ↔
          _ := accept_reason_critical_iff (h.not_critical hlatch)
      simp only [evaluate_camera hlatch hbelow, NoPendingReason, Withheld, CameraExit, hlatch,
        hbelow, accept_reason_absent_latched_run_cycle, hreport]
      simp
  | critical hlatch hbelow hcritical =>
      simp [evaluate_critical hlatch hbelow hcritical, NoPendingReason, Withheld, CameraExit,
        hbelow]
  | timers hlatch hblocked hcritical =>
      have hnotBelow := not_blocked_below_absent hblocked
      have hstored : (evaluate input store).2.latestReason =
          (acceptReason store input.perception).latestReason := by
        cases hattentive : input.perception.isAttentive with
        | true => rw [evaluate_attentive hlatch hblocked hcritical hattentive]
        | false => rw [evaluate_inattentive hlatch hblocked hcritical hattentive]
      simp [NoPendingReason, hstored, hcritical, Withheld, CameraExit, hnotBelow]

/-- A tick withholds a critical report. A reset never does. -/
def RuntimeCall.Withholds (call : RuntimeCall) (self : PolicyRuntime) : Prop :=
  match call with
  | .tick input => Withheld self.stepBStateStore input.stepB
  | .resetForNewRunCycle _ => False

/-- A run of calls keeps the store free of pending reasons exactly when it withholds none. -/
theorem withheld_run_iff (runCycleId : UInt64) (calls : List RuntimeCall) :
    (∀ e ∈ runtimeCalls.trace (PolicyRuntime.new runCycleId) calls,
        NoPendingReason e.after.stepBStateStore) ↔
      ∀ e ∈ runtimeCalls.trace (PolicyRuntime.new runCycleId) calls,
        ¬ e.input.Withholds e.before := by
  refine runtimeCalls.trace_forall_after_iff (fun rt => NoPendingReason rt.stepBStateStore)
    (fun rt call => ¬ call.Withholds rt) ?_ (by decide : NoPendingReason {}) calls
  intro rt call hrt
  cases call with
  | tick input => exact no_pending_reason_evaluate_iff hrt
  | resetForNewRunCycle runCycleId =>
      exact iff_of_true (by decide : NoPendingReason {}) id

/-- After every run of calls, a critical report that is not outdated forces latched `ABSENT` on
its tick exactly when the tick does not leave through the camera exit. The run never holds a
critical reason without the latch exactly when none of its ticks withholds a report in this
way. -/
theorem critical_report_forces_absent_iff (runCycleId : UInt64) (calls : List RuntimeCall)
    (input : RuntimeTickInput) :
    (CriticalReport input.stepB.perception →
      (runtimeCalls.run (.new runCycleId) calls).stepBStateStore.latestReasonTsMs ≤
        input.stepB.perception.reasonTsMs →
      ((((runtimeCalls.run (.new runCycleId) calls).tick input).1.stepB.nextState = .absent ∧
          ((runtimeCalls.run (.new runCycleId) calls).tick
            input).1.stepB.absentLatchedRunCycle = true) ↔
        ¬ CameraExit (runtimeCalls.run (.new runCycleId) calls).stepBStateStore input.stepB)) ∧
    ((∀ e ∈ runtimeCalls.trace (.new runCycleId) calls, NoPendingReason e.after.stepBStateStore) ↔
      ∀ e ∈ runtimeCalls.trace (.new runCycleId) calls, ¬ e.input.Withholds e.before) :=
  ⟨next_state_of_critical_report_iff, withheld_run_iff runCycleId calls⟩

/-- A hand covers the camera while `INTOXICATED` is reported. -/
def coveredIntoxicated : RuntimeTickInput :=
  { stepB :=
      { perception :=
          { isAttentiveTsMs := 1000
            reason := .intoxicated
            reasonTsMs := 1000
            cameraBlocked := true
            cameraBlockedTsMs := 1000 }
        deltaS := literal 0.02 } }

/-- The next tick: the camera is open and `PHONE` is reported. -/
def uncoveredPhone : RuntimeTickInput :=
  { stepB :=
      { perception := { isAttentiveTsMs := 1020, reason := .phone, reasonTsMs := 1020 }
        deltaS := literal 0.02 } }

/-- The report behind a hand gives `WARNING` without the latch, and the next report overwrites
it. -/
theorem critical_report_overwritten :
    CriticalReport coveredIntoxicated.stepB.perception ∧
      (PolicyRuntime.new 1).stepBStateStore.latestReasonTsMs ≤
        coveredIntoxicated.stepB.perception.reasonTsMs ∧
      ((PolicyRuntime.new 1).tick coveredIntoxicated).1.stepB.nextState = .warning ∧
      ((PolicyRuntime.new 1).tick coveredIntoxicated).1.stepB.absentLatchedRunCycle = false ∧
      ¬ NoPendingReason ((PolicyRuntime.new 1).tick coveredIntoxicated).2.stepBStateStore ∧
      (((PolicyRuntime.new 1).tick coveredIntoxicated).2.tick
        uncoveredPhone).1.stepB.nextState = .warning ∧
      (((PolicyRuntime.new 1).tick coveredIntoxicated).2.tick
        uncoveredPhone).2.stepBStateStore.latestReason = .phone := by
  decide +kernel

end DcasPolicyEngine
