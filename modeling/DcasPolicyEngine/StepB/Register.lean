import DcasPolicyEngine.Register.LastWriter
import DcasPolicyEngine.StepB.Invariants

/-!
# The reason register

Step B keeps the reason of the latest report. The update comes first in `evaluate`, and every exit
but one puts back the store that the update left, so that a run writes its reports to the register
one after another. The exception is a camera that has been blocked for `T_absent`, which puts
`BLOCKED_CAMERA` in the place of the reason.
-/

namespace DcasPolicyEngine

/-- The reason and the time of the latest report, as the store holds them. -/
def StepBStateStore.register (store : StepBStateStore) : LastWriter.Stamped Reason ℤ :=
  ⟨store.latestReason, store.latestReasonTsMs⟩

/-- The report that a perception carries, if it carries one for the register. -/
def PerceptionInput.report (perception : PerceptionInput) :
    Option (LastWriter.Stamped Reason ℤ) :=
  if perception.reason ≠ .none ∧ perception.reason ≠ .blockedCamera then
    some ⟨perception.reason, perception.reasonTsMs⟩
  else none

/-- The reports of a run, in their order of arrival. -/
def reports (inputs : List StepBInput) : List (LastWriter.Stamped Reason ℤ) :=
  inputs.filterMap fun input => input.perception.report

/-- The reports of a run that are not older than a new store. -/
def countedReports (inputs : List StepBInput) : List (LastWriter.Stamped Reason ℤ) :=
  (reports inputs).filter fun report => 0 ≤ report.stamp

/-- The reason update writes the report to the register. -/
theorem accept_reason_register (store : StateTimerStore) (perception : PerceptionInput) :
    (acceptReason store perception).register =
      LastWriter.latest store.register perception.report.toList := by
  unfold acceptReason
  by_cases haccepts : AcceptsReason store perception
  · obtain ⟨hnone, hcamera, hts⟩ := haccepts
    have hreport : perception.report = some ⟨perception.reason, perception.reasonTsMs⟩ :=
      if_pos ⟨hnone, hcamera⟩
    rw [if_pos ⟨hnone, hcamera, hts⟩, hreport]
    exact (LastWriter.write_of_le hts).symm
  · rw [if_neg haccepts]
    by_cases hcarried : perception.reason ≠ .none ∧ perception.reason ≠ .blockedCamera
    · -- the report is older than the register
      have hreport : perception.report = some ⟨perception.reason, perception.reasonTsMs⟩ :=
        if_pos hcarried
      have hold : perception.reasonTsMs < store.latestReasonTsMs := by
        by_contra hts
        exact haccepts ⟨hcarried.1, hcarried.2, not_lt.mp hts⟩
      rw [hreport]
      exact (LastWriter.write_of_lt hold).symm
    · have hreport : perception.report = none := if_neg hcarried
      rw [hreport]
      rfl

section Run

variable [Rounding] {store : StateTimerStore} {input : StepBInput}

/-- The evaluation takes the branch of a camera that has been blocked for `T_absent`. -/
def BlockedFromAbsent (store : StateTimerStore) (input : StepBInput) : Prop :=
  store.absentLatchedRunCycle = false ∧ input.perception.cameraBlocked = true ∧
    ¬ BlockedBelowAbsent input

instance (store : StateTimerStore) (input : StepBInput) :
    Decidable (BlockedFromAbsent store input) :=
  inferInstanceAs (Decidable (_ ∧ _ ∧ _))

/-- An evaluation leaves the register as the reason update does, unless it takes the branch of the
camera. -/
theorem evaluate_register (h : ¬ BlockedFromAbsent store input) :
    (evaluate input store).2.register = (acceptReason store input.perception).register := by
  cases exits input store with
  | latched hlatch =>
      rw [evaluate_latched hlatch]
      rfl
  | camera hlatch hbelow =>
      rw [evaluate_camera hlatch hbelow]
      rfl
  | critical hlatch hbelow hcritical =>
      have hopen : ¬ input.perception.cameraBlocked = true :=
        fun hblocked => h ⟨hlatch, hblocked, hbelow⟩
      rw [evaluate_critical hlatch hbelow hcritical, criticalReason, if_neg hopen]
      rfl
  | timers hlatch hblocked hnone =>
      cases hattentive : input.perception.isAttentive with
      | true =>
          rw [evaluate_attentive hlatch hblocked hnone hattentive]
          rfl
      | false =>
          rw [evaluate_inattentive hlatch hblocked hnone hattentive]
          rfl

/-- A run writes its reports to the register. -/
theorem run_register (store : StateTimerStore) {inputs : List StepBInput}
    (h : ∀ e ∈ stepB.trace store inputs, ¬ BlockedFromAbsent e.before e.input) :
    (stepB.run store inputs).register = LastWriter.latest store.register (reports inputs) := by
  induction inputs generalizing store with
  | nil => rfl
  | cons input inputs ih =>
      rw [Machine.trace_cons, List.forall_mem_cons] at h
      obtain ⟨hfirst, hrest⟩ := h
      have hstep : (stepB.step store input).2.register =
          LastWriter.latest store.register input.perception.report.toList :=
        (evaluate_register hfirst).trans (accept_reason_register store input.perception)
      have hreports : reports (input :: inputs) =
          input.perception.report.toList ++ reports inputs := by
        unfold reports
        cases hreport : input.perception.report <;> simp [hreport]
      rw [Machine.run_cons, ih (stepB.step store input).2 hrest, hstep, hreports]
      exact List.foldl_append.symm

/-- From a new store only the reports that are not older than it count. -/
theorem run_register_counted {inputs : List StepBInput}
    (h : ∀ e ∈ stepB.trace {} inputs, ¬ BlockedFromAbsent e.before e.input) :
    (stepB.run {} inputs).register = LastWriter.latest ⟨.none, 0⟩ (countedReports inputs) := by
  rw [run_register {} h]
  exact (LastWriter.latest_filter ⟨.none, 0⟩ (reports inputs)).symm

/-- After every run from a new store that does not take the branch of a camera that has been
blocked for `T_absent`, the register holds the latest of the counted reports, or `NONE` and zero if
there are none. With distinct times it does not depend on the order of arrival. -/
theorem latest_reason_register {inputs : List StepBInput}
    (h : ∀ e ∈ stepB.trace {} inputs, ¬ BlockedFromAbsent e.before e.input) :
    ((countedReports inputs = [] ∧ (stepB.run {} inputs).register = ⟨.none, 0⟩) ∨
        LastWriter.IsLatest (countedReports inputs) (stepB.run {} inputs).register) ∧
      ∀ other, (∀ e ∈ stepB.trace {} other, ¬ BlockedFromAbsent e.before e.input) →
        (countedReports inputs).Perm (countedReports other) →
        ((countedReports inputs).map LastWriter.Stamped.stamp).Nodup →
        (stepB.run {} inputs).register = (stepB.run {} other).register := by
  rw [run_register_counted h]
  constructor
  · refine LastWriter.latest_cases ⟨Reason.none, 0⟩ ?_
    intro report hreport
    simpa using (List.mem_filter.mp hreport).2
  · intro other hother hperm hdistinct
    rw [run_register_counted hother]
    exact LastWriter.latest_perm ⟨Reason.none, 0⟩ hperm hdistinct

end Run

/-- An evaluation that reports a reason at a time. -/
def reporting (reason : Reason) (reasonTsMs : ℤ) : StepBInput :=
  { perception := { reason := reason, reasonTsMs := reasonTsMs } }

/-- A report that latches, a late one and one that is newer, and another order of arrival. -/
theorem latest_reason_register_out_of_order :
    (stepB.run {} [reporting .intoxicated 20, reporting .phone 10,
        reporting .drowsy 30]).register = ⟨.drowsy, 30⟩ ∧
      (stepB.run {} [reporting .intoxicated 20, reporting .phone 10,
          reporting .drowsy 30]).register =
        (stepB.run {} [reporting .drowsy 30, reporting .intoxicated 20,
          reporting .phone 10]).register :=
  ⟨by decide +kernel,
    (latest_reason_register (by decide +kernel)).2 _ (by decide +kernel) (by decide +kernel)
      (by decide +kernel)⟩

end DcasPolicyEngine
