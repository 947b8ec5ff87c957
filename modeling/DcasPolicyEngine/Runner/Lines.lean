import DcasPolicyEngine.Runner.Loop

/-!
# What the runner prints

Every tick of the runner has the same perception, so its lines have a closed form: `line` gives each
of them from the options and its number alone. The driver state only grows more severe from line to
line (`driver_state_succ`). What the runtime keeps between two ticks is determined in the same way
(`KeptStore` and `KeptState`), and `runner_lines` follows from one tick by the rule for machines
that read a loop counter.
-/

namespace DcasPolicyEngine

open Rounding

namespace RunnerOptions

variable (options : RunnerOptions)

/-- The thresholds of the given speed. -/
def thresholds : Thresholds := schedule (estimate options.jetracerInput04)

/-- The given reason is one that Step B stores, and its timestamp at tick `i` is not negative. -/
def Reports (i : ℕ) : Prop :=
  options.reason ≠ .none ∧ options.reason ≠ .blockedCamera ∧ 0 ≤ options.tickReasonTs i

instance (i : ℕ) : Decidable (options.Reports i) := inferInstanceAs (Decidable (_ ∧ _ ∧ _))

/-- The inattention timer after some ticks of an inattentive driver. -/
def inattentiveElapsedS (ticks : ℕ) : ℚ :=
  addUp 0 (List.replicate ticks (max 0 options.deltaS))

/-- The driver state of tick `i`. -/
def driverState (i : ℕ) : DriverState :=
  if options.cameraBlocked = true then
    if blockedElapsedS (options.stepBInput i).perception < options.thresholds.tAbsentEffS then
      .warning
    else .absent
  else if isCriticalReason options.reason = true ∧ options.Reports i then .absent
  else if options.isAttentive = true then .ok
  else options.thresholds.level (options.inattentiveElapsedS (i + 1))

/-- The driver state that is held before tick `i`. -/
def heldState : ℕ → DriverState
  | 0 => .ok
  | i + 1 => options.driverState i

/-- The reason that Step B has taken from the options by tick `i`. -/
def storedReason (i : ℕ) : Reason := if options.Reports i then options.reason else .none

/-- The reason that tick `i` shows. While the camera is blocked the given reason replaces
`BLOCKED_CAMERA` from the second `ABSENT` tick on. -/
def shownReason (i : ℕ) : Reason :=
  if options.cameraBlocked = true then
    if options.heldState i = .absent ∧ options.Reports i then options.reason else .blockedCamera
  else if options.driverState i = .ok then .none
  else options.storedReason i

/-- The mode that the first tick asks for, as far as its preconditions allow. -/
def firstMode : LkasMode :=
  if options.switchEvent = .on ∧ options.driverState 0 = .ok ∧ options.notebookAlive = true then
    .onActive
  else applySwitchEvent options.lkasMode options.switchEvent

/-- The LKAS mode of tick `i`: off with an override and from the second `ABSENT` tick on. -/
def nextMode (i : ℕ) : LkasMode :=
  if options.driverOverride = true ∨ options.heldState i = .absent then .off
  else if options.firstMode = .onActive ∧
      (options.driverState i ≠ .ok ∨ options.notebookAlive = false) then .onInactive
  else options.firstMode

/-- The line that tick `i` prints. -/
def line (i : ℕ) : RunnerLine :=
  { tick := i
    stepBNextState := options.driverState i
    reason := options.shownReason i
    absentLatched := options.driverState i = .absent
    reengagementConfirmed200ms := false
    hmiAction :=
      if options.driverOverride = true then .info
      else StepC.hmiOfState (options.driverState i) false
    nextLkasMode := options.nextMode i
    throttleLimit :=
      if options.driverOverride = true ∨ options.driverState i = .absent then .num 0
      else StepC.scaledThrottle options.lkasThrottle (options.driverState i)
        (options.shownReason i)
    mrmActive := options.driverState i = .absent ∧ ¬ options.driverOverride = true
    driverOverrideLock := options.heldState i = .absent ∧ ¬ options.driverOverride = true }

/-! ## The states grow -/

variable {options} {i : ℕ}

theorem tick_reason_ts_succ : options.tickReasonTs i ≤ options.tickReasonTs (i + 1) := by
  unfold tickReasonTs tickTs
  split
  · exact le_rfl
  · push_cast
    omega

theorem Reports.succ (h : options.Reports i) : options.Reports (i + 1) :=
  ⟨h.1, h.2.1, h.2.2.trans tick_reason_ts_succ⟩

/-- The camera has been blocked for longer at the next tick. -/
theorem blocked_elapsed_succ :
    blockedElapsedS (options.stepBInput i).perception ≤
      blockedElapsedS (options.stepBInput (i + 1)).perception := by
  have hts : options.tickTs i ≤ options.tickTs (i + 1) := by
    unfold tickTs
    omega
  have hsub : options.tickTs i - options.cameraBlockedTsMs ≤
      options.tickTs (i + 1) - options.cameraBlockedTsMs := by
    omega
  show ((_ : ℤ) : ℚ) / 1000 ≤ ((_ : ℤ) : ℚ) / 1000
  exact div_le_div_of_nonneg_right (Int.cast_le.mpr hsub) (by norm_num)

/-- The timer after one more tick. -/
theorem inattentive_elapsed_succ :
    options.inattentiveElapsedS (i + 1) =
      add (options.inattentiveElapsedS i) (max 0 options.deltaS) := by
  unfold inattentiveElapsedS
  rw [List.replicate_succ', add_up_concat]

theorem inattentive_elapsed_nonneg : 0 ≤ options.inattentiveElapsedS i := by
  refine add_up_nonneg le_rfl fun term hterm => ?_
  rw [List.eq_of_mem_replicate hterm]
  exact le_max_left 0 options.deltaS

/-- One more tick takes nothing off the timer. -/
theorem inattentive_elapsed_le_succ :
    options.inattentiveElapsedS i ≤ options.inattentiveElapsedS (i + 1) := by
  rw [inattentive_elapsed_succ]
  exact (is_rounded_zero.add_up _).le_add (le_max_left 0 options.deltaS)

/-- The state of the next tick is at least as severe. -/
theorem driver_state_succ : options.driverState i ≤ options.driverState (i + 1) := by
  unfold driverState
  by_cases hblocked : options.cameraBlocked = true
  · rw [if_pos hblocked, if_pos hblocked]
    have hlonger := @blocked_elapsed_succ options i
    split
    · split <;> decide
    · next hreached => rw [if_neg fun h => hreached (hlonger.trans_lt h)]
  rw [if_neg hblocked, if_neg hblocked]
  by_cases hcritical : isCriticalReason options.reason = true ∧ options.Reports i
  · rw [if_pos hcritical, if_pos ⟨hcritical.1, hcritical.2.succ⟩]
  rw [if_neg hcritical]
  by_cases hnext : isCriticalReason options.reason = true ∧ options.Reports (i + 1)
  · rw [if_pos hnext]
    exact DriverState.le_absent _
  rw [if_neg hnext]
  split
  · exact le_rfl
  · exact (schedule_ordered _).level_mono inattentive_elapsed_nonneg inattentive_elapsed_le_succ

/-- The state that is held is not more severe than the state of the tick. -/
theorem held_state_le : options.heldState i ≤ options.driverState i := by
  cases i with
  | zero => exact DriverState.ok_le _
  | succ i => exact driver_state_succ

/-- `ABSENT` is kept. -/
theorem driver_state_of_held (h : options.heldState i = .absent) :
    options.driverState i = .absent :=
  le_antisymm (DriverState.le_absent _) (h ▸ held_state_le)

/-! ## What Step B keeps -/

variable (options)

/-- The timestamp of the stored reason before tick `i`. -/
def heldReasonTs : ℕ → ℤ
  | 0 => 0
  | i + 1 => if options.Reports i then options.tickReasonTs i else 0

/-- The stored reason before tick `i`. -/
def heldReason : ℕ → Reason
  | 0 => .none
  | i + 1 =>
      if options.cameraBlocked = true ∧ options.driverState i = .absent then options.shownReason i
      else options.storedReason i

/-- The store before tick `i`. -/
structure KeptStore (i : ℕ) (store : StateTimerStore) : Prop where
  latch_eq : store.absentLatchedRunCycle = decide (options.heldState i = .absent)
  state_eq : store.currentState = options.heldState i
  reason_eq : store.latestReason = options.heldReason i
  reason_ts_eq : store.latestReasonTsMs = options.heldReasonTs i
  elapsed_eq : options.cameraBlocked = false → options.isAttentive = false →
    options.heldState i ≠ .absent → store.inattentiveElapsedS = options.inattentiveElapsedS i

variable {options} {store : StateTimerStore}

/-- Step B takes the reason of tick `i` exactly when the options report one. -/
theorem KeptStore.accepts_iff (h : options.KeptStore i store) :
    AcceptsReason store (options.stepBInput i).perception ↔ options.Reports i := by
  show _ ∧ _ ∧ options.tickReasonTs i ≥ store.latestReasonTsMs ↔ _ ∧ _ ∧ _
  rw [h.reason_ts_eq]
  refine and_congr_right fun hsome => and_congr_right fun hopen => ?_
  cases i with
  | zero => exact Iff.rfl
  | succ i =>
      have hgrows := @tick_reason_ts_succ options i
      show options.tickReasonTs (i + 1) ≥ ite _ _ _ ↔ _
      split
      · next hreports => exact iff_of_true hgrows (hreports.2.2.trans hgrows)
      · exact Iff.rfl

/-- The timestamp of the stored reason after the update of tick `i`. -/
theorem KeptStore.accept_reason_ts (h : options.KeptStore i store) :
    (acceptReason store (options.stepBInput i).perception).latestReasonTsMs =
      options.heldReasonTs (i + 1) := by
  unfold acceptReason
  rw [if_congr h.accepts_iff rfl rfl]
  show _ = ite _ _ _
  split
  · rfl
  · next hreports =>
      rw [h.reason_ts_eq]
      cases i with
      | zero => rfl
      | succ i => exact if_neg fun hearlier => hreports hearlier.succ

/-- Before the latch is set the reason after the update is the one taken from the options. -/
theorem KeptStore.accept_reason_unlatched (h : options.KeptStore i store)
    (hheld : options.heldState i ≠ .absent) :
    (acceptReason store (options.stepBInput i).perception).latestReason =
      options.storedReason i := by
  unfold acceptReason storedReason
  rw [if_congr h.accepts_iff rfl rfl]
  split
  · rfl
  · next hreports =>
      rw [h.reason_eq]
      cases i with
      | zero => rfl
      | succ i =>
          have hearlier : ¬ options.Reports i := fun hearlier => hreports hearlier.succ
          show ite _ _ _ = _
          rw [if_neg fun hlatched => hheld hlatched.2, storedReason, if_neg hearlier]

/-- The reason of an `ABSENT` tick when the options report none. -/
theorem shown_reason_unreported (habsent : options.driverState i = .absent)
    (hreports : ¬ options.Reports i) :
    options.shownReason i = if options.cameraBlocked = true then .blockedCamera else .none := by
  simp [shownReason, storedReason, habsent, hreports]

/-- With the latch on the reason after the update is the one that the tick shows. -/
theorem KeptStore.accept_reason_latched (h : options.KeptStore i store)
    (hheld : options.heldState i = .absent) :
    (acceptReason store (options.stepBInput i).perception).latestReason =
      options.shownReason i := by
  have habsent := driver_state_of_held hheld
  unfold acceptReason
  rw [if_congr h.accepts_iff rfl rfl]
  by_cases hreports : options.Reports i
  · rw [if_pos hreports]
    show options.reason = _
    simp [shownReason, storedReason, habsent, hheld, hreports]
  · rw [if_neg hreports, shown_reason_unreported habsent hreports, h.reason_eq]
    cases i with
    | zero => cases hheld
    | succ i =>
        have hearlier : ¬ options.Reports i := fun hearlier => hreports hearlier.succ
        have hlatched : options.driverState i = .absent := hheld
        show ite _ _ _ = _
        rw [shown_reason_unreported hlatched hearlier, storedReason, if_neg hearlier]
        by_cases hblocked : options.cameraBlocked = true <;> simp [hblocked, hlatched]

/-- The output of Step B on tick `i`. -/
def stepBOutput (options : RunnerOptions) (i : ℕ) : StepBOutput :=
  { nextState := options.driverState i
    reason := options.shownReason i
    absentLatchedRunCycle := options.driverState i = .absent
    inputSnapshotTsMs := options.tickTs i }

/-- An `ABSENT` tick stores the reason that it shows. -/
theorem held_reason_of_absent (habsent : options.driverState i = .absent) :
    options.heldReason (i + 1) = options.shownReason i := by
  show ite _ _ _ = _
  by_cases hblocked : options.cameraBlocked = true <;> simp [shownReason, hblocked, habsent]

/-- Any other tick stores the reason of the options. -/
theorem held_reason_of_ne_absent (habsent : options.driverState i ≠ .absent) :
    options.heldReason (i + 1) = options.storedReason i :=
  if_neg fun hboth => habsent hboth.2

/-- The reason taken from the options is critical exactly when the options report a critical one. -/
theorem is_critical_stored_reason :
    isCriticalReason (options.storedReason i) = true ↔
      isCriticalReason options.reason = true ∧ options.Reports i := by
  unfold storedReason
  split
  · next hreports => exact (and_iff_left hreports).symm
  · next hreports => exact iff_of_false (by decide) fun hboth => hreports hboth.2

/-- A tick with the latch on. -/
theorem KeptStore.step_latched (h : options.KeptStore i store)
    (hheld : options.heldState i = .absent) :
    (evaluate (options.stepBInput i) store).1 = options.stepBOutput i ∧
      options.KeptStore (i + 1) (evaluate (options.stepBInput i) store).2 := by
  have hlatch : store.absentLatchedRunCycle = true := by simp [h.latch_eq, hheld]
  have habsent := driver_state_of_held hheld
  have hreason := h.accept_reason_latched hheld
  rw [evaluate_latched hlatch, hreason]
  refine ⟨by simp [stepBOutput, habsent, stepBInput], ?_⟩
  refine ⟨?_, habsent.symm, ?_, h.accept_reason_ts, fun _ _ hunlatched => ?_⟩
  · show (acceptReason store _).absentLatchedRunCycle = decide (options.driverState i = _)
    simp [hlatch, habsent]
  · show (acceptReason store _).latestReason = _
    rw [hreason, held_reason_of_absent habsent]
  · exact absurd habsent hunlatched

/-- A tick with a blocked camera before the latch is set. -/
theorem KeptStore.step_blocked (h : options.KeptStore i store)
    (hheld : options.heldState i ≠ .absent) (hblocked : options.cameraBlocked = true) :
    (evaluate (options.stepBInput i) store).1 = options.stepBOutput i ∧
      options.KeptStore (i + 1) (evaluate (options.stepBInput i) store).2 := by
  have hlatch : store.absentLatchedRunCycle = false := by simp [h.latch_eq, hheld]
  have hshown : options.shownReason i = .blockedCamera := by
    rw [shownReason, if_pos hblocked, if_neg fun hboth => hheld hboth.1]
  have hstored := h.accept_reason_unlatched hheld
  have hopen : ¬ options.cameraBlocked = false := by simp [hblocked]
  by_cases hbelow : blockedElapsedS (options.stepBInput i).perception <
      options.thresholds.tAbsentEffS
  · have hstate : options.driverState i = .warning := by
      rw [driverState, if_pos hblocked, if_pos hbelow]
    rw [evaluate_camera hlatch ⟨hblocked, hbelow⟩]
    refine ⟨by simp [stepBOutput, hstate, hshown, stepBInput], ?_⟩
    refine ⟨?_, hstate.symm, ?_, h.accept_reason_ts, fun hfalse => absurd hfalse hopen⟩
    · show (acceptReason store _).absentLatchedRunCycle = decide (options.driverState i = _)
      simp [hlatch, hstate]
    · rw [held_reason_of_ne_absent (by simp [hstate])]
      exact hstored
  · have hstate : options.driverState i = .absent := by
      rw [driverState, if_pos hblocked, if_neg hbelow]
    have hcritical : criticalReason (options.stepBInput i) store = .blockedCamera :=
      if_pos hblocked
    rw [evaluate_critical hlatch (fun hboth => hbelow hboth.2) (.inl hblocked), hcritical]
    refine ⟨by simp [stepBOutput, hstate, hshown, stepBInput], ?_⟩
    refine ⟨?_, hstate.symm, ?_, h.accept_reason_ts, fun hfalse => absurd hfalse hopen⟩
    · show true = decide (options.driverState i = _)
      simp [hstate]
    · rw [held_reason_of_absent hstate, hshown]

/-- An attentive driver with an open camera stays in `OK` until a critical reason is reported. -/
theorem driver_state_of_attentive (hopen : options.cameraBlocked = false)
    (hattentive : options.isAttentive = true)
    (hcritical : ¬ (isCriticalReason options.reason = true ∧ options.Reports i)) :
    options.driverState i = .ok := by
  rw [driverState, if_neg (by simp [hopen]), if_neg hcritical, if_pos hattentive]

/-- An inattentive driver with an open camera is at the level of the timer until a critical reason
is reported. -/
theorem driver_state_of_inattentive (hopen : options.cameraBlocked = false)
    (hattentive : options.isAttentive = false)
    (hcritical : ¬ (isCriticalReason options.reason = true ∧ options.Reports i)) :
    options.driverState i = options.thresholds.level (options.inattentiveElapsedS (i + 1)) := by
  rw [driverState, if_neg (by simp [hopen]), if_neg hcritical, if_neg (by simp [hattentive])]

/-- Escalation from the held state leads to the level of the timer. -/
theorem escalate_held_state
    (hstate : options.driverState i =
      options.thresholds.level (options.inattentiveElapsedS (i + 1))) :
    escalate options.thresholds (options.heldState i) (options.inattentiveElapsedS (i + 1)) =
      options.driverState i := by
  rcases escalate_cases options.thresholds (options.heldState i)
    (options.inattentiveElapsedS (i + 1)) with ⟨_, hlevel⟩ | ⟨hlow, hkept⟩
  · rw [hlevel, hstate]
  · -- below `T_warn` nothing but `OK` has been held
    have hok : options.driverState i = .ok := by
      rw [hstate]
      exact (schedule_ordered _).level_eq_ok hlow
    have hle := @held_state_le options i
    rw [hok] at hle
    rw [hkept, hok]
    exact le_antisymm hle (DriverState.ok_le _)

/-- A tick with an open camera before the latch is set. -/
theorem KeptStore.step_open (h : options.KeptStore i store)
    (hheld : options.heldState i ≠ .absent) (hopen : options.cameraBlocked = false) :
    (evaluate (options.stepBInput i) store).1 = options.stepBOutput i ∧
      options.KeptStore (i + 1) (evaluate (options.stepBInput i) store).2 := by
  have hlatch : store.absentLatchedRunCycle = false := by simp [h.latch_eq, hheld]
  have hblocked : ¬ options.cameraBlocked = true := by simp [hopen]
  have hstored := h.accept_reason_unlatched hheld
  have hshown : options.shownReason i =
      if options.driverState i = .ok then .none else options.storedReason i := if_neg hblocked
  by_cases hcritical : isCriticalReason options.reason = true ∧ options.Reports i
  · -- the reason latches the state
    have hstate : options.driverState i = .absent := by
      rw [driverState, if_neg hblocked, if_pos hcritical]
    have hreason : criticalReason (options.stepBInput i) store = options.shownReason i := by
      rw [hshown, hstate]
      exact (if_neg hblocked).trans hstored
    have htaken : isCriticalReason
        (acceptReason store (options.stepBInput i).perception).latestReason = true := by
      rw [hstored]
      exact is_critical_stored_reason.mpr hcritical
    rw [evaluate_critical hlatch (not_blocked_below_absent hopen) (.inr htaken), hreason]
    refine ⟨by simp [stepBOutput, hstate, stepBInput], ?_⟩
    refine ⟨?_, hstate.symm, ?_, h.accept_reason_ts, fun _ _ hne => absurd hstate hne⟩
    · show true = decide (options.driverState i = _)
      simp [hstate]
    · rw [held_reason_of_absent hstate]
  have htaken : isCriticalReason
      (acceptReason store (options.stepBInput i).perception).latestReason = false := by
    rw [hstored, ← Bool.not_eq_true]
    exact fun htrue => hcritical (is_critical_stored_reason.mp htrue)
  cases hattentive : options.isAttentive with
  | true =>
      have hstate := driver_state_of_attentive hopen hattentive hcritical
      have hkept : options.heldState i = .ok :=
        le_antisymm (hstate ▸ held_state_le) (DriverState.ok_le _)
      rw [evaluate_attentive hlatch hopen htaken hattentive, h.state_eq, hkept]
      dsimp only
      rw [recover_ok]
      refine ⟨by simp [stepBOutput, hstate, hshown, stepBInput], ?_⟩
      refine ⟨?_, hstate.symm, ?_, h.accept_reason_ts, fun _ hfalse => absurd hattentive ?_⟩
      · show decide (DriverState.ok = .absent) = decide (options.driverState i = .absent)
        rw [hstate]
      · rw [held_reason_of_ne_absent (by simp [hstate])]
        exact hstored
      · simp [hfalse]
  | false =>
      have hstate := driver_state_of_inattentive hopen hattentive hcritical
      have hadvanced : inattentiveAfter store (options.stepBInput i) =
          options.inattentiveElapsedS (i + 1) := by
        rw [inattentiveAfter, h.elapsed_eq hopen hattentive hheld, inattentive_elapsed_succ]
        rfl
      have hnext : escalate (options.stepBInput i).thresholds store.currentState
          (inattentiveAfter store (options.stepBInput i)) = options.driverState i := by
        rw [hadvanced, h.state_eq]
        exact escalate_held_state hstate
      rw [evaluate_inattentive hlatch hopen htaken hattentive]
      dsimp only
      rw [hnext]
      refine ⟨?_, rfl, rfl, ?_, h.accept_reason_ts, fun _ _ _ => ?_⟩
      · rw [hstored, ← hshown]
        rfl
      · show (acceptReason store _).latestReason = _
        rw [hstored]
        by_cases habsent : options.driverState i = .absent
        · rw [held_reason_of_absent habsent, hshown, habsent]
          rfl
        · exact (held_reason_of_ne_absent habsent).symm
      · exact hadvanced

/-- A tick shows the output of its number and keeps what the store has between the ticks. -/
theorem KeptStore.step (h : options.KeptStore i store) :
    (evaluate (options.stepBInput i) store).1 = options.stepBOutput i ∧
      options.KeptStore (i + 1) (evaluate (options.stepBInput i) store).2 := by
  by_cases hheld : options.heldState i = .absent
  · exact h.step_latched hheld
  · cases hblocked : options.cameraBlocked with
    | true => exact h.step_blocked hheld hblocked
    | false => exact h.step_open hheld hblocked

/-! ## What the loop keeps -/

variable (options)

/-- The mode that tick `i` is given. -/
def heldMode : ℕ → LkasMode
  | 0 => options.lkasMode
  | i + 1 => options.nextMode i

/-- The switch event that tick `i` is given. -/
def heldEvent : ℕ → LkasSwitchEvent
  | 0 => options.switchEvent
  | _ + 1 => .none

/-- The variables of the loop before tick `i`. An MRM tick has been counted exactly when the held
state is `ABSENT` and no override is given. -/
structure KeptState (i : ℕ) (state : RunnerState) : Prop where
  sound : state.runtime.Sound
  store : options.KeptStore i state.runtime.stepBStateStore
  counted_iff : 0 < state.runtime.stepCLatchedState.mrmActivationCountRunCycle ↔
    options.heldState i = .absent ∧ ¬ options.driverOverride = true
  mode_eq : state.lkasMode = options.heldMode i
  event_eq : state.switchEvent = options.heldEvent i

variable {options} {state : RunnerState}

/-- The loop starts with nothing kept. -/
theorem kept_state_start : options.KeptState 0 (.start options) := by
  refine ⟨PolicyRuntime.sound_new 1, ⟨rfl, rfl, rfl, rfl, fun _ _ _ => ?_⟩, ?_, rfl, rfl⟩
  · rfl
  · simp [RunnerState.start, PolicyRuntime.new, heldState]

/-- In the loop the override takes effect exactly when it is given. -/
theorem KeptState.overridden_iff (h : options.KeptState i state) :
    state.runtime.Overridden (state.tickInput options i) ↔ options.driverOverride = true := by
  refine and_iff_left_of_imp fun hgiven : options.driverOverride = true => ?_
  -- with an override no MRM tick is ever counted
  have hcount := h.counted_iff.not.mpr fun hboth => hboth.2 hgiven
  rw [← Bool.not_eq_true, h.sound.lock_iff]
  omega

/-- The MRM is active on an `ABSENT` tick without an override. -/
theorem KeptState.mrm_active_iff (h : options.KeptState i state) :
    (state.runtime.tick (state.tickInput options i)).1.stepC.mrmActive = true ↔
      options.driverState i = .absent ∧ ¬ options.driverOverride = true := by
  have houtput : (state.runtime.tick (state.tickInput options i)).1.stepB =
      options.stepBOutput i := h.store.step.1
  rw [PolicyRuntime.tick_mrm_active_iff, h.overridden_iff, houtput]
  rfl

/-- A second MRM tick has been counted after tick `i` exactly when one had been counted before. -/
theorem KeptState.counted_twice_iff (h : options.KeptState i state) :
    2 ≤ (state.runtime.tick
        (state.tickInput options i)).2.stepCLatchedState.mrmActivationCountRunCycle ↔
      options.heldState i = .absent ∧ ¬ options.driverOverride = true := by
  have hcount := h.counted_iff
  rw [PolicyRuntime.tick_count, ← hcount]
  by_cases hcounted : 0 < state.runtime.stepCLatchedState.mrmActivationCountRunCycle
  · obtain ⟨hheld, hoverride⟩ := hcount.mp hcounted
    rw [if_pos (h.mrm_active_iff.mpr ⟨driver_state_of_held hheld, hoverride⟩)]
    omega
  · split <;> omega

/-- The mode of a tick with neither an override nor an `ABSENT` tick before it. -/
theorem next_mode_of_kept (hheld : options.heldState i ≠ .absent)
    (hoverride : ¬ options.driverOverride = true) :
    options.nextMode i =
      if options.firstMode = .onActive ∧
          (options.driverState i ≠ .ok ∨ options.notebookAlive = false) then .onInactive
      else options.firstMode :=
  if_neg (not_or.mpr ⟨hoverride, hheld⟩)

/-- What the tick asks for with neither an override nor an `ABSENT` tick before it. -/
theorem requested_mode_eq (hheld : options.heldState i ≠ .absent)
    (hoverride : ¬ options.driverOverride = true) {input : StepCInput}
    (hstate : input.driverState = options.driverState i)
    (halive : input.notebookInputAlive = options.notebookAlive)
    (hmode : input.previousLkasMode = options.heldMode i)
    (hevent : input.lkasSwitchEvent = options.heldEvent i) :
    StepC.requestedLkasMode input = options.nextMode i := by
  rw [next_mode_of_kept hheld hoverride]
  cases i with
  | zero =>
      simp only [heldMode, heldEvent] at hmode hevent
      unfold StepC.requestedLkasMode firstMode
      rw [hstate, halive, hmode, hevent]
      cases options.notebookAlive <;> simp
  | succ i =>
      have hearlier : options.heldState i ≠ .absent := fun habsent =>
        hheld (driver_state_of_held habsent)
      have hgrows : options.driverState i ≠ .ok → options.driverState (i + 1) ≠ .ok := by
        intro hlost hok
        have hle := @driver_state_succ options i
        rw [hok] at hle
        exact hlost (le_antisymm hle (DriverState.ok_le _))
      have hprevious : input.previousLkasMode = options.nextMode i := hmode
      rw [StepC.requested_lkas_mode_of_no_event hevent, hprevious, hstate, halive,
        next_mode_of_kept hearlier hoverride]
      by_cases hlost : options.driverState i ≠ .ok ∨ options.notebookAlive = false
      · have hnow := hlost.imp_left hgrows
        by_cases hactive : options.firstMode = .onActive <;> simp [hlost, hnow, hactive]
      · simp only [hlost, and_false, if_false]

/-- The mode of tick `i`. -/
theorem KeptState.next_mode_eq (h : options.KeptState i state) :
    (state.runtime.tick (state.tickInput options i)).1.stepC.nextLkasMode =
      options.nextMode i := by
  have houtput : (state.runtime.tick (state.tickInput options i)).1.stepB =
      options.stepBOutput i := h.store.step.1
  rw [PolicyRuntime.tick_next_lkas_mode,
    if_congr (or_congr h.overridden_iff h.counted_twice_iff) rfl rfl]
  by_cases hoff : options.driverOverride = true ∨ options.heldState i = .absent
  · rw [nextMode, if_pos hoff, if_pos]
    by_cases hgiven : options.driverOverride = true
    · exact .inl hgiven
    · exact .inr ⟨hoff.resolve_left hgiven, hgiven⟩
  · obtain ⟨hgiven, hheld⟩ := not_or.mp hoff
    rw [if_neg fun hdue => hoff (hdue.imp_right And.left)]
    refine requested_mode_eq hheld hgiven ?_ rfl h.mode_eq h.event_eq
    exact congrArg StepBOutput.nextState houtput

/-- An MRM tick has been counted after tick `i` exactly when the tick is one. -/
theorem KeptState.counted_step (h : options.KeptState i state) :
    0 < (state.runtime.tick
        (state.tickInput options i)).2.stepCLatchedState.mrmActivationCountRunCycle ↔
      options.driverState i = .absent ∧ ¬ options.driverOverride = true := by
  rw [PolicyRuntime.tick_count, ← h.mrm_active_iff]
  split
  · next hcounts => exact iff_of_true (Nat.succ_pos _) hcounts
  · next hcounts =>
      -- an earlier MRM tick would make this one an MRM tick too
      refine iff_of_false (fun hearlier => hcounts ?_) hcounts
      obtain ⟨hheld, hgiven⟩ := h.counted_iff.mp hearlier
      exact h.mrm_active_iff.mpr ⟨driver_state_of_held hheld, hgiven⟩

/-- A tick prints the line of its number and keeps what the loop has between the ticks. -/
theorem KeptState.step (h : options.KeptState i state) :
    (state.iterate options i).1 = options.line i ∧
      options.KeptState (i + 1) (state.iterate options i).2 := by
  obtain ⟨hstepB, hstore⟩ := h.store.step
  let tick := state.runtime.tick (state.tickInput options i)
  have houtput : tick.1.stepB = options.stepBOutput i := hstepB
  have hsound : tick.2.Sound := h.sound.tick _
  have hmode : tick.1.stepC.nextLkasMode = options.nextMode i := h.next_mode_eq
  have hlimit : tick.1.stepC.throttleLimit = (options.line i).throttleLimit := by
    have hscaled : tick.1.stepC.throttleLimit = _ := PolicyRuntime.tick_throttle_limit
    rw [hscaled, if_congr (or_congr_left h.overridden_iff) rfl rfl, houtput]
    rfl
  have hhmi : tick.1.stepC.hmiAction = (options.line i).hmiAction := by
    have haction : tick.1.stepC.hmiAction = _ := PolicyRuntime.tick_hmi_action
    rw [haction, if_congr h.overridden_iff rfl rfl, houtput]
    rfl
  have hactive : tick.1.stepC.mrmActive = (options.line i).mrmActive :=
    Bool.eq_iff_iff.mpr (h.mrm_active_iff.trans decide_eq_true_iff.symm)
  have hlocked : tick.1.stepC.nextLatchedState.driverOverrideLock =
      (options.line i).driverOverrideLock :=
    Bool.eq_iff_iff.mpr
      ((hsound.lock_iff.trans h.counted_twice_iff).trans decide_eq_true_iff.symm)
  refine ⟨?_, hsound, hstore, h.counted_step, hmode, rfl⟩
  show RunnerLine.mk i tick.1.stepB.nextState tick.1.stepB.reason
    tick.1.stepB.absentLatchedRunCycle tick.1.stepB.reengagementConfirmed200ms
    tick.1.stepC.hmiAction tick.1.stepC.nextLkasMode tick.1.stepC.throttleLimit
    tick.1.stepC.mrmActive tick.1.stepC.nextLatchedState.driverOverrideLock = _
  rw [houtput, hmode, hlimit, hhmi, hactive, hlocked]
  rfl

end RunnerOptions

/-- The lines of the program are those of the numbers of its ticks. -/
theorem runner_lines (options : RunnerOptions) :
    runnerLines options = (List.range options.ticks.toNat).map options.line :=
  (runner options).outputs_range options.KeptState options.line (fun _ _ h => h.step)
    RunnerOptions.kept_state_start options.ticks.toNat

/-- With the default options and two ticks the driver is warned and then escalated. -/
example : (runnerLines { ticks := 2 }).map RunnerLine.stepBNextState = [.warning, .escalation] := by
  decide +kernel

/-- Sixty ticks of 100 ms at standstill are just below the 6 s of `ESCALATION`. -/
example : (runnerLines { ticks := 60, deltaS := literal 0.1, jetracerInput04 := .num 0
    })[59]?.map RunnerLine.stepBNextState = some .warning := by
  decide +kernel

end DcasPolicyEngine
