import DcasPolicyEngine.StepB.Engine

/-!
# The exits of Step B

`evaluate` returns in four places: with the latch on, with a camera that has been blocked for
less than `T_absent`, with a critical reason, and after advancing a timer. `exits` says that
every input leaves through one of them, and the `evaluate_*` lemmas give the output and the
store of each. The rest of the development reasons about Step B through these lemmas.
-/

namespace DcasPolicyEngine

/-! ## Thresholds -/

@[simp] theorem schedule_recover (band : SpeedBand) : (schedule band).tRecoverHoldS = 3 := by
  cases band <;> rfl

theorem schedule_warn_pos (band : SpeedBand) : 0 < (schedule band).tWarnEffS := by
  cases band <;> decide +kernel

theorem schedule_warn_lt_esc (band : SpeedBand) :
    (schedule band).tWarnEffS < (schedule band).tEscEffS := by
  cases band <;> decide +kernel

theorem schedule_esc_lt_absent (band : SpeedBand) :
    (schedule band).tEscEffS < (schedule band).tAbsentEffS := by
  cases band <;> decide +kernel

/-! ## The reason register -/

/-- Step B stores the reported reason: it is neither `NONE` nor `BLOCKED_CAMERA` and not older
than the stored one. -/
def AcceptsReason (store : StateTimerStore) (perception : PerceptionInput) : Prop :=
  perception.reason ≠ .none ∧ perception.reason ≠ .blockedCamera ∧
    perception.reasonTsMs ≥ store.latestReasonTsMs

instance (store : StateTimerStore) (perception : PerceptionInput) :
    Decidable (AcceptsReason store perception) :=
  inferInstanceAs (Decidable (_ ∧ _ ∧ _))

/-- The store after the reason update at the top of `evaluate`. -/
def acceptReason (store : StateTimerStore) (perception : PerceptionInput) : StateTimerStore :=
  if AcceptsReason store perception then
    { store with
      latestReason := perception.reason
      latestReasonTsMs := perception.reasonTsMs }
  else store

section AcceptReason

variable (store : StateTimerStore) (perception : PerceptionInput)

@[simp] theorem accept_reason_current_state :
    (acceptReason store perception).currentState = store.currentState := by
  unfold acceptReason
  split <;> rfl

@[simp] theorem accept_reason_inattentive_elapsed_s :
    (acceptReason store perception).inattentiveElapsedS = store.inattentiveElapsedS := by
  unfold acceptReason
  split <;> rfl

@[simp] theorem accept_reason_recover_elapsed_s :
    (acceptReason store perception).recoverElapsedS = store.recoverElapsedS := by
  unfold acceptReason
  split <;> rfl

@[simp] theorem accept_reason_absent_latched_run_cycle :
    (acceptReason store perception).absentLatchedRunCycle = store.absentLatchedRunCycle := by
  unfold acceptReason
  split <;> rfl

theorem accept_reason_latest_reason (h : AcceptsReason store perception) :
    (acceptReason store perception).latestReason = perception.reason := by
  simp [acceptReason, h]

end AcceptReason

/-- No critical reason is stored or taken up. -/
def NoCriticalReason (store : StateTimerStore) (input : StepBInput) : Prop :=
  isCriticalReason (acceptReason store input.perception).latestReason = false

instance (store : StateTimerStore) (input : StepBInput) :
    Decidable (NoCriticalReason store input) :=
  inferInstanceAs (Decidable (_ = _))

/-! ## The exits -/

variable [Rounding]

/-- The thresholds that apply to an input. -/
def StepBInput.thresholds (input : StepBInput) : Thresholds :=
  schedule (estimate input.jetracerInput04)

/-- The camera is blocked, and has been for less than `T_absent` of the speed band. -/
def BlockedBelowAbsent (input : StepBInput) : Prop :=
  input.perception.cameraBlocked = true ∧
    blockedElapsedS input.perception < input.thresholds.tAbsentEffS

instance (input : StepBInput) : Decidable (BlockedBelowAbsent input) :=
  inferInstanceAs (Decidable (_ ∧ _))

/-- An open camera is not blocked. -/
theorem not_blocked_below_absent {input : StepBInput}
    (hopen : input.perception.cameraBlocked = false) : ¬ BlockedBelowAbsent input := by
  intro hbelow
  rw [hbelow.1] at hopen
  cases hopen

/-- The evaluation leaves through the camera exit: the latch is off and the camera has been
blocked for less than `T_absent`. -/
def CameraExit (store : StateTimerStore) (input : StepBInput) : Prop :=
  store.absentLatchedRunCycle = false ∧ BlockedBelowAbsent input

instance (store : StateTimerStore) (input : StepBInput) : Decidable (CameraExit store input) :=
  inferInstanceAs (Decidable (_ ∧ _))

/-- The place where `evaluate` returns. -/
inductive Exits (input : StepBInput) (store : StateTimerStore) : Prop
  | latched (hlatch : store.absentLatchedRunCycle = true)
  | camera (hlatch : store.absentLatchedRunCycle = false) (hbelow : BlockedBelowAbsent input)
  | critical (hlatch : store.absentLatchedRunCycle = false)
      (hbelow : ¬ BlockedBelowAbsent input)
      (hcritical : input.perception.cameraBlocked = true ∨
        isCriticalReason (acceptReason store input.perception).latestReason = true)
  | timers (hlatch : store.absentLatchedRunCycle = false)
      (hblocked : input.perception.cameraBlocked = false)
      (hcritical : isCriticalReason (acceptReason store input.perception).latestReason = false)

/-- Every input leaves through one of the four exits. -/
theorem exits (input : StepBInput) (store : StateTimerStore) : Exits input store := by
  cases hlatch : store.absentLatchedRunCycle with
  | true => exact .latched hlatch
  | false =>
      by_cases hbelow : BlockedBelowAbsent input
      · exact .camera hlatch hbelow
      · cases hblocked : input.perception.cameraBlocked with
        | true => exact .critical hlatch hbelow (.inl hblocked)
        | false =>
            cases hcritical :
                isCriticalReason (acceptReason store input.perception).latestReason with
            | true => exact .critical hlatch hbelow (.inr hcritical)
            | false => exact .timers hlatch hblocked hcritical

/-- `evaluate` with the reason update named. -/
theorem evaluate_eq (input : StepBInput) (store : StateTimerStore) :
    evaluate input store =
      let state := acceptReason store input.perception
      if state.absentLatchedRunCycle then
        ({ nextState := .absent
           reason := state.latestReason
           absentLatchedRunCycle := true
           inputSnapshotTsMs := input.perception.isAttentiveTsMs },
         { state with currentState := .absent })
      else if input.perception.cameraBlocked then
        if blockedElapsedS input.perception ≥ input.thresholds.tAbsentEffS then
          evaluateCritical input (normalize input.perception) input.thresholds
            { state with latestReason := .blockedCamera }
            { state with latestReason := .blockedCamera }
        else
          ({ nextState := .warning
             reason := .blockedCamera
             inputSnapshotTsMs := input.perception.isAttentiveTsMs },
           { state with currentState := .warning })
      else
        evaluateCritical input (normalize input.perception) input.thresholds state state := rfl

variable {input : StepBInput} {store : StateTimerStore}

/-- With the latch on, the state is `ABSENT` again and only the reason can change. -/
theorem evaluate_latched (hlatch : store.absentLatchedRunCycle = true) :
    evaluate input store =
      ({ nextState := .absent
         reason := (acceptReason store input.perception).latestReason
         absentLatchedRunCycle := true
         inputSnapshotTsMs := input.perception.isAttentiveTsMs },
       { acceptReason store input.perception with currentState := .absent }) := by
  simp [evaluate_eq, hlatch]

/-- A camera blocked for less than `T_absent` gives `WARNING`, whatever the state was. -/
theorem evaluate_camera (hlatch : store.absentLatchedRunCycle = false)
    (hbelow : BlockedBelowAbsent input) :
    evaluate input store =
      ({ nextState := .warning
         reason := .blockedCamera
         inputSnapshotTsMs := input.perception.isAttentiveTsMs },
       { acceptReason store input.perception with currentState := .warning }) := by
  simp [evaluate_eq, hlatch, hbelow.1, hbelow.2]

/-- The reason that the critical exit reports and stores. -/
def criticalReason (input : StepBInput) (store : StateTimerStore) : Reason :=
  if input.perception.cameraBlocked then .blockedCamera
  else (acceptReason store input.perception).latestReason

/-- A critical reason, or a camera blocked for `T_absent`, latches `ABSENT`. -/
theorem evaluate_critical (hlatch : store.absentLatchedRunCycle = false)
    (hbelow : ¬ BlockedBelowAbsent input)
    (hcritical : input.perception.cameraBlocked = true ∨
      isCriticalReason (acceptReason store input.perception).latestReason = true) :
    evaluate input store =
      ({ nextState := .absent
         reason := criticalReason input store
         absentLatchedRunCycle := true
         inputSnapshotTsMs := input.perception.isAttentiveTsMs },
       { acceptReason store input.perception with
         latestReason := criticalReason input store
         absentLatchedRunCycle := true
         currentState := .absent }) := by
  cases hblocked : input.perception.cameraBlocked with
  | true =>
      -- `BLOCKED_CAMERA` replaces the stored reason before the critical test
      have helapsed : blockedElapsedS input.perception ≥ input.thresholds.tAbsentEffS :=
        not_lt.mp fun h => hbelow ⟨hblocked, h⟩
      simp [evaluate_eq, hlatch, hblocked, helapsed, evaluateCritical, isCriticalReason,
        StateTimerStore.latchAbsentRunCycle, StateTimerStore.get, criticalReason, normalize]
  | false =>
      have hreason := hcritical.resolve_left (by simp [hblocked])
      simp [evaluate_eq, hlatch, hblocked, hreason, evaluateCritical,
        StateTimerStore.latchAbsentRunCycle, StateTimerStore.get, criticalReason, normalize]

/-- With the latch off and the camera blocked, the time of the block alone decides between
`WARNING` and latched `ABSENT`. -/
theorem evaluate_blocked (hlatch : store.absentLatchedRunCycle = false)
    (hblocked : input.perception.cameraBlocked = true) :
    ((evaluate input store).1.nextState, (evaluate input store).1.absentLatchedRunCycle) =
      if blockedElapsedS input.perception < input.thresholds.tAbsentEffS then (.warning, false)
      else (.absent, true) := by
  by_cases helapsed : blockedElapsedS input.perception < input.thresholds.tAbsentEffS
  · rw [if_pos helapsed, evaluate_camera hlatch ⟨hblocked, helapsed⟩]
  · rw [if_neg helapsed,
      evaluate_critical hlatch (fun hbelow => helapsed hbelow.2) (.inl hblocked)]

/-- Otherwise the state is read off the timers. -/
theorem evaluate_timers (hlatch : store.absentLatchedRunCycle = false)
    (hblocked : input.perception.cameraBlocked = false)
    (hcritical : isCriticalReason (acceptReason store input.perception).latestReason = false) :
    evaluate input store =
      evaluateTimers input (normalize input.perception) input.thresholds
        (acceptReason store input.perception) := by
  simp [evaluate_eq, hlatch, hblocked, hcritical, evaluateCritical]

end DcasPolicyEngine
