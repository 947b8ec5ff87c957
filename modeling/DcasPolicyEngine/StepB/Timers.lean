import Mathlib.Algebra.Order.Ring.Rat
import Mathlib.Tactic.Linarith
import DcasPolicyEngine.Escalation.Monitor
import DcasPolicyEngine.StepB.Exits

/-!
# The timer exit of Step B

The last exit of `evaluate` advances the recovery timer of an attentive driver or the
inattention timer of an inattentive one. `evaluate_attentive` and `evaluate_inattentive` give
the output and the store. An inattentive driver's state is `escalate`d: it is the `level` of
the timer, the most severe state whose threshold the timer has reached, or the state held
when not even the first threshold is reached.
-/

namespace DcasPolicyEngine

open Rounding

/-! ## Levels -/

namespace Thresholds

/-- The inattention time from which a state applies. -/
def threshold (thresholds : Thresholds) : DriverState → ℚ
  | .ok => 0
  | .warning => thresholds.tWarnEffS
  | .escalation => thresholds.tEscEffS
  | .absent => thresholds.tAbsentEffS

/-- The most severe state whose threshold is reached. -/
def level (thresholds : Thresholds) (elapsed : ℚ) : DriverState :=
  if thresholds.tAbsentEffS ≤ elapsed then .absent
  else if thresholds.tEscEffS ≤ elapsed then .escalation
  else if thresholds.tWarnEffS ≤ elapsed then .warning
  else .ok

/-- The thresholds grow with the severity. -/
structure Ordered (thresholds : Thresholds) : Prop where
  warn_pos : 0 < thresholds.tWarnEffS
  warn_lt_esc : thresholds.tWarnEffS < thresholds.tEscEffS
  esc_lt_absent : thresholds.tEscEffS < thresholds.tAbsentEffS

variable {thresholds : Thresholds}

/-- A state is reached exactly when its threshold is. -/
theorem Ordered.le_level_iff (h : thresholds.Ordered) {elapsed : ℚ} (helapsed : 0 ≤ elapsed)
    (state : DriverState) :
    state ≤ thresholds.level elapsed ↔ thresholds.threshold state ≤ elapsed := by
  have hwarn := h.warn_lt_esc
  have hesc := h.esc_lt_absent
  unfold level
  split
  · next habsent =>
      refine iff_of_true state.le_absent ?_
      cases state <;> simp only [threshold] <;> linarith
  · split
    · cases state <;> simp only [threshold, DriverState.le_iff_severity, DriverState.severity]
      · simp [helapsed]
      · exact iff_of_true (by decide) (by linarith)
      · exact iff_of_true le_rfl ‹_›
      · exact iff_of_false (by decide) ‹_›
    · split
      · cases state <;> simp only [threshold, DriverState.le_iff_severity, DriverState.severity]
        · simp [helapsed]
        · exact iff_of_true le_rfl ‹_›
        · exact iff_of_false (by decide) ‹_›
        · exact iff_of_false (by decide) ‹_›
      · cases state <;> simp only [threshold, DriverState.le_iff_severity, DriverState.severity]
        · simp [helapsed]
        · exact iff_of_false (by decide) ‹_›
        · exact iff_of_false (by decide) ‹_›
        · exact iff_of_false (by decide) ‹_›

/-- Below the first threshold the level is `OK`. -/
theorem Ordered.level_eq_ok (h : thresholds.Ordered) {elapsed : ℚ}
    (hlt : elapsed < thresholds.tWarnEffS) : thresholds.level elapsed = .ok := by
  have hesc : elapsed < thresholds.tEscEffS := hlt.trans h.warn_lt_esc
  have habsent : elapsed < thresholds.tAbsentEffS := hesc.trans h.esc_lt_absent
  simp [level, hlt.not_ge, hesc.not_ge, habsent.not_ge]

/-- From the first threshold on the level is above `OK`. -/
theorem Ordered.level_ne_ok (h : thresholds.Ordered) {elapsed : ℚ}
    (hreached : thresholds.tWarnEffS ≤ elapsed) : thresholds.level elapsed ≠ .ok := by
  have hwarned : .warning ≤ thresholds.level elapsed :=
    (h.le_level_iff (h.warn_pos.le.trans hreached) .warning).mpr hreached
  intro hok
  rw [hok] at hwarned
  exact absurd hwarned (by decide)

/-- The level is `OK` exactly below the first threshold. -/
theorem Ordered.level_eq_ok_iff (h : thresholds.Ordered) (elapsed : ℚ) :
    thresholds.level elapsed = .ok ↔ elapsed < thresholds.tWarnEffS := by
  refine ⟨?_, h.level_eq_ok⟩
  intro hok
  by_contra hreached
  exact h.level_ne_ok (not_lt.mp hreached) hok

/-- The level is `ABSENT` exactly from the last threshold on. -/
theorem level_eq_absent_iff (thresholds : Thresholds) (elapsed : ℚ) :
    thresholds.level elapsed = .absent ↔ thresholds.tAbsentEffS ≤ elapsed := by
  unfold level
  split
  · next h => exact iff_of_true rfl h
  · next h =>
      refine iff_of_false ?_ h
      split
      · decide
      · split <;> decide

/-- The level grows with the time. -/
theorem Ordered.level_mono (h : thresholds.Ordered) {first second : ℚ} (hfirst : 0 ≤ first)
    (hle : first ≤ second) : thresholds.level first ≤ thresholds.level second := by
  have hreached := (h.le_level_iff hfirst (thresholds.level first)).mp le_rfl
  exact (h.le_level_iff (hfirst.trans hle) _).mpr (hreached.trans hle)

end Thresholds

/-- The thresholds of every speed band are ordered. -/
theorem schedule_ordered (band : SpeedBand) : (schedule band).Ordered :=
  ⟨schedule_warn_pos band, schedule_warn_lt_esc band, schedule_esc_lt_absent band⟩

/-- The state of an inattentive driver, from the state held and the inattention timer. -/
def escalate (thresholds : Thresholds) (held : DriverState) (elapsed : ℚ) : DriverState :=
  if thresholds.tWarnEffS ≤ elapsed then thresholds.level elapsed else held

/-- The state of an attentive driver, from the state held and the recovery timer. -/
def recover (held : DriverState) (elapsed : ℚ) : DriverState :=
  if held ≠ .ok ∧ 3 ≤ elapsed then .ok else held

/-- Escalation is the level of the timer or the state held. -/
theorem escalate_cases (thresholds : Thresholds) (held : DriverState) (elapsed : ℚ) :
    (thresholds.tWarnEffS ≤ elapsed ∧
        escalate thresholds held elapsed = thresholds.level elapsed) ∨
      (elapsed < thresholds.tWarnEffS ∧ escalate thresholds held elapsed = held) := by
  unfold escalate
  split
  · next h => exact .inl ⟨h, rfl⟩
  · next h => exact .inr ⟨not_le.mp h, rfl⟩

/-- Escalation from the level of an earlier time leads to the level of a later one exactly when
the timer has that level, or does not count yet and the level is still the same. -/
theorem escalate_level_eq_iff {thresholds : Thresholds} (h : thresholds.Ordered)
    {earlier later elapsed : ℚ} (hearlier : 0 ≤ earlier) (hle : earlier ≤ later) :
    escalate thresholds (thresholds.level earlier) elapsed = thresholds.level later ↔
      thresholds.level elapsed = thresholds.level later ∨
        elapsed < thresholds.tWarnEffS ∧ thresholds.level later = thresholds.level earlier := by
  rcases escalate_cases thresholds (thresholds.level earlier) elapsed with
    ⟨hreached, hlevel⟩ | ⟨hlow, hkept⟩
  · rw [hlevel]
    exact (or_iff_left fun hbelow => absurd hbelow.1 hreached.not_gt).symm
  · rw [hkept]
    constructor
    · intro hsame
      exact .inr ⟨hlow, hsame.symm⟩
    · intro hsame
      rcases hsame with hok | ⟨_, hsame⟩
      · -- below the first threshold both levels are `OK`
        have hgrows := h.level_mono hearlier hle
        rw [← hok, h.level_eq_ok hlow] at hgrows ⊢
        exact le_antisymm hgrows (DriverState.ok_le _)
      · exact hsame.symm

/-- Escalation reaches the level of a total time exactly when the timer does, or does not count yet
and the state held is enough. -/
theorem level_le_escalate_iff {thresholds : Thresholds} (h : thresholds.Ordered)
    (held : DriverState) (total elapsed : ℚ) :
    thresholds.level total ≤ escalate thresholds held elapsed ↔
      thresholds.level total ≤ thresholds.level elapsed ∨
        elapsed < thresholds.tWarnEffS ∧ thresholds.level total ≤ held := by
  rcases escalate_cases thresholds held elapsed with ⟨hreached, hlevel⟩ | ⟨hlow, hkept⟩
  · rw [hlevel]
    exact (or_iff_left fun hbelow => absurd hbelow.1 hreached.not_gt).symm
  · rw [hkept]
    constructor
    · intro hheld
      exact .inr ⟨hlow, hheld⟩
    · rintro (hok | ⟨_, hheld⟩)
      · rw [h.level_eq_ok hlow] at hok
        exact hok.trans held.ok_le
      · exact hheld

/-- Ordered thresholds as a ladder. -/
def Thresholds.Ordered.ladder {thresholds : Thresholds} (h : thresholds.Ordered) :
    Escalation.Ladder DriverState ℚ≥0 where
  threshold state := (thresholds.threshold state).toNNRat
  level elapsed := thresholds.level elapsed
  gc := by
    intro state elapsed
    rw [Rat.toNNRat_le_iff_le_coe]
    exact (h.le_level_iff elapsed.coe_nonneg state).symm

/-- Escalation climbs the ladder of the thresholds. -/
theorem escalate_eq_climb {thresholds : Thresholds} (h : thresholds.Ordered) (held : DriverState)
    {elapsed : ℚ} (helapsed : 0 ≤ elapsed) :
    escalate thresholds held elapsed = h.ladder.climb held elapsed.toNNRat := by
  have hladder : h.ladder.level elapsed.toNNRat = thresholds.level elapsed :=
    congrArg thresholds.level (Rat.coe_toNNRat elapsed helapsed)
  unfold Escalation.Ladder.climb
  rw [hladder]
  rcases escalate_cases thresholds held elapsed with ⟨hreached, hlevel⟩ | ⟨hlow, hkept⟩
  · rw [hlevel]
    exact (if_neg (h.level_ne_ok hreached)).symm
  · rw [hkept]
    exact (if_pos (h.level_eq_ok hlow)).symm

/-- Escalation reaches every state whose threshold is reached. -/
theorem le_escalate {thresholds : Thresholds} (h : thresholds.Ordered) {elapsed : ℚ}
    (helapsed : 0 ≤ elapsed) {state : DriverState} (hreached : thresholds.threshold state ≤ elapsed)
    (held : DriverState) : state ≤ escalate thresholds held elapsed := by
  rw [escalate_eq_climb h held helapsed]
  exact h.ladder.le_climb (NNRat.toNNRat_mono hreached) held

/-- The if-chain of the source is escalation for an inattentive driver. -/
theorem next_state_from_timers_inattentive {thresholds : Thresholds} (h : thresholds.Ordered)
    (state : StepBStateStore) :
    nextStateFromTimers false thresholds state =
      escalate thresholds state.currentState state.inattentiveElapsedS := by
  have hwarn := h.warn_lt_esc
  have hesc := h.esc_lt_absent
  simp only [nextStateFromTimers, escalate, Thresholds.level, ge_iff_le, Bool.false_eq_true,
    if_false]
  by_cases hw : thresholds.tWarnEffS ≤ state.inattentiveElapsedS
  · simp [hw]
  · -- the source tests the highest threshold first: below the lowest one all tests fail
    have he : ¬ thresholds.tEscEffS ≤ state.inattentiveElapsedS := by
      intro h
      linarith
    have ha : ¬ thresholds.tAbsentEffS ≤ state.inattentiveElapsedS := by
      intro h
      linarith
    simp [hw, he, ha]

/-- The hold test of the source is recovery for an attentive driver. -/
theorem next_state_from_timers_attentive {thresholds : Thresholds}
    (h : thresholds.tRecoverHoldS = 3) (state : StepBStateStore) :
    nextStateFromTimers true thresholds state =
      recover state.currentState state.recoverElapsedS := by
  unfold nextStateFromTimers recover
  simp only [if_true, h, ge_iff_le]

/-! ## The two timer exits -/

variable [Rounding]

theorem StepBInput.thresholds_ordered (input : StepBInput) : input.thresholds.Ordered :=
  schedule_ordered _

/-- The recovery timer after an attentive tick. -/
def recoverAfter (store : StateTimerStore) (input : StepBInput) : ℚ :=
  add store.recoverElapsedS (max 0 input.deltaS)

/-- The inattention timer after an inattentive tick. -/
def inattentiveAfter (store : StateTimerStore) (input : StepBInput) : ℚ :=
  add store.inattentiveElapsedS (max 0 input.deltaS)

variable {input : StepBInput} {store : StateTimerStore}

/-- `evaluateTimers` on a store without the latch, in terms of the store with the timer
advanced. -/
theorem evaluate_timers_eq (snapshot : NormalizedSnapshot) (thresholds : Thresholds)
    (advanced : StepBStateStore) (hlatch : advanced.absentLatchedRunCycle = false)
    (hadvanced : advanced =
      if !snapshot.isAttentive then store.advanceInattentive input.deltaS
      else store.advanceRecover input.deltaS) :
    evaluateTimers input snapshot thresholds store =
      let next := nextStateFromTimers snapshot.isAttentive thresholds advanced
      ({ nextState := next
         reason :=
           if next = .ok ∨ (snapshot.isAttentive = true ∧
             thresholds.tRecoverHoldS ≤ advanced.recoverElapsedS) then .none
           else advanced.latestReason
         absentLatchedRunCycle := next = .absent
         inputSnapshotTsMs := snapshot.inputSnapshotTsMs
         reengagementConfirmed200ms :=
           next ≠ .ok ∧ snapshot.isAttentive = true ∧ literal 0.2 ≤ advanced.recoverElapsedS },
       { advanced with currentState := next, absentLatchedRunCycle := next = .absent }) := by
  unfold evaluateTimers
  rw [← hadvanced]
  by_cases hnext : nextStateFromTimers snapshot.isAttentive thresholds advanced = .absent
  · simp [StateTimerStore.get, StateTimerStore.replace, hnext]
  · simp [StateTimerStore.get, StateTimerStore.replace, hnext, hlatch]

/-- An attentive driver recovers: the recovery timer grows and the inattention timer is reset. -/
theorem evaluate_attentive (hlatch : store.absentLatchedRunCycle = false)
    (hblocked : input.perception.cameraBlocked = false)
    (hcritical : isCriticalReason (acceptReason store input.perception).latestReason = false)
    (hattentive : input.perception.isAttentive = true) :
    evaluate input store =
      let elapsed := recoverAfter store input
      let next := recover store.currentState elapsed
      ({ nextState := next
         reason :=
           if next = .ok ∨ 3 ≤ elapsed then .none
           else (acceptReason store input.perception).latestReason
         absentLatchedRunCycle := next = .absent
         inputSnapshotTsMs := input.perception.isAttentiveTsMs
         reengagementConfirmed200ms := next ≠ .ok ∧ literal 0.2 ≤ elapsed },
       { acceptReason store input.perception with
         currentState := next
         inattentiveElapsedS := 0
         recoverElapsedS := elapsed
         absentLatchedRunCycle := next = .absent }) := by
  have hrecover : input.thresholds.tRecoverHoldS = 3 := schedule_recover _
  rw [evaluate_timers hlatch hblocked hcritical,
    evaluate_timers_eq _ _
      (StateTimerStore.advanceRecover (acceptReason store input.perception) input.deltaS)
      (by simpa [StateTimerStore.advanceRecover] using hlatch)
      (by simp [normalize, hattentive])]
  unfold recoverAfter
  simp [normalize, hattentive, next_state_from_timers_attentive hrecover, hrecover,
    StateTimerStore.advanceRecover]

/-- An inattentive driver escalates: the inattention timer grows and the recovery timer is
reset. -/
theorem evaluate_inattentive (hlatch : store.absentLatchedRunCycle = false)
    (hblocked : input.perception.cameraBlocked = false)
    (hcritical : isCriticalReason (acceptReason store input.perception).latestReason = false)
    (hattentive : input.perception.isAttentive = false) :
    evaluate input store =
      let elapsed := inattentiveAfter store input
      let next := escalate input.thresholds store.currentState elapsed
      ({ nextState := next
         reason :=
           if next = .ok then .none else (acceptReason store input.perception).latestReason
         absentLatchedRunCycle := next = .absent
         inputSnapshotTsMs := input.perception.isAttentiveTsMs
         reengagementConfirmed200ms := false },
       { acceptReason store input.perception with
         currentState := next
         inattentiveElapsedS := elapsed
         recoverElapsedS := 0
         absentLatchedRunCycle := next = .absent }) := by
  rw [evaluate_timers hlatch hblocked hcritical,
    evaluate_timers_eq _ _
      (StateTimerStore.advanceInattentive (acceptReason store input.perception) input.deltaS)
      (by simpa [StateTimerStore.advanceInattentive] using hlatch)
      (by simp [normalize, hattentive])]
  unfold inattentiveAfter
  simp [normalize, hattentive, next_state_from_timers_inattentive input.thresholds_ordered,
    StateTimerStore.advanceInattentive]

/-- What an evaluation does with an inattentive driver and an open camera: it leaves the latch on,
or it reads the state off the timer. -/
theorem evaluate_inattentive_cases (store : StateTimerStore)
    (hattentive : input.perception.isAttentive = false)
    (hopen : input.perception.cameraBlocked = false) :
    ((evaluate input store).2.absentLatchedRunCycle = true ∧
        (evaluate input store).2.currentState = .absent) ∨
      (store.absentLatchedRunCycle = false ∧
        (evaluate input store).2.currentState =
          escalate input.thresholds store.currentState (inattentiveAfter store input) ∧
        (evaluate input store).2.inattentiveElapsedS = inattentiveAfter store input) := by
  cases exits input store with
  | latched hlatch => exact .inl (by simp [evaluate_latched hlatch, hlatch])
  | camera hlatch hbelow => exact absurd hbelow (not_blocked_below_absent hopen)
  | critical hlatch hbelow hcritical =>
      exact .inl (by simp [evaluate_critical hlatch hbelow hcritical])
  | timers hlatch hblocked hnone =>
      rw [evaluate_inattentive hlatch hblocked hnone hattentive]
      exact .inr ⟨hlatch, rfl, rfl⟩

end DcasPolicyEngine
