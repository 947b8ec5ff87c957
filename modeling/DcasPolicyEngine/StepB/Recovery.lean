import DcasPolicyEngine.StepB.Invariants

/-!
# Recovery in Step B

The recovery timer is compared with two bounds: `T_recover_hold`, from which a warned driver is
`OK` again, and 200 ms, from which re-engagement is confirmed. The lemmas say what an evaluation
that advances the timer decides, and that no other evaluation decides either.
-/

namespace DcasPolicyEngine

/-! ## Recovery and escalation -/

/-- A recovery evaluation leaves a state above `OK` exactly at `T_recover_hold`. -/
theorem recover_eq_ok_iff {held : DriverState} (hheld : held ≠ .ok) (elapsed : ℚ) :
    recover held elapsed = .ok ↔ 3 ≤ elapsed := by
  unfold recover
  split
  · next hrecovered => exact iff_of_true rfl hrecovered.2
  · next hkept => exact iff_of_false hheld fun hreached => hkept ⟨hheld, hreached⟩

/-- `OK` is kept by a recovery evaluation. -/
@[simp] theorem recover_ok (elapsed : ℚ) : recover .ok elapsed = .ok := by
  simp [recover]

/-- Below `T_recover_hold` the state is held. -/
theorem recover_eq_held {elapsed : ℚ} (h : elapsed < 3) (held : DriverState) :
    recover held elapsed = held := by
  simp [recover, h.not_ge]

/-- A recovery from a state that is enough for a total time leads below it exactly when the recovery
timer reaches `T_recover_hold` and the total time the first threshold. -/
theorem level_le_recover_iff {thresholds : Thresholds} (h : thresholds.Ordered)
    {held : DriverState} {total : ℚ} (hheld : thresholds.level total ≤ held) (elapsed : ℚ) :
    thresholds.level total ≤ recover held elapsed ↔
      elapsed < 3 ∨ total < thresholds.tWarnEffS := by
  by_cases hbelow : elapsed < 3
  · rw [recover_eq_held hbelow]
    exact iff_of_true hheld (.inl hbelow)
  · rw [or_iff_right hbelow, ← h.level_eq_ok_iff]
    by_cases hok : held = .ok
    · rw [hok, recover_ok]
      exact ⟨fun hle => le_antisymm hle (DriverState.ok_le _), le_of_eq⟩
    · rw [(recover_eq_ok_iff hok elapsed).mpr (not_lt.mp hbelow)]
      exact ⟨fun hle => le_antisymm hle (DriverState.ok_le _), le_of_eq⟩

/-- Escalation does not lead to `OK` from above. -/
theorem escalate_ne_ok {thresholds : Thresholds} (h : thresholds.Ordered) {held : DriverState}
    (hheld : held ≠ .ok) (elapsed : ℚ) : escalate thresholds held elapsed ≠ .ok := by
  rcases escalate_cases thresholds held elapsed with ⟨hreached, hlevel⟩ | ⟨_, hkept⟩
  · rw [hlevel]
    exact h.level_ne_ok hreached
  · rw [hkept]
    exact hheld

/-! ## Evaluations that recover -/

variable [Rounding]

/-- The evaluation advances the recovery timer: the latch is off, the camera is open, no critical
reason is stored or taken up, and the driver is attentive. -/
structure Recovers (store : StateTimerStore) (input : StepBInput) : Prop where
  unlatched : store.absentLatchedRunCycle = false
  camera_open : input.perception.cameraBlocked = false
  no_critical_reason : NoCriticalReason store input
  attentive : input.perception.isAttentive = true

variable {store : StateTimerStore} {input : StepBInput}

/-- The output of an evaluation that advances the recovery timer. -/
theorem Recovers.evaluate_eq (h : Recovers store input) :
    (evaluate input store).1.nextState =
        recover store.currentState (recoverAfter store input) ∧
      ((evaluate input store).1.reengagementConfirmed200ms = true ↔
        recover store.currentState (recoverAfter store input) ≠ .ok ∧
          literal 0.2 ≤ recoverAfter store input) := by
  rw [evaluate_attentive h.unlatched h.camera_open h.no_critical_reason h.attentive]
  simp

/-- An evaluation that does not advance the recovery timer neither leaves a state above `OK`
for `OK` nor confirms re-engagement. -/
theorem not_recovers (h : ¬ Recovers store input) :
    (store.currentState ≠ .ok → (evaluate input store).1.nextState ≠ .ok) ∧
      (evaluate input store).1.reengagementConfirmed200ms = false := by
  cases exits input store with
  | latched hlatch => simp [evaluate_latched hlatch]
  | camera hlatch hbelow => simp [evaluate_camera hlatch hbelow]
  | critical hlatch hbelow hcritical => simp [evaluate_critical hlatch hbelow hcritical]
  | timers hlatch hblocked hcritical =>
      cases hattentive : input.perception.isAttentive with
      | true => exact absurd ⟨hlatch, hblocked, hcritical, hattentive⟩ h
      | false =>
          rw [evaluate_inattentive hlatch hblocked hcritical hattentive]
          exact ⟨fun hheld => escalate_ne_ok input.thresholds_ordered hheld _, rfl⟩

/-- From a state above `OK`, the next state is `OK` exactly when the recovery timer advances to
`T_recover_hold`. -/
theorem next_state_eq_ok_iff (hheld : store.currentState ≠ .ok) :
    (evaluate input store).1.nextState = .ok ↔
      Recovers store input ∧ 3 ≤ recoverAfter store input := by
  by_cases h : Recovers store input
  · rw [h.evaluate_eq.1, recover_eq_ok_iff hheld]
    exact (and_iff_right h).symm
  · exact iff_of_false ((not_recovers h).1 hheld) fun hrecovers => h hrecovers.1

/-- Re-engagement is confirmed exactly when the recovery timer of a state above `OK` advances to
between 200 ms and `T_recover_hold`. -/
theorem reengagement_confirmed_iff :
    (evaluate input store).1.reengagementConfirmed200ms = true ↔
      Recovers store input ∧ store.currentState ≠ .ok ∧ literal 0.2 ≤ recoverAfter store input ∧
        recoverAfter store input < 3 := by
  by_cases h : Recovers store input
  · rw [h.evaluate_eq.2]
    by_cases hheld : store.currentState = .ok
    · simp [hheld]
    · rw [ne_eq, recover_eq_ok_iff hheld, not_le]
      exact ⟨fun ⟨hbelow, hreached⟩ => ⟨h, hheld, hreached, hbelow⟩,
        fun ⟨_, _, hreached, hbelow⟩ => ⟨hbelow, hreached⟩⟩
  · rw [(not_recovers h).2]
    exact iff_of_false Bool.false_ne_true fun hrecovers => h hrecovers.1

end DcasPolicyEngine
