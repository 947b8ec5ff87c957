import DcasPolicyEngine.Runtime.Invariants

/-!
# A covered camera

Covering the camera must not relax the policy. The camera exit of Step B writes `WARNING` over
whatever state was held, so it relaxes `ESCALATION` and nothing else.
-/

namespace DcasPolicyEngine

namespace PolicyRuntime

variable {self : PolicyRuntime} {input : RuntimeTickInput}

/-- The throttle limit that Step C would grant on this tick in a given driver state. -/
def limitIn (self : PolicyRuntime) (input : RuntimeTickInput) (state : DriverState) : Double :=
  (StepC.evaluate { self.stepCInput input.stepC (self.tick input).1.stepB with
    driverState := state }).throttleLimit

/-- A tick does not relax the policy: the state is at least `WARNING` and not below the one held,
and the throttle limit is not above what the held state would get. -/
structure NotRelaxed (rt : PolicyRuntime) (input : RuntimeTickInput) : Prop where
  held_le : rt.held ≤ (rt.tick input).1.stepB.nextState
  warning_le : .warning ≤ (rt.tick input).1.stepB.nextState
  throttleLimit_le : (rt.tick input).1.stepC.throttleLimit ≤ rt.limitIn input rt.held

/-- The throttle limit is the one of the next state. -/
theorem throttle_limit_eq_limit_in (self : PolicyRuntime) (input : RuntimeTickInput) :
    (self.tick input).1.stepC.throttleLimit =
      self.limitIn input (self.tick input).1.stepB.nextState := rfl

/-- A state that is not lowered does not get more throttle. -/
theorem throttle_limit_le_limit_in {state : DriverState}
    (h : state ≤ (self.tick input).1.stepB.nextState) :
    (self.tick input).1.stepC.throttleLimit ≤ self.limitIn input state := by
  rw [throttle_limit_eq_limit_in]
  exact StepC.throttle_limit_antitone h _

/-- On a tick with the camera blocked the state is `WARNING` through the camera exit, and
otherwise `ABSENT`. -/
theorem next_state_of_blocked (hblocked : input.stepB.perception.cameraBlocked = true) :
    (self.tick input).1.stepB.nextState =
      if CameraExit self.stepBStateStore input.stepB then .warning else .absent := by
  cases hlatch : self.stepBStateStore.absentLatchedRunCycle with
  | true =>
      have hexit : ¬ CameraExit self.stepBStateStore input.stepB := fun hexit => by
        simp [hexit.1] at hlatch
      rw [if_neg hexit]
      exact (evaluate_of_latched hlatch input.stepB).1
  | false =>
      have hnext : (self.tick input).1.stepB.nextState = _ :=
        congrArg Prod.fst (evaluate_blocked hlatch hblocked)
      rw [hnext]
      by_cases hshort : blockedElapsedS input.stepB.perception <
          input.stepB.thresholds.tAbsentEffS
      · rw [if_pos hshort, if_pos ⟨hlatch, hblocked, hshort⟩]
      · rw [if_neg hshort, if_neg fun hexit => hshort hexit.2.2]

/-- With the camera blocked the state is kept or raised, unless it is `ESCALATION` and the tick
leaves through the camera exit. -/
theorem held_le_of_blocked (h : self.Sound)
    (hblocked : input.stepB.perception.cameraBlocked = true)
    (hkept : ¬ (self.held = .escalation ∧
      blockedElapsedS input.stepB.perception < input.stepB.thresholds.tAbsentEffS)) :
    self.held ≤ (self.tick input).1.stepB.nextState := by
  rw [next_state_of_blocked hblocked]
  split
  · next hexit =>
      obtain ⟨hlatch, hbelow⟩ := hexit
      -- the exit returns `WARNING`, which only the held `ESCALATION` exceeds
      cases hheld : self.held with
      | ok => exact DriverState.ok_le .warning
      | warning => exact le_rfl
      | escalation => exact absurd ⟨hheld, hbelow.2⟩ hkept
      | absent => exact absurd hheld (h.held_ne_absent hlatch)
  · exact self.held.le_absent

/-- A tick with the camera blocked does not relax the policy exactly when it does not meet the
held state `ESCALATION` with a camera blocked for less than `T_absent`. -/
theorem camera_not_relaxed_iff (h : self.Reachable)
    (hblocked : input.stepB.perception.cameraBlocked = true) :
    self.NotRelaxed input ↔
      ¬ (self.held = .escalation ∧
        blockedElapsedS input.stepB.perception < input.stepB.thresholds.tAbsentEffS) := by
  constructor
  · intro hrelaxed hexit
    obtain ⟨hescalation, hbelow⟩ := hexit
    have hlatch : self.stepBStateStore.absentLatchedRunCycle = false := by
      by_contra hlatched
      have habsent : self.held = .absent := h.sound.store.latch_iff.mpr (by simpa using hlatched)
      rw [hescalation] at habsent
      cases habsent
    have hle := hrelaxed.held_le
    rw [next_state_of_blocked hblocked, if_pos ⟨hlatch, hblocked, hbelow⟩, hescalation] at hle
    exact absurd hle (by decide)
  · intro hkept
    have hle := held_le_of_blocked h.sound hblocked hkept
    refine ⟨hle, ?_, throttle_limit_le_limit_in hle⟩
    rw [next_state_of_blocked hblocked]
    split
    · exact le_rfl
    · exact DriverState.le_absent .warning

/-- A tick that takes `deltaS` seconds, asks for the whole throttle and sees an inattentive
driver or a covered camera. -/
def inattentiveOrCovered (deltaS : ℚ) (cameraBlocked : Bool) : RuntimeTickInput :=
  { stepB :=
      { perception := { isAttentive := cameraBlocked, cameraBlocked := cameraBlocked }
        deltaS := deltaS }
    stepC := { lkasThrottle := .num 1 } }

/-- Covering the camera in the state `WARNING` does not relax the policy. -/
theorem camera_not_relaxed_warning :
    ((PolicyRuntime.new 1).tick (inattentiveOrCovered 3 false)).2.NotRelaxed
      (inattentiveOrCovered (literal 0.02) true) :=
  (camera_not_relaxed_iff ((Reachable.new 1).tick _) rfl).mpr (by decide +kernel)

/-- Covering the camera in the state `ESCALATION` gives `WARNING` and three times the
throttle. -/
theorem camera_relaxes_escalation :
    ((PolicyRuntime.new 1).tick (inattentiveOrCovered 6 false)).2.held = .escalation ∧
      (((PolicyRuntime.new 1).tick (inattentiveOrCovered 6 false)).2.tick
        (inattentiveOrCovered (literal 0.02) true)).1.stepB.nextState = .warning ∧
      (((PolicyRuntime.new 1).tick (inattentiveOrCovered 6 false)).2.tick
        (inattentiveOrCovered (literal 0.02) true)).1.stepC.throttleLimit = .num 0.6 ∧
      ((PolicyRuntime.new 1).tick (inattentiveOrCovered 6 false)).2.limitIn
        (inattentiveOrCovered (literal 0.02) true) .escalation = .num 0.2 := by
  decide +kernel

end PolicyRuntime

end DcasPolicyEngine
