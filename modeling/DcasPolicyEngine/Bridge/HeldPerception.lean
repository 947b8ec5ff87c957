import DcasPolicyEngine.Bridge.Loop

/-!
# The perception that the bridge holds

The loop keeps the last perception that it has read and ticks on it. `ReadsPerception` says when an
iteration gets to the read, and the lemmas say what it holds and ticks on then.
-/

namespace DcasPolicyEngine

/-- The three variables of the loop of the bridge that hold the perception. -/
structure HeldPerception where
  isAttentive : Bool := true
  reason : Reason := .none
  cameraBlocked : Bool := false
  deriving DecidableEq

/-- The perception of the loop. -/
def BridgeState.perception (self : BridgeState) : HeldPerception :=
  { isAttentive := self.tickIsAttentive
    reason := self.tickReason
    cameraBlocked := self.tickCameraBlocked }

/-- The casts of a sample to the variables of the loop. -/
def PerceptionToDcasSample.perception (sample : PerceptionToDcasSample) : HeldPerception :=
  { isAttentive := sample.isAttentive ≠ 0
    reason := .ofCode sample.reason
    cameraBlocked := sample.cameraBlocked ≠ 0 }

/-- The perception that a tick is given. -/
def RuntimeTickInput.perception (tick : RuntimeTickInput) : HeldPerception :=
  { isAttentive := tick.stepB.perception.isAttentive
    reason := tick.stepB.perception.reason
    cameraBlocked := tick.stepB.perception.cameraBlocked }

/-- The iteration on this input gets to the read of the perception slot. -/
def BridgeState.ReadsPerception (self : BridgeState) (input : BridgeInput) : Prop :=
  self.iterations ≠ 0 ∧ (self.readSamples input).haveSpeed = true ∧
    (self.readSamples input).haveLkas = true ∧
    input.graceNowUs - (self.readSamples input).startupUs ≥ gracePeriodUs

instance (self : BridgeState) (input : BridgeInput) : Decidable (self.ReadsPerception input) :=
  inferInstanceAs (Decidable (_ ∧ _ ∧ _ ∧ _))

/-! ## The perception of an iteration -/

namespace BridgeState

variable {config : BridgeConfig} {self : BridgeState} {input : BridgeInput}

theorem read_samples_perception : (self.readSamples input).perception = self.perception := by
  unfold readSamples
  cases input.speed <;> cases input.lkas <;> rfl

/-- An iteration that gets to the read of the slot ticks after its reads. -/
theorem ReadsPerception.iterate_eq (h : self.ReadsPerception input) :
    iterate config self input =
      (some ((self.read input).tickAndSend config input).1,
        ((self.read input).tickAndSend config input).2) := by
  obtain ⟨hiterations, hspeed, hlkas, _⟩ := h
  unfold iterate
  rw [if_neg hiterations]
  dsimp only
  rw [hspeed, hlkas]
  rfl

/-- The tick of an iteration is given the perception that the loop holds after it. -/
theorem iterate_tick_perception {output : BridgeOutput}
    (houtput : (iterate config self input).1 = some output) :
    output.tick.perception = (iterate config self input).2.perception := by
  rcases iterate_cases config self input with ⟨hnone, _⟩ | htick
  · rw [hnone] at houtput
    cases houtput
  · rw [output_eq_tick_and_send houtput, htick]
    rfl

/-- An iteration that reads no new sample keeps the perception. -/
theorem iterate_perception_held (h : ¬ self.ReadsPerception input ∨ input.perception = none) :
    (iterate config self input).2.perception = self.perception := by
  have hsamples : (self.readSamples input).perception = self.perception := read_samples_perception
  by_cases hreads : self.ReadsPerception input
  · have hnone := h.resolve_left (not_not_intro hreads)
    rw [hreads.iterate_eq]
    show ((self.readSamples input).readPerception input).perception = _
    rw [← hsamples]
    unfold readPerception
    rw [hnone]
    split <;> rfl
  · unfold iterate
    split
    · rfl
    · next hiterations =>
        dsimp only
        split
        · exact hsamples
        · next hhave =>
            -- the grace period is not over
            have hgrace : ¬ input.graceNowUs - (self.readSamples input).startupUs ≥
                gracePeriodUs := by
              intro hgrace
              simp only [Bool.not_eq_true, Bool.or_eq_false_iff, Bool.not_eq_false'] at hhave
              exact hreads ⟨hiterations, hhave.1, hhave.2, hgrace⟩
            show ((self.readSamples input).readPerception input).perception = _
            unfold readPerception
            rw [if_neg hgrace]
            exact hsamples

/-- An iteration that reads a new sample takes its perception. -/
theorem ReadsPerception.iterate_perception (h : self.ReadsPerception input)
    {sample : PerceptionToDcasSample} (hsample : input.perception = some sample) :
    (iterate config self input).2.perception = sample.perception := by
  rw [h.iterate_eq]
  show ((self.readSamples input).readPerception input).perception = _
  unfold readPerception
  rw [if_pos h.2.2.2, hsample]
  rfl

end BridgeState

/-- What an iteration after the grace period reads that gets a speed, an LKAS sample and this
perception. -/
def readyInput (perception : Option PerceptionToDcasSample) : BridgeInput :=
  { speed := some {}, lkas := some {}, perception := perception, graceNowUs := 3000000 }

end DcasPolicyEngine
