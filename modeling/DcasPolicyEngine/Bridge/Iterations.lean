import DcasPolicyEngine.Bridge.Modes

/-!
# How often the bridge ticks

The option `iterations` counts down on ticks only: the loop waits for the first speed and the first
LKAS sample without counting, and a negative number never reaches zero. `bridge_iterations` gives
the number of ticks of every run.
-/

namespace DcasPolicyEngine

/-- A speed and an LKAS sample have been read. -/
def haveSamples (inputs : List BridgeInput) : Bool :=
  inputs.any (fun input => input.speed.isSome) && inputs.any fun input => input.lkas.isSome

/-- The number of iterations in which both samples have been read. -/
def readyIterations (inputs : List BridgeInput) : ℕ := (fronts inputs).countP haveSamples

theorem ready_iterations_concat (inputs : List BridgeInput) (input : BridgeInput) :
    readyIterations (inputs ++ [input]) =
      readyIterations inputs + if haveSamples (inputs ++ [input]) then 1 else 0 := by
  rw [readyIterations, fronts_concat, List.countP_append, List.countP_singleton]
  rfl

/-- The invariant of the countdown. While iterations are left the loop knows what it has read and
has ticked whenever it could. -/
structure CountsDown (config : BridgeConfig) (inputs : List BridgeInput) (ticks : ℕ)
    (loop : BridgeState) : Prop where
  left : loop.iterations ≠ 0 →
    loop.haveSpeed = (inputs.any fun input => input.speed.isSome) ∧
      loop.haveLkas = (inputs.any fun input => input.lkas.isSome) ∧
      ticks = readyIterations inputs
  unbounded : config.iterations < 0 → loop.iterations = config.iterations
  bounded : 0 ≤ config.iterations →
    loop.iterations = config.iterations - ticks ∧ 0 ≤ loop.iterations ∧
      ticks ≤ readyIterations inputs

namespace BridgeState

variable (self : BridgeState) (input : BridgeInput)

theorem read_samples_have_speed :
    (self.readSamples input).haveSpeed = (self.haveSpeed || input.speed.isSome) := by
  obtain ⟨speed, lkas⟩ := input
  cases speed <;> cases lkas <;> simp [readSamples]

theorem read_samples_have_lkas :
    (self.readSamples input).haveLkas = (self.haveLkas || input.lkas.isSome) := by
  obtain ⟨speed, lkas⟩ := input
  cases speed <;> cases lkas <;> simp [readSamples]

theorem read_samples_iterations :
    (self.readSamples input).iterations = self.iterations := by
  obtain ⟨speed, lkas⟩ := input
  cases speed <;> cases lkas <;> rfl

/-- The read of the perception leaves the countdown and the flags alone. -/
theorem read_perception_frame :
    (self.readPerception input).haveSpeed = self.haveSpeed ∧
      (self.readPerception input).haveLkas = self.haveLkas ∧
      (self.readPerception input).iterations = self.iterations := by
  unfold readPerception
  split
  · cases input.perception <;> exact ⟨rfl, rfl, rfl⟩
  · exact ⟨rfl, rfl, rfl⟩

end BridgeState

variable {config : BridgeConfig} {self : BridgeState}

/-- An iteration keeps the invariant and counts its tick. -/
theorem CountsDown.step {inputs : List BridgeInput} {ticks : ℕ}
    (h : CountsDown config inputs ticks self) (input : BridgeInput) :
    CountsDown config (inputs ++ [input])
      (ticks + (BridgeState.iterate config self input).1.toList.length)
      (BridgeState.iterate config self input).2 := by
  have hready := ready_iterations_concat inputs input
  by_cases hzero : self.iterations = 0
  · -- the loop has ended
    have hstopped : BridgeState.iterate config self input = (none, self) := if_pos hzero
    rw [hstopped]
    refine ⟨fun hleft => absurd hzero hleft, h.unbounded, ?_⟩
    intro hbounded
    obtain ⟨hiterations, hnonneg, hticks⟩ := h.bounded hbounded
    exact ⟨hiterations, hnonneg, by rw [hready]; exact hticks.trans (Nat.le_add_right _ _)⟩
  · obtain ⟨hspeed, hlkas, hticks⟩ := h.left hzero
    have hflags : (self.readSamples input).haveSpeed =
          ((inputs ++ [input]).any fun input => input.speed.isSome) ∧
        (self.readSamples input).haveLkas =
          ((inputs ++ [input]).any fun input => input.lkas.isSome) := by
      rw [BridgeState.read_samples_have_speed, BridgeState.read_samples_have_lkas, hspeed, hlkas]
      simp
    have hwaits : (!(self.readSamples input).haveSpeed || !(self.readSamples input).haveLkas) =
        !haveSamples (inputs ++ [input]) := by
      rw [hflags.1, hflags.2, ← Bool.not_and]
      rfl
    unfold BridgeState.iterate
    rw [if_neg hzero]
    dsimp only
    rw [hwaits]
    cases hsamples : haveSamples (inputs ++ [input]) with
    | false =>
        rw [hsamples] at hready
        rw [if_pos (by decide)]
        have hkept : (self.readSamples input).iterations = self.iterations :=
          BridgeState.read_samples_iterations self input
        refine ⟨fun _ => ⟨hflags.1, hflags.2, ?_⟩, ?_, ?_⟩
        · simpa [hready] using hticks
        · rw [hkept]
          exact h.unbounded
        · rw [hkept]
          simpa [hready] using h.bounded
    | true =>
        rw [hsamples] at hready
        rw [if_neg (by decide)]
        obtain ⟨hspeedKept, hlkasKept, hiterations⟩ :=
          BridgeState.read_perception_frame (self.readSamples input) input
        rw [BridgeState.read_samples_iterations] at hiterations
        have hnext : (((self.readSamples input).readPerception input).tickAndSend config
            input).2.iterations =
              if self.iterations > 0 then self.iterations - 1 else self.iterations := by
          rw [← hiterations]
          rfl
        refine ⟨fun _ => ⟨?_, ?_, ?_⟩, ?_, ?_⟩
        · exact hspeedKept.trans hflags.1
        · exact hlkasKept.trans hflags.2
        · simp [hready, hticks]
        · intro hnegative
          have hkept := h.unbounded hnegative
          rw [hnext, if_neg (by omega)]
          exact hkept
        · intro hbounded
          obtain ⟨hcount, hnonneg, _⟩ := h.bounded hbounded
          rw [hnext, if_pos (by omega)]
          refine ⟨?_, by omega, by simp [hready, hticks]⟩
          rw [hcount, Option.toList_some, List.length_singleton]
          push_cast
          omega

/-- The number of ticks of every run: the iterations in which both samples have been read, and at
most as many as the option says if that is not negative. -/
theorem bridge_iterations (config : BridgeConfig) (startupUs : UInt64)
    (inputs : List BridgeInput) :
    ((bridge config).shown (.start config startupUs) inputs).length =
      if config.iterations < 0 then readyIterations inputs
      else min config.iterations.toNat (readyIterations inputs) := by
  have hcounts : CountsDown config inputs
      ((bridge config).shown (.start config startupUs) inputs).length
      ((bridge config).run (.start config startupUs) inputs) := by
    induction inputs using List.reverseRecOn with
    | nil =>
        refine ⟨fun _ => ⟨rfl, rfl, rfl⟩, fun _ => rfl, fun hbounded => ⟨?_, hbounded, le_rfl⟩⟩
        exact (sub_zero config.iterations).symm
    | append_singleton inputs input ih =>
        rw [Machine.shown_concat, Machine.run_concat, List.length_append]
        exact ih.step input
  by_cases hnegative : config.iterations < 0
  · have hleft := hcounts.unbounded hnegative
    rw [if_pos hnegative]
    exact (hcounts.left (by omega)).2.2
  · obtain ⟨hcount, hnonneg, hle⟩ := hcounts.bounded (not_lt.mp hnegative)
    rw [if_neg hnegative]
    by_cases hzero : ((bridge config).run (.start config startupUs) inputs).iterations = 0
    · omega
    · have hticks := (hcounts.left hzero).2.2
      omega

end DcasPolicyEngine
