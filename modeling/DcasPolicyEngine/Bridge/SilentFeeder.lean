import Mathlib.Tactic.Ring
import DcasPolicyEngine.Bridge.HeldPerception
import DcasPolicyEngine.Bridge.Outputs

/-!
# A silent feeder

Nothing in the loop looks at the age of the perception. `silent_feeder_indistinguishable` says that
the loop cannot tell a feeder that stopped from one that repeats its last message, and
`silent_feeder_recovers` what follows when the last message was that of an attentive driver with an
open camera: the driver state recovers, and stays `OK` for as long as nothing is read. The start is
one such case, and with it the grace period.
-/

namespace DcasPolicyEngine

open Rounding

/-! ## Repeating what is held -/

/-- The code of a reason. -/
def Reason.code : Reason → UInt32
  | .none => 0
  | .phone => 1
  | .drowsy => 2
  | .unresponsive => 3
  | .intoxicated => 4
  | .unknown => 5
  | .blockedCamera => 6
  | .unnamed offset => UInt32.ofNat (offset + 7)

/-- The cast of the code of a reason is the reason. -/
@[simp] theorem Reason.of_code_code (reason : Reason) : Reason.ofCode reason.code = reason := by
  cases reason with
  | unnamed offset =>
      have hlt : offset + 7 < UInt32.size := by
        have := offset.isLt
        show (offset : ℕ) + 7 < 2 ^ 32
        omega
      have hcode : (UInt32.ofNat (offset + 7)).toNat = offset + 7 := UInt32.toNat_ofNat_of_lt' hlt
      rw [code, ofCode, dif_pos (by rw [hcode]; omega)]
      congr 1
      ext
      exact (congrArg (· - 7) hcode).trans (Nat.add_sub_cancel _ _)
  | _ => rfl

/-- The sample that says what is held. -/
def HeldPerception.sample (held : HeldPerception) : PerceptionToDcasSample :=
  { isAttentive := if held.isAttentive then 1 else 0
    cameraBlocked := if held.cameraBlocked then 1 else 0
    reason := held.reason.code }

@[simp] theorem HeldPerception.sample_perception (held : HeldPerception) :
    held.sample.perception = held := by
  obtain ⟨isAttentive, reason, cameraBlocked⟩ := held
  unfold sample PerceptionToDcasSample.perception
  cases isAttentive <;> cases cameraBlocked <;> simp

/-- The input with what is held in the place of a sample that did not come. -/
def BridgeInput.repeating (input : BridgeInput) (held : HeldPerception) : BridgeInput :=
  { input with perception := some (input.perception.getD held.sample) }

namespace BridgeState

variable (config : BridgeConfig) (self : BridgeState) (input : BridgeInput)

/-- A loop that reads what it holds is as it was. -/
theorem read_repeating : self.read (input.repeating self.perception) = self.read input := by
  have hsamples : self.readSamples (input.repeating self.perception) = self.readSamples input := rfl
  have hheld : (self.readSamples input).perception = self.perception := read_samples_perception
  rw [read, read, hsamples]
  unfold readPerception BridgeInput.repeating
  cases hperception : input.perception with
  | some sample => rfl
  | none =>
      dsimp only [Option.getD_none]
      split
      · have hsample := HeldPerception.sample_perception (self.readSamples input).perception
        obtain ⟨hattentive, hreason, hcamera⟩ := HeldPerception.mk.inj hsample
        rw [← hheld]
        simp only [hattentive, hreason, hcamera]
      · rfl

/-- An iteration with a repeated sample is the iteration without one. -/
theorem iterate_repeating :
    iterate config self (input.repeating self.perception) = iterate config self input := by
  have hread := read_repeating self input
  have hsamples : self.readSamples (input.repeating self.perception) = self.readSamples input := rfl
  unfold iterate
  rw [hsamples]
  split
  · rfl
  · dsimp only
    split
    · rfl
    · show (some ((self.read _).tickAndSend config _).1, ((self.read _).tickAndSend config _).2) =
        (some ((self.read input).tickAndSend config input).1,
          ((self.read input).tickAndSend config input).2)
      rw [hread]
      rfl

end BridgeState

/-- The bridge as a bridge whose feeder repeats itself. -/
def repeatingFeeder (config : BridgeConfig) :
    Machine.Simulation (bridge config) (bridge config) where
  inv _ := True
  state := id
  input self input := input.repeating self.perception
  output := id
  inv_step _ _ _ := trivial
  step_eq self input _ := self.iterate_repeating config input

/-- The bridge cannot tell a feeder that sends nothing new from a feeder that repeats its last
message in every iteration: with the held perception in the place of every missing sample, all
outputs are the same. -/
theorem silent_feeder_indistinguishable (config : BridgeConfig) (self : BridgeState)
    (inputs : List BridgeInput) :
    (bridge config).outputs self ((repeatingFeeder config).inputs self inputs) =
      (bridge config).outputs self inputs := by
  have houtputs : _ = ((bridge config).outputs self inputs).map (repeatingFeeder config).output :=
    (repeatingFeeder config).outputs_eq trivial inputs
  rw [show (repeatingFeeder config).state self = self from rfl,
    show (repeatingFeeder config).output = id from rfl, List.map_id] at houtputs
  exact houtputs

/-! ## What a silent feeder leads to -/

/-- The iteration takes no new sample from the perception slot. -/
def BridgeState.ReadsNothing (self : BridgeState) (input : BridgeInput) : Prop :=
  ¬ self.ReadsPerception input ∨ input.perception = none

/-- The loop holds an attentive driver and an open camera, and no critical reason is held or stored,
nor is the latch on. -/
structure HoldsAttentive (loop : BridgeState) : Prop where
  unlatched : loop.runtime.stepBStateStore.absentLatchedRunCycle = false
  attentive : loop.perception.isAttentive = true
  open_camera : loop.perception.cameraBlocked = false
  held_reason : isCriticalReason loop.perception.reason = false
  stored_reason : isCriticalReason loop.runtime.stepBStateStore.latestReason = false

/-- Recovery that goes on from a recovered state. -/
theorem recover_recover (held : DriverState) {shorter longer : ℚ} (h : shorter ≤ longer) :
    recover (recover held shorter) longer = recover held longer := by
  by_cases hok : held = .ok
  · rw [hok, recover_ok, recover_ok]
  · by_cases hreached : 3 ≤ shorter
    · rw [(recover_eq_ok_iff hok shorter).mpr hreached, recover_ok,
        (recover_eq_ok_iff hok longer).mpr (hreached.trans h)]
    · rw [recover_eq_held (not_le.mp hreached)]

/-- A reason that is taken up is the reported or the stored one. -/
theorem is_critical_reason_accept {store : StateTimerStore} {perception : PerceptionInput}
    (hstored : isCriticalReason store.latestReason = false)
    (hreported : isCriticalReason perception.reason = false) :
    isCriticalReason (acceptReason store perception).latestReason = false := by
  unfold acceptReason
  split
  · exact hreported
  · exact hstored

section HoldsAttentive

variable {config : BridgeConfig} {self : BridgeState} {input : BridgeInput}

/-- A tick on what is held lets the driver recover. -/
theorem HoldsAttentive.step (h : HoldsAttentive self) (hsound : self.runtime.stepBStateStore.Sound)
    {output : BridgeOutput} (hnothing : self.ReadsNothing input)
    (houtput : (BridgeState.iterate config self input).1 = some output) :
    HoldsAttentive (BridgeState.iterate config self input).2 ∧
      (BridgeState.iterate config self input).2.runtime.stepBStateStore.Sound ∧
      output.driverState = (BridgeState.iterate config self input).2.runtime.held ∧
      (BridgeState.iterate config self input).2.runtime.held =
        recover self.runtime.held
          (add self.runtime.stepBStateStore.recoverElapsedS (max 0 config.deltaS)) ∧
      (BridgeState.iterate config self input).2.runtime.stepBStateStore.recoverElapsedS =
        add self.runtime.stepBStateStore.recoverElapsedS (max 0 config.deltaS) := by
  obtain ⟨htick, hresult, hruntime⟩ := tick_of_output houtput
  have hheld : (BridgeState.iterate config self input).2.perception = self.perception :=
    BridgeState.iterate_perception_held hnothing
  have hperception : output.tick.perception = self.perception :=
    (BridgeState.iterate_tick_perception houtput).trans hheld
  have hdelta : output.tick.stepB.deltaS = config.deltaS := by
    rw [htick]
    rfl
  have hattentive : output.tick.stepB.perception.isAttentive = true :=
    (congrArg HeldPerception.isAttentive hperception).trans h.attentive
  have hopen : output.tick.stepB.perception.cameraBlocked = false :=
    (congrArg HeldPerception.cameraBlocked hperception).trans h.open_camera
  have hreported : isCriticalReason output.tick.stepB.perception.reason = false :=
    (congrArg (fun held => isCriticalReason held.reason) hperception).trans h.held_reason
  have hnone := is_critical_reason_accept h.stored_reason hreported
  have hevaluate := evaluate_attentive h.unlatched hopen hnone hattentive
  have hrecovered : recover self.runtime.stepBStateStore.currentState
      (recoverAfter self.runtime.stepBStateStore output.tick.stepB) ≠ .absent :=
    recover_ne_absent (hsound.ne_absent h.unlatched) _
  have hstore : (BridgeState.iterate config self input).2.runtime.stepBStateStore =
      (evaluate output.tick.stepB self.runtime.stepBStateStore).2 := by
    rw [hruntime]
    rfl
  have hstate : output.driverState =
      (evaluate output.tick.stepB self.runtime.stepBStateStore).1.nextState := by
    rw [BridgeOutput.driverState, hresult]
    rfl
  rw [recoverAfter, hdelta] at hrecovered
  refine ⟨⟨?_, ?_, ?_, ?_, ?_⟩, ?_, ?_, ?_, ?_⟩
  · rw [hstore, hevaluate]
    simpa [recoverAfter, hdelta] using hrecovered
  · rw [hheld]
    exact h.attentive
  · rw [hheld]
    exact h.open_camera
  · rw [hheld]
    exact h.held_reason
  · rw [hstore, hevaluate]
    exact hnone
  · rw [hstore]
    exact evaluate_sound hsound _
  · rw [hstate, PolicyRuntime.held, hstore]
    exact evaluate_next_state_eq _ _
  · rw [PolicyRuntime.held, hstore, hevaluate, ← hdelta]
    rfl
  · rw [hstore, hevaluate, ← hdelta]
    rfl

/-- An iteration that performs no tick changes nothing that matters. -/
theorem HoldsAttentive.of_silent (h : HoldsAttentive self) (hnothing : self.ReadsNothing input)
    (hsilent : (BridgeState.iterate config self input).1 = none) :
    HoldsAttentive (BridgeState.iterate config self input).2 ∧
      (BridgeState.iterate config self input).2.runtime = self.runtime := by
  have hruntime : (BridgeState.iterate config self input).2.runtime = self.runtime :=
    (runtimeOfBridge config).silent self input hsilent
  have hheld : (BridgeState.iterate config self input).2.perception = self.perception :=
    BridgeState.iterate_perception_held hnothing
  refine ⟨⟨?_, ?_, ?_, ?_, ?_⟩, hruntime⟩
  · rw [hruntime]
    exact h.unlatched
  · rw [hheld]
    exact h.attentive
  · rw [hheld]
    exact h.open_camera
  · rw [hheld]
    exact h.held_reason
  · rw [hruntime]
    exact h.stored_reason

/-- The driver states of a run that reads nothing new. -/
theorem HoldsAttentive.run (h : HoldsAttentive self) (hsound : self.runtime.stepBStateStore.Sound)
    {inputs : List BridgeInput}
    (hnothing : ∀ e ∈ (bridge config).trace self inputs, e.before.ReadsNothing e.input)
    {count : ℕ} {output : BridgeOutput}
    (houtput : ((bridge config).shown self inputs)[count]? = some output) :
    output.driverState = recover self.runtime.held
      (addUp self.runtime.stepBStateStore.recoverElapsedS
        (List.replicate (count + 1) (max 0 config.deltaS))) := by
  induction inputs generalizing self count with
  | nil => cases houtput
  | cons input inputs ih =>
      obtain ⟨hfirst, hrest⟩ := List.forall_mem_cons.mp hnothing
      cases hstep : (BridgeState.iterate config self input).1 with
      | none =>
          obtain ⟨hnext, hruntime⟩ := h.of_silent hfirst hstep
          rw [(bridge config).shown_cons_of_silent hstep] at houtput
          rw [← hruntime] at hsound ⊢
          exact ih hnext hsound hrest houtput
      | some first =>
          obtain ⟨hnext, hsound', hshown, hheld, helapsed⟩ := h.step hsound hfirst hstep
          rw [(bridge config).shown_cons_of_shows hstep] at houtput
          cases count with
          | zero =>
              obtain rfl := Option.some.inj houtput
              rw [hshown, hheld]
              rfl
          | succ count =>
              have hterms : ∀ term ∈ List.replicate (count + 1) (max 0 config.deltaS),
                  0 ≤ term := by
                intro term hterm
                rw [List.eq_of_mem_replicate hterm]
                exact le_max_left 0 config.deltaS
              have hgrows := (is_rounded_add self.runtime.stepBStateStore.recoverElapsedS
                (max 0 config.deltaS)).le_add_up hterms
              have hlater := ih hnext hsound' hrest houtput
              rw [hheld, helapsed, recover_recover _ hgrows] at hlater
              exact hlater

end HoldsAttentive

/-- However long nothing new is read, the loop goes on as for an attentive driver when it holds one,
with an open camera and without a critical reason. Each tick adds to the recovery timer in the
format: the driver state is the one held before until the timer reaches three seconds, and `OK` from
then on. -/
theorem silent_feeder_recovers {config : BridgeConfig} {startupUs : UInt64}
    {earlier later : List BridgeInput}
    (hheld : HoldsAttentive ((bridge config).run (.start config startupUs) earlier))
    (hnothing : ∀ e ∈ (bridge config).trace
      ((bridge config).run (.start config startupUs) earlier) later,
      e.before.ReadsNothing e.input)
    {count : ℕ} {output : BridgeOutput}
    (houtput : ((bridge config).shown
      ((bridge config).run (.start config startupUs) earlier) later)[count]? = some output) :
    output.driverState =
      recover ((bridge config).run (.start config startupUs) earlier).runtime.held
        (addUp ((bridge config).run (.start config startupUs)
            earlier).runtime.stepBStateStore.recoverElapsedS
          (List.replicate (count + 1) (max 0 config.deltaS))) :=
  hheld.run (bridge_reachable config startupUs earlier).sound.store hnothing houtput

/-- Two ticks of two seconds without attention and one with it. -/
def warnedLoop : List BridgeInput :=
  [readyInput (some {}), readyInput (some {}), readyInput (some { isAttentive := 1 })]

/-- A `WARNING` ends without any news of the driver. -/
theorem silent_feeder_recovers_warning :
    ((bridge { deltaS := 2 }).run (.start { deltaS := 2 } 0) warnedLoop).runtime.held = .warning ∧
      (((bridge { deltaS := 2 }).shown
        ((bridge { deltaS := 2 }).run (.start { deltaS := 2 } 0) warnedLoop)
        [readyInput none])[0]?.map BridgeOutput.driverState) = some .ok := by
  refine ⟨by decide +kernel, ?_⟩
  obtain ⟨output, houtput⟩ : ∃ output, ((bridge { deltaS := 2 }).shown
      ((bridge { deltaS := 2 }).run (.start { deltaS := 2 } 0) warnedLoop)
      [readyInput none])[0]? = some output := ⟨_, rfl⟩
  rw [houtput]
  refine congrArg some ((silent_feeder_recovers ⟨?_, ?_, ?_, ?_, ?_⟩ ?_ houtput).trans ?_)
  · decide +kernel
  · decide +kernel
  · decide +kernel
  · decide +kernel
  · decide +kernel
  · intro e he
    obtain rfl := List.mem_singleton.mp he
    exact .inr rfl
  · decide +kernel

end DcasPolicyEngine
