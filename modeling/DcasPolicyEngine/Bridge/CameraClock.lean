import Mathlib.Data.List.DropRight
import DcasPolicyEngine.Bridge.Loop

/-!
# The camera clock of the bridge

Step B takes the time for which the camera has been blocked from two timestamps of the tick. The
bridge fills in the time of the tick and leaves the time at which the block began at zero, so
Step B sees the time since the clock was started. `bridge_camera_time_iff` says when the result is
the one that the time of the blocked stretch asks for.
-/

namespace DcasPolicyEngine

/-- The blocked stretch that the ticks end with. -/
def blockedStretch (ticks : List RuntimeTickInput) : List RuntimeTickInput :=
  ticks.rtakeWhile fun tick => tick.stepB.perception.cameraBlocked

/-- The time in seconds from the first tick of the blocked stretch to its last one. -/
def blockedFor (ticks : List RuntimeTickInput) : ℚ :=
  ((((blockedStretch ticks).getLast?.map fun tick => tick.stepB.perception.isAttentiveTsMs).getD 0 -
    ((blockedStretch ticks).head?.map fun tick => tick.stepB.perception.isAttentiveTsMs).getD 0 :
      ℤ) : ℚ) / 1000

/-- The output is the one that a blocked time of `elapsed` asks for: at least `WARNING` and no
`ABSENT` below `tAbsent`, and latched `ABSENT` from there on. -/
structure DecidedBy (output : StepBOutput) (elapsed tAbsent : ℚ) : Prop where
  below : elapsed < tAbsent →
    .warning ≤ output.nextState ∧ output.nextState ≠ .absent ∧
      output.absentLatchedRunCycle = false
  reached : tAbsent ≤ elapsed → output.nextState = .absent ∧ output.absentLatchedRunCycle = true

/-- With the latch off, a blocked tick is decided by every time that `T_absent` does not separate
from the one that Step B sees, and by no other. -/
theorem decided_by_iff {store : StateTimerStore} {input : StepBInput} {elapsed : ℚ}
    (hlatch : store.absentLatchedRunCycle = false)
    (hblocked : input.perception.cameraBlocked = true) :
    DecidedBy (evaluate input store).1 elapsed input.thresholds.tAbsentEffS ↔
      (blockedElapsedS input.perception < input.thresholds.tAbsentEffS ↔
        elapsed < input.thresholds.tAbsentEffS) := by
  have houtput := evaluate_blocked hlatch hblocked
  by_cases hseen : blockedElapsedS input.perception < input.thresholds.tAbsentEffS
  · rw [if_pos hseen, Prod.mk.injEq] at houtput
    obtain ⟨hwarning, hunlatched⟩ := houtput
    rw [iff_true_left hseen]
    constructor
    · intro hdecided
      by_contra hlong
      have habsent := (hdecided.reached (not_lt.mp hlong)).1
      rw [hwarning] at habsent
      cases habsent
    · intro hshort
      refine ⟨fun _ => ?_, fun hlong => absurd hshort hlong.not_gt⟩
      rw [hwarning]
      exact ⟨le_rfl, by decide, hunlatched⟩
  · rw [if_neg hseen, Prod.mk.injEq] at houtput
    obtain ⟨habsent, hlatched⟩ := houtput
    rw [iff_false_left hseen]
    constructor
    · intro hdecided hshort
      exact (hdecided.below hshort).2.1 habsent
    · intro hlong
      exact ⟨fun hshort => absurd hshort hlong, fun _ => ⟨habsent, hlatched⟩⟩

/-- The block lasts at most as long as the clock has been running, if the clock is never
negative. -/
theorem blocked_for_concat_le {ticks : List RuntimeTickInput} {tick : RuntimeTickInput}
    (hticks : ∀ earlier ∈ ticks, 0 ≤ earlier.stepB.perception.isAttentiveTsMs)
    (hblocked : tick.stepB.perception.cameraBlocked = true)
    (htick : 0 ≤ tick.stepB.perception.isAttentiveTsMs) :
    blockedFor (ticks ++ [tick]) ≤ (tick.stepB.perception.isAttentiveTsMs : ℚ) / 1000 := by
  have hstretch : blockedStretch (ticks ++ [tick]) = blockedStretch ticks ++ [tick] :=
    List.rtakeWhile_concat_pos _ ticks tick hblocked
  have hstart : 0 ≤ ((blockedStretch (ticks ++ [tick])).head?.map
      fun tick => tick.stepB.perception.isAttentiveTsMs).getD 0 := by
    cases hhead : (blockedStretch (ticks ++ [tick])).head? with
    | none => exact le_rfl
    | some first =>
        have hmem : first ∈ ticks ++ [tick] :=
          (List.rtakeWhile_suffix _ (ticks ++ [tick])).subset (List.mem_of_mem_head? hhead)
        rcases List.mem_append.mp hmem with hearlier | hlast
        · exact hticks first hearlier
        · rw [List.mem_singleton.mp hlast]
          exact htick
  unfold blockedFor
  refine div_le_div_of_nonneg_right ?_ (by norm_num)
  rw [Int.cast_le, hstretch, List.getLast?_concat, ← hstretch]
  show tick.stepB.perception.isAttentiveTsMs - _ ≤ _
  omega

/-! ## The ticks of the bridge -/

variable {config : BridgeConfig} {self : BridgeState} {input : BridgeInput}
  {output : BridgeOutput}

/-- Every tick of the bridge carries a time that is not negative. -/
theorem bridge_ticks_ts_nonneg (config : BridgeConfig) (self : BridgeState)
    (inputs : List BridgeInput) :
    ∀ tick ∈ bridgeTicks config self inputs, 0 ≤ tick.stepB.perception.isAttentiveTsMs := by
  intro tick htick
  obtain ⟨ticked, hticked, hmem⟩ := List.mem_flatMap.mp htick
  obtain ⟨e, he, rfl⟩ := List.mem_map.mp hticked
  rw [(bridge config).event_of_mem_trace he] at hmem
  cases houtput : (BridgeState.iterate config e.before e.input).1 with
  | none =>
      have hnil : tick ∈ ((BridgeState.iterate config e.before e.input).1.map
        BridgeOutput.tick).toList := hmem
      rw [houtput] at hnil
      cases hnil
  | some output =>
      have hone : tick ∈ ((BridgeState.iterate config e.before e.input).1.map
        BridgeOutput.tick).toList := hmem
      rw [houtput] at hone
      rw [List.mem_singleton.mp hone, output_eq_tick_and_send houtput]
      exact Int.natCast_nonneg _

/-- The ticks after one more iteration that ticks. -/
theorem bridge_ticks_concat {inputs : List BridgeInput}
    (houtput : (BridgeState.iterate config ((bridge config).run self inputs) input).1 =
      some output) :
    bridgeTicks config self (inputs ++ [input]) =
      bridgeTicks config self inputs ++ [output.tick] := by
  unfold bridgeTicks Machine.outputs
  rw [Machine.trace_append, List.map_append, List.flatMap_append]
  congr 1
  show ((BridgeState.iterate config ((bridge config).run self inputs) input).1.map
    BridgeOutput.tick).toList ++ [] = _
  rw [houtput]
  rfl

/-- For every run of the bridge and every next iteration that ticks with the camera blocked and
the latch off, the tick is decided by the time of the blocked stretch exactly when the clock
shows less than `T_absent` or the stretch has lasted for `T_absent`. -/
theorem bridge_camera_time_iff (startupUs : UInt64) (inputs : List BridgeInput)
    (houtput : ((bridge config).step
      ((bridge config).run (.start config startupUs) inputs) input).1 = some output)
    (hblocked : output.tick.stepB.perception.cameraBlocked = true)
    (hlatch : ((bridge config).run (.start config startupUs)
      inputs).runtime.stepBStateStore.absentLatchedRunCycle = false) :
    DecidedBy output.output.stepB
        (blockedFor (bridgeTicks config (.start config startupUs) (inputs ++ [input])))
        output.tick.stepB.thresholds.tAbsentEffS ↔
      ((input.tickTs : ℚ) / 1000 < output.tick.stepB.thresholds.tAbsentEffS ∨
        output.tick.stepB.thresholds.tAbsentEffS ≤
          blockedFor (bridgeTicks config (.start config startupUs) (inputs ++ [input]))) := by
  obtain ⟨htick, htickOutput, _⟩ := tick_of_output houtput
  have hts : output.tick.stepB.perception.isAttentiveTsMs = input.tickTs := by
    rw [htick]
    rfl
  -- the block began at zero, so Step B sees the time of the clock
  have hseen : blockedElapsedS output.tick.stepB.perception = (input.tickTs : ℚ) / 1000 := by
    rw [htick, blockedElapsedS]
    show ((input.tickTs - 0 : ℤ) : ℚ) / 1000 = _
    rw [sub_zero]
  have hle := blocked_for_concat_le (bridge_ticks_ts_nonneg config (.start config startupUs) inputs)
    hblocked (by rw [hts]; exact Int.natCast_nonneg _)
  rw [← bridge_ticks_concat houtput, hts] at hle
  rw [htickOutput, PolicyRuntime.tick_step_b, decided_by_iff hlatch hblocked, hseen]
  constructor
  · intro hagree
    by_cases hearly : (input.tickTs : ℚ) / 1000 < output.tick.stepB.thresholds.tAbsentEffS
    · exact .inl hearly
    · exact .inr (not_lt.mp fun hshort => hearly (hagree.mpr hshort))
  · intro htime
    rcases htime with hearly | hlong
    · exact iff_of_true hearly (hle.trans_lt hearly)
    · exact iff_of_false (hlong.trans hle).not_gt hlong.not_gt

/-- An iteration that reads a blocked camera at a time of the clock. -/
def coverAt (nowUs : UInt64) : BridgeInput :=
  { speed := some {}
    lkas := some {}
    perception := some { isAttentive := 1, cameraBlocked := 1 }
    graceNowUs := nowUs
    tickNowUs := nowUs
    outNowUs := nowUs }

/-- The output of the first iteration, when the clock was started at zero. -/
def firstCovered : BridgeOutput :=
  (((BridgeState.start {} 0).read (coverAt 3500000)).tickAndSend {} (coverAt 3500000)).1

/-- Three and a half seconds after the clock was started, a block is decided by its time. -/
theorem bridge_camera_time_early :
    DecidedBy firstCovered.output.stepB
      (blockedFor (bridgeTicks {} (.start {} 0) [coverAt 3500000]))
      firstCovered.tick.stepB.thresholds.tAbsentEffS :=
  (bridge_camera_time_iff 0 [] (by rfl) (by rfl) (by rfl)).mpr (.inl (by decide +kernel))

/-- When the bridge is started a hundred seconds after the clock, the first blocked tick latches
`ABSENT`. -/
theorem bridge_camera_time_late :
    (BridgeState.start {} 100000000).runtime.stepBStateStore.absentLatchedRunCycle = false ∧
      (((bridge {}).step (.start {} 100000000) (coverAt 103500000)).1.map fun output =>
        (output.tick.stepB.perception.cameraBlocked, output.tick.stepB.thresholds.tAbsentEffS,
          output.output.stepB.nextState, output.output.stepB.absentLatchedRunCycle)) =
        some (true, 10, .absent, true) ∧
      blockedFor (bridgeTicks {} (.start {} 100000000) [coverAt 103500000]) = 0 := by
  decide +kernel

end DcasPolicyEngine
