import DcasPolicyEngine.Machine.Clocks
import DcasPolicyEngine.Runtime.InattentiveRun
import DcasPolicyEngine.Bridge.Loop

/-!
# The tick clock of the bridge

Step B takes the time of a camera block from the timestamps of the ticks, and the inattentive
time from the sum of their deltas. The bridge reads the timestamps from the clock, and the delta
is an option of the command line. So the inattention timer counts ticks: `bridge_clocks` says how
it grows over a stretch of inattentive ticks, and when that is the time between them.
-/

namespace DcasPolicyEngine

open Rounding

/-- One iteration of the bridge within a run. -/
abbrev BridgeEvent := Machine.Event BridgeState BridgeInput (Option BridgeOutput)

/-- The inattention timer of the runtime. -/
def BridgeState.inattentiveElapsedS (self : BridgeState) : ℚ :=
  self.runtime.stepBStateStore.inattentiveElapsedS

/-- The timestamp of the tick in seconds. -/
def BridgeInput.tickTsS (input : BridgeInput) : ℚ := input.tickTs / 1000

/-- The iteration ticks with an inattentive driver and an open camera, and the latch is off after
the tick. -/
def InattentiveTick (e : BridgeEvent) : Prop :=
  ∃ output, e.output = some output ∧ output.tick.Inattentive ∧
    output.output.stepB.absentLatchedRunCycle = false

variable {config : BridgeConfig} {self : BridgeState} {input : BridgeInput}

/-- The inattention timer grows by the configured delta on an inattentive tick. -/
theorem inattentive_tick_elapsed (h : InattentiveTick ((bridge config).event self input)) :
    (BridgeState.iterate config self input).2.inattentiveElapsedS =
      add self.inattentiveElapsedS (max 0 config.deltaS) := by
  obtain ⟨output, houtput, ⟨hattentive, hopen⟩, hunlatched⟩ := h
  obtain ⟨htick, htickOutput, hafter⟩ := tick_of_output houtput
  have hdelta : output.tick.stepB.deltaS = config.deltaS := by
    rw [htick]
    rfl
  show (BridgeState.iterate config self input).2.runtime.stepBStateStore.inattentiveElapsedS = _
  rw [hafter]
  obtain ⟨hlatched, _⟩ | ⟨_, _, htimer⟩ :=
    evaluate_inattentive_cases self.runtime.stepBStateStore hattentive hopen
  · -- the latch that the tick returns is the one it stores
    rw [← evaluate_absent_latched_run_cycle_eq] at hlatched
    rw [htickOutput] at hunlatched
    exact absurd (hlatched.symm.trans hunlatched) (by decide)
  · refine htimer.trans ?_
    rw [inattentiveAfter, hdelta]
    rfl

/-- A stretch of inattentive ticks adds the configured delta at every tick. -/
theorem advances_inattentive_ticks {inputs : List BridgeInput}
    (h : ∀ e ∈ (bridge config).trace self inputs, InattentiveTick e) :
    (bridge config).Advances BridgeState.inattentiveElapsedS (add · (max 0 config.deltaS)) self
      inputs := by
  intro e he
  have hevent := (bridge config).event_of_mem_trace he
  have htick := h e he
  rw [hevent] at htick ⊢
  exact inattentive_tick_elapsed htick

/-- Over a stretch of inattentive ticks the inattention timer adds the configured delta in its
format once for each tick, whatever the clock shows. It agrees with the timestamps between any two
ticks exactly when the timestamps of successive ticks are as far apart as the timer grows by this
addition. -/
theorem bridge_clocks {inputs : List BridgeInput}
    (h : ∀ e ∈ (bridge config).trace self inputs, InattentiveTick e) :
    (∀ earlier between, earlier ++ between <+: inputs →
        ((bridge config).run self (earlier ++ between)).inattentiveElapsedS =
          addUp ((bridge config).run self earlier).inattentiveElapsedS
            (List.replicate between.length (max 0 config.deltaS))) ∧
      (((bridge config).trace self inputs).Pairwise
          (Machine.ClocksAgree BridgeState.inattentiveElapsedS BridgeInput.tickTsS) ↔
        ((bridge config).trace self inputs).IsChain fun first second =>
          second.input.tickTsS - first.input.tickTsS =
            add first.after.inattentiveElapsedS (max 0 config.deltaS) -
              first.after.inattentiveElapsedS) := by
  have hadvances := advances_inattentive_ticks h
  refine ⟨?_, hadvances.pairwise_clocks_agree_iff BridgeInput.tickTsS⟩
  intro earlier between hprefix
  rw [hadvances.between hprefix, iterate_add]

/-- An iteration that reads an inattentive driver at a time of the clock. -/
def lookAwayAt (nowUs : UInt64) : BridgeInput :=
  { speed := some {}
    lkas := some {}
    perception := some { isAttentive := 0 }
    graceNowUs := nowUs
    tickNowUs := nowUs
    outNowUs := nowUs }

/-- Ticks that are 250 ms apart agree with this delta. -/
theorem bridge_clocks_quarter :
    ((bridge { deltaS := 0.25 }).trace (.start {} 0)
        [lookAwayAt 3500000, lookAwayAt 3750000, lookAwayAt 4000000]).Pairwise
      (Machine.ClocksAgree BridgeState.inattentiveElapsedS BridgeInput.tickTsS) := by
  refine (bridge_clocks ?_).2.mpr (by decide +kernel)
  simp only [Machine.trace_cons, Machine.trace_nil, List.forall_mem_cons]
  refine ⟨⟨_, rfl, by decide +kernel, by decide +kernel⟩,
    ⟨_, rfl, by decide +kernel, by decide +kernel⟩,
    ⟨_, rfl, by decide +kernel, by decide +kernel⟩, by simp⟩

/-- With the default options two ticks can be 10 ms apart, and the timer grows by 20 ms. -/
theorem bridge_clocks_disagree :
    (∀ e ∈ (bridge {}).trace (.start {} 0) [lookAwayAt 3500000, lookAwayAt 3510000],
        InattentiveTick e) ∧
      ((bridge {}).trace (.start {} 0) [lookAwayAt 3500000, lookAwayAt 3510000]).map
        (fun e => (e.input.tickTsS, e.after.inattentiveElapsedS)) =
        [(3.5, literal 0.02), (3.51, literal 0.04)] ∧
      ¬ ((bridge {}).trace (.start {} 0) [lookAwayAt 3500000, lookAwayAt 3510000]).Pairwise
        (Machine.ClocksAgree BridgeState.inattentiveElapsedS BridgeInput.tickTsS) := by
  refine ⟨?_, by decide +kernel, ?_⟩
  · simp only [Machine.trace_cons, Machine.trace_nil, List.forall_mem_cons]
    refine ⟨⟨_, rfl, by decide +kernel, by decide +kernel⟩,
      ⟨_, rfl, by decide +kernel, by decide +kernel⟩, by simp⟩
  · intro hagree
    have hgrowth := (List.pairwise_cons.mp hagree).1 _ (List.mem_singleton_self _)
    unfold Machine.ClocksAgree at hgrowth
    revert hgrowth
    decide +kernel

end DcasPolicyEngine
