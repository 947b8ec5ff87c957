import Mathlib.Algebra.Order.BigOperators.Group.List
import Mathlib.Data.List.DropRight
import DcasPolicyEngine.Runtime.CriticalReason

/-!
# The inattention clock

At a steady speed band the state should follow the time that the driver has been inattentive in
total. The inattention timer measures the current inattentive stretch instead, since every
attentive tick sets it to zero, however short it is. `SteadyInvariant` says what the timers are
along every steady run, and `clock_kept_iff` when the state follows the total time and when the
timer goes on. The total time is an exact sum, and a stretch is added up as the timers are.
-/

namespace DcasPolicyEngine

open Rounding

/-! ## Inattentive time and stretches -/

/-- The time of the inattentive ticks, summed over the whole run. -/
def inattentiveTime (inputs : List RuntimeTickInput) : ℚ :=
  ((inputs.filter fun input => !input.stepB.perception.isAttentive).map
    fun input => max 0 input.stepB.deltaS).sum

/-- The time of the ticks with this attention that the run ends with, added up in the format. -/
def stretch (isAttentive : Bool) (inputs : List RuntimeTickInput) : ℚ :=
  addUp 0 ((inputs.rtakeWhile fun input => input.stepB.perception.isAttentive == isAttentive).map
    fun input => max 0 input.stepB.deltaS)

theorem inattentive_time_concat (inputs : List RuntimeTickInput) (input : RuntimeTickInput) :
    inattentiveTime (inputs ++ [input]) =
      inattentiveTime inputs +
        if input.stepB.perception.isAttentive = true then 0 else max 0 input.stepB.deltaS := by
  unfold inattentiveTime
  cases hattentive : input.stepB.perception.isAttentive <;>
    simp [List.filter_append, hattentive]

theorem inattentive_time_nonneg (inputs : List RuntimeTickInput) : 0 ≤ inattentiveTime inputs := by
  refine List.sum_nonneg ?_
  intro delta hdelta
  obtain ⟨input, _, rfl⟩ := List.mem_map.mp hdelta
  exact le_max_left 0 input.stepB.deltaS

theorem stretch_concat (isAttentive : Bool) (inputs : List RuntimeTickInput)
    (input : RuntimeTickInput) :
    stretch isAttentive (inputs ++ [input]) =
      if input.stepB.perception.isAttentive = isAttentive then
        add (stretch isAttentive inputs) (max 0 input.stepB.deltaS)
      else 0 := by
  unfold stretch
  rw [List.rtakeWhile_concat]
  cases input.stepB.perception.isAttentive <;> cases isAttentive <;> simp

/-! ## Steady runs -/

/-- A tick in a speed band with the camera open and without a critical report. -/
structure Steady (band : SpeedBand) (input : RuntimeTickInput) : Prop where
  band : estimate input.stepB.jetracerInput04 = band
  camera_open : input.stepB.perception.cameraBlocked = false
  noCriticalReport : ¬ CriticalReport input.stepB.perception

/-- What a steady run from the start of a run cycle leads to. -/
structure SteadyInvariant (earlier : List RuntimeTickInput) (store : StateTimerStore) : Prop where
  sound : store.Sound
  no_critical_reason : isCriticalReason store.latestReason = false
  inattentive_eq : store.absentLatchedRunCycle = false →
    store.inattentiveElapsedS = stretch false earlier
  recover_eq : store.absentLatchedRunCycle = false → store.recoverElapsedS = stretch true earlier

variable {store : StateTimerStore} {input : RuntimeTickInput} {band : SpeedBand}
  {earlier : List RuntimeTickInput}

theorem Steady.thresholds_eq (h : Steady band input) : input.stepB.thresholds = schedule band := by
  rw [StepBInput.thresholds, h.band]

namespace SteadyInvariant

/-- The state and the timers after an attentive tick with the latch off. -/
theorem evaluate_attentive (h : SteadyInvariant earlier store) (hsteady : Steady band input)
    (hlatch : store.absentLatchedRunCycle = false)
    (hattentive : input.stepB.perception.isAttentive = true) :
    (evaluate input.stepB store).2.currentState =
        recover store.currentState (stretch true (earlier ++ [input])) ∧
      (evaluate input.stepB store).2.inattentiveElapsedS = 0 ∧
      (evaluate input.stepB store).2.recoverElapsedS = stretch true (earlier ++ [input]) := by
  have hnone := accept_reason_not_critical h.no_critical_reason hsteady.noCriticalReport
  have helapsed : recoverAfter store input.stepB = stretch true (earlier ++ [input]) := by
    rw [recoverAfter, h.recover_eq hlatch, stretch_concat, if_pos hattentive]
  rw [DcasPolicyEngine.evaluate_attentive hlatch hsteady.camera_open hnone hattentive, helapsed]
  exact ⟨rfl, rfl, rfl⟩

/-- The state and the timers after an inattentive tick with the latch off. -/
theorem evaluate_inattentive (h : SteadyInvariant earlier store)
    (hsteady : Steady band input) (hlatch : store.absentLatchedRunCycle = false)
    (hattentive : input.stepB.perception.isAttentive = false) :
    (evaluate input.stepB store).2.currentState =
        escalate (schedule band) store.currentState (stretch false (earlier ++ [input])) ∧
      (evaluate input.stepB store).2.inattentiveElapsedS = stretch false (earlier ++ [input]) ∧
      (evaluate input.stepB store).2.recoverElapsedS = 0 := by
  have hnone := accept_reason_not_critical h.no_critical_reason hsteady.noCriticalReport
  have helapsed : inattentiveAfter store input.stepB = stretch false (earlier ++ [input]) := by
    rw [inattentiveAfter, h.inattentive_eq hlatch, stretch_concat, if_pos hattentive]
  rw [DcasPolicyEngine.evaluate_inattentive hlatch hsteady.camera_open hnone hattentive, helapsed,
    hsteady.thresholds_eq]
  exact ⟨rfl, rfl, rfl⟩

/-- One more steady tick keeps the invariant. -/
theorem concat (h : SteadyInvariant earlier store) (hsteady : Steady band input) :
    SteadyInvariant (earlier ++ [input]) (evaluate input.stepB store).2 := by
  have hsound := evaluate_sound h.sound input.stepB
  have hreason := evaluate_not_critical h.no_critical_reason hsteady.noCriticalReport
    hsteady.camera_open
  cases hlatch : store.absentLatchedRunCycle with
  | true =>
      obtain ⟨_, _, _, hafter⟩ := evaluate_of_latched hlatch input.stepB
      refine ⟨hsound, hreason, ?_, ?_⟩
      · intro hunlatched
        rw [hafter] at hunlatched
        cases hunlatched
      · intro hunlatched
        rw [hafter] at hunlatched
        cases hunlatched
  | false =>
      cases hattentive : input.stepB.perception.isAttentive with
      | true =>
          obtain ⟨_, hinattentive, hrecover⟩ := h.evaluate_attentive hsteady hlatch hattentive
          refine ⟨hsound, hreason, fun _ => ?_, fun _ => hrecover⟩
          rw [hinattentive, stretch_concat, hattentive]
          rfl
      | false =>
          obtain ⟨_, hinattentive, hrecover⟩ := h.evaluate_inattentive hsteady hlatch hattentive
          refine ⟨hsound, hreason, fun _ => hinattentive, fun _ => ?_⟩
          rw [hrecover, stretch_concat, hattentive]
          rfl

end SteadyInvariant

/-! ## Following the inattentive time -/

/-- Every state whose threshold the time has reached is held. -/
def Reached (thresholds : Thresholds) (time : ℚ) (held : DriverState) : Prop :=
  ∀ state, thresholds.threshold state ≤ time → state ≤ held

/-- The tick keeps up with the inattentive time. From `ABSENT` on nothing matters. An attentive
stretch that the tick ends is too short for a recovery, or comes before the first threshold. An
inattentive stretch that the tick ends reaches the level of the total time, or does not count yet
while the state held is at this level. -/
def KeepsUp (band : SpeedBand) (earlier : List RuntimeTickInput) (held : DriverState)
    (input : RuntimeTickInput) : Prop :=
  held = .absent ∨
    if input.stepB.perception.isAttentive = true then
      stretch true (earlier ++ [input]) < (schedule band).tRecoverHoldS ∨
        inattentiveTime earlier < (schedule band).tWarnEffS
    else
      (schedule band).level (inattentiveTime (earlier ++ [input])) ≤
          (schedule band).level (stretch false (earlier ++ [input])) ∨
        stretch false (earlier ++ [input]) < (schedule band).tWarnEffS ∧
          (schedule band).level (inattentiveTime (earlier ++ [input])) ≤ held

instance (band : SpeedBand) (earlier : List RuntimeTickInput) (held : DriverState)
    (input : RuntimeTickInput) : Decidable (KeepsUp band earlier held input) :=
  inferInstanceAs (Decidable (_ ∨ ite _ _ _))

/-- The tick does not restart the inattention timer: it is inattentive, or the latch has stopped
the timer, or the inattentive stretch before it has no length. -/
def GoesOn (earlier : List RuntimeTickInput) (held : DriverState)
    (input : RuntimeTickInput) : Prop :=
  input.stepB.perception.isAttentive = true → held = .absent ∨ stretch false earlier = 0

/-- The state reaches what the inattentive time calls for exactly when it reaches its level. -/
theorem reached_iff (band : SpeedBand) (inputs : List RuntimeTickInput) (held : DriverState) :
    Reached (schedule band) (inattentiveTime inputs) held ↔
      (schedule band).level (inattentiveTime inputs) ≤ held := by
  have hlevel := (schedule_ordered band).le_level_iff (inattentive_time_nonneg inputs)
  constructor
  · intro hreached
    exact hreached _ ((hlevel _).mp le_rfl)
  · intro hheld state hthreshold
    exact ((hlevel state).mpr hthreshold).trans hheld

namespace SteadyInvariant

/-- One more tick keeps the state at the level of the inattentive time exactly when it keeps up. -/
theorem reached_concat_iff (h : SteadyInvariant earlier store) (hsteady : Steady band input)
    (hreached : Reached (schedule band) (inattentiveTime earlier) store.currentState) :
    Reached (schedule band) (inattentiveTime (earlier ++ [input]))
        (evaluate input.stepB store).2.currentState ↔
      KeepsUp band earlier store.currentState input := by
  have hordered := schedule_ordered band
  cases hlatch : store.absentLatchedRunCycle with
  | true =>
      obtain ⟨habsent, _⟩ := evaluate_of_latched hlatch input.stepB
      rw [evaluate_next_state_eq] at habsent
      refine iff_of_true ?_ (.inl (h.sound.latch_iff.mpr hlatch))
      intro state _
      exact habsent ▸ state.le_absent
  | false =>
      rw [reached_iff] at hreached ⊢
      rw [KeepsUp, or_iff_right (h.sound.ne_absent hlatch)]
      cases hattentive : input.stepB.perception.isAttentive with
      | true =>
          rw [(h.evaluate_attentive hsteady hlatch hattentive).1, if_pos rfl,
            inattentive_time_concat, if_pos hattentive, add_zero, schedule_recover]
          exact level_le_recover_iff hordered hreached _
      | false =>
          rw [(h.evaluate_inattentive hsteady hlatch hattentive).1, if_neg Bool.false_ne_true]
          exact level_le_escalate_iff hordered _ _ _

/-- One more tick does not take time off the timer exactly when it goes on. -/
theorem timer_le_concat_iff (h : SteadyInvariant earlier store) (hsteady : Steady band input) :
    store.inattentiveElapsedS ≤ (evaluate input.stepB store).2.inattentiveElapsedS ↔
      GoesOn earlier store.currentState input := by
  cases hlatch : store.absentLatchedRunCycle with
  | true =>
      rw [evaluate_latched hlatch]
      refine iff_of_true ?_ fun _ => .inl (h.sound.latch_iff.mpr hlatch)
      simp
  | false =>
      cases hattentive : input.stepB.perception.isAttentive with
      | true =>
          have hunlatched := h.sound.ne_absent hlatch
          have hnonneg := h.sound.inattentive_nonneg
          rw [(h.evaluate_attentive hsteady hlatch hattentive).2.1, GoesOn,
            ← h.inattentive_eq hlatch]
          simp [hattentive, hunlatched, hnonneg.ge_iff_eq']
      | false =>
          rw [(h.evaluate_inattentive hsteady hlatch hattentive).2.1, stretch_concat,
            if_pos hattentive, ← h.inattentive_eq hlatch]
          refine iff_of_true
            (h.sound.inattentive_rounded.le_add (le_max_left 0 input.stepB.deltaS)) ?_
          intro hcontradiction
          rw [hattentive] at hcontradiction
          cases hcontradiction

end SteadyInvariant

namespace PolicyRuntime

/-- The invariant of a new runtime. -/
theorem steady_invariant_new (runCycleId : UInt64) :
    SteadyInvariant [] (PolicyRuntime.new runCycleId).stepBStateStore :=
  ⟨StepBStateStore.sound_default, rfl, fun _ => rfl, fun _ => rfl⟩

/-- The invariant holds all along a steady run. -/
theorem steady_invariant_run (runCycleId : UInt64) {inputs : List RuntimeTickInput}
    (hsteady : ∀ input ∈ inputs, Steady band input) :
    ∀ earlier, earlier <+: inputs →
      SteadyInvariant earlier (runtime.run (.new runCycleId) earlier).stepBStateStore := by
  refine runtime.run_prefix_induction
    (fun earlier rt => SteadyInvariant earlier rt.stepBStateStore)
    (steady_invariant_new runCycleId) ?_
  intro earlier input hprefix hinvariant
  have hmem : input ∈ inputs := hprefix.subset (by simp)
  exact hinvariant.concat (hsteady input hmem)

/-- At the start of a run cycle nothing has been reached. -/
theorem reached_new (band : SpeedBand) (runCycleId : UInt64) :
    Reached (schedule band) (inattentiveTime []) (PolicyRuntime.new runCycleId).held := by
  have hordered := schedule_ordered band
  rw [reached_iff, show inattentiveTime [] = 0 from rfl, hordered.level_eq_ok hordered.warn_pos]
  exact DriverState.ok_le _

/-- Along a steady run from the start of a run cycle, the state reaches what the inattentive time
calls for at every point exactly when every tick keeps up with it, and the timer never loses time
exactly when it goes on at every tick. -/
theorem clock_kept_iff (runCycleId : UInt64) {inputs : List RuntimeTickInput}
    (hsteady : ∀ input ∈ inputs, Steady band input) :
    ((∀ earlier, earlier <+: inputs →
        Reached (schedule band) (inattentiveTime earlier)
          (runtime.run (.new runCycleId) earlier).held) ↔
      ∀ earlier input, earlier ++ [input] <+: inputs →
        KeepsUp band earlier (runtime.run (.new runCycleId) earlier).held input) ∧
    ((∀ earlier input, earlier ++ [input] <+: inputs →
        (runtime.run (.new runCycleId) earlier).stepBStateStore.inattentiveElapsedS ≤
          (runtime.run (.new runCycleId)
            (earlier ++ [input])).stepBStateStore.inattentiveElapsedS) ↔
      ∀ earlier input, earlier ++ [input] <+: inputs →
        GoesOn earlier (runtime.run (.new runCycleId) earlier).held input) := by
  have hinvariant : ∀ earlier input, earlier ++ [input] <+: inputs →
      SteadyInvariant earlier (runtime.run (.new runCycleId) earlier).stepBStateStore := by
    intro earlier input hprefix
    exact steady_invariant_run runCycleId hsteady earlier
      ((List.prefix_append earlier [input]).trans hprefix)
  have hnext : ∀ earlier input, earlier ++ [input] <+: inputs → Steady band input := by
    intro earlier input hprefix
    have hmem : input ∈ inputs := hprefix.subset (by simp)
    exact hsteady input hmem
  constructor
  · refine runtime.run_prefix_forall_iff
      (fun earlier rt => Reached (schedule band) (inattentiveTime earlier) rt.held)
      (fun earlier input => KeepsUp band earlier (runtime.run (.new runCycleId) earlier).held input)
      (reached_new band runCycleId) ?_
    intro earlier input hprefix hreached
    exact (hinvariant earlier input hprefix).reached_concat_iff (hnext earlier input hprefix)
      hreached
  · refine forall₃_congr ?_
    intro earlier input hprefix
    rw [runtime.run_concat]
    exact (hinvariant earlier input hprefix).timer_le_concat_iff (hnext earlier input hprefix)

/-- A tick of `deltaS` seconds in the middle speed band. -/
def midSpeedTick (isAttentive : Bool) (deltaS : ℚ) : RuntimeTickInput :=
  { stepB :=
      { perception := { isAttentive := isAttentive }
        jetracerInput04 := .num (literal 0.2)
        deltaS := deltaS } }

theorem mid_speed_tick_steady (isAttentive : Bool) (deltaS : ℚ) :
    Steady .mid (midSpeedTick isAttentive deltaS) := by
  have hband : estimate (.num (literal 0.2)) = .mid := by decide +kernel
  exact ⟨hband, rfl, by simp [CriticalReport, midSpeedTick]⟩

/-- Two inattentive ticks of four seconds each end in `ABSENT`. -/
theorem clock_kept_inattentive :
    Reached (schedule .mid) (inattentiveTime [midSpeedTick false 4, midSpeedTick false 4])
        (runtime.run (.new 1) [midSpeedTick false 4, midSpeedTick false 4]).held ∧
      (schedule .mid).threshold .absent ≤
        inattentiveTime [midSpeedTick false 4, midSpeedTick false 4] := by
  refine ⟨(clock_kept_iff 1 ?_).1.mpr ?_ _ List.prefix_rfl, by decide +kernel⟩
  · intro input hinput
    simp only [List.mem_cons, List.not_mem_nil, or_false, or_self] at hinput
    exact hinput ▸ mid_speed_tick_steady false 4
  · intro earlier input hprefix
    obtain _ | ⟨first, _ | ⟨second, rest⟩⟩ := earlier
    · have hinput : input = midSpeedTick false 4 := by simpa using hprefix
      rw [hinput]
      decide +kernel
    · obtain ⟨hfirst, hinput⟩ : first = midSpeedTick false 4 ∧ input = midSpeedTick false 4 := by
        simpa using hprefix
      rw [hfirst, hinput]
      decide +kernel
    · have hlength := hprefix.length_le
      simp at hlength

/-- Five times an inattentive tick of 1.9 s and a glance at the road of 0.1 s. -/
def glances : List RuntimeTickInput :=
  (List.replicate 5 [midSpeedTick false (literal 1.9), midSpeedTick true (literal 0.1)]).flatten

/-- The glances keep a driver in `OK` who is inattentive for 8 s and more in total, where `T_absent`
is 8 s. No two attentive ticks follow each other and none is as long as `T_recover_hold`. The timer
is set back by the first glance. -/
theorem clock_restarted_by_glances :
    (∀ input ∈ glances, estimate input.stepB.jetracerInput04 = .mid ∧
        input.stepB.perception.cameraBlocked = false ∧
        ¬ CriticalReport input.stepB.perception ∧ input.stepB.deltaS < 3) ∧
      glances.IsChain (fun first second => ¬ (first.stepB.perception.isAttentive = true ∧
        second.stepB.perception.isAttentive = true)) ∧
      (schedule .mid).threshold .absent = 8 ∧
      8 ≤ inattentiveTime glances ∧
      (runtime.run (.new 1) glances).held = .ok ∧
      (runtime.run (.new 1) (glances.take 2)).stepBStateStore.inattentiveElapsedS <
        (runtime.run (.new 1) (glances.take 1)).stepBStateStore.inattentiveElapsedS := by
  decide +kernel

end PolicyRuntime

end DcasPolicyEngine
