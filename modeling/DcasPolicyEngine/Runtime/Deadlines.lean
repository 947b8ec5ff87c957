import Mathlib.Algebra.Order.BigOperators.Group.List
import DcasPolicyEngine.Runtime.CriticalReason
import DcasPolicyEngine.Runtime.InattentiveRun
import DcasPolicyEngine.StepB.Bands

/-!
# Deadlines of inattentive ticks

While the driver stays inattentive, the inattention timer grows by the time of the ticks until the
latch stops it (`TimerCovers`), and it grows by no more than that (`Unhurried`). The speed band can
change on every tick, so the bounds at all speeds are those of the low band from above and of the
high band from below: `inattentive_deadlines`. `warning_chain` is about the time between the stages.
The times are added up in the format of the timer, which may differ from their sum by the
`roundingLoss`.
-/

namespace DcasPolicyEngine

open Rounding

/-- The times that ticks last. A negative delta counts as zero. -/
def durations (inputs : List RuntimeTickInput) : List ℚ :=
  inputs.map fun input => max 0 input.stepB.deltaS

@[simp] theorem durations_nil : durations [] = [] := rfl

@[simp] theorem durations_concat (inputs : List RuntimeTickInput) (input : RuntimeTickInput) :
    durations (inputs ++ [input]) = durations inputs ++ [max 0 input.stepB.deltaS] := by
  simp [durations]

theorem durations_nonneg (inputs : List RuntimeTickInput) :
    ∀ duration ∈ durations inputs, 0 ≤ duration := by
  intro duration hduration
  obtain ⟨input, _, rfl⟩ := List.mem_map.mp hduration
  exact le_max_left 0 input.stepB.deltaS

/-- What rounding can take from a timer during some ticks. -/
def roundingLoss (inputs : List RuntimeTickInput) : ℚ := inputs.length * 2 ^ (-50 : ℤ)

/-- The last ticks of a part of a run lose no more than the run. -/
theorem rounding_loss_later_le {inputs front later : List RuntimeTickInput}
    {first : RuntimeTickInput} (hsplit : front ++ first :: later <+: inputs) :
    roundingLoss later ≤ roundingLoss inputs := by
  have hlength := hsplit.length_le
  rw [List.length_append, List.length_cons] at hlength
  have hcast : (later.length : ℚ) ≤ inputs.length := Nat.cast_le.mpr (by omega)
  exact mul_le_mul_of_nonneg_right hcast (zpow_nonneg (by norm_num) _)

/-- A timer reaches a bound when the exact sum does with the rounding loss. -/
theorem le_add_up_durations {start bound : ℚ} (hrounded : IsRounded start) (hstart : 0 ≤ start)
    (hbound : bound ≤ 15) {inputs : List RuntimeTickInput}
    (h : bound + roundingLoss inputs ≤ start + (durations inputs).sum) :
    bound ≤ addUp start (durations inputs) := by
  have hlength : ((durations inputs).length : ℚ) * 2 ^ (-50 : ℤ) = roundingLoss inputs := by
    simp [durations, roundingLoss]
  obtain hlimit | hkept := loses_at_most_binary64.le_add_up (by norm_num) hrounded hstart
    (durations_nonneg inputs)
  · have hfar : (15 : ℚ) ≤ 16 - 2 ^ (-50 : ℤ) := by norm_num
    exact hbound.trans (hfar.trans hlimit)
  · rw [hlength] at hkept
    linarith

/-- Only `OK` and `WARNING` are below `ESCALATION`. -/
theorem DriverState.le_warning_of_lt {state : DriverState} (h : state < .escalation) :
    state ≤ .warning := by
  cases state with
  | ok => exact DriverState.ok_le _
  | warning => exact le_rfl
  | escalation => exact absurd h (lt_irrefl _)
  | absent => exact absurd h (by decide)

/-! ## One inattentive tick -/

/-- Without the latch, the inattention timer shows at least this time. -/
def TimerCovers (elapsed : ℚ) (store : StateTimerStore) : Prop :=
  store.absentLatchedRunCycle = false → elapsed ≤ store.inattentiveElapsedS

/-- The inattention timer shows at most this time, and the state is at most the one that the high
band calls for after it. -/
structure Unhurried (elapsed : ℚ) (store : StateTimerStore) : Prop where
  sound : store.Sound
  elapsed_rounded : IsRounded elapsed
  no_critical_reason : isCriticalReason store.latestReason = false
  timer_le : store.inattentiveElapsedS ≤ elapsed
  held_le : store.currentState ≤ (schedule .high).level elapsed

variable {store : StateTimerStore} {input : StepBInput} {elapsed : ℚ}

/-- The timer grows by the time of an inattentive tick. -/
theorem TimerCovers.evaluate (h : TimerCovers elapsed store)
    (hattentive : input.perception.isAttentive = false)
    (hopen : input.perception.cameraBlocked = false) :
    TimerCovers (add elapsed (max 0 input.deltaS)) (evaluate input store).2 := by
  intro hunlatched
  obtain ⟨hlatched, _⟩ | ⟨hlatch, _, htimer⟩ := evaluate_inattentive_cases store hattentive hopen
  · rw [hlatched] at hunlatched
    cases hunlatched
  · rw [htimer, inattentiveAfter]
    exact add_mono (h hlatch) le_rfl

/-- An inattentive tick reaches every state whose threshold the covered time reaches. -/
theorem TimerCovers.le_evaluate (h : TimerCovers elapsed store) (helapsed : 0 ≤ elapsed)
    (hattentive : input.perception.isAttentive = false)
    (hopen : input.perception.cameraBlocked = false) {state : DriverState}
    (hreached : input.thresholds.threshold state ≤ add elapsed (max 0 input.deltaS)) :
    state ≤ (DcasPolicyEngine.evaluate input store).2.currentState := by
  obtain ⟨_, habsent⟩ | ⟨hlatch, hstate, _⟩ :=
    evaluate_inattentive_cases store hattentive hopen
  · rw [habsent]
    exact state.le_absent
  · have htime : add elapsed (max 0 input.deltaS) ≤ inattentiveAfter store input :=
      add_mono (h hlatch) le_rfl
    have hnonneg := zero_le_add helapsed (le_max_left 0 input.deltaS)
    rw [hstate]
    exact le_escalate input.thresholds_ordered (hnonneg.trans htime) (hreached.trans htime) _

/-- Escalation does not lead above the level of the high band, if the state held is not above
it. -/
theorem escalate_le_high (input : StepBInput) {held : DriverState} {timer : ℚ} (htimer : 0 ≤ timer)
    (hle : timer ≤ elapsed) (hheld : held ≤ (schedule .high).level elapsed) :
    escalate input.thresholds held timer ≤ (schedule .high).level elapsed := by
  have hordered := schedule_ordered .high
  obtain ⟨_, hlevel⟩ | ⟨_, hkept⟩ := escalate_cases input.thresholds held timer
  · rw [hlevel]
    calc input.thresholds.level timer
        ≤ (schedule .high).level timer :=
          input.high_earlier_thresholds.level_le hordered input.thresholds_ordered htimer
      _ ≤ (schedule .high).level elapsed := hordered.level_mono htimer hle
  · rw [hkept]
    exact hheld

/-- An inattentive tick without a critical report takes no more time than its own. -/
theorem Unhurried.evaluate (h : Unhurried elapsed store)
    (hattentive : input.perception.isAttentive = false)
    (hopen : input.perception.cameraBlocked = false) (hreport : ¬ CriticalReport input.perception) :
    Unhurried (add elapsed (max 0 input.deltaS)) (evaluate input store).2 := by
  have hsound := evaluate_sound h.sound input
  have hrounded := is_rounded_add elapsed (max 0 input.deltaS)
  have hgrows : elapsed ≤ add elapsed (max 0 input.deltaS) :=
    h.elapsed_rounded.le_add (le_max_left 0 input.deltaS)
  have hnone := accept_reason_not_critical h.no_critical_reason hreport
  have hreason := evaluate_not_critical h.no_critical_reason hreport hopen
  have hheld : store.currentState ≤ (schedule .high).level (add elapsed (max 0 input.deltaS)) :=
    h.held_le.trans ((schedule_ordered .high).level_mono
      (h.sound.inattentive_nonneg.trans h.timer_le) hgrows)
  cases hlatch : store.absentLatchedRunCycle with
  | true =>
      -- the timer is frozen and the state was `ABSENT` before
      rw [h.sound.latch_iff.mpr hlatch] at hheld
      refine ⟨hsound, hrounded, hreason, ?_, ?_⟩
      · rw [evaluate_latched hlatch]
        simpa using h.timer_le.trans hgrows
      · rw [evaluate_latched hlatch]
        exact hheld
  | false =>
      have hafter : inattentiveAfter store input ≤ add elapsed (max 0 input.deltaS) :=
        add_mono h.timer_le le_rfl
      refine ⟨hsound, hrounded, hreason, ?_, ?_⟩
      · rw [evaluate_inattentive hlatch hopen hnone hattentive]
        exact hafter
      · rw [evaluate_inattentive hlatch hopen hnone hattentive]
        exact escalate_le_high input (inattentive_after_nonneg h.sound input) hafter hheld

/-! ## Runs of inattentive ticks -/

namespace PolicyRuntime

variable {self : PolicyRuntime}

/-- The timer covers the time of a run of inattentive ticks. -/
theorem timer_covers_run (h : TimerCovers elapsed self.stepBStateStore)
    {inputs : List RuntimeTickInput} (hinputs : ∀ input ∈ inputs, input.Inattentive) :
    TimerCovers (addUp elapsed (durations inputs)) (runtime.run self inputs).stepBStateStore := by
  refine runtime.run_prefix_induction
    (fun earlier rt => TimerCovers (addUp elapsed (durations earlier)) rt.stepBStateStore)
    (by simpa using h) ?_ inputs List.prefix_rfl
  intro earlier input hprefix hcovers
  have hmem : input ∈ inputs := hprefix.subset (by simp)
  obtain ⟨hattentive, hopen⟩ := hinputs input hmem
  rw [durations_concat, add_up_concat]
  exact hcovers.evaluate hattentive hopen

/-- A run of inattentive ticks is unhurried as long as no critical reason is reported. -/
theorem unhurried_run (h : Unhurried elapsed self.stepBStateStore)
    {inputs : List RuntimeTickInput} (hinputs : ∀ input ∈ inputs, input.Inattentive)
    (hreports : ∀ input ∈ inputs, ¬ CriticalReport input.stepB.perception) :
    Unhurried (addUp elapsed (durations inputs)) (runtime.run self inputs).stepBStateStore := by
  refine runtime.run_prefix_induction
    (fun earlier rt => Unhurried (addUp elapsed (durations earlier)) rt.stepBStateStore)
    (by simpa using h) ?_ inputs List.prefix_rfl
  intro earlier input hprefix hunhurried
  have hmem : input ∈ inputs := hprefix.subset (by simp)
  obtain ⟨hattentive, hopen⟩ := hinputs input hmem
  rw [durations_concat, add_up_concat]
  exact hunhurried.evaluate hattentive hopen (hreports input hmem)

/-- The last tick of a run of inattentive ticks reaches every state whose threshold the covered
time reaches. -/
theorem le_held_run (hcovers : TimerCovers elapsed self.stepBStateStore) (helapsed : 0 ≤ elapsed)
    {inputs : List RuntimeTickInput} {last : RuntimeTickInput}
    (hinputs : ∀ input ∈ inputs ++ [last], input.Inattentive) {state : DriverState}
    (hreached : last.stepB.thresholds.threshold state ≤
      addUp elapsed (durations (inputs ++ [last]))) :
    state ≤ (runtime.run self (inputs ++ [last])).held := by
  have hearlier := timer_covers_run hcovers
    fun input hmem => hinputs input (List.mem_append_left [last] hmem)
  obtain ⟨hattentive, hopen⟩ := hinputs last (by simp)
  rw [durations_concat, add_up_concat] at hreached
  rw [runtime.run_concat]
  exact hearlier.le_evaluate (add_up_nonneg helapsed (durations_nonneg inputs)) hattentive hopen
    hreached

/-- The timer of a reachable runtime is not negative. -/
theorem Sound.timer_covers_zero (h : self.Sound) : TimerCovers 0 self.stepBStateStore :=
  fun _ => h.store.inattentive_nonneg

/-- After inattentive ticks at any speeds the state is at least the one that the low band calls
for after their time. -/
theorem le_held_of_low (h : self.Reachable) {inputs : List RuntimeTickInput} (hne : inputs ≠ [])
    (hinputs : ∀ input ∈ inputs, input.Inattentive) {state : DriverState}
    (hreached : (schedule .low).threshold state ≤ addUp 0 (durations inputs)) :
    state ≤ (runtime.run self inputs).held := by
  obtain ⟨earlier, last, rfl⟩ := (List.eq_nil_or_concat' inputs).resolve_left hne
  refine le_held_run h.sound.timer_covers_zero le_rfl hinputs ?_
  exact (last.stepB.thresholds_earlier_low state).trans hreached

/-- The times before which the high band calls for nothing, for no `ESCALATION` and for no
`ABSENT`. -/
theorem level_high_of_lt {time : ℚ} (htime : 0 ≤ time) :
    (time < 1.5 → (schedule .high).level time = .ok) ∧
      (time < 3 → (schedule .high).level time ≤ .warning) ∧
      (time < 6 → (schedule .high).level time < .absent) := by
  have hordered := schedule_ordered .high
  have hwarning : (schedule .high).tWarnEffS = 1.5 := by decide +kernel
  have hescalation : (schedule .high).threshold .escalation = 3 := by decide +kernel
  have habsent : (schedule .high).threshold .absent = 6 := by decide +kernel
  refine ⟨?_, ?_, ?_⟩
  · intro hlt
    exact hordered.level_eq_ok (hwarning ▸ hlt)
  · intro hlt
    refine DriverState.le_warning_of_lt ?_
    rw [← not_le, hordered.le_level_iff htime, hescalation]
    exact hlt.not_ge
  · intro hlt
    rw [← not_le, hordered.le_level_iff htime, habsent]
    exact hlt.not_ge

/-- Inattentive ticks at any speeds and with any reasons lead to `WARNING` within 3 s, to
`ESCALATION` within 6 s and to latched `ABSENT` within 10 s. From `OK` with the timer at zero and
without a critical reason they do not lead there before 1.5 s, 3 s and 6 s. The time is added up in
the format. -/
theorem inattentive_deadlines (h : self.Reachable) {inputs : List RuntimeTickInput}
    (hne : inputs ≠ []) (hinputs : ∀ input ∈ inputs, input.Inattentive) :
    (3 ≤ addUp 0 (durations inputs) → .warning ≤ (runtime.run self inputs).held) ∧
      (6 ≤ addUp 0 (durations inputs) → .escalation ≤ (runtime.run self inputs).held) ∧
      (10 ≤ addUp 0 (durations inputs) → (runtime.run self inputs).held = .absent ∧
        (runtime.run self inputs).stepBStateStore.absentLatchedRunCycle = true) ∧
      (self.held = .ok → self.stepBStateStore.inattentiveElapsedS = 0 →
        isCriticalReason self.stepBStateStore.latestReason = false →
        (∀ input ∈ inputs, ¬ CriticalReport input.stepB.perception) →
        (addUp 0 (durations inputs) < 1.5 → (runtime.run self inputs).held = .ok) ∧
          (addUp 0 (durations inputs) < 3 → (runtime.run self inputs).held ≤ .warning) ∧
          (addUp 0 (durations inputs) < 6 → (runtime.run self inputs).held ≠ .absent)) := by
  have hwarning : (schedule .low).threshold .warning = 3 := by decide +kernel
  have hescalation : (schedule .low).threshold .escalation = 6 := by decide +kernel
  have habsent : (schedule .low).threshold .absent = 10 := by decide +kernel
  refine ⟨?_, ?_, ?_, ?_⟩
  · intro htime
    exact le_held_of_low h hne hinputs (hwarning ▸ htime)
  · intro htime
    exact le_held_of_low h hne hinputs (hescalation ▸ htime)
  · intro htime
    have hheld : (runtime.run self inputs).held = .absent :=
      le_antisymm (DriverState.le_absent _) (le_held_of_low h hne hinputs (habsent ▸ htime))
    exact ⟨hheld, (h.run inputs).sound.store.latch_iff.mp hheld⟩
  · intro hok htimer hnone hreports
    have hstart : Unhurried 0 self.stepBStateStore :=
      ⟨h.sound.store, is_rounded_zero, hnone, htimer.le, hok.trans_le (DriverState.ok_le _)⟩
    have hle := (unhurried_run hstart hinputs hreports).held_le
    obtain ⟨hok, hwarning, habsent⟩ :=
      level_high_of_lt (add_up_nonneg le_rfl (durations_nonneg inputs))
    refine ⟨fun htime => ?_, fun htime => ?_, fun htime => ?_⟩
    · exact le_antisymm (hle.trans_eq (hok htime)) (DriverState.ok_le _)
    · exact hle.trans (hwarning htime)
    · exact (hle.trans_lt (habsent htime)).ne

/-- Three inattentive seconds, half at the highest speed and half at standstill. -/
theorem inattentive_deadlines_mixed :
    .warning ≤ (runtime.run (.new 1) [inattentiveAt 0.4 1.5, inattentiveAt 0 1.5]).held ∧
      (runtime.run (.new 1) [inattentiveAt 0.4 1.5, inattentiveAt 0 1.5]).held ≠ .absent :=
  have hinputs : ∀ input ∈ [inattentiveAt 0.4 1.5, inattentiveAt 0 1.5], input.Inattentive := by
    simp [RuntimeTickInput.Inattentive, inattentiveAt]
  have hdeadlines := inattentive_deadlines (Reachable.new 1) (by simp) hinputs
  ⟨hdeadlines.1 (by decide +kernel),
    (hdeadlines.2.2.2 rfl rfl rfl (by simp [CriticalReport, inattentiveAt])).2.2
      (by decide +kernel)⟩

/-- The exact sum is not the time of the timer: 60 inattentive ticks of 50 ms at standstill last for
3 s and leave the driver in `OK`, and 50 of 60 ms at the highest speed last for less than 3 s and
lead to `ESCALATION`. -/
theorem inattentive_deadlines_rounded :
    (3 ≤ (durations (List.replicate 60 (inattentiveAt 0 0.05))).sum ∧
        ¬ .warning ≤ (runtime.run (.new 1) (List.replicate 60 (inattentiveAt 0 0.05))).held) ∧
      (durations (List.replicate 50 (inattentiveAt 0.4 0.06))).sum < 3 ∧
      ¬ (runtime.run (.new 1) (List.replicate 50 (inattentiveAt 0.4 0.06))).held ≤ .warning := by
  decide +kernel

/-! ## The time between the stages -/

/-- `tick` is the first tick after which the state is at least `state`. -/
structure FirstAt (rt : PolicyRuntime) (state : DriverState) (front : List RuntimeTickInput)
    (tick : RuntimeTickInput) : Prop where
  below : ∀ earlier, earlier <+: front → (runtime.run rt earlier).held < state
  reached : state ≤ (runtime.run rt (front ++ [tick])).held

/-- From the first tick at a state on, the timer has reached the threshold of the state in the speed
band of that tick. -/
theorem timer_covers_of_first (h : self.Reachable) {state : DriverState}
    {front : List RuntimeTickInput} {tick : RuntimeTickInput} (hinattentive : tick.Inattentive)
    (hfirst : self.FirstAt state front tick) :
    TimerCovers (tick.stepB.thresholds.threshold state)
      (runtime.run self (front ++ [tick])).stepBStateStore := by
  obtain ⟨hattentive, hopen⟩ := hinattentive
  have hordered := tick.stepB.thresholds_ordered
  have hbelow := hfirst.below front List.prefix_rfl
  have hreached := hfirst.reached
  have hnonneg := inattentive_after_nonneg (h.run front).sound.store tick.stepB
  rw [runtime.run_concat] at hreached ⊢
  intro hunlatched
  obtain ⟨hlatched, _⟩ | ⟨_, hstate, htimer⟩ :=
    evaluate_inattentive_cases (runtime.run self front).stepBStateStore hattentive hopen
  · exact absurd (hlatched.symm.trans hunlatched) (by decide)
  · have hescalated := hreached.trans_eq hstate
    obtain ⟨_, hlevel⟩ | ⟨_, hkept⟩ := escalate_cases tick.stepB.thresholds
      (runtime.run self front).stepBStateStore.currentState
      (inattentiveAfter (runtime.run self front).stepBStateStore tick.stepB)
    · exact ((hordered.le_level_iff hnonneg state).mp (hescalated.trans_eq hlevel)).trans_eq
        htimer.symm
    · -- below `T_warn` the tick would have kept the state held
      exact absurd (hescalated.trans_eq hkept) hbelow.not_ge

/-- The thresholds are numbers of the format that are not negative. -/
theorem schedule_threshold_rounded (band : SpeedBand) (state : DriverState) :
    IsRounded ((schedule band).threshold state) ∧ 0 ≤ (schedule band).threshold state := by
  show BinaryFormat.binary64.nearest _ = _ ∧ _
  cases band <;> cases state <;> decide +kernel

/-- Three seconds after `T_warn` of one band, `T_esc` of another has passed by half a second, unless
the other is the low band. -/
theorem schedule_esc_le_warn_add {escalated : SpeedBand} (h : escalated ≠ .low)
    (warned : SpeedBand) :
    (schedule escalated).tEscEffS + 1 / 2 ≤ (schedule warned).tWarnEffS + 3 := by
  revert h
  cases escalated <;> cases warned <;> decide +kernel

/-- No threshold of a band is later than 10 s, and `T_esc` is not before 3 s. -/
theorem schedule_threshold_bounds (band : SpeedBand) (state : DriverState) :
    (schedule band).threshold state ≤ 10 ∧ 3 ≤ (schedule band).tEscEffS := by
  cases band <;> cases state <;> decide +kernel

/-- A later tick of a run of inattentive ticks reaches every state whose threshold is reached, with
the rounding loss, by the time that the timer covered at a first tick and the time since then. -/
theorem le_held_after {elapsed : ℚ} (hrounded : IsRounded elapsed) (helapsed : 0 ≤ elapsed)
    {inputs front later : List RuntimeTickInput} {first tick : RuntimeTickInput}
    (hinputs : ∀ input ∈ inputs, input.Inattentive)
    (hsplit : front ++ first :: (later ++ [tick]) <+: inputs)
    (hcovers : TimerCovers elapsed (runtime.run self (front ++ [first])).stepBStateStore)
    {state : DriverState}
    (hreached : tick.stepB.thresholds.threshold state + roundingLoss (later ++ [tick]) ≤
      elapsed + (durations (later ++ [tick])).sum) :
    state ≤ (runtime.run self (front ++ first :: (later ++ [tick]))).held := by
  have hlater : ∀ input ∈ later ++ [tick], input.Inattentive := by
    intro input hmem
    refine hinputs input (hsplit.subset ?_)
    exact List.mem_append_right front (List.mem_cons_of_mem first hmem)
  have hbound : tick.stepB.thresholds.threshold state ≤ 15 :=
    (schedule_threshold_bounds _ state).1.trans (by norm_num)
  rw [List.append_cons front first, runtime.run_append]
  exact le_held_run hcovers helapsed hlater
    (le_add_up_durations hrounded helapsed hbound hreached)

/-- An inattentive tick in the low band without a critical reason leads to `ESCALATION` from below
exactly when the timer reaches 6 s. -/
theorem escalates_in_low_iff (h : self.Reachable) {tick : RuntimeTickInput}
    (hinattentive : tick.Inattentive) (hheld : self.held < .escalation)
    (hlow : estimate tick.stepB.jetracerInput04 = .low)
    (hnone : NoCriticalReason self.stepBStateStore tick.stepB) :
    .escalation ≤ (self.tick tick).2.held ↔
      6 ≤ (self.tick tick).2.stepBStateStore.inattentiveElapsedS := by
  obtain ⟨hattentive, hopen⟩ := hinattentive
  have hlatch : self.stepBStateStore.absentLatchedRunCycle = false := by
    rw [← Bool.not_eq_true, ← h.sound.store.latch_iff]
    exact (hheld.trans (by decide)).ne
  have hnonneg := inattentive_after_nonneg h.sound.store tick.stepB
  have hordered := schedule_ordered .low
  have hthresholds : tick.stepB.thresholds = schedule .low := congrArg schedule hlow
  have hescalation : (schedule .low).threshold .escalation = 6 := by decide +kernel
  have hwarn : (schedule .low).tWarnEffS ≤ 6 := by decide +kernel
  show .escalation ≤ (evaluate _ _).2.currentState ↔ 6 ≤ (evaluate _ _).2.inattentiveElapsedS
  rw [evaluate_inattentive hlatch hopen hnone hattentive, hthresholds]
  show .escalation ≤ escalate _ _ _ ↔ _
  obtain ⟨_, hlevel⟩ | ⟨hbelow, hkept⟩ := escalate_cases (schedule .low)
    self.stepBStateStore.currentState (inattentiveAfter self.stepBStateStore tick.stepB)
  · rw [hlevel, hordered.le_level_iff hnonneg, hescalation]
  · rw [hkept]
    exact iff_of_false hheld.not_ge (hbelow.trans_le hwarn).not_ge

/-- In a run of inattentive ticks, 3 s after the tick that leaves `OK` every tick is at least in
`ESCALATION` that is not in the low band. One in the low band is so if the tick that left `OK` was
too, or when the time on the timer reaches the 6 s of the low band, in both cases with the rounding
loss. Before the first `ESCALATION` a tick in the low band leads there exactly when the timer
reaches these 6 s, unless a reason is critical. From 10 s after the first `ESCALATION` every tick is
in `ABSENT`. The rounding loss of a run is at most half a second. -/
theorem warning_chain (h : self.Reachable) {inputs : List RuntimeTickInput}
    (hinputs : ∀ input ∈ inputs, input.Inattentive) (hloss : roundingLoss inputs ≤ 1 / 2) :
    (∀ front leave later tick, front ++ leave :: (later ++ [tick]) <+: inputs →
      self.FirstAt .warning front leave → 3 ≤ (durations (later ++ [tick])).sum →
      (estimate tick.stepB.jetracerInput04 ≠ .low ∨
        estimate leave.stepB.jetracerInput04 = .low ∧
          3 + roundingLoss (later ++ [tick]) ≤ (durations (later ++ [tick])).sum ∨
        6 + roundingLoss (later ++ [tick]) ≤
          (runtime.run self (front ++ [leave])).stepBStateStore.inattentiveElapsedS +
            (durations (later ++ [tick])).sum) →
      .escalation ≤ (runtime.run self (front ++ leave :: (later ++ [tick]))).held) ∧
    (∀ front tick, front ++ [tick] <+: inputs →
      (∀ earlier, earlier <+: front → (runtime.run self earlier).held < .escalation) →
      estimate tick.stepB.jetracerInput04 = .low →
      NoCriticalReason (runtime.run self front).stepBStateStore tick.stepB →
      (.escalation ≤ (runtime.run self (front ++ [tick])).held ↔
        6 ≤ (runtime.run self (front ++ [tick])).stepBStateStore.inattentiveElapsedS)) ∧
    ∀ front first later tick, front ++ first :: (later ++ [tick]) <+: inputs →
      self.FirstAt .escalation front first → 10 ≤ (durations (later ++ [tick])).sum →
      (runtime.run self (front ++ first :: (later ++ [tick]))).held = .absent := by
  refine ⟨?_, ?_, ?_⟩
  · intro front leave later tick hsplit hfirst htime hband
    have hleave : leave.Inattentive := hinputs leave (hsplit.subset (by simp))
    have hsound := (h.run (front ++ [leave])).sound.store
    have hpart := (rounding_loss_later_le hsplit).trans hloss
    rw [← or_assoc] at hband
    obtain hband | htimer := hband
    · obtain ⟨hrounded, hnonneg⟩ :=
        schedule_threshold_rounded (estimate leave.stepB.jetracerInput04) .warning
      refine le_held_after hrounded hnonneg hinputs hsplit
        (timer_covers_of_first h hleave hfirst) ?_
      show tick.stepB.thresholds.tEscEffS + _ ≤ leave.stepB.thresholds.tWarnEffS + _
      by_cases htick : estimate tick.stepB.jetracerInput04 = .low
      · obtain ⟨hlow, htime⟩ := hband.resolve_left (not_not_intro htick)
        have hesc : tick.stepB.thresholds.tEscEffS = 6 :=
          (congrArg (fun band => (schedule band).tEscEffS) htick).trans (by decide +kernel)
        have hwarn : leave.stepB.thresholds.tWarnEffS = 3 :=
          (congrArg (fun band => (schedule band).tWarnEffS) hlow).trans (by decide +kernel)
        linarith
      · have hesc : tick.stepB.thresholds.tEscEffS + 1 / 2 ≤ leave.stepB.thresholds.tWarnEffS + 3 :=
          schedule_esc_le_warn_add htick _
        linarith
    · refine le_held_after hsound.inattentive_rounded hsound.inattentive_nonneg hinputs hsplit
        (fun _ => le_rfl) ?_
      have hlow : (schedule .low).threshold .escalation = 6 := by decide +kernel
      have hesc := (tick.stepB.thresholds_earlier_low .escalation).trans_eq hlow
      linarith
  · intro front tick hsplit hbelow hlow hnone
    have htick : tick.Inattentive := hinputs tick (hsplit.subset (by simp))
    rw [runtime.run_concat]
    exact escalates_in_low_iff (h.run front) htick (hbelow front List.prefix_rfl) hlow hnone
  · intro front first later tick hsplit hfirst htime
    have hpart := (rounding_loss_later_le hsplit).trans hloss
    have hinattentive : first.Inattentive := hinputs first (hsplit.subset (by simp))
    obtain ⟨hrounded, hnonneg⟩ :=
      schedule_threshold_rounded (estimate first.stepB.jetracerInput04) .escalation
    have hescalated : 3 ≤ first.stepB.thresholds.threshold .escalation :=
      (schedule_threshold_bounds _ .escalation).2
    have habsent : tick.stepB.thresholds.threshold .absent ≤ 10 :=
      (schedule_threshold_bounds _ .absent).1
    refine le_antisymm (DriverState.le_absent _) (le_held_after hrounded hnonneg hinputs hsplit
      (timer_covers_of_first h hinattentive hfirst) ?_)
    show tick.stepB.thresholds.threshold .absent + _ ≤ first.stepB.thresholds.threshold _ + _
    linarith

/-- One and a half inattentive seconds at the highest speed leave `OK`. -/
theorem first_at_high :
    (PolicyRuntime.new 1).FirstAt .warning [] (inattentiveAt 0.4 1.5) := by
  refine ⟨?_, by decide +kernel⟩
  intro earlier hearlier
  rw [List.prefix_nil.mp hearlier]
  decide

/-- Four seconds after the tick that left `OK` at the highest speed the state is `ESCALATION`. -/
theorem warning_chain_high :
    .escalation ≤ (runtime.run (.new 1) [inattentiveAt 0.4 1.5, inattentiveAt 0.4 4]).held :=
  have hinputs : ∀ input ∈ [inattentiveAt 0.4 1.5, inattentiveAt 0.4 4], input.Inattentive := by
    simp [RuntimeTickInput.Inattentive, inattentiveAt]
  (warning_chain (Reachable.new 1) hinputs (by norm_num [roundingLoss])).1 [] _ [] _
    List.prefix_rfl first_at_high (by decide +kernel) (.inl (by decide +kernel))

/-- Three seconds at standstill after the tick that left `OK` at the highest speed the state is
still `WARNING`. At standstill all the time it is so after 60 ticks of 50 ms, since the timer is
just below the 6 s. -/
theorem warning_chain_slowed_down :
    (∀ input ∈ [inattentiveAt 0.4 1.5, inattentiveAt 0 3], input.Inattentive) ∧
      (PolicyRuntime.new 1).FirstAt .warning [] (inattentiveAt 0.4 1.5) ∧
      (durations [inattentiveAt 0 3]).sum = 3 ∧
      (runtime.trace (.new 1) [inattentiveAt 0.4 1.5, inattentiveAt 0 3]).map
        (fun e => e.output.stepB.nextState) = [.warning, .warning] ∧
      ¬ .escalation ≤ (runtime.run (.new 1) [inattentiveAt 0.4 1.5, inattentiveAt 0 3]).held ∧
      (runtime.run (.new 1) [inattentiveAt 0 3]).held = .warning ∧
      3 ≤ (durations (List.replicate 60 (inattentiveAt 0 0.05))).sum ∧
      ¬ .escalation ≤ (runtime.run (.new 1)
        (inattentiveAt 0 3 :: List.replicate 60 (inattentiveAt 0 0.05))).held := by
  refine ⟨?_, first_at_high, by decide +kernel, by decide +kernel, by decide +kernel⟩
  simp [RuntimeTickInput.Inattentive, inattentiveAt]

end PolicyRuntime

end DcasPolicyEngine
