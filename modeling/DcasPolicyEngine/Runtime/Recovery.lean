import Mathlib.Algebra.Order.BigOperators.Group.List
import Mathlib.Data.List.DropRight
import DcasPolicyEngine.Runtime.Invariants
import DcasPolicyEngine.StepB.Recovery

/-!
# Recovery and the attentive stretch

A warned driver should recover by the length of the current attentive stretch. The recovery
timer measures something else: a tick with the camera blocked leaves through the camera exit and
does not reset it, and the timer is added up in rounded steps. `recover_elapsed_s_run` says what the
timer measures, and `recovers_by_stretch_iff` when the difference matters.
-/

namespace DcasPolicyEngine

open Rounding

namespace RuntimeCall

/-- A tick of an attentive driver with the camera open. -/
def attentive : RuntimeCall → Bool
  | .tick input => input.stepB.perception.isAttentive && !input.stepB.perception.cameraBlocked
  | .resetForNewRunCycle _ => false

/-- A tick of an inattentive driver with the camera open, or a reset. Both set the recovery timer
to zero. -/
def restartsRecovery : RuntimeCall → Bool
  | .tick input => !input.stepB.perception.isAttentive && !input.stepB.perception.cameraBlocked
  | .resetForNewRunCycle _ => true

/-- The time that a call adds to a timer. -/
def deltaS : RuntimeCall → ℚ
  | .tick input => max 0 input.stepB.deltaS
  | .resetForNewRunCycle _ => 0

theorem not_restarts_recovery_of_attentive {call : RuntimeCall} (h : call.attentive = true) :
    call.restartsRecovery = false := by
  cases call with
  | tick input => simp_all [attentive, restartsRecovery]
  | resetForNewRunCycle runCycleId => cases h

end RuntimeCall

/-- The length of the attentive stretch that the calls end with. -/
def attentiveStretch (calls : List RuntimeCall) : ℚ :=
  ((calls.rtakeWhile RuntimeCall.attentive).map RuntimeCall.deltaS).sum

/-- The attentive time since the last call that restarts the recovery timer, added up in the format.
Ticks with the camera blocked count for nothing and restart nothing. -/
def attentiveSinceRestart (calls : List RuntimeCall) : ℚ :=
  addUp 0 (((calls.rtakeWhile fun call => !call.restartsRecovery).filter
    RuntimeCall.attentive).map RuntimeCall.deltaS)

theorem attentive_stretch_concat (calls : List RuntimeCall) (call : RuntimeCall) :
    attentiveStretch (calls ++ [call]) =
      if call.attentive = true then attentiveStretch calls + call.deltaS else 0 := by
  unfold attentiveStretch
  rw [List.rtakeWhile_concat]
  split <;> simp

theorem attentive_since_restart_concat (calls : List RuntimeCall) (call : RuntimeCall) :
    attentiveSinceRestart (calls ++ [call]) =
      if call.restartsRecovery = true then 0
      else if call.attentive = true then add (attentiveSinceRestart calls) call.deltaS
      else attentiveSinceRestart calls := by
  unfold attentiveSinceRestart
  rw [List.rtakeWhile_concat]
  cases call.restartsRecovery <;> cases hattentive : call.attentive <;>
    simp [List.filter_append, hattentive]

/-! ## What the recovery timer measures -/

/-- An evaluation that leaves the latch off advances the recovery timer, keeps it with the camera
blocked, or resets it. -/
theorem recover_elapsed_s_evaluate {store : StateTimerStore} {input : StepBInput}
    (h : (evaluate input store).2.absentLatchedRunCycle = false) :
    store.absentLatchedRunCycle = false ∧
      (evaluate input store).2.recoverElapsedS =
        if input.perception.cameraBlocked = true then store.recoverElapsedS
        else if input.perception.isAttentive = true then recoverAfter store input
        else 0 := by
  cases exits input store with
  | latched hlatch =>
      rw [evaluate_latched hlatch] at h
      simp [hlatch] at h
  | camera hlatch hbelow =>
      refine ⟨hlatch, ?_⟩
      simp [evaluate_camera hlatch hbelow, hbelow.1]
  | critical hlatch hbelow hcritical =>
      rw [evaluate_critical hlatch hbelow hcritical] at h
      cases h
  | timers hlatch hblocked hcritical =>
      refine ⟨hlatch, ?_⟩
      cases hattentive : input.perception.isAttentive with
      | true => simp [evaluate_attentive hlatch hblocked hcritical hattentive, hblocked]
      | false => simp [evaluate_inattentive hlatch hblocked hcritical hattentive, hblocked]

namespace PolicyRuntime

/-- While the latch is off, the recovery timer is the attentive time since the last restart. -/
theorem recover_elapsed_s_run (runCycleId : UInt64) (calls : List RuntimeCall) :
    (runtimeCalls.run (.new runCycleId) calls).stepBStateStore.absentLatchedRunCycle = false →
      (runtimeCalls.run (.new runCycleId) calls).stepBStateStore.recoverElapsedS =
        attentiveSinceRestart calls := by
  refine runtimeCalls.run_prefix_induction
    (fun calls rt => rt.stepBStateStore.absentLatchedRunCycle = false →
      rt.stepBStateStore.recoverElapsedS = attentiveSinceRestart calls)
    ?_ ?_ calls List.prefix_rfl
  · intro _
    rfl
  · intro earlier call _ ih hlatch
    rw [attentive_since_restart_concat]
    cases call with
    | tick input =>
        obtain ⟨hbefore, htimer⟩ := recover_elapsed_s_evaluate hlatch
        refine htimer.trans ?_
        rw [recoverAfter, ih hbefore]
        cases hblocked : input.stepB.perception.cameraBlocked <;>
          cases hattentive : input.stepB.perception.isAttentive <;>
            simp [RuntimeCall.restartsRecovery, RuntimeCall.attentive, RuntimeCall.deltaS,
              hblocked, hattentive]
    | resetForNewRunCycle runCycleId => rfl

/-! ## Recovery by the attentive stretch -/

/-- The runtime holds `WARNING` or `ESCALATION`. -/
def Warned (self : PolicyRuntime) : Prop :=
  self.held = .warning ∨ self.held = .escalation

/-- The tick treats `span` as the time for which the driver has been attentive: it leaves a
warned state for `OK` and confirms re-engagement, with which the HMI drops to `INFO`, only when
`span` is long enough, and without a critical reason it does so then. -/
structure RecoversBy (rt : PolicyRuntime) (input : RuntimeTickInput) (span : ℚ) : Prop where
  ok_only : rt.Warned → (rt.tick input).1.stepB.nextState = .ok → 3 ≤ span
  reengaged_only : (rt.tick input).1.stepB.reengagementConfirmed200ms = true → 0.2 ≤ span
  info_only : ((rt.tick input).1.stepB.nextState = .warning ∨
      (rt.tick input).1.stepB.nextState = .escalation) →
    input.stepC.driverOverride = false → (rt.tick input).1.stepC.hmiAction = .info → 0.2 ≤ span
  restores : rt.Warned → NoCriticalReason rt.stepBStateStore input.stepB → 3 ≤ span →
    (rt.tick input).1.stepB.nextState = .ok
  confirms : rt.Warned → NoCriticalReason rt.stepBStateStore input.stepB → 0.2 ≤ span → span < 3 →
    (rt.tick input).1.stepB.reengagementConfirmed200ms = true ∧
      (rt.tick input).1.stepB.nextState = rt.held

variable {self : PolicyRuntime} {input : RuntimeTickInput}

theorem Warned.ne_ok (h : self.Warned) : self.held ≠ .ok := by
  rcases h with h | h <;> simp [h]

/-- A warned runtime has the latch off. -/
theorem Sound.unlatched_of_warned (h : self.Sound) (hwarned : self.Warned) :
    self.stepBStateStore.absentLatchedRunCycle = false := by
  cases hlatch : self.stepBStateStore.absentLatchedRunCycle with
  | false => rfl
  | true =>
      have habsent : self.held = .absent := h.store.latch_iff.mpr hlatch
      rcases hwarned with hheld | hheld <;> simp [hheld] at habsent

/-- A runtime above `OK` with the latch off is warned. -/
theorem Sound.warned_of_ne_ok (h : self.Sound) (hheld : self.held ≠ .ok)
    (hlatch : self.stepBStateStore.absentLatchedRunCycle = false) : self.Warned := by
  have habsent := h.held_ne_absent hlatch
  unfold Warned
  cases hstate : self.held <;> simp_all

/-- In a warned state the HMI shows `INFO` without an override only when re-engagement is
confirmed. -/
theorem reengaged_of_info (hnext : (self.tick input).1.stepB.nextState = .warning ∨
      (self.tick input).1.stepB.nextState = .escalation)
    (hnone : input.stepC.driverOverride = false)
    (hinfo : (self.tick input).1.stepC.hmiAction = .info) :
    (self.tick input).1.stepB.reengagementConfirmed200ms = true := by
  have hoverride : ¬ self.Overridden input := by
    intro hoverridden
    obtain ⟨hset, _⟩ := hoverridden
    rw [hnone] at hset
    cases hset
  rw [tick_hmi_action, if_neg hoverride] at hinfo
  by_contra hunconfirmed
  rcases hnext with hstate | hstate
  · rw [hstate, StepC.hmiOfState, if_neg hunconfirmed] at hinfo
    cases hinfo
  · rw [hstate, StepC.hmiOfState, if_neg hunconfirmed] at hinfo
    cases hinfo

/-- With a positive span of attention and no critical reason, a warned runtime recovers. -/
theorem recovers_of_span {span : ℚ} (h : self.Sound)
    (hspan : 0 < span → (RuntimeCall.tick input).attentive = true) (hpos : 0 < span)
    (hwarned : self.Warned) (hnone : NoCriticalReason self.stepBStateStore input.stepB) :
    Recovers self.stepBStateStore input.stepB := by
  have hattentive := hspan hpos
  simp only [RuntimeCall.attentive, Bool.and_eq_true, Bool.not_eq_true'] at hattentive
  exact ⟨h.unlatched_of_warned hwarned, hattentive.2, hnone, hattentive.1⟩

/-- The two bounds of a recovery are in order. -/
theorem literal_reengagement_le : literal 0.2 ≤ 3 := by decide +kernel

/-- A tick recovers by a span, which is zero unless the driver is attentive with the camera open,
exactly when the recovery timer of a warned driver reaches the two bounds together with the
span. -/
theorem recovers_by_iff {span : ℚ} (h : self.Sound)
    (hspan : 0 < span → (RuntimeCall.tick input).attentive = true) :
    self.RecoversBy input span ↔
      (self.Warned → Recovers self.stepBStateStore input.stepB →
        (3 ≤ recoverAfter self.stepBStateStore input.stepB ↔ 3 ≤ span) ∧
          (literal 0.2 ≤ recoverAfter self.stepBStateStore input.stepB ↔ 0.2 ≤ span)) := by
  constructor
  · intro hspanned hwarned hrecovers
    have hhold : 3 ≤ recoverAfter self.stepBStateStore input.stepB ↔ 3 ≤ span := by
      constructor
      · intro hreached
        exact hspanned.ok_only hwarned
          ((next_state_eq_ok_iff hwarned.ne_ok).mpr ⟨hrecovers, hreached⟩)
      · intro hlong
        have hok := hspanned.restores hwarned hrecovers.no_critical_reason hlong
        exact ((next_state_eq_ok_iff hwarned.ne_ok).mp hok).2
    refine ⟨hhold, ?_, ?_⟩
    · intro hreached
      by_cases hlong : 3 ≤ recoverAfter self.stepBStateStore input.stepB
      · have hspanLong := hhold.mp hlong
        linarith
      · -- the state is held below 3 s, and then 0.2 s confirm re-engagement
        exact hspanned.reengaged_only (reengagement_confirmed_iff.mpr
          ⟨hrecovers, hwarned.ne_ok, hreached, not_le.mp hlong⟩)
    · intro hlong
      by_cases hheld : 3 ≤ span
      · exact literal_reengagement_le.trans (hhold.mpr hheld)
      · obtain ⟨hconfirmed, _⟩ :=
          hspanned.confirms hwarned hrecovers.no_critical_reason hlong (not_le.mp hheld)
        exact (reengagement_confirmed_iff.mp hconfirmed).2.2.1
  · intro hbounds
    have hreengaged : (self.tick input).1.stepB.reengagementConfirmed200ms = true →
        0.2 ≤ span := by
      intro hconfirmed
      obtain ⟨hrecovers, hheld, hreached, _⟩ := reengagement_confirmed_iff.mp hconfirmed
      have hwarned := h.warned_of_ne_ok hheld hrecovers.unlatched
      exact (hbounds hwarned hrecovers).2.mp hreached
    refine ⟨?_, hreengaged, ?_, ?_, ?_⟩
    · intro hwarned hok
      obtain ⟨hrecovers, hreached⟩ := (next_state_eq_ok_iff hwarned.ne_ok).mp hok
      exact (hbounds hwarned hrecovers).1.mp hreached
    · intro hnext hnone hinfo
      exact hreengaged (reengaged_of_info hnext hnone hinfo)
    · intro hwarned hnone hlong
      have hrecovers := recovers_of_span h hspan (by linarith) hwarned hnone
      exact (next_state_eq_ok_iff hwarned.ne_ok).mpr
        ⟨hrecovers, (hbounds hwarned hrecovers).1.mpr hlong⟩
    · intro hwarned hnone hlong hshort
      have hpos : 0 < span := lt_of_lt_of_le (by norm_num) hlong
      have hrecovers := recovers_of_span h hspan hpos hwarned hnone
      obtain ⟨hhold, hconfirm⟩ := hbounds hwarned hrecovers
      -- the timer cannot have reached the hold time, because the span has not
      have hbelow : recoverAfter self.stepBStateStore input.stepB < 3 := by
        by_contra hreached
        exact absurd (hhold.mp (not_lt.mp hreached)) hshort.not_ge
      refine ⟨reengagement_confirmed_iff.mpr
        ⟨hrecovers, hwarned.ne_ok, hconfirm.mpr hlong, hbelow⟩, ?_⟩
      exact hrecovers.evaluate_eq.1.trans (recover_eq_held hbelow _)

/-- On an attentive tick with the latch off, the recovery timer advances to the attentive time
since the last restart. -/
theorem recover_after_run {runCycleId : UInt64} {calls : List RuntimeCall}
    (hlatch : (runtimeCalls.run (.new runCycleId)
      calls).stepBStateStore.absentLatchedRunCycle = false)
    (hattentive : (RuntimeCall.tick input).attentive = true) :
    recoverAfter (runtimeCalls.run (.new runCycleId) calls).stepBStateStore input.stepB =
      attentiveSinceRestart (calls ++ [.tick input]) := by
  have hcontinues := RuntimeCall.not_restarts_recovery_of_attentive hattentive
  rw [attentive_since_restart_concat, if_neg (by simp [hcontinues]), if_pos hattentive,
    recoverAfter, recover_elapsed_s_run runCycleId calls hlatch]
  rfl

/-- Only an attentive stretch with the camera open has a length. -/
theorem attentive_of_stretch_pos {calls : List RuntimeCall} {call : RuntimeCall}
    (hpos : 0 < attentiveStretch (calls ++ [call])) : call.attentive = true := by
  by_contra hother
  rw [attentive_stretch_concat, if_neg hother] at hpos
  exact lt_irrefl 0 hpos

/-- After every run of calls from a new runtime, the next tick recovers by the attentive stretch
that ends with it, exactly when, in a warned state that advances the recovery timer, the
attentive time since the last restart, added up in the format, reaches 3 s together with the
stretch, and the number next to 200 ms as well. -/
theorem recovers_by_stretch_iff (runCycleId : UInt64) (calls : List RuntimeCall)
    (input : RuntimeTickInput) :
    (runtimeCalls.run (.new runCycleId) calls).RecoversBy input
        (attentiveStretch (calls ++ [.tick input])) ↔
      ((runtimeCalls.run (.new runCycleId) calls).Warned →
        Recovers (runtimeCalls.run (.new runCycleId) calls).stepBStateStore input.stepB →
          (3 ≤ attentiveSinceRestart (calls ++ [.tick input]) ↔
              3 ≤ attentiveStretch (calls ++ [.tick input])) ∧
            (literal 0.2 ≤ attentiveSinceRestart (calls ++ [.tick input]) ↔
              0.2 ≤ attentiveStretch (calls ++ [.tick input]))) := by
  have hsound : (runtimeCalls.run (.new runCycleId) calls).Sound :=
    ((Reachable.new runCycleId).calls calls).sound
  rw [recovers_by_iff hsound attentive_of_stretch_pos]
  refine forall_congr' fun hwarned => forall_congr' fun hrecovers => ?_
  have hattentive : (RuntimeCall.tick input).attentive = true := by
    simp [RuntimeCall.attentive, hrecovers.attentive, hrecovers.camera_open]
  rw [recover_after_run hrecovers.unlatched hattentive]

/-- A tick of `deltaS` seconds. -/
def tickFor (deltaS : ℚ) (isAttentive cameraBlocked : Bool) : RuntimeTickInput :=
  { stepB :=
      { perception := { isAttentive := isAttentive, cameraBlocked := cameraBlocked }
        deltaS := deltaS } }

/-- Five attentive seconds in the state `OK`, an inattentive tick with the camera covered that gives
`WARNING`, and ten attentive milliseconds: the driver is `OK` again. -/
theorem recovers_without_stretch :
    (runtimeCalls.run (.new 1)
        [.tick (tickFor 5 true false), .tick (tickFor (literal 0.02) false true)]).held =
        .warning ∧
      attentiveStretch [.tick (tickFor 5 true false), .tick (tickFor (literal 0.02) false true),
        .tick (tickFor (literal 0.01) true false)] < 0.02 ∧
      ((runtimeCalls.run (.new 1)
        [.tick (tickFor 5 true false), .tick (tickFor (literal 0.02) false true)]).tick
          (tickFor (literal 0.01) true false)).1.stepB.nextState = .ok := by
  decide +kernel

end PolicyRuntime

end DcasPolicyEngine
