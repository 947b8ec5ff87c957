import DcasPolicyEngine.Runtime.Latch

/-!
# The override lock

An MRM is locked when no override can cancel it any more. The lock is set by the activation
count alone and not by the reason: `locked_mrm_iff` says when a tick in `ABSENT` ends with the
lock set, and `locked_mrm_run` that from then on every tick is a locked MRM until the reset.
-/

namespace DcasPolicyEngine

/-- A tick that performs an MRM and leaves the override lock set. -/
structure LockedMrm (e : RuntimeEvent) : Prop where
  lock : e.after.stepCLatchedState.driverOverrideLock = true
  mrmActive : e.output.stepC.mrmActive = true
  hmiAction : e.output.stepC.hmiAction = .mrm
  throttleLimit : e.output.stepC.throttleLimit = .num 0

namespace PolicyRuntime

variable {self : PolicyRuntime} {input : RuntimeTickInput}

/-- The lock is set already, or an MRM tick has been counted before and the driver does not
override now. -/
def LockDue (self : PolicyRuntime) (input : RuntimeTickInput) : Prop :=
  self.stepCLatchedState.driverOverrideLock = true ∨
    1 ≤ self.stepCLatchedState.mrmActivationCountRunCycle ∧ input.stepC.driverOverride = false

instance (self : PolicyRuntime) (input : RuntimeTickInput) : Decidable (self.LockDue input) :=
  inferInstanceAs (Decidable (_ ∨ _))

/-- With the lock due, the override branch is not taken. -/
theorem LockDue.not_overridden (h : self.LockDue input) : ¬ self.Overridden input := by
  intro hoverridden
  obtain ⟨hoverride, hlock⟩ := hoverridden
  rcases h with hset | ⟨_, hnone⟩
  · rw [hset] at hlock
    cases hlock
  · rw [hoverride] at hnone
    cases hnone

/-- A tick in `ABSENT` leaves the lock set exactly when that is due. -/
theorem lock_after_absent_iff (h : self.Sound)
    (habsent : (self.tick input).1.stepB.nextState = .absent) :
    (self.tick input).2.stepCLatchedState.driverOverrideLock = true ↔ self.LockDue input := by
  rw [tick_lock_iff, tick_count, if_congr tick_mrm_active_iff rfl rfl]
  constructor
  · intro hafter
    rcases hafter with hlock | hcount
    · exact .inl hlock
    · by_cases hoverride : self.Overridden input
      · -- an overridden tick is not counted, so the lock was set before
        rw [if_neg fun hmrm => hmrm.2 hoverride, Nat.add_zero, ← h.lock_iff] at hcount
        exact .inl hcount
      · rw [if_pos ⟨habsent, hoverride⟩] at hcount
        cases hlock : self.stepCLatchedState.driverOverrideLock with
        | true => exact .inl hlock
        | false =>
            have hnone : input.stepC.driverOverride = false := by
              simpa [Overridden, hlock] using hoverride
            exact .inr ⟨by omega, hnone⟩
  · intro hdue
    rw [if_pos ⟨habsent, hdue.not_overridden⟩]
    rcases hdue with hlock | ⟨hcount, _⟩
    · exact .inl hlock
    · exact .inr (by omega)

/-- A tick in `ABSENT` is a locked MRM exactly when the lock is due. -/
theorem locked_mrm_iff (h : self.Sound)
    (habsent : (self.tick input).1.stepB.nextState = .absent) :
    LockedMrm (runtime.event self input) ↔ self.LockDue input := by
  constructor
  · intro hlocked
    exact (lock_after_absent_iff h habsent).mp hlocked.lock
  · intro hdue
    refine ⟨(lock_after_absent_iff h habsent).mpr hdue,
      tick_mrm_active_iff.mpr ⟨habsent, hdue.not_overridden⟩, ?_, ?_⟩
    · show (self.tick input).1.stepC.hmiAction = .mrm
      rw [tick_hmi_action, if_neg hdue.not_overridden, habsent]
      rfl
    · show (self.tick input).1.stepC.throttleLimit = .num 0
      rw [tick_throttle_limit, if_pos (.inr habsent)]

/-- A locked runtime is latched. -/
theorem Sound.latched_of_lock (h : self.Sound)
    (hlock : self.stepCLatchedState.driverOverrideLock = true) :
    self.stepBStateStore.absentLatchedRunCycle = true := by
  have hcount := h.lock_iff.mp hlock
  exact h.latched_of_count (by omega)

/-- A locked runtime is in `ABSENT` on every tick. -/
theorem Sound.absent_of_lock (h : self.Sound)
    (hlock : self.stepCLatchedState.driverOverrideLock = true) (input : RuntimeTickInput) :
    (self.tick input).1.stepB.nextState = .absent :=
  (evaluate_of_latched (h.latched_of_lock hlock) input.stepB).1

/-- Through every run of ticks a locked runtime stays sound and locked. -/
theorem locked_run (h : self.Sound) (hlock : self.stepCLatchedState.driverOverrideLock = true)
    (inputs : List RuntimeTickInput) :
    ∀ e ∈ runtime.trace self inputs,
      (e.before.Sound ∧ e.before.stepCLatchedState.driverOverrideLock = true) ∧
        e.after.Sound ∧ e.after.stepCLatchedState.driverOverrideLock = true :=
  -- the lock alone does not give `ABSENT`, so the invariant carries soundness along
  runtime.trace_invariant
    (fun rt => rt.Sound ∧ rt.stepCLatchedState.driverOverrideLock = true)
    (fun _ input hrt => ⟨hrt.1.tick input, tick_lock_iff.mpr (.inl hrt.2)⟩) ⟨h, hlock⟩ inputs

/-- Once the lock is set, every tick is a locked MRM. -/
theorem locked_mrm_run (h : self.Sound)
    (hlock : self.stepCLatchedState.driverOverrideLock = true)
    (inputs : List RuntimeTickInput) : ∀ e ∈ runtime.trace self inputs, LockedMrm e := by
  intro e he
  obtain ⟨⟨hsound, hset⟩, _⟩ := locked_run h hlock inputs e he
  rw [runtime.event_of_mem_trace he]
  exact (locked_mrm_iff hsound (hsound.absent_of_lock hset e.input)).mpr (.inl hset)

/-- A locked runtime switches LKAS off. -/
theorem Sound.mode_off_of_lock (h : self.Sound)
    (hlock : self.stepCLatchedState.driverOverrideLock = true) (input : RuntimeTickInput) :
    (self.tick input).1.stepC.nextLkasMode = .off := by
  have hafter := (h.tick input).lock_iff.mp (tick_lock_iff.mpr (.inl hlock))
  rw [tick_next_lkas_mode, if_pos (.inr hafter)]

/-- A tick that reports `INTOXICATED`. -/
def intoxicatedTick (driverOverride : Bool) : RuntimeTickInput :=
  { stepB := { perception := { reason := .intoxicated } }
    stepC := { driverOverride := driverOverride } }

/-- A locked runtime is latched, and every tick until the reset is a locked MRM with LKAS off. -/
theorem lockout_absorbing (h : self.Reachable)
    (hlock : self.stepCLatchedState.driverOverrideLock = true) :
    self.stepBStateStore.absentLatchedRunCycle = true ∧
      ∀ inputs, ∀ e ∈ runtime.trace self inputs,
        LockedMrm e ∧ e.output.stepC.nextLkasMode = .off := by
  refine ⟨h.sound.latched_of_lock hlock, ?_⟩
  intro inputs e he
  refine ⟨locked_mrm_run h.sound hlock inputs e he, ?_⟩
  obtain ⟨⟨hsound, hset⟩, _⟩ := locked_run h.sound hlock inputs e he
  rw [runtime.event_of_mem_trace he]
  exact hsound.mode_off_of_lock hset e.input

/-- Two `INTOXICATED` ticks lock the runtime, and an override does not end that. -/
theorem lockout_absorbing_override :
    (runtime.run (.new 1)
        [intoxicatedTick false, intoxicatedTick false]).stepCLatchedState.driverOverrideLock =
        true ∧
      ∀ e ∈ runtime.trace (runtime.run (.new 1) [intoxicatedTick false, intoxicatedTick false])
        [intoxicatedTick true], LockedMrm e ∧ e.output.stepC.nextLkasMode = .off :=
  have hlock : (runtime.run (.new 1)
      [intoxicatedTick false, intoxicatedTick false]).stepCLatchedState.driverOverrideLock =
      true := by decide +kernel
  ⟨hlock, (lockout_absorbing ((Reachable.new 1).run _) hlock).2 _⟩

/-- A tick that returns `ABSENT` for an `INTOXICATED` driver begins an MRM that stays locked
until the reset exactly when the lock is due on that tick. -/
theorem intoxicated_mrm_locked_iff (h : self.Reachable)
    (habsent : (self.tick input).1.stepB.nextState = .absent)
    (_hreason : (self.tick input).1.stepB.reason = .intoxicated) :
    (∀ later, ∀ e ∈ runtime.trace self (input :: later), LockedMrm e) ↔ self.LockDue input := by
  rw [← locked_mrm_iff h.sound habsent]
  constructor
  · intro hlocked
    exact hlocked [] _ (by simp)
  · intro hfirst later e he
    rcases List.mem_cons.mp he with rfl | hlater
    · exact hfirst
    · exact locked_mrm_run (h.sound.tick input) hfirst.lock later e hlater

/-- The second `INTOXICATED` tick of a run cycle begins a locked MRM. -/
theorem intoxicated_mrm_locked_second :
    ((PolicyRuntime.new 1).tick (intoxicatedTick false)).2.LockDue (intoxicatedTick false) ∧
      ∀ later, ∀ e ∈ runtime.trace ((PolicyRuntime.new 1).tick (intoxicatedTick false)).2
        (intoxicatedTick false :: later), LockedMrm e :=
  have hdue : ((PolicyRuntime.new 1).tick (intoxicatedTick false)).2.LockDue
      (intoxicatedTick false) := by decide +kernel
  ⟨hdue, (intoxicated_mrm_locked_iff ((Reachable.new 1).tick (intoxicatedTick false))
    (by decide +kernel) (by decide +kernel)).mpr hdue⟩

/-- The first `INTOXICATED` tick leaves the lock off, and with an override it performs no MRM. -/
theorem intoxicated_mrm_cancelled :
    ((PolicyRuntime.new 1).tick (intoxicatedTick false)).1.stepB.nextState = .absent ∧
      ((PolicyRuntime.new 1).tick (intoxicatedTick false)).1.stepB.reason = .intoxicated ∧
      ((PolicyRuntime.new 1).tick
        (intoxicatedTick false)).2.stepCLatchedState.driverOverrideLock = false ∧
      ((PolicyRuntime.new 1).tick (intoxicatedTick true)).1.stepB.nextState = .absent ∧
      ((PolicyRuntime.new 1).tick (intoxicatedTick true)).1.stepB.reason = .intoxicated ∧
      ((PolicyRuntime.new 1).tick (intoxicatedTick true)).1.stepC.mrmActive = false ∧
      ((PolicyRuntime.new 1).tick (intoxicatedTick true)).1.stepC.hmiAction = .info := by
  decide +kernel

end PolicyRuntime

end DcasPolicyEngine
