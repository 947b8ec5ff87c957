import Mathlib.Algebra.Order.BigOperators.Group.List
import Mathlib.Algebra.Order.Ring.NNRat
import DcasPolicyEngine.Escalation.Sampling
import DcasPolicyEngine.StepB.Monitor
import DcasPolicyEngine.StepB.Register

/-!
# The sampling rate of Step B

Step B advances its timers by the delta of the evaluation. Evaluating an input in many short steps
or in one long step makes the same observation of the driver. In exact arithmetic the law of the
escalation monitor then says that both end with the same watch. The watch decides the state, the
latch and the re-engagement.
-/

namespace DcasPolicyEngine

open Escalation Rounding

/-- The same input for another time. -/
def StepBInput.lasting (input : StepBInput) (deltaS : ℚ) : StepBInput :=
  { input with deltaS := deltaS }

/-- The positive deltas as times. -/
theorem sum_to_nnrat (deltas : List ℚ) :
    (deltas.map Rat.toNNRat).sum = ((deltas.map (max 0)).sum).toNNRat := by
  induction deltas with
  | nil => simp
  | cons deltaS deltas ih =>
      have hsum : 0 ≤ (deltas.map (max 0)).sum := by
        refine List.sum_nonneg ?_
        intro delta hdelta
        obtain ⟨positive, _, rfl⟩ := List.mem_map.mp hdelta
        exact le_max_left 0 positive
      have hfirst : (max 0 deltaS).toNNRat = deltaS.toNNRat := by
        rw [max_comm]
        exact NNRat.toNNRat_coe deltaS.toNNRat
      rw [List.map_cons, List.sum_cons, List.map_cons, List.sum_cons, ih,
        Rat.toNNRat_add (le_max_left 0 deltaS) hsum, hfirst]

variable {store after : StateTimerStore} {input : StepBInput}

/-! ## One input, again and again -/

/-- What the reason update stored is kept by the same update again. -/
theorem accept_reason_again {perception : PerceptionInput}
    (hreason : after.latestReason = (acceptReason store perception).latestReason)
    (hts : after.latestReasonTsMs = (acceptReason store perception).latestReasonTsMs) :
    (acceptReason after perception).latestReason =
      (acceptReason store perception).latestReason := by
  by_cases haccepts : AcceptsReason store perception
  · by_cases hagain : AcceptsReason after perception
    · rw [accept_reason_latest_reason _ _ haccepts, accept_reason_latest_reason _ _ hagain]
    · rw [← hreason, acceptReason, if_neg hagain]
  · have hagain : ¬ AcceptsReason after perception := by
      rw [acceptReason, if_neg haccepts] at hts
      unfold AcceptsReason at haccepts ⊢
      rwa [hts]
    rw [← hreason, acceptReason, if_neg hagain]

section Run

variable [Rounding]

/-- The same input for another time makes the same observation for that time. -/
theorem observation_lasting (store : StateTimerStore) (input : StepBInput) (deltaS : ℚ) :
    observation store (input.lasting deltaS) =
      (observation store input).lasting deltaS.toNNRat := by
  have hbelow : BlockedBelowAbsent (input.lasting deltaS) ↔ BlockedBelowAbsent input := Iff.rfl
  have hperception : (input.lasting deltaS).perception = input.perception := rfl
  unfold observation
  rw [if_congr hbelow rfl rfl, hperception]
  split
  · rfl
  · split
    · rfl
    · split <;> rfl

/-- An evaluation that does not latch keeps what the reason update stored. -/
theorem evaluate_reason_register
    (hunlatched : (evaluate input store).2.absentLatchedRunCycle = false) :
    (evaluate input store).2.latestReason = (acceptReason store input.perception).latestReason ∧
      (evaluate input store).2.latestReasonTsMs =
        (acceptReason store input.perception).latestReasonTsMs := by
  have hcamera : ¬ BlockedFromAbsent store input := by
    intro hblocked
    obtain ⟨hlatch, hcovered, hbelow⟩ := hblocked
    rw [evaluate_critical hlatch hbelow (.inl hcovered)] at hunlatched
    cases hunlatched
  have hregister := evaluate_register hcamera
  exact ⟨congrArg LastWriter.Stamped.value hregister, congrArg LastWriter.Stamped.stamp hregister⟩

/-- Until the latch is set, the same input makes the same observation again. -/
theorem observation_evaluate (deltaS : ℚ)
    (hunlatched : (evaluate (input.lasting deltaS) store).2.absentLatchedRunCycle = false) :
    observation (evaluate (input.lasting deltaS) store).2 input = observation store input := by
  obtain ⟨hreason, hts⟩ := evaluate_reason_register hunlatched
  have hagain : (acceptReason (evaluate (input.lasting deltaS) store).2
      input.perception).latestReason = (acceptReason store input.perception).latestReason :=
    accept_reason_again hreason hts
  unfold observation
  rw [hagain]

/-! ## The watch -/

/-- After some steps on an input, it makes the observation that it made at first, or the latch is
set. -/
theorem observation_run_lasting (store : StateTimerStore) (input : StepBInput) (deltas : List ℚ) :
    (stepB.run store (deltas.map input.lasting)).absentLatchedRunCycle = true ∨
      observation (stepB.run store (deltas.map input.lasting)) input = observation store input := by
  induction deltas using List.reverseRecOn with
  | nil => exact .inr rfl
  | append_singleton deltas deltaS ih =>
      rw [List.map_append, List.map_singleton, Machine.run_concat]
      show (evaluate _ _).2.absentLatchedRunCycle = true ∨ observation (evaluate _ _).2 input = _
      obtain hlatched | hsame := ih
      · exact .inl (evaluate_of_latched hlatched _).2.2.2
      · cases hlatch : (evaluate (input.lasting deltaS)
            (stepB.run store (deltas.map input.lasting))).2.absentLatchedRunCycle with
        | true => exact .inl rfl
        | false => exact .inr ((observation_evaluate deltaS hlatch).trans hsame)

/-- Evaluating an input in many steps moves the watch by as many observations. -/
theorem watch_run_lasting (h : store.Sound) (input : StepBInput) (deltas : List ℚ) :
    (stepB.run store (deltas.map input.lasting)).watch =
      driverMonitor.run store.watch
        ((deltas.map Rat.toNNRat).map (observation store input).lasting) := by
  induction deltas using List.reverseRecOn with
  | nil => rfl
  | append_singleton deltas deltaS ih =>
      have hsound := h.run (deltas.map input.lasting)
      simp only [List.map_append, List.map_singleton, Machine.run_concat]
      rw [← ih]
      show (evaluate _ _).2.watch = observe advanceTime 3 _ _
      rw [← observe_watch hsound, observation_lasting]
      obtain hlatched | hsame := observation_run_lasting store input deltas
      · -- a final watch does not look at what is observed
        have hfinal : (stepB.run store (deltas.map input.lasting)).watch = .final :=
          if_pos hlatched
        rw [hfinal]
        rfl
      · rw [hsame]

/-- Exact time is added up. -/
theorem advance_time_of_exact (hexact : Exact) : advanceTime = (· + ·) := by
  funext elapsed duration
  exact NNRat.ext (add_of_exact hexact _ _)

/-- Evaluating an input in many steps or in one that is as long leads to the same watch. -/
theorem watch_run_lasting_eq (hexact : Exact) (h : store.Sound) (input : StepBInput)
    {deltas : List ℚ} (hne : deltas ≠ []) :
    (stepB.run store (deltas.map input.lasting)).watch =
      (evaluate (input.lasting (deltas.map (max 0)).sum) store).2.watch := by
  have hnonempty : deltas.map Rat.toNNRat ≠ [] := by simpa using hne
  rw [watch_run_lasting h, ← observe_watch h, observation_lasting, ← sum_to_nnrat, driverMonitor,
    advance_time_of_exact hexact]
  exact run_lasting 3 store.watch _ hnonempty

/-- The watch decides the state and the latch. -/
theorem StepBStateStore.Sound.eq_of_watch_eq (h : store.Sound) (hafter : after.Sound)
    (hwatch : store.watch = after.watch) :
    store.currentState = after.currentState ∧
      store.absentLatchedRunCycle = after.absentLatchedRunCycle := by
  have hstate : store.currentState = after.currentState := by
    rw [← h.level_watch, ← hafter.level_watch, hwatch]
  refine ⟨hstate, ?_⟩
  rw [Bool.eq_iff_iff, ← h.latch_iff, ← hafter.latch_iff, hstate]

/-! ## Re-engagement -/

/-- The watch shows a state above `OK` and 200 ms without the condition. -/
def Eased : Watch DriverState ℚ≥0 → Prop
  | .final => False
  | .watching level _ _ clearFor => level ≠ .ok ∧ literal 0.2 ≤ clearFor

/-- Re-engagement is confirmed exactly when attention is observed and the watch is eased after
it. -/
theorem reengagement_confirmed_iff_eased (h : store.Sound) (input : StepBInput) :
    (evaluate input store).1.reengagementConfirmed200ms = true ↔
      (observation store input).Cleared ∧ Eased (evaluate input store).2.watch := by
  cases exits input store with
  | latched hlatch =>
      have hfinal : (evaluate input store).2.watch = .final :=
        if_pos (evaluate_of_latched hlatch input).2.2.2
      rw [hfinal, (evaluate_of_latched hlatch input).2.2.1]
      simp [Eased]
  | camera hlatch hbelow =>
      rw [evaluate_camera hlatch hbelow]
      simp [observation, hbelow, Observation.Cleared]
  | critical hlatch hbelow hcritical =>
      rw [evaluate_critical hlatch hbelow hcritical]
      simp [observation, hbelow, hcritical, Observation.Cleared]
  | timers hlatch hblocked hnone =>
      have hbelow := not_blocked_below_absent hblocked
      cases hattentive : input.perception.isAttentive with
      | true =>
          have hnext := recover_ne_absent (h.ne_absent hlatch) (recoverAfter store input)
          have hcleared : (observation store input).Cleared := by
            simp [observation, hbelow, hblocked, hnone, hattentive, Observation.Cleared]
          have hclear : literal 0.2 ≤ ((recoverAfter store input).toNNRat : ℚ) ↔
              literal 0.2 ≤ recoverAfter store input := by
            rw [Rat.coe_toNNRat _ (recover_after_nonneg h input)]
          rw [(evaluate_sound h input).watch_eq_enter, and_iff_right hcleared,
            evaluate_attentive hlatch hblocked hnone hattentive]
          simp only [Watch.enter_of_ne_top hnext, Eased, hclear]
          simp
      | false =>
          rw [evaluate_inattentive hlatch hblocked hnone hattentive]
          simp [observation, hbelow, hblocked, hnone, hattentive, Observation.Cleared]

/-- The last of many steps on an input. -/
theorem run_lasting_concat (store : StateTimerStore) (input : StepBInput) (earlier : List ℚ)
    (deltaS : ℚ) :
    stepB.run store ((earlier ++ [deltaS]).map input.lasting) =
      (evaluate (input.lasting deltaS) (stepB.run store (earlier.map input.lasting))).2 := by
  rw [List.map_append, List.map_singleton, Machine.run_concat]
  rfl

/-- The last of many steps confirms re-engagement exactly when one step that is as long does. -/
theorem reengagement_confirmed_lasting (hexact : Exact) (h : store.Sound) (input : StepBInput)
    (earlier : List ℚ) (deltaS : ℚ) :
    (evaluate (input.lasting deltaS)
        (stepB.run store (earlier.map input.lasting))).1.reengagementConfirmed200ms =
      (evaluate (input.lasting ((earlier ++ [deltaS]).map (max 0)).sum)
        store).1.reengagementConfirmed200ms := by
  have hwatch := watch_run_lasting_eq hexact h input (List.concat_ne_nil deltaS earlier)
  rw [run_lasting_concat] at hwatch
  rw [Bool.eq_iff_iff, reengagement_confirmed_iff_eased (h.run (earlier.map input.lasting)),
    reengagement_confirmed_iff_eased h, hwatch, observation_lasting, observation_lasting,
    Observation.cleared_lasting, Observation.cleared_lasting]
  obtain hlatched | hsame := observation_run_lasting store input earlier
  · -- with the latch on before the last step, the watch is final and not eased
    have hfinal : (evaluate (input.lasting deltaS)
        (stepB.run store (earlier.map input.lasting))).2.watch = .final :=
      if_pos (evaluate_of_latched hlatched _).2.2.2
    rw [← hwatch, hfinal]
    simp [Eased]
  · rw [hsame]

/-- In exact arithmetic, for every reachable store and every input, evaluating the input in many
steps or in one that is as long ends with the same state, latch and re-engagement in the last
output, and with the same state and latch in the store. -/
theorem evaluate_sampling_independent (hexact : Exact) (h : store.Reachable) (input : StepBInput)
    {deltas : List ℚ} (hne : deltas ≠ []) :
    (∃ last, (stepB.outputs store (deltas.map input.lasting)).getLast? = some last ∧
      last.nextState = (evaluate (input.lasting (deltas.map (max 0)).sum) store).1.nextState ∧
      last.absentLatchedRunCycle =
        (evaluate (input.lasting (deltas.map (max 0)).sum) store).1.absentLatchedRunCycle ∧
      last.reengagementConfirmed200ms =
        (evaluate (input.lasting (deltas.map (max 0)).sum) store).1.reengagementConfirmed200ms) ∧
    (stepB.run store (deltas.map input.lasting)).currentState =
      (evaluate (input.lasting (deltas.map (max 0)).sum) store).2.currentState ∧
    (stepB.run store (deltas.map input.lasting)).absentLatchedRunCycle =
      (evaluate (input.lasting (deltas.map (max 0)).sum) store).2.absentLatchedRunCycle := by
  obtain ⟨hstate, hlatch⟩ := (h.sound.run (deltas.map input.lasting)).eq_of_watch_eq
    (evaluate_sound h.sound (input.lasting (deltas.map (max 0)).sum))
    (watch_run_lasting_eq hexact h.sound input hne)
  refine ⟨?_, hstate, hlatch⟩
  obtain ⟨earlier, deltaS, rfl⟩ := (List.eq_nil_or_concat' deltas).resolve_left hne
  rw [run_lasting_concat] at hstate hlatch
  refine ⟨(evaluate (input.lasting deltaS) (stepB.run store (earlier.map input.lasting))).1,
    ?_, ?_, ?_, reengagement_confirmed_lasting hexact h.sound input earlier deltaS⟩
  · rw [List.map_append, List.map_singleton, Machine.outputs_concat, List.getLast?_concat]
    rfl
  · rw [evaluate_next_state_eq, evaluate_next_state_eq, hstate]
  · rw [evaluate_absent_latched_run_cycle_eq, evaluate_absent_latched_run_cycle_eq, hlatch]

end Run

/-- An inattentive driver, from a new store, in two steps and in one. -/
theorem evaluate_sampling_independent_inattentive :
    ((@stepB .exact).run {} ([1, 2.5].map
        (StepBInput.lasting { perception := { isAttentive := false } }))).currentState =
      (@evaluate .exact (StepBInput.lasting { perception := { isAttentive := false } }
        ([1, 2.5].map (max 0)).sum) {}).2.currentState :=
  have hreachable : @StepBStateStore.Reachable .exact {} := ⟨{}, [], rfl, rfl⟩
  have hexact : @Exact .exact := fun _ => rfl
  (@evaluate_sampling_independent _ .exact hexact hreachable
    { perception := { isAttentive := false } } [1, 2.5] (by simp)).2.1

end DcasPolicyEngine
