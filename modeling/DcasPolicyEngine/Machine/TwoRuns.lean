import Mathlib.Data.List.Forall2
import DcasPolicyEngine.Machine.Run

/-!
# Two runs side by side

Two machines read inputs that are related pairwise. A relation between their states that every
pair of steps preserves relates the two runs event by event: `forall₂_trace` is the rule. When
the relation survives only the pairs of steps that are `good`, `forall₂_trace_iff` says which
pairs of runs are good throughout.
-/

namespace Machine

variable {σ σ' ι ι' ο ο' : Type*} {m : Machine σ ι ο} {n : Machine σ' ι' ο'}

/-- The rule for two runs. If every pair of steps on related inputs shows `good` events and
preserves `rel`, then the traces of two runs that start in `rel` are good event by event. -/
theorem forall₂_trace (rel : σ → σ' → Prop) {related : ι → ι' → Prop}
    {good : Event σ ι ο → Event σ' ι' ο' → Prop}
    (hstep : ∀ state state' input input', rel state state' → related input input' →
      good (m.event state input) (n.event state' input') ∧
        rel (m.step state input).2 (n.step state' input').2)
    {state : σ} {state' : σ'} (hrel : rel state state') {inputs : List ι} {inputs' : List ι'}
    (hinputs : List.Forall₂ related inputs inputs') :
    List.Forall₂ good (m.trace state inputs) (n.trace state' inputs') := by
  induction hinputs generalizing state state' with
  | nil => exact .nil
  | cons hinput _ ih =>
      obtain ⟨hgood, hnext⟩ := hstep _ _ _ _ hrel hinput
      exact .cons hgood (ih hnext)

/-- When `ok` is exactly what a pair of steps needs to be `good`, and good steps preserve `rel`,
two runs are good event by event if and only if they are `ok` event by event. -/
theorem forall₂_trace_iff (rel : σ → σ' → Prop) {related : ι → ι' → Prop}
    {good ok : Event σ ι ο → Event σ' ι' ο' → Prop}
    (hgood : ∀ state state' input input', rel state state' → related input input' →
      (good (m.event state input) (n.event state' input') ↔
        ok (m.event state input) (n.event state' input')))
    (hstep : ∀ state state' input input', rel state state' → related input input' →
      good (m.event state input) (n.event state' input') →
        rel (m.step state input).2 (n.step state' input').2)
    {state : σ} {state' : σ'} (hrel : rel state state') {inputs : List ι} {inputs' : List ι'}
    (hinputs : List.Forall₂ related inputs inputs') :
    List.Forall₂ good (m.trace state inputs) (n.trace state' inputs') ↔
      List.Forall₂ ok (m.trace state inputs) (n.trace state' inputs') := by
  induction hinputs generalizing state state' with
  | nil => exact iff_of_true .nil .nil
  | cons hinput _ ih =>
      simp only [trace_cons, List.forall₂_cons]
      rw [hgood _ _ _ _ hrel hinput]
      refine and_congr_right fun hok => ih ?_
      exact hstep _ _ _ _ hrel hinput ((hgood _ _ _ _ hrel hinput).mpr hok)

end Machine
