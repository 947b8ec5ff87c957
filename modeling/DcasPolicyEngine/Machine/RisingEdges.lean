import Mathlib.Data.List.Count
import DcasPolicyEngine.Machine.Run

/-!
# Rising edges of a flag

A flag that a machine outputs at every step can be counted in two ways: the steps at which it
is set, and the steps at which it becomes set. `rising_edges_eq_count_iff` says when the two
counts agree. `is_chain_trace_iff` compares relations between successive events of a trace.
-/

/-- The number of elements that are `true` and follow a `false`. `prev` is the value before the
list. -/
def risingEdges (prev : Bool) : List Bool → ℕ
  | [] => 0
  | flag :: flags => (if flag = true ∧ prev = false then 1 else 0) + risingEdges flag flags

@[simp] theorem rising_edges_nil (prev : Bool) : risingEdges prev [] = 0 := rfl

@[simp] theorem rising_edges_cons (prev flag : Bool) (flags : List Bool) :
    risingEdges prev (flag :: flags) =
      (if flag = true ∧ prev = false then 1 else 0) + risingEdges flag flags := rfl

/-- Every rising edge is at an element that is set. -/
theorem rising_edges_le_count (prev : Bool) (flags : List Bool) :
    risingEdges prev flags ≤ flags.count true := by
  induction flags generalizing prev with
  | nil => simp
  | cons flag flags ih =>
      have hrest := ih flag
      cases flag with
      | false => simpa using hrest
      | true =>
          rw [rising_edges_cons, List.count_cons_self]
          split <;> omega

/-- Every set element is a rising edge exactly when no two successive elements are set. -/
theorem rising_edges_eq_count_iff_from (prev : Bool) (flags : List Bool) :
    risingEdges prev flags = flags.count true ↔
      (prev :: flags).IsChain fun a b => ¬ (a = true ∧ b = true) := by
  induction flags generalizing prev with
  | nil => simp
  | cons flag flags ih =>
      rw [List.isChain_cons_cons, ← ih flag]
      have hrest := rising_edges_le_count flag flags
      cases flag with
      | false => simp
      | true =>
          rw [rising_edges_cons, List.count_cons_self]
          cases prev with
          | false => simp [Nat.add_comm]
          | true =>
              -- the element is set and is no edge, so the edges stay behind
              refine iff_of_false ?_ (by simp)
              simp only [Bool.true_eq_false, and_false, if_false]
              omega

/-- The same for a list that starts with the flag not set. -/
theorem rising_edges_eq_count_iff (flags : List Bool) :
    risingEdges false flags = flags.count true ↔
      flags.IsChain fun a b => ¬ (a = true ∧ b = true) := by
  rw [rising_edges_eq_count_iff_from]
  cases flags with
  | nil => simp
  | cons flag flags => simp

namespace Machine

variable {σ ι ο : Type*} (m : Machine σ ι ο)

/-- Two relations hold between the same successive events of a run when they agree on the
events of two steps in a row from every state of an invariant. -/
theorem is_chain_trace_iff (inv : σ → Prop)
    (hinvariant : ∀ state input, inv state → inv (m.step state input).2)
    {r s : Event σ ι ο → Event σ ι ο → Prop}
    (hagree : ∀ state first second, inv state →
      (r (m.event state first) (m.event (m.step state first).2 second) ↔
        s (m.event state first) (m.event (m.step state first).2 second)))
    {state : σ} (hinv : inv state) (inputs : List ι) :
    (m.trace state inputs).IsChain r ↔ (m.trace state inputs).IsChain s := by
  induction inputs generalizing state with
  | nil => simp
  | cons first inputs ih =>
      have hrest := ih (hinvariant state first hinv)
      cases inputs with
      | nil => simp
      | cons second inputs =>
          simp only [trace_cons, List.isChain_cons_cons] at hrest ⊢
          exact and_congr (hagree state first second hinv) hrest

end Machine
