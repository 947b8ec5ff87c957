import Mathlib.Algebra.Group.Basic
import DcasPolicyEngine.Machine.Run

/-!
# Clocks that advance with the steps

A clock that advances with the steps of a run moves in the same way at every step, whatever the
inputs say. `Advances.between` gives its reading after some more steps. The inputs may carry the
readings of a second clock: `pairwise_clocks_agree_iff` says that the two clocks measure the same
time between any two events exactly when they do so from step to step.
-/

namespace Machine

variable {σ ι ο α : Type*} (m : Machine σ ι ο) (clock : σ → α) {advance : α → α} {state : σ}
  {inputs : List ι}

/-- Every step of the run advances the clock. -/
def Advances (advance : α → α) (state : σ) (inputs : List ι) : Prop :=
  ∀ e ∈ m.trace state inputs, clock e.after = advance (clock e.before)

/-- The time on the clock from one event to another is the difference of the readings of their
inputs. -/
def ClocksAgree [Sub α] (reading : ι → α) (first second : Event σ ι ο) : Prop :=
  clock second.after - clock first.after = reading second.input - reading first.input

variable {m clock}

theorem advances_cons_iff {input : ι} :
    m.Advances clock advance state (input :: inputs) ↔
      clock (m.step state input).2 = advance (clock state) ∧
        m.Advances clock advance (m.step state input).2 inputs := by
  simp only [Advances, trace_cons, List.forall_mem_cons, event_after, event_before]

/-- Such a run has advanced the clock once for each of its inputs. -/
theorem Advances.run (h : m.Advances clock advance state inputs) :
    clock (m.run state inputs) = advance^[inputs.length] (clock state) := by
  induction inputs generalizing state with
  | nil => rfl
  | cons input inputs ih =>
      obtain ⟨hstep, hrest⟩ := advances_cons_iff.mp h
      rw [run_cons, ih hrest, hstep, List.length_cons, Function.iterate_succ_apply]

/-- The parts of such a run advance the clock. -/
theorem Advances.of_append {first second : List ι}
    (h : m.Advances clock advance state (first ++ second)) :
    m.Advances clock advance state first ∧
      m.Advances clock advance (m.run state first) second := by
  simp only [Advances, trace_append, List.forall_mem_append] at h ⊢
  exact h

/-- The clock between two points of such a run. -/
theorem Advances.between (h : m.Advances clock advance state inputs) {earlier between : List ι}
    (hparts : earlier ++ between <+: inputs) :
    clock (m.run state (earlier ++ between)) =
      advance^[between.length] (clock (m.run state earlier)) := by
  obtain ⟨later, rfl⟩ := hparts
  rw [run_append, h.of_append.1.of_append.2.run]

variable [AddCommGroup α]

/-- Agreement of the clocks is transitive. -/
instance (reading : ι → α) : Trans (ClocksAgree (ο := ο) clock reading)
    (ClocksAgree clock reading) (ClocksAgree clock reading) where
  trans := by
    intro first second third hfirst hsecond
    unfold ClocksAgree at hfirst hsecond ⊢
    rw [← sub_add_sub_cancel _ (clock second.after), hfirst, hsecond, sub_add_sub_cancel]

/-- On such a run, two clocks agree between any two events exactly when the readings of successive
inputs are as far apart as the clock advances. -/
theorem Advances.pairwise_clocks_agree_iff (h : m.Advances clock advance state inputs)
    (reading : ι → α) :
    (m.trace state inputs).Pairwise (ClocksAgree clock reading) ↔
      (m.trace state inputs).IsChain fun first second =>
        reading second.input - reading first.input =
          advance (clock first.after) - clock first.after := by
  rw [← List.isChain_iff_pairwise]
  induction inputs generalizing state with
  | nil => simp
  | cons first inputs ih =>
      obtain ⟨_, hrest⟩ := advances_cons_iff.mp h
      have hchain := ih hrest
      cases inputs with
      | nil => simp
      | cons second inputs =>
          -- the second event starts where the first one ends
          obtain ⟨hsecond, _⟩ := advances_cons_iff.mp hrest
          have hagree : ClocksAgree clock reading (m.event state first)
              (m.event (m.step state first).2 second) ↔
                reading second - reading first =
                  advance (clock (m.step state first).2) - clock (m.step state first).2 := by
            unfold ClocksAgree
            rw [event_after, event_after, hsecond]
            exact eq_comm
          simp only [trace_cons, List.isChain_cons_cons] at hchain ⊢
          exact and_congr hagree hchain

end Machine
