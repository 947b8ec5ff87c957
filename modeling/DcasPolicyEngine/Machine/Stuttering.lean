import Mathlib.Data.List.Induction
import DcasPolicyEngine.Machine.Run

/-!
# Machines with silent steps

A step of a machine with optional outputs is silent when it has none. `shown` are the outputs of the
other steps, and `shown_induction` is the induction rule for an invariant that relates the state to
what was shown. A `StutteringSimulation` maps the steps that show something to steps of another
machine, and silent steps to none: `run_eq` and `outputs_eq` carry whole runs over. `fronts` is for
statements about each of the outputs and all before it.
-/

section Fronts

variable {α : Type*}

/-- What a list has at the front, from one element on. -/
def fronts (list : List α) : List (List α) := list.inits.tail

theorem fronts_concat (list : List α) (last : α) :
    fronts (list ++ [last]) = fronts list ++ [list ++ [last]] := by
  unfold fronts
  rw [List.inits_append, List.tail_append_of_ne_nil (by cases list <;> simp)]
  simp

end Fronts

namespace Machine

variable {σ ι ο σ' ι' ο' : Type*}

/-- The outputs of the steps that are not silent. -/
def shown (m : Machine σ ι (Option ο)) (state : σ) (inputs : List ι) : List ο :=
  (m.outputs state inputs).flatMap Option.toList

variable (m : Machine σ ι (Option ο))

@[simp] theorem shown_nil (state : σ) : m.shown state [] = [] := rfl

theorem shown_cons (state : σ) (input : ι) (inputs : List ι) :
    m.shown state (input :: inputs) =
      (m.step state input).1.toList ++ m.shown (m.step state input).2 inputs := rfl

/-- A silent step shows nothing. -/
theorem shown_cons_of_silent {state : σ} {input : ι} (h : (m.step state input).1 = none)
    (inputs : List ι) :
    m.shown state (input :: inputs) = m.shown (m.step state input).2 inputs := by
  rw [shown_cons, h]
  rfl

/-- Any other step shows its output. -/
theorem shown_cons_of_shows {state : σ} {input : ι} {output : ο}
    (h : (m.step state input).1 = some output) (inputs : List ι) :
    m.shown state (input :: inputs) = output :: m.shown (m.step state input).2 inputs := by
  rw [shown_cons, h]
  rfl

/-- What one more input shows. -/
theorem shown_concat (state : σ) (inputs : List ι) (input : ι) :
    m.shown state (inputs ++ [input]) =
      m.shown state inputs ++ (m.step (m.run state inputs) input).1.toList := by
  simp [shown, outputs_concat]

/-- What is shown is the output of a step. -/
theorem exists_of_mem_shown {state : σ} {inputs : List ι} {output : ο}
    (houtput : output ∈ m.shown state inputs) :
    ∃ e ∈ m.trace state inputs, (m.step e.before e.input).1 = some output := by
  obtain ⟨shown, hshown, hmem⟩ := List.mem_flatMap.mp houtput
  obtain ⟨e, he, rfl⟩ := List.mem_map.mp hshown
  refine ⟨e, he, ?_⟩
  rw [m.event_of_mem_trace he] at hmem
  exact Option.mem_toList.mp hmem

/-- The induction rule for an invariant that relates the state to what was shown before. -/
theorem shown_induction (inv : List ο → σ → Prop) {state : σ} {inputs : List ι}
    (hnil : inv [] state)
    (hstep : ∀ before state, ∀ input ∈ inputs, inv before state →
      inv (before ++ (m.step state input).1.toList) (m.step state input).2) :
    inv (m.shown state inputs) (m.run state inputs) := by
  induction inputs using List.reverseRecOn with
  | nil => exact hnil
  | append_singleton inputs input ih =>
      rw [shown_concat, run_concat]
      refine hstep _ _ input (by simp) (ih ?_)
      intro before state earlier hearlier
      exact hstep before state earlier (List.mem_append_left [input] hearlier)

variable {m} {n : Machine σ' ι' ο'}

/-- Maps that carry every step of `m` that shows something from a state of `inv` to a step of `n`.
A silent step leaves the state of `n` as it is. -/
structure StutteringSimulation (m : Machine σ ι (Option ο)) (n : Machine σ' ι' ο') where
  state : σ → σ'
  input : ο → ι'
  output : ο → ο'
  silent : ∀ s i, (m.step s i).1 = none → state (m.step s i).2 = state s
  step_eq : ∀ s i o, (m.step s i).1 = some o →
    n.step (state s) (input o) = (output o, state (m.step s i).2)

namespace StutteringSimulation

variable (sim : StutteringSimulation m n)

/-- A run of `m` is mapped to the run of `n` on what `m` shows. -/
theorem run_eq (state : σ) (inputs : List ι) :
    n.run (sim.state state) ((m.shown state inputs).map sim.input) =
      sim.state (m.run state inputs) := by
  induction inputs generalizing state with
  | nil => rfl
  | cons input inputs ih =>
      rw [run_cons, ← ih]
      cases hstep : (m.step state input).1 with
      | none => rw [m.shown_cons_of_silent hstep, sim.silent state input hstep]
      | some output =>
          rw [m.shown_cons_of_shows hstep, List.map_cons, run_cons,
            sim.step_eq state input output hstep]

/-- What a run of `m` shows is mapped to the outputs of the run of `n`. -/
theorem outputs_eq (state : σ) (inputs : List ι) :
    n.outputs (sim.state state) ((m.shown state inputs).map sim.input) =
      (m.shown state inputs).map sim.output := by
  induction inputs generalizing state with
  | nil => rfl
  | cons input inputs ih =>
      cases hstep : (m.step state input).1 with
      | none =>
          rw [m.shown_cons_of_silent hstep, ← sim.silent state input hstep]
          exact ih _
      | some output =>
          rw [m.shown_cons_of_shows hstep, List.map_cons, List.map_cons, outputs_cons,
            sim.step_eq state input output hstep]
          exact congrArg _ (ih _)

end StutteringSimulation

end Machine
