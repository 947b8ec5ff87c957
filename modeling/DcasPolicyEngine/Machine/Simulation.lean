import DcasPolicyEngine.Machine.Run

/-!
# Simulations between machines

A `Simulation` maps the states, inputs and outputs of one machine to those of another so that
every step of the first is a step of the second. It asks this of the states of an invariant
only, and the translation of an input may read the state. `run_eq` and `outputs_eq` carry whole
runs over, and simulations compose.
-/

namespace Machine

variable {σ ι ο σ' ι' ο' σ'' ι'' ο'' : Type*}
variable {m : Machine σ ι ο} {n : Machine σ' ι' ο'} {l : Machine σ'' ι'' ο''}

/-- Maps that carry every step of `m` from a state of `inv` to a step of `n`. -/
structure Simulation (m : Machine σ ι ο) (n : Machine σ' ι' ο') where
  inv : σ → Prop
  state : σ → σ'
  input : σ → ι → ι'
  output : ο → ο'
  inv_step : ∀ s i, inv s → inv (m.step s i).2
  step_eq : ∀ s i, inv s →
    n.step (state s) (input s i) = (output (m.step s i).1, state (m.step s i).2)

namespace Simulation

variable (sim : Simulation m n)

/-- The inputs of a run, each translated at the state where it is read. -/
def inputs (state : σ) (inputs : List ι) : List ι' :=
  (m.trace state inputs).map fun e => sim.input e.before e.input

@[simp] theorem inputs_nil (state : σ) : sim.inputs state [] = [] := rfl

@[simp] theorem inputs_cons (state : σ) (input : ι) (inputs : List ι) :
    sim.inputs state (input :: inputs) =
      sim.input state input :: sim.inputs (m.step state input).2 inputs := rfl

/-- When the translation does not read the state, a run is translated input by input. -/
theorem inputs_eq_map {f : ι → ι'} (h : ∀ state input, sim.input state input = f input)
    (state : σ) (inputs : List ι) : sim.inputs state inputs = inputs.map f := by
  induction inputs generalizing state with
  | nil => rfl
  | cons input inputs ih => rw [inputs_cons, List.map_cons, h, ih]

/-- A run of `m` is mapped to the run of `n` on the translated inputs. -/
theorem run_eq {state : σ} (h : sim.inv state) (inputs : List ι) :
    n.run (sim.state state) (sim.inputs state inputs) = sim.state (m.run state inputs) := by
  induction inputs generalizing state with
  | nil => rfl
  | cons input inputs ih =>
      rw [inputs_cons, run_cons, run_cons, sim.step_eq state input h]
      exact ih (sim.inv_step state input h)

/-- The outputs of a run of `m` are mapped to those of the run of `n`. -/
theorem outputs_eq {state : σ} (h : sim.inv state) (inputs : List ι) :
    n.outputs (sim.state state) (sim.inputs state inputs) =
      (m.outputs state inputs).map sim.output := by
  induction inputs generalizing state with
  | nil => rfl
  | cons input inputs ih =>
      rw [inputs_cons, outputs_cons, outputs_cons, List.map_cons, sim.step_eq state input h]
      exact congrArg _ (ih (sim.inv_step state input h))

/-- Simulations compose. -/
def comp (first : Simulation m n) (second : Simulation n l) : Simulation m l where
  inv s := first.inv s ∧ second.inv (first.state s)
  state s := second.state (first.state s)
  input s i := second.input (first.state s) (first.input s i)
  output o := second.output (first.output o)
  inv_step := by
    intro s i h
    have hnext := second.inv_step _ (first.input s i) h.2
    rw [first.step_eq s i h.1] at hnext
    exact ⟨first.inv_step s i h.1, hnext⟩
  step_eq := by
    intro s i h
    rw [second.step_eq _ _ h.2, first.step_eq s i h.1]

end Simulation

end Machine
