import Mathlib.Data.List.Chain
import Mathlib.Data.List.Infix

/-!
# Deterministic machines, their runs and their traces

A `Machine` reads one input at a time, answers it with an output and moves to a
next state. `run` is the state after a list of inputs and `trace` records, for
every input, the state before, the output and the state after. Properties of a
whole run are stated about the events of its trace. `trace_invariant` and
`run_prefix_induction` are the induction rules, and `trace_forall_after_iff` and
`run_prefix_forall_iff` the rules for an invariant that only some steps preserve.
-/

/-- A deterministic machine: `step s i` is the output for the input `i` in the state `s`,
together with the next state. -/
structure Machine (σ ι ο : Type*) where
  step : σ → ι → ο × σ

namespace Machine

variable {σ ι ο : Type*}

/-- One step of a run: the input, the output, and the states on both sides of it. -/
structure Event (σ ι ο : Type*) where
  before : σ
  input : ι
  output : ο
  after : σ

/-- The event of reading `input` in the state `state`. -/
def event (m : Machine σ ι ο) (state : σ) (input : ι) : Event σ ι ο :=
  ⟨state, input, (m.step state input).1, (m.step state input).2⟩

@[simp] theorem event_before (m : Machine σ ι ο) (state : σ) (input : ι) :
    (m.event state input).before = state := rfl

@[simp] theorem event_input (m : Machine σ ι ο) (state : σ) (input : ι) :
    (m.event state input).input = input := rfl

@[simp] theorem event_output (m : Machine σ ι ο) (state : σ) (input : ι) :
    (m.event state input).output = (m.step state input).1 := rfl

@[simp] theorem event_after (m : Machine σ ι ο) (state : σ) (input : ι) :
    (m.event state input).after = (m.step state input).2 := rfl

/-- The state after reading the inputs in order. -/
def run (m : Machine σ ι ο) : σ → List ι → σ
  | state, [] => state
  | state, input :: inputs => run m (m.step state input).2 inputs

/-- The events of reading the inputs in order. -/
def trace (m : Machine σ ι ο) : σ → List ι → List (Event σ ι ο)
  | _, [] => []
  | state, input :: inputs => m.event state input :: trace m (m.step state input).2 inputs

/-- The outputs of reading the inputs in order. -/
def outputs (m : Machine σ ι ο) (state : σ) (inputs : List ι) : List ο :=
  (m.trace state inputs).map Event.output

variable (m : Machine σ ι ο)

@[simp] theorem run_nil (state : σ) : m.run state [] = state := rfl

@[simp] theorem run_cons (state : σ) (input : ι) (inputs : List ι) :
    m.run state (input :: inputs) = m.run (m.step state input).2 inputs := rfl

@[simp] theorem trace_nil (state : σ) : m.trace state [] = [] := rfl

@[simp] theorem trace_cons (state : σ) (input : ι) (inputs : List ι) :
    m.trace state (input :: inputs) =
      m.event state input :: m.trace (m.step state input).2 inputs := rfl

@[simp] theorem outputs_nil (state : σ) : m.outputs state [] = [] := rfl

@[simp] theorem outputs_cons (state : σ) (input : ι) (inputs : List ι) :
    m.outputs state (input :: inputs) =
      (m.step state input).1 :: m.outputs (m.step state input).2 inputs := rfl

/-- Reading `first ++ second` is reading `first` and then `second`. -/
theorem run_append (state : σ) (first second : List ι) :
    m.run state (first ++ second) = m.run (m.run state first) second := by
  induction first generalizing state with
  | nil => rfl
  | cons input first ih => exact ih (m.step state input).2

/-- The state after one more input. -/
theorem run_concat (state : σ) (inputs : List ι) (input : ι) :
    m.run state (inputs ++ [input]) = (m.step (m.run state inputs) input).2 :=
  m.run_append state inputs [input]

/-- The trace of `first ++ second` is the trace of `first` followed by that of `second`. -/
theorem trace_append (state : σ) (first second : List ι) :
    m.trace state (first ++ second) =
      m.trace state first ++ m.trace (m.run state first) second := by
  induction first generalizing state with
  | nil => rfl
  | cons input first ih => simp [ih]

/-- The outputs of one more input. -/
theorem outputs_concat (state : σ) (inputs : List ι) (input : ι) :
    m.outputs state (inputs ++ [input]) =
      m.outputs state inputs ++ [(m.step (m.run state inputs) input).1] := by
  simp [outputs, trace_append]

/-- The events of a trace are the steps taken after the prefixes of the input. -/
theorem mem_trace_iff {state : σ} {inputs : List ι} {e : Event σ ι ο} :
    e ∈ m.trace state inputs ↔
      ∃ pre input post, inputs = pre ++ input :: post ∧ e = m.event (m.run state pre) input := by
  constructor
  · intro he
    induction inputs generalizing state with
    | nil => cases he
    | cons input inputs ih =>
        rcases List.mem_cons.mp he with rfl | hrest
        · exact ⟨[], input, inputs, rfl, rfl⟩
        · obtain ⟨pre, next, post, rfl, rfl⟩ := ih hrest
          exact ⟨input :: pre, next, post, rfl, rfl⟩
  · intro hsplit
    obtain ⟨pre, input, post, rfl, rfl⟩ := hsplit
    simp [trace_append]

/-- Every event of a trace is a step of the machine. -/
theorem event_of_mem_trace {state : σ} {inputs : List ι} {e : Event σ ι ο}
    (he : e ∈ m.trace state inputs) : e = m.event e.before e.input := by
  obtain ⟨pre, input, post, _, rfl⟩ := m.mem_trace_iff.mp he
  rfl

/-- The inputs of a trace are the inputs that were read. -/
theorem input_mem_of_mem_trace {state : σ} {inputs : List ι} {e : Event σ ι ο}
    (he : e ∈ m.trace state inputs) : e.input ∈ inputs := by
  obtain ⟨pre, input, post, rfl, rfl⟩ := m.mem_trace_iff.mp he
  simp

/-- A relation along the observations of a run, from the start on, is the relation between the
two sides of every event. -/
theorem is_chain_observations_iff {β : Type*} (observe : σ → β) (r : β → β → Prop)
    (state : σ) (inputs : List ι) :
    (observe state :: (m.trace state inputs).map fun e => observe e.after).IsChain r ↔
      ∀ e ∈ m.trace state inputs, r (observe e.before) (observe e.after) := by
  induction inputs generalizing state with
  | nil => simp
  | cons input inputs ih =>
      simp only [trace_cons, List.map_cons, List.isChain_cons_cons, List.forall_mem_cons,
        event_before, event_after]
      exact and_congr_right fun _ => ih (m.step state input).2

/-! ## Invariants -/

/-- The induction rule. If every step on an input of the run preserves `inv`, then `inv` holds
on both sides of every event of a run that starts in it. -/
theorem trace_invariant_of_mem (inv : σ → Prop) {inputs : List ι}
    (hstep : ∀ state, ∀ input ∈ inputs, inv state → inv (m.step state input).2)
    {state : σ} (hinv : inv state) :
    ∀ e ∈ m.trace state inputs, inv e.before ∧ inv e.after := by
  induction inputs generalizing state with
  | nil => simp
  | cons input inputs ih =>
      rw [trace_cons, List.forall_mem_cons]
      have hnext := hstep state input List.mem_cons_self hinv
      refine ⟨⟨hinv, hnext⟩, ih ?_ hnext⟩
      intro state later hlater
      exact hstep state later (List.mem_cons_of_mem input hlater)

/-- The induction rule for an invariant that every step preserves. -/
theorem trace_invariant (inv : σ → Prop)
    (hstep : ∀ state input, inv state → inv (m.step state input).2)
    {state : σ} (hinv : inv state) (inputs : List ι) :
    ∀ e ∈ m.trace state inputs, inv e.before ∧ inv e.after :=
  m.trace_invariant_of_mem inv (fun state input _ => hstep state input) hinv

/-- The induction rule for the final state. -/
theorem run_invariant (inv : σ → Prop)
    (hstep : ∀ state input, inv state → inv (m.step state input).2)
    {state : σ} (hinv : inv state) (inputs : List ι) : inv (m.run state inputs) := by
  induction inputs generalizing state with
  | nil => exact hinv
  | cons input inputs ih => exact ih (hstep state input hinv)

/-- When `ok` is exactly what a step needs to preserve `inv`, a run keeps `inv` after every event
if and only if all its events are `ok`. -/
theorem trace_forall_after_iff (inv : σ → Prop) (ok : σ → ι → Prop)
    (hstep : ∀ state input, inv state → (inv (m.step state input).2 ↔ ok state input))
    {state : σ} (hinv : inv state) (inputs : List ι) :
    (∀ e ∈ m.trace state inputs, inv e.after) ↔
      ∀ e ∈ m.trace state inputs, ok e.before e.input := by
  induction inputs generalizing state with
  | nil => simp
  | cons input inputs ih =>
      simp only [trace_cons, List.forall_mem_cons, event_after, event_before, event_input]
      rw [hstep state input hinv]
      exact and_congr_right fun hok => ih ((hstep state input hinv).mpr hok)

/-- The induction rule for an invariant that relates the state to the inputs read so far. -/
theorem run_prefix_induction (inv : List ι → σ → Prop) {state : σ} {inputs : List ι}
    (hnil : inv [] state)
    (hstep : ∀ pre input, pre ++ [input] <+: inputs → inv pre (m.run state pre) →
      inv (pre ++ [input]) (m.step (m.run state pre) input).2) :
    ∀ pre, pre <+: inputs → inv pre (m.run state pre) := by
  intro pre hpre
  induction pre using List.reverseRecOn with
  | nil => exact hnil
  | append_singleton pre input ih =>
      rw [run_concat]
      exact hstep pre input hpre (ih ((List.prefix_append pre [input]).trans hpre))

/-- When `ok` is exactly what the next input needs to preserve such an invariant, it holds after
every part of a run if and only if all inputs are `ok`. -/
theorem run_prefix_forall_iff (inv : List ι → σ → Prop) (ok : List ι → ι → Prop) {state : σ}
    {inputs : List ι} (hnil : inv [] state)
    (hstep : ∀ pre input, pre ++ [input] <+: inputs → inv pre (m.run state pre) →
      (inv (pre ++ [input]) (m.step (m.run state pre) input).2 ↔ ok pre input)) :
    (∀ pre, pre <+: inputs → inv pre (m.run state pre)) ↔
      ∀ pre input, pre ++ [input] <+: inputs → ok pre input := by
  constructor
  · intro hinv pre input hprefix
    have hpre : pre <+: inputs := (List.prefix_append pre [input]).trans hprefix
    have hnext := hinv (pre ++ [input]) hprefix
    rw [run_concat] at hnext
    exact (hstep pre input hprefix (hinv pre hpre)).mp hnext
  · intro hok
    refine m.run_prefix_induction inv hnil ?_
    intro pre input hprefix hpre
    exact (hstep pre input hprefix hpre).mpr (hok pre input hprefix)

/-- A machine that reads a loop counter answers with the entries of a table, when every step from a
state that fits the counter does and leads to a state that fits the next number. -/
theorem outputs_range (m : Machine σ ℕ ο) (fits : ℕ → σ → Prop) (table : ℕ → ο)
    (hstep : ∀ i state, fits i state →
      (m.step state i).1 = table i ∧ fits (i + 1) (m.step state i).2)
    {state : σ} (hstart : fits 0 state) (count : ℕ) :
    m.outputs state (List.range count) = (List.range count).map table := by
  have hrun : ∀ count, fits count (m.run state (List.range count)) ∧
      m.outputs state (List.range count) = (List.range count).map table := by
    intro count
    induction count with
    | zero => exact ⟨hstart, rfl⟩
    | succ count ih =>
        obtain ⟨houtput, hfits⟩ := hstep count _ ih.1
        rw [List.range_succ, run_concat, outputs_concat, ih.2, houtput, List.map_append]
        exact ⟨hfits, rfl⟩
  exact (hrun count).2

/-- The states that runs from the states of `init` reach. -/
def Reachable (init : σ → Prop) (state : σ) : Prop :=
  ∃ start inputs, init start ∧ m.run start inputs = state

variable {m}

/-- Reachable states are closed under further inputs. -/
theorem Reachable.run {init : σ → Prop} {state : σ} (h : m.Reachable init state)
    (inputs : List ι) : m.Reachable init (m.run state inputs) := by
  obtain ⟨start, earlier, hstart, rfl⟩ := h
  exact ⟨start, earlier ++ inputs, hstart, m.run_append start earlier inputs⟩

/-- Reachable states are closed under one further input. -/
theorem Reachable.step {init : σ → Prop} {state : σ} (h : m.Reachable init state)
    (input : ι) : m.Reachable init (m.step state input).2 :=
  h.run [input]

/-- What holds initially and is preserved by every step holds in every reachable state. -/
theorem Reachable.invariant {init inv : σ → Prop} {state : σ} (h : m.Reachable init state)
    (hinit : ∀ start, init start → inv start)
    (hstep : ∀ state input, inv state → inv (m.step state input).2) : inv state := by
  obtain ⟨start, inputs, hstart, rfl⟩ := h
  exact m.run_invariant inv hstep (hinit start hstart) inputs

end Machine
