import Mathlib.Data.List.Basic

/-!
# Observing a history in order

A value changes over time and an observer looks at it now and then. `InOrder history observed`
says that what was observed occurs in the history in the same order: the observer may see a value
several times or miss it, but never sees an older value after a newer one. `Holding` is the
invariant of an observer that keeps a copy and renews it from a value that is new enough.
-/

variable {α : Type*}

/-- The observed values occur in the history in the order in which they were observed. -/
inductive InOrder : List α → List α → Prop
  | nil (history : List α) : InOrder history []
  | pass (value : α) {history observed : List α} (h : InOrder history observed) :
      InOrder (value :: history) observed
  | observe (value : α) {history observed : List α} (h : InOrder (value :: history) observed) :
      InOrder (value :: history) (value :: observed)

namespace InOrder

variable {history observed : List α}

/-- The history may go on. -/
theorem append_right (h : InOrder history observed) (later : List α) :
    InOrder (history ++ later) observed := by
  induction h with
  | nil history => exact .nil _
  | pass value _ ih => exact .pass value ih
  | observe value _ ih => exact .observe value ih

/-- The newest value can be observed. -/
theorem newest (history : List α) (value : α) : InOrder (history ++ [value]) [value] := by
  induction history with
  | nil => exact .observe value (.nil [value])
  | cons first history ih => exact .pass first ih

/-- The newest value can be observed once more. -/
theorem concat {value : α} (h : InOrder (history ++ [value]) observed) :
    InOrder (history ++ [value]) (observed ++ [value]) := by
  generalize htotal : history ++ [value] = total at h
  induction h generalizing history with
  | nil =>
      rw [← htotal]
      exact newest history value
  | pass first hrest ih =>
      cases history with
      | nil =>
          obtain ⟨rfl, rfl⟩ := List.cons.inj htotal
          -- nothing is observed of an empty history
          cases hrest
          exact newest [] value
      | cons first' history =>
          obtain ⟨rfl, rfl⟩ := List.cons.inj htotal
          exact .pass first' (ih rfl)
  | observe first _ ih => exact .observe first (ih htotal)

/-- Every observed value is a value of the history. -/
theorem subset (h : InOrder history observed) : observed ⊆ history := by
  induction h with
  | nil history => exact List.nil_subset history
  | pass value _ ih => exact List.subset_cons_of_subset value ih
  | observe value _ ih => exact List.cons_subset.mpr ⟨List.mem_cons_self, ih⟩

end InOrder

/-- The observer holds a value of the history that is at least as new as all it has observed. -/
def Holding (history observed : List α) (held : α) : Prop :=
  ∃ earlier later, history = earlier ++ held :: later ∧ InOrder (earlier ++ [held]) observed

namespace Holding

variable {history observed : List α} {held : α}

/-- At first the observer holds the first value. -/
theorem start (value : α) (later : List α) : Holding (value :: later) [] value :=
  ⟨[], later, rfl, .nil _⟩

/-- What was observed was observed in order. -/
theorem inOrder (h : Holding history observed held) : InOrder history observed := by
  obtain ⟨earlier, later, rfl, horder⟩ := h
  have hsplit : earlier ++ held :: later = (earlier ++ [held]) ++ later := by simp
  rw [hsplit]
  exact horder.append_right later

/-- The value changes. -/
theorem change (h : Holding history observed held) (value : α) :
    Holding (history ++ [value]) observed held := by
  obtain ⟨earlier, later, rfl, horder⟩ := h
  exact ⟨earlier, later ++ [value], by simp, horder⟩

/-- The observer looks at its copy. -/
theorem look (h : Holding history observed held) : Holding history (observed ++ [held]) held := by
  obtain ⟨earlier, later, hsplit, horder⟩ := h
  exact ⟨earlier, later, hsplit, horder.concat⟩

/-- The observer renews its copy from a value that is at least as new as `first`, when all that it
has observed is at least as old as `first`. -/
theorem renew {older rest : List α} {first value : α} (h : InOrder (older ++ [first]) observed)
    (hvalue : value ∈ first :: rest) : Holding (older ++ first :: rest) observed value := by
  rcases List.mem_cons.mp hvalue with rfl | hlater
  · exact ⟨older, rest, rfl, h⟩
  · obtain ⟨passed, later, rfl⟩ := List.append_of_mem hlater
    refine ⟨older ++ first :: passed, later, by simp, ?_⟩
    have hsplit : older ++ first :: passed ++ [value] = (older ++ [first]) ++ (passed ++ [value]) :=
      by simp
    rw [hsplit]
    exact h.append_right _

end Holding
