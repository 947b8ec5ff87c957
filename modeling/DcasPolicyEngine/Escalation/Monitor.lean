import Mathlib.Algebra.Notation.Defs
import Mathlib.Order.GaloisConnection.Basic
import DcasPolicyEngine.Machine.Run

/-!
# Escalation monitors

An escalation monitor watches for a condition that must not last. The longer it lasts without
interruption the higher the level, and the highest level is final. A `Ladder` says from which
time on a level applies. A `Watch` is either final or a level below the highest with two timers,
one for the condition and one for the time without it. Levels are an arbitrary bounded linear
order. Times are ordered, and how a timer advances is a parameter, so that it may be rounded.
-/

namespace Escalation

variable {L T : Type*}

/-- The levels and the times from which they apply: `level` is the highest level whose threshold
has been reached. -/
structure Ladder (L T : Type*) [Preorder L] [Preorder T] where
  threshold : L → T
  level : T → L
  gc : GaloisConnection threshold level

section Ladder

variable [LinearOrder L] [BoundedOrder L] [Preorder T] (ladder : Ladder L T)

/-- The level after the condition has lasted for a time: while that is too short for any level
above the lowest, the level that was held stays. -/
def Ladder.climb (held : L) (elapsed : T) : L :=
  if ladder.level elapsed = ⊥ then held else ladder.level elapsed

/-- The level that the time calls for is reached. -/
theorem Ladder.level_le_climb (held : L) (elapsed : T) :
    ladder.level elapsed ≤ ladder.climb held elapsed := by
  unfold climb
  split
  · next hbot => exact hbot ▸ bot_le
  · exact le_rfl

/-- Every level whose threshold has been reached is reached. -/
theorem Ladder.le_climb {level : L} {elapsed : T} (h : ladder.threshold level ≤ elapsed)
    (held : L) : level ≤ ladder.climb held elapsed :=
  (ladder.gc.le_u h).trans (ladder.level_le_climb held elapsed)

end Ladder

/-- What is observed during one tick. -/
inductive Observation (L T : Type*) [LinearOrder L] [BoundedOrder L] [Preorder T] where
  /-- The highest level applies at once. -/
  | alarm
  /-- Nothing can be observed, and a fixed level applies. -/
  | blind (level : L) (hlevel : level ≠ ⊤)
  /-- The condition was cleared for this time. -/
  | cleared (duration : T)
  /-- The condition lasted for this time. -/
  | present (ladder : Ladder L T) (duration : T)

/-- The state of a monitor. -/
inductive Watch (L T : Type*) [LinearOrder L] [BoundedOrder L] where
  | final
  | watching (level : L) (hlevel : level ≠ ⊤) (presentFor clearFor : T)

section Watch

variable [LinearOrder L] [BoundedOrder L]

namespace Watch

/-- The level that a monitor shows. -/
def level : Watch L T → L
  | final => ⊤
  | watching level _ _ _ => level

/-- The monitor at a level that may be the highest. -/
def enter (level : L) (presentFor clearFor : T) : Watch L T :=
  if hlevel : level = ⊤ then final else watching level hlevel presentFor clearFor

@[simp] theorem enter_top (presentFor clearFor : T) :
    enter (⊤ : L) presentFor clearFor = final := by
  simp [enter]

theorem enter_of_ne_top {level : L} (hlevel : level ≠ ⊤) (presentFor clearFor : T) :
    enter level presentFor clearFor = watching level hlevel presentFor clearFor := by
  simp [enter, hlevel]

@[simp] theorem level_enter (level : L) (presentFor clearFor : T) :
    (enter level presentFor clearFor).level = level := by
  unfold enter
  split
  · next htop => exact htop.symm
  · rfl

end Watch

variable [Zero T] [LinearOrder T]

/-- The watch after an observation. A condition that is cleared for `hold` leads back
to the lowest level. -/
def observe (advance : T → T → T) (hold : T) : Watch L T → Observation L T → Watch L T
  | .final, _ => .final
  | .watching _ _ _ _, .alarm => .final
  | .watching _ _ presentFor clearFor, .blind level hlevel =>
      .watching level hlevel presentFor clearFor
  | .watching level _ _ clearFor, .cleared duration =>
      .enter (if hold ≤ advance clearFor duration then ⊥ else level) 0 (advance clearFor duration)
  | .watching level _ presentFor _, .present ladder duration =>
      .enter (ladder.climb level (advance presentFor duration)) (advance presentFor duration) 0

/-- The monitor as a machine that shows its level. -/
def monitor (advance : T → T → T) (hold : T) : Machine (Watch L T) (Observation L T) L :=
  ⟨fun watch observation =>
    ((observe advance hold watch observation).level, observe advance hold watch observation)⟩

end Watch

end Escalation
