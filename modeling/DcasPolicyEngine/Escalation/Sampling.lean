import Mathlib.Algebra.BigOperators.Group.List.Basic
import Mathlib.Algebra.Order.Monoid.Canonical.Defs
import DcasPolicyEngine.Escalation.Monitor

/-!
# Sampling an escalation monitor

A monitor without rounding only counts how long an observation lasts. Whether it makes the
observation at once or cuts it into shorter ones, the watch is the same afterwards:
`observe_lasting_add` for two pieces and `run_lasting` for any number of them. Times are not
negative.
-/

namespace Escalation

variable {L T : Type*} [LinearOrder L] [BoundedOrder L]

section Ladder

variable [Preorder T] (ladder : Ladder L T)

/-- Climbing again after more time is climbing once. -/
theorem Ladder.climb_climb (held : L) {first second : T} (h : first ≤ second) :
    ladder.climb (ladder.climb held first) second = ladder.climb held second := by
  unfold climb
  by_cases hsecond : ladder.level second = ⊥
  · -- the time has not been enough for any level before either
    have hfirst : ladder.level first = ⊥ := le_bot_iff.mp (hsecond ▸ ladder.gc.monotone_u h)
    simp [hfirst, hsecond]
  · simp [hsecond]

/-- Once the highest level is reached from below, more time reaches it as well. -/
theorem Ladder.climb_eq_top_of_le {held : L} (hheld : held ≠ ⊤) {first second : T}
    (h : first ≤ second) (htop : ladder.climb held first = ⊤) :
    ladder.climb held second = ⊤ := by
  have hbot : (⊥ : L) ≠ ⊤ := (bot_le.trans_lt (lt_top_iff_ne_top.mpr hheld)).ne
  have hfirst : ladder.level first = ⊤ := by
    unfold climb at htop
    split at htop
    · exact absurd htop hheld
    · exact htop
  have hsecond : ladder.level second = ⊤ := top_le_iff.mp (hfirst ▸ ladder.gc.monotone_u h)
  rw [climb, hsecond, if_neg hbot.symm]

end Ladder

variable [LinearOrder T]

/-- The same observation for another time. -/
def Observation.lasting : Observation L T → T → Observation L T
  | .alarm, _ => .alarm
  | .blind level hlevel, _ => .blind level hlevel
  | .cleared _, duration => .cleared duration
  | .present ladder _, duration => .present ladder duration

/-- The condition was observed to be cleared. -/
def Observation.Cleared : Observation L T → Prop
  | .cleared _ => True
  | _ => False

/-- The time does not matter for what is observed. -/
@[simp] theorem Observation.cleared_lasting (observation : Observation L T) (duration : T) :
    (observation.lasting duration).Cleared ↔ observation.Cleared := by
  cases observation <;> exact Iff.rfl

variable [AddCommMonoid T] [CanonicallyOrderedAdd T]

/-- An observation in two pieces leads to the same watch as the whole one. -/
theorem observe_lasting_add (hold : T) (watch : Watch L T) (observation : Observation L T)
    (first second : T) :
    observe (· + ·) hold (observe (· + ·) hold watch (observation.lasting first))
        (observation.lasting second) =
      observe (· + ·) hold watch (observation.lasting (first + second)) := by
  cases watch with
  | final => rfl
  | watching level hlevel presentFor clearFor =>
      have hbot : (⊥ : L) ≠ ⊤ := (bot_le.trans_lt (lt_top_iff_ne_top.mpr hlevel)).ne
      cases observation with
      | alarm => rfl
      | blind blindLevel hblind => rfl
      | cleared duration =>
          simp only [Observation.lasting, observe, ← add_assoc]
          by_cases hreached : hold ≤ clearFor + first
          · have hlater : hold ≤ clearFor + first + second := hreached.trans le_self_add
            rw [if_pos hreached, if_pos hlater, Watch.enter_of_ne_top hbot]
            simp
          · rw [if_neg hreached, Watch.enter_of_ne_top hlevel]
      | present ladder duration =>
          have hle : presentFor + first ≤ presentFor + first + second := le_self_add
          simp only [Observation.lasting, observe, ← add_assoc]
          by_cases htop : ladder.climb level (presentFor + first) = ⊤
          · rw [htop, ladder.climb_eq_top_of_le hlevel hle htop]
            simp
          · rw [Watch.enter_of_ne_top htop]
            show Watch.enter (ladder.climb (ladder.climb level _) _) _ _ = _
            rw [ladder.climb_climb level hle]

/-- An observation in any number of pieces leads to the same watch as the whole one. -/
theorem run_lasting (hold : T) (watch : Watch L T) (observation : Observation L T)
    {durations : List T} (hne : durations ≠ []) :
    (monitor (· + ·) hold).run watch (durations.map observation.lasting) =
      observe (· + ·) hold watch (observation.lasting durations.sum) := by
  induction durations generalizing watch with
  | nil => exact absurd rfl hne
  | cons first durations ih =>
      cases durations with
      | nil => simp [monitor]
      | cons second durations =>
          rw [List.map_cons, Machine.run_cons, ih _ (List.cons_ne_nil _ _), List.sum_cons]
          exact observe_lasting_add hold watch observation first _

end Escalation
