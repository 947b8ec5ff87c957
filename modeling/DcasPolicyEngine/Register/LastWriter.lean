import Mathlib.Data.List.Induction
import Mathlib.Data.List.Nodup
import Mathlib.Order.Lattice
import Mathlib.Order.Defs.LinearOrder

/-!
# A register that keeps the latest report

A report carries the time at which it was made, and it can arrive late. The register takes up a
report that is not older than the one it holds, so the last to arrive wins among equals.
`latest_cases` says which report is left after any number of them, and `latest_perm` that the
order of arrival does not matter when the times are distinct.
-/

namespace LastWriter

/-- A value and the time at which it was reported. -/
structure Stamped (α T : Type*) where
  value : α
  stamp : T
  deriving DecidableEq

variable {α T : Type*} [LinearOrder T]

/-- The register after one report. -/
def write (held report : Stamped α T) : Stamped α T :=
  if held.stamp ≤ report.stamp then report else held

/-- The register after the reports in their order of arrival. -/
def latest (init : Stamped α T) (reports : List (Stamped α T)) : Stamped α T :=
  reports.foldl write init

/-- The report is one of the reports, none is later, and none of the same time comes after it. -/
def IsLatest (reports : List (Stamped α T)) (report : Stamped α T) : Prop :=
  ∃ before after, reports = before ++ report :: after ∧
    (∀ other ∈ before, other.stamp ≤ report.stamp) ∧ ∀ other ∈ after, other.stamp < report.stamp

theorem latest_concat (init : Stamped α T) (reports : List (Stamped α T)) (report : Stamped α T) :
    latest init (reports ++ [report]) = write (latest init reports) report := by
  simp [latest, List.foldl_append]

theorem write_of_le {held report : Stamped α T} (h : held.stamp ≤ report.stamp) :
    write held report = report :=
  if_pos h

theorem write_of_lt {held report : Stamped α T} (h : report.stamp < held.stamp) :
    write held report = held :=
  if_neg h.not_ge

/-- The time of the register only grows. -/
theorem write_stamp (held report : Stamped α T) :
    (write held report).stamp = max held.stamp report.stamp := by
  rcases le_or_gt held.stamp report.stamp with hle | hlt
  · rw [write_of_le hle, max_eq_right hle]
  · rw [write_of_lt hlt, max_eq_left hlt.le]

theorem init_stamp_le_latest (init : Stamped α T) (reports : List (Stamped α T)) :
    init.stamp ≤ (latest init reports).stamp := by
  induction reports using List.reverseRecOn with
  | nil => exact le_rfl
  | append_singleton reports report ih =>
      rw [latest_concat, write_stamp]
      exact ih.trans (le_max_left _ _)

/-- No report is later than the register. -/
theorem stamp_le_latest (init : Stamped α T) {reports : List (Stamped α T)} :
    ∀ report ∈ reports, report.stamp ≤ (latest init reports).stamp := by
  induction reports using List.reverseRecOn with
  | nil => simp
  | append_singleton reports last ih =>
      intro report hreport
      rw [latest_concat, write_stamp]
      rcases List.mem_append.mp hreport with hearlier | hlast
      · exact (ih report hearlier).trans (le_max_left _ _)
      · rw [List.mem_singleton.mp hlast]
        exact le_max_right _ _

/-- Reports that are older than the initial one change nothing. -/
theorem latest_filter (init : Stamped α T) (reports : List (Stamped α T)) :
    latest init (reports.filter fun report => init.stamp ≤ report.stamp) =
      latest init reports := by
  induction reports using List.reverseRecOn with
  | nil => rfl
  | append_singleton reports report ih =>
      rw [List.filter_append, latest_concat]
      rcases le_or_gt init.stamp report.stamp with hle | hlt
      · rw [List.filter_singleton, decide_eq_true hle, cond_true, latest_concat, ih]
      · have hold := hlt.trans_le (init_stamp_le_latest init reports)
        rw [List.filter_singleton, decide_eq_false hlt.not_ge, cond_false, List.append_nil, ih,
          write_of_lt hold]

/-- Of reports that are not older than the initial one, the register holds the latest, if there
are any. -/
theorem latest_cases (init : Stamped α T) {reports : List (Stamped α T)}
    (h : ∀ report ∈ reports, init.stamp ≤ report.stamp) :
    (reports = [] ∧ latest init reports = init) ∨ IsLatest reports (latest init reports) := by
  induction reports using List.reverseRecOn with
  | nil => exact .inl ⟨rfl, rfl⟩
  | append_singleton reports report ih =>
      right
      rw [latest_concat]
      rcases le_or_gt (latest init reports).stamp report.stamp with hle | hlt
      · rw [write_of_le hle]
        refine ⟨reports, [], rfl, ?_, by simp⟩
        intro other hother
        exact (stamp_le_latest init other hother).trans hle
      · rw [write_of_lt hlt]
        obtain ⟨rfl, hinit⟩ | ⟨before, after, hsplit, hbefore, hafter⟩ :=
          ih fun other hother => h other (List.mem_append_left [report] hother)
        · -- the only report is not older than the initial one
          rw [hinit] at hlt
          exact absurd (h report (by simp)) hlt.not_ge
        · refine ⟨before, after ++ [report], ?_, hbefore, ?_⟩
          · exact (congrArg (· ++ [report]) hsplit).trans (by simp)
          · intro other hother
            rcases List.mem_append.mp hother with hearlier | hlast
            · exact hafter other hearlier
            · rw [List.mem_singleton.mp hlast]
              exact hlt

/-- A report that is older than another one changes nothing beside it. -/
theorem write_write_of_lt (held : Stamped α T) {older newer : Stamped α T}
    (h : older.stamp < newer.stamp) :
    write (write held older) newer = write held newer ∧
      write (write held newer) older = write held newer := by
  constructor
  · rcases le_or_gt held.stamp older.stamp with hle | hlt
    · rw [write_of_le hle, write_of_le h.le, write_of_le (hle.trans h.le)]
    · rw [write_of_lt hlt]
  · refine write_of_lt ?_
    rw [write_stamp]
    exact h.trans_le (le_max_right _ _)

/-- Two reports of distinct times can be exchanged. -/
theorem write_right_comm {first second : Stamped α T} (h : first.stamp ≠ second.stamp)
    (held : Stamped α T) :
    write (write held first) second = write (write held second) first := by
  rcases lt_or_gt_of_ne h with hlt | hgt
  · obtain ⟨hforward, hback⟩ := write_write_of_lt held hlt
    exact hforward.trans hback.symm
  · obtain ⟨hforward, hback⟩ := write_write_of_lt held hgt
    exact hback.trans hforward.symm

/-- Reports of distinct times leave the same register in every order of arrival. -/
theorem latest_perm (init : Stamped α T) {reports other : List (Stamped α T)}
    (hperm : reports.Perm other) (hdistinct : (reports.map Stamped.stamp).Nodup) :
    latest init reports = latest init other := by
  refine hperm.foldl_eq' ?_ init
  intro first hfirst second hsecond held
  by_cases hsame : first = second
  · rw [hsame]
  · refine write_right_comm ?_ held
    intro hstamp
    exact hsame (List.inj_on_of_nodup_map hdistinct hfirst hsecond hstamp)

end LastWriter
