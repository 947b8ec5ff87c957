import DcasPolicyEngine.Numeric.Spacing
import DcasPolicyEngine.Viewer.Broadcast

/-!
# The rate limits of the viewer

`call_cases` says what a call does to the times of the three kinds of broadcasts, and
`viewer_spacing` that every run keeps their distances.
-/

namespace DcasPolicyEngine

/-- What a call is about. -/
inductive ViewerKind where
  | lkasFrame
  | driverFrame
  | status
  deriving DecidableEq

/-- The time between two broadcasts of a kind. -/
def ViewerKind.interval : ViewerKind → ℚ
  | .lkasFrame => frameInterval
  | .driverFrame => frameInterval
  | .status => statusInterval

theorem ViewerKind.interval_pos (kind : ViewerKind) : 0 < kind.interval := by
  cases kind <;> norm_num [interval, frameInterval, statusInterval]

namespace ViewerCall

/-- What the call is about. -/
def kind : ViewerCall → ViewerKind
  | lkasFrame _ _ _ => .lkasFrame
  | driverFrame _ _ _ => .driverFrame
  | status _ _ _ _ => .status

/-- The reading of the clock. -/
def now : ViewerCall → ℚ
  | lkasFrame now _ _ => now
  | driverFrame now _ _ => now
  | status now _ _ _ => now

end ViewerCall

namespace DCASWebViewer

/-- The time of the last broadcast of a kind. -/
def lastTime (self : DCASWebViewer) : ViewerKind → ℚ
  | .lkasFrame => self.lastLkasTime
  | .driverFrame => self.lastDriverTime
  | .status => self.lastStatusTime

/-- A frame is broadcast only when the interval has passed. -/
theorem broadcast_frame_cases (channel : UInt8) (lastTime now : ℚ) (clientCount : ℕ)
    (encoded : Option (List UInt8)) :
    broadcastFrame channel lastTime now clientCount encoded = (none, lastTime) ∨
      ¬ now - lastTime < frameInterval ∧
        (broadcastFrame channel lastTime now clientCount encoded).2 = now := by
  unfold broadcastFrame
  split_ifs with hearly hnobody
  · exact .inl rfl
  · exact .inl rfl
  · cases encodeFrame encoded channel with
    | none => exact .inl rfl
    | some data => exact .inr ⟨hearly, rfl⟩

/-- A status takes the time only when the interval has passed. -/
theorem receive_status_cases (self : DCASWebViewer) (now : ℚ) (clientCount : ℕ)
    (raw clock : List Char) :
    self.receiveStatus now clientCount raw clock = (none, self) ∨
      ¬ now - self.lastStatusTime < statusInterval ∧
        (self.receiveStatus now clientCount raw clock).2 = { self with lastStatusTime := now } := by
  unfold receiveStatus
  cases Json.parse raw with
  | none => exact .inl rfl
  | some data =>
      dsimp only
      unfold broadcastStatus
      split_ifs with hearly hnobody
      · exact .inl rfl
      · exact .inl rfl
      · cases data <;> exact .inr ⟨hearly, rfl⟩

/-- A call leaves the time of its kind as it is and broadcasts nothing, or the interval has passed
and the time is the reading. The times of the other kinds are left alone. -/
theorem call_cases (self : DCASWebViewer) (call : ViewerCall) :
    (∀ kind, kind ≠ call.kind → (self.call call).2.lastTime kind = self.lastTime kind) ∧
      ((self.call call).1 = none ∧
          (self.call call).2.lastTime call.kind = self.lastTime call.kind ∨
        ¬ call.now - self.lastTime call.kind < call.kind.interval ∧
          (self.call call).2.lastTime call.kind = call.now) := by
  cases call with
  | lkasFrame now clientCount encoded =>
      refine ⟨fun kind hkind => by cases kind <;> first | rfl | exact absurd rfl hkind, ?_⟩
      rcases broadcast_frame_cases lkasChannel self.lastLkasTime now clientCount encoded with
        hnone | htime
      · exact .inl ⟨congrArg Prod.fst hnone, congrArg Prod.snd hnone⟩
      · exact .inr htime
  | driverFrame now clientCount encoded =>
      refine ⟨fun kind hkind => by cases kind <;> first | rfl | exact absurd rfl hkind, ?_⟩
      rcases broadcast_frame_cases driverChannel self.lastDriverTime now clientCount encoded with
        hnone | htime
      · exact .inl ⟨congrArg Prod.fst hnone, congrArg Prod.snd hnone⟩
      · exact .inr htime
  | status now clientCount raw clock =>
      rcases receive_status_cases self now clientCount raw clock with hnone | ⟨hearly, htime⟩
      · have hcall : self.call (.status now clientCount raw clock) = (none, self) := hnone
        rw [hcall]
        exact ⟨fun _ _ => rfl, .inl ⟨rfl, rfl⟩⟩
      · have hcall : (self.call (.status now clientCount raw clock)).2 =
            { self with lastStatusTime := now } := htime
        rw [hcall]
        refine ⟨fun kind hkind => ?_, .inr ⟨hearly, rfl⟩⟩
        cases kind <;> first | rfl | exact absurd rfl hkind

end DCASWebViewer

/-- One call within a run. -/
abbrev ViewerEvent := Machine.Event DCASWebViewer ViewerCall (Option ViewerMessage)

/-- The readings of the clock at which the calls of a kind have broadcast something. -/
def broadcastTimes (kind : ViewerKind) (events : List ViewerEvent) : List ℚ :=
  (events.filter fun e => e.input.kind = kind ∧ e.output.isSome = true).map fun e => e.input.now

theorem broadcast_times_concat (kind : ViewerKind) (events : List ViewerEvent)
    (self : DCASWebViewer) (call : ViewerCall) :
    broadcastTimes kind (events ++ [viewer.event self call]) =
      broadcastTimes kind events ++
        if call.kind = kind ∧ (self.call call).1.isSome = true then [call.now] else [] := by
  have hstep : viewer.step self call = self.call call := rfl
  by_cases hcounts : call.kind = kind ∧ (self.call call).1.isSome = true
  · simp [broadcastTimes, hstep, hcounts]
  · rw [if_neg hcounts]
    simpa [broadcastTimes, hstep] using hcounts

/-- A run keeps the distance of each kind. -/
theorem spaced_run (self : DCASWebViewer) (calls : List ViewerCall) (kind : ViewerKind) :
    Spaced kind.interval (broadcastTimes kind (viewer.trace self calls))
      ((viewer.run self calls).lastTime kind) := by
  have hpos := kind.interval_pos.le
  induction calls using List.reverseRecOn with
  | nil => exact .start _
  | append_singleton calls call ih =>
      obtain ⟨hothers, hown⟩ := (viewer.run self calls).call_cases call
      rw [Machine.trace_append, Machine.run_concat]
      show Spaced _ (broadcastTimes kind (_ ++ [viewer.event (viewer.run self calls) call])) _
      rw [broadcast_times_concat]
      by_cases hkind : call.kind = kind
      · subst hkind
        rcases hown with ⟨hnone, hkept⟩ | ⟨hpassed, htime⟩
        · have hnext : (viewer.step (viewer.run self calls) call).2.lastTime call.kind = _ := hkept
          rw [if_neg (by simp [hnone]), List.append_nil, hnext]
          exact ih
        · have hnext : (viewer.step (viewer.run self calls) call).2.lastTime call.kind = _ := htime
          rw [hnext]
          split
          · exact ih.pass hpos hpassed
          · rw [List.append_nil]
            exact ih.use hpos hpassed
      · have hnext : (viewer.step (viewer.run self calls) call).2.lastTime kind = _ :=
          hothers kind (Ne.symm hkind)
        rw [if_neg fun hboth => hkind hboth.1, List.append_nil, hnext]
        exact ih

/-- Over every run, for each kind two broadcasts are at least the interval apart, and no window of
time has more than one broadcast more than intervals fit into it. Whatever the clock reads, also
when it is set back. -/
theorem viewer_spacing (self : DCASWebViewer) (calls : List ViewerCall) (kind : ViewerKind) :
    (broadcastTimes kind (viewer.trace self calls)).Pairwise
        (fun earlier later => earlier + kind.interval ≤ later) ∧
      ∀ low high : ℚ, low ≤ high →
        (((broadcastTimes kind (viewer.trace self calls)).filter
          fun now => low ≤ now ∧ now ≤ high).length : ℚ) * kind.interval ≤
            high - low + kind.interval := by
  have hspaced := spaced_run self calls kind
  refine ⟨hspaced.pairwise, fun low high hwindow => ?_⟩
  exact hspaced.length_le hwindow kind.interval_pos.le

end DcasPolicyEngine
