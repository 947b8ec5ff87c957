import DcasPolicyEngine.Bridge.HeldPerception
import DcasPolicyEngine.Bridge.Modes
import DcasPolicyEngine.Bridge.StatusText
import DcasPolicyEngine.Viewer.Limits
import DcasPolicyEngine.Viewer.PageLabels

/-!
# From the bridge to the page

A status that the bridge publishes is parsed by the viewer, stamped, rendered in another layout and
parsed again by the page. `status_members_stamped` says that the page gets the fields of the tick,
and `page_shows_recent_status` that while a client is connected the page shows a status that is less
than 0.2 seconds older than the last one that came. `page_mrm_indicators` says when the elements
that show an MRM agree.
-/

namespace DcasPolicyEngine

/-- The bridge publishes the output in some run. -/
def BridgeOutput.Published (output : BridgeOutput) : Prop :=
  ∃ config startupUs inputs, output ∈ (bridge config).shown (.start config startupUs) inputs

/-- What the page gets of a tick. -/
def BridgeOutput.pageStatus (output : BridgeOutput) (clock : List Char) : PageStatus :=
  { driverState := output.driverState.toString.toList
    hmiAction := output.output.stepC.hmiAction.toString.toList
    lkasMode := output.output.stepC.nextLkasMode.toString.toList
    reason := output.output.stepB.reason.toString.toList
    mrmActive := output.output.stepC.mrmActive
    isAttentive := output.tick.stepB.perception.isAttentive
    timestamp := clock }

/-- The bridge sends no inherited names. -/
theorem page_status_names (output : BridgeOutput) (clock : List Char) :
    inherits (output.pageStatus clock).driverState = false ∧
      inherits (output.pageStatus clock).hmiAction = false := by
  constructor
  · show inherits (some output.driverState.toString.toList) = false
    cases output.driverState <;> decide
  · show inherits (some output.output.stepC.hmiAction.toString.toList) = false
    cases output.output.stepC.hmiAction <;> decide

/-! ## One status -/

/-- The members of a stamped status. -/
def BridgeOutput.stampedMembers (output : BridgeOutput) (clock : List Char) :
    List (List Char × Json) :=
  output.statusMembers ++
    [("type".toList, .string "status".toList), ("timestamp".toList, .string clock)]

variable {output : BridgeOutput}

theorem stamp_status_members (output : BridgeOutput) (clock : List Char) :
    stampStatus output.statusMembers clock = output.stampedMembers clock := by
  rfl

theorem stamped_members_distinct (output : BridgeOutput) (clock : List Char) :
    Json.Distinct (.object (output.stampedMembers clock)) := by
  refine ⟨?_, trivial, trivial, trivial, trivial, trivial, trivial, trivial, trivial, trivial⟩
  show ["driver_state".toList, "hmi_action".toList, "lkas_mode".toList, "reason".toList,
    "mrm_active".toList, "is_attentive".toList, "type".toList, "timestamp".toList].Nodup
  decide

/-- The page finds the members in the text that the viewer sends. -/
theorem status_members_stamped (output : BridgeOutput) (clock : List Char) :
    statusMembers (Json.render .spaced (.object (output.stampedMembers clock))) =
      some (output.stampedMembers clock) := by
  rw [statusMembers, Json.parse_render .spaced (stamped_members_distinct output clock)]
  rfl

/-- The members are the fields of the tick. -/
theorem of_members_stamped (output : BridgeOutput) (clock : List Char) :
    PageStatus.ofMembers (output.stampedMembers clock) = some (output.pageStatus clock) := rfl

/-- What the viewer makes of a published status. -/
theorem BridgeOutput.Published.receive_status (h : output.Published) (self : DCASWebViewer)
    (now : ℚ) (clientCount : ℕ) (clock : List Char) :
    self.receiveStatus now clientCount output.status.toList clock =
      if now - self.lastStatusTime < statusInterval ∨ clientCount = 0 then (none, self)
      else (some (.text (Json.render .spaced (.object (output.stampedMembers clock)))),
        { self with lastStatusTime := now }) := by
  obtain ⟨config, startupUs, inputs, houtput⟩ := h
  have hparsed := parse_published_status houtput
  rw [DCASWebViewer.receiveStatus, hparsed]
  show self.broadcastStatus now clientCount (.object output.statusMembers) clock = _
  unfold DCASWebViewer.broadcastStatus
  dsimp only
  rw [stamp_status_members]
  by_cases hearly : now - self.lastStatusTime < statusInterval
  · rw [if_pos hearly, if_pos (.inl hearly)]
  · rw [if_neg hearly]
    by_cases hnobody : clientCount = 0
    · rw [if_pos hnobody, if_pos (.inr hnobody)]
    · rw [if_neg hnobody, if_neg (not_or.mpr ⟨hearly, hnobody⟩)]

/-! ## All statuses -/

/-- A status that reaches the viewer, with what the viewer and the page read when it does. -/
structure StatusArrival where
  output : BridgeOutput
  now : ℚ
  clientCount : ℕ
  clock : List Char
  browser : Browser := {}

/-- The viewer and a page that is connected to it. -/
structure StatusDisplay where
  viewer : DCASWebViewer := {}
  page : Page := {}

/-- A status goes through the viewer, and to the page if the viewer relays it. -/
def StatusDisplay.receive (self : StatusDisplay) (arrival : StatusArrival) : StatusDisplay :=
  match self.viewer.receiveStatus arrival.now arrival.clientCount arrival.output.status.toList
      arrival.clock with
  | (some (.text message), viewer) =>
      { viewer := viewer, page := self.page.handle (.text message arrival.browser) }
  | (_, viewer) => { self with viewer := viewer }

/-- The way of the statuses as a machine without outputs. -/
def statusDisplay : Machine StatusDisplay StatusArrival Unit :=
  ⟨fun self arrival => ((), self.receive arrival)⟩

/-- The page shows the status of an arrival: the elements are those of its fields, on a page that
may have shown a blocked camera and may be connected. -/
def Page.Shows (self : Page) (arrival : StatusArrival) : Prop :=
  ∃ camera connected, self.toPageLabels =
    labelsOf (some (arrival.output.pageStatus arrival.clock, arrival.browser))
      { camera := camera } connected

/-- The page shows nothing yet, or an arrival. -/
def Page.Clean (self : Page) : Prop := self = {} ∨ ∃ arrival, self.Shows arrival

/-- A status of the bridge is shown on a clean page. -/
theorem Page.Clean.shows {self : Page} (h : self.Clean) (arrival : StatusArrival) :
    (self.applyState (arrival.output.pageStatus arrival.clock) arrival.browser).Shows arrival := by
  obtain ⟨last, camera, connected, hcovers, hlabels⟩ : ∃ last camera connected,
      (∀ shown ∈ last, ({ camera := camera } : Leftover).Covers shown.1) ∧
        self.toPageLabels = labelsOf last { camera := camera } connected := by
    rcases h with rfl | ⟨previous, camera, connected, hlabels⟩
    · exact ⟨none, false, false, by rintro shown ⟨⟩, rfl⟩
    · refine ⟨_, camera, connected, ?_, hlabels⟩
      rintro shown ⟨⟩
      obtain ⟨hstate, haction⟩ := page_status_names previous.output previous.clock
      exact ⟨fun h => absurd (hstate ▸ h) Bool.false_ne_true,
        fun h => absurd (haction ▸ h) Bool.false_ne_true⟩
  obtain ⟨hstate, haction⟩ := page_status_names arrival.output arrival.clock
  have hafter := apply_state_labels_of hcovers hlabels
    (arrival.output.pageStatus arrival.clock) arrival.browser
  rw [Leftover.after, hstate, haction] at hafter
  exact ⟨_, connected, hafter⟩

/-- An arrival is shown, or the interval has not passed and it changes nothing. -/
theorem StatusDisplay.receive_cases (self : StatusDisplay) {arrival : StatusArrival}
    (hpublished : arrival.output.Published) (hclient : arrival.clientCount ≠ 0)
    (hclean : self.page.Clean) :
    (arrival.now - self.viewer.lastStatusTime < statusInterval ∧ self.receive arrival = self) ∨
      ((self.receive arrival).page.Shows arrival ∧
        (self.receive arrival).viewer.lastStatusTime = arrival.now) := by
  have hreceive := hpublished.receive_status self.viewer arrival.now arrival.clientCount
    arrival.clock
  by_cases hearly : arrival.now - self.viewer.lastStatusTime < statusInterval
  · rw [if_pos (.inl hearly)] at hreceive
    refine .inl ⟨hearly, ?_⟩
    rw [StatusDisplay.receive, hreceive]
  · rw [if_neg (not_or.mpr ⟨hearly, hclient⟩)] at hreceive
    refine .inr ?_
    rw [StatusDisplay.receive, hreceive]
    refine ⟨?_, rfl⟩
    have hshows := hclean.shows arrival
    show (self.page.handle (.text _ arrival.browser)).Shows arrival
    rw [Page.handle, status_members_stamped]
    dsimp only
    rw [of_members_stamped]
    exact hshows

/-- While a client is connected, after every arrival the page shows one of the arrivals, which is
also the last one that the viewer has relayed, and the later ones came before the interval had
passed. -/
theorem recent_run {first : StatusArrival} {rest : List StatusArrival}
    (hpublished : ∀ arrival ∈ first :: rest, arrival.output.Published)
    (hclient : ∀ arrival ∈ first :: rest, arrival.clientCount ≠ 0)
    (hfirst : statusInterval ≤ first.now) :
    ∃ earlier shown later, first :: rest = earlier ++ shown :: later ∧
      (∀ arrival ∈ later, arrival.now - shown.now < statusInterval) ∧
      (statusDisplay.run {} (first :: rest)).page.Shows shown ∧
      (statusDisplay.run {} (first :: rest)).viewer.lastStatusTime = shown.now := by
  induction rest using List.reverseRecOn with
  | nil =>
      -- the first arrival is relayed
      have hmem : first ∈ [first] := List.mem_singleton_self first
      rcases StatusDisplay.receive_cases {} (hpublished first hmem) (hclient first hmem) (.inl rfl)
        with ⟨hearly, _⟩ | ⟨hshows, htime⟩
      · have hnow : first.now - 0 < statusInterval := hearly
        linarith
      · exact ⟨[], first, [], rfl, fun _ hnone => absurd hnone List.not_mem_nil, hshows, htime⟩
  | append_singleton rest last ih =>
      rw [← List.cons_append] at hpublished hclient ⊢
      obtain ⟨hpublished, hlast⟩ := List.forall_mem_append.mp hpublished
      obtain ⟨hclient, hclient'⟩ := List.forall_mem_append.mp hclient
      obtain ⟨earlier, shown, later, hsplit, hlater, hshows, htime⟩ := ih hpublished hclient
      have hmem : last ∈ [last] := List.mem_singleton_self last
      rw [Machine.run_concat]
      rcases StatusDisplay.receive_cases _ (hlast last hmem) (hclient' last hmem)
        (.inr ⟨shown, hshows⟩) with ⟨hearly, hsame⟩ | ⟨hnew, hnow⟩
      · have hstep : (statusDisplay.step (statusDisplay.run {} (first :: rest)) last).2 =
            statusDisplay.run {} (first :: rest) := hsame
        rw [htime] at hearly
        rw [hstep, hsplit]
        refine ⟨earlier, shown, later ++ [last], by simp, ?_, hsplit ▸ hshows, hsplit ▸ htime⟩
        exact List.forall_mem_append.mpr ⟨hlater, List.forall_mem_singleton.mpr hearly⟩
      · exact ⟨first :: rest, last, [], rfl, fun _ hnone => absurd hnone List.not_mem_nil, hnew,
          hnow⟩

/-- While a client is connected and the clock of the viewer does not go back, after every arrival
the page shows one of the statuses that have arrived from the bridge, and those that have arrived
after it did so within less than 0.2 seconds. -/
theorem page_shows_recent_status {first : StatusArrival} {rest : List StatusArrival}
    (hpublished : ∀ arrival ∈ first :: rest, arrival.output.Published)
    (hclient : ∀ arrival ∈ first :: rest, arrival.clientCount ≠ 0)
    (hfirst : statusInterval ≤ first.now)
    (hclock : (first :: rest).Pairwise fun earlier later => earlier.now ≤ later.now) :
    ∃ earlier shown later, first :: rest = earlier ++ shown :: later ∧
      (statusDisplay.run {} (first :: rest)).page.Shows shown ∧
      ∀ arrival ∈ later,
        shown.now ≤ arrival.now ∧ arrival.now - shown.now < statusInterval := by
  obtain ⟨earlier, shown, later, hsplit, hlater, hshows, _⟩ :=
    recent_run hpublished hclient hfirst
  refine ⟨earlier, shown, later, hsplit, hshows, ?_⟩
  rw [hsplit] at hclock
  have hordered := (List.pairwise_cons.mp (List.pairwise_append.mp hclock).2.1).1
  exact fun arrival hmem => ⟨hordered arrival hmem, hlater arrival hmem⟩

/-- Of two arrivals in a tenth of a second one is shown. -/
theorem page_shows_recent_status_first :
    ∃ output ∈ (bridge {}).shown (.start {} 0) [readyInput none],
      ∃ shown ∈ [(⟨output, 1, 1, "12:00:00".toList, {}⟩ : StatusArrival),
          ⟨output, 1.1, 1, "12:00:01".toList, {}⟩],
        (statusDisplay.run {} [⟨output, 1, 1, "12:00:00".toList, {}⟩,
          ⟨output, 1.1, 1, "12:00:01".toList, {}⟩]).page.Shows shown := by
  obtain ⟨output, houtput⟩ :
      ∃ output, (bridge {}).shown (.start {} 0) [readyInput none] = [output] := ⟨_, rfl⟩
  have hmem : output ∈ (bridge {}).shown (.start {} 0) [readyInput none] := by simp [houtput]
  refine ⟨output, hmem, ?_⟩
  have hpublished : output.Published := ⟨{}, 0, [readyInput none], hmem⟩
  obtain ⟨earlier, shown, later, hsplit, hshows, _⟩ := @page_shows_recent_status
    ⟨output, 1, 1, "12:00:00".toList, {}⟩ [⟨output, 1.1, 1, "12:00:01".toList, {}⟩]
    (by simpa using hpublished) (by simp) (by norm_num [statusInterval]) (by norm_num)
  refine ⟨shown, ?_, hshows⟩
  rw [hsplit]
  simp

/-! ## The MRM on the page -/

/-- The alert of a page shows the MRM of a status by its driver state. -/
theorem Page.Shows.alert_iff {self : Page} {arrival : StatusArrival} (h : self.Shows arrival) :
    self.alertDesc.textContent = "MRM Active".toList ↔ arrival.output.driverState = .absent := by
  obtain ⟨_, _, hlabels⟩ := h
  have halert : self.alertDesc.textContent =
      (lookupOr stateMap (fun _ => inheritedState) okStyle
        (some arrival.output.driverState.toString.toList)).desc :=
    congrArg (fun labels : PageLabels => labels.alertDesc.textContent) hlabels
  rw [halert]
  cases arrival.output.driverState <;> decide

/-- The action of a page is the HMI action of a status. -/
theorem Page.Shows.action_iff {self : Page} {arrival : StatusArrival} (h : self.Shows arrival) :
    self.hmiAction.textContent = "MRM".toList ↔
      arrival.output.output.stepC.hmiAction = .mrm := by
  obtain ⟨_, _, hlabels⟩ := h
  have haction : self.hmiAction.textContent =
      (lookupOr hmiMap (fun _ => inheritedHmi) infoStyle
        (some arrival.output.output.stepC.hmiAction.toString.toList)).text :=
    congrArg (fun labels : PageLabels => labels.hmiAction.textContent) hlabels
  rw [haction]
  cases arrival.output.output.stepC.hmiAction <;> decide

/-- The MRM field of a page. -/
theorem Page.Shows.mrm_iff {self : Page} {arrival : StatusArrival} (h : self.Shows arrival) :
    self.mrmActive.textContent = "YES".toList ↔
      arrival.output.output.stepC.mrmActive = true := by
  obtain ⟨_, _, hlabels⟩ := h
  have hmrm : self.mrmActive.textContent =
      if arrival.output.output.stepC.mrmActive then "YES".toList else "NO".toList :=
    congrArg (fun labels : PageLabels => labels.mrmActive.textContent) hlabels
  rw [hmrm]
  cases arrival.output.output.stepC.mrmActive <;> decide

/-- On a page that shows a status of a run, the alert shows an active MRM for every `ABSENT` driver,
but the action and the MRM field do so only without the override option of the bridge. -/
theorem page_mrm_indicators {config : BridgeConfig} {startupUs : UInt64}
    {inputs : List BridgeInput} {arrival : StatusArrival} {self : Page}
    (houtput : arrival.output ∈ (bridge config).shown (.start config startupUs) inputs)
    (hshows : self.Shows arrival) :
    (self.alertDesc.textContent = "MRM Active".toList ↔ arrival.output.driverState = .absent) ∧
      (self.hmiAction.textContent = "MRM".toList ↔
        arrival.output.driverState = .absent ∧ ¬ config.driverOverride = true) ∧
      (self.mrmActive.textContent = "YES".toList ↔
        arrival.output.driverState = .absent ∧ ¬ config.driverOverride = true) := by
  obtain ⟨hmrm, hmi⟩ := mrm_of_shown houtput
  exact ⟨hshows.alert_iff, hshows.action_iff.trans hmi, hshows.mrm_iff.trans hmrm⟩

/-- A tick on an intoxicated driver. -/
def intoxicatedTick : List BridgeInput := [readyInput (some { reason := 4 })]

/-- With the override option, the page that gets the status of this tick has an alert that shows an
MRM, and an action and a field that show none. -/
theorem page_mrm_indicators_override :
    ∃ output, (bridge { driverOverride := true }).shown (.start { driverOverride := true } 0)
        intoxicatedTick = [output] ∧
      (statusDisplay.run {} [⟨output, 1, 1, [], {}⟩]).page.alertDesc.textContent =
        "MRM Active".toList ∧
      ¬ (statusDisplay.run {} [⟨output, 1, 1, [], {}⟩]).page.hmiAction.textContent =
        "MRM".toList ∧
      ¬ (statusDisplay.run {} [⟨output, 1, 1, [], {}⟩]).page.mrmActive.textContent =
        "YES".toList := by
  obtain ⟨output, houtput⟩ : ∃ output, (bridge { driverOverride := true }).shown
      (.start { driverOverride := true } 0) intoxicatedTick = [output] := ⟨_, rfl⟩
  refine ⟨output, houtput, ?_⟩
  have hmem : output ∈ (bridge { driverOverride := true }).shown
      (.start { driverOverride := true } 0) intoxicatedTick := by
    rw [houtput]
    exact List.mem_singleton_self output
  have habsent : output.driverState = .absent := by
    have hstates : ((bridge { driverOverride := true }).shown
        (.start { driverOverride := true } 0) intoxicatedTick).map BridgeOutput.driverState =
          [.absent] := by
      decide +kernel
    rw [houtput] at hstates
    exact List.head_eq_of_cons_eq hstates
  have hshows : (statusDisplay.run {} [⟨output, 1, 1, [], {}⟩]).page.Shows
      ⟨output, 1, 1, [], {}⟩ := by
    have hpublished : output.Published := ⟨_, 0, intoxicatedTick, hmem⟩
    rcases @StatusDisplay.receive_cases {} ⟨output, 1, 1, [], {}⟩ hpublished one_ne_zero (.inl rfl)
      with ⟨hearly, _⟩ | ⟨hshows, _⟩
    · have hnow : (1 : ℚ) - 0 < statusInterval := hearly
      norm_num [statusInterval] at hnow
    · exact hshows
  obtain ⟨halert, haction, hmrm⟩ := page_mrm_indicators hmem hshows
  exact ⟨halert.mpr habsent, fun htext => (haction.mp htext).2 rfl,
    fun htext => (hmrm.mp htext).2 rfl⟩

end DcasPolicyEngine
