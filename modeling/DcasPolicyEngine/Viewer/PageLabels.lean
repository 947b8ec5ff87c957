import Mathlib.Data.Finset.Basic
import Mathlib.Data.Finset.Lattice.Lemmas
import Mathlib.Data.List.Induction
import DcasPolicyEngine.Viewer.Page

/-!
# What the page shows

Every status overwrites what the earlier ones have written, but for two classes. Nothing but a
blocked camera clears the classes of the reason, so that its colour stays once the camera has been
blocked, and nothing removes the class `undefined` that a driver state or an HMI action adds whose
name is inherited. `apply_state_of_tidy` says so for one status, and `page_shows_last_status` for
every sequence of messages and connections.
-/

namespace DcasPolicyEngine

/-! ## Tables -/

/-- The name is that of a property that every object inherits. -/
def inherits (name : Option (List Char)) : Bool := name.any inheritedNames.contains

/-- What holds of the default and of all entries of a table holds of what is looked up, unless the
name is inherited. -/
theorem lookup_or_cases {α : Type*} {motive : α → Prop} {table : List (List Char × α)}
    {inherited : List Char → α} {other : α} (hother : motive other)
    (htable : ∀ entry ∈ table, motive entry.2) (name : Option (List Char)) :
    motive (lookupOr table inherited other name) ∨ inherits name = true := by
  cases name with
  | none => exact .inl hother
  | some name =>
      by_cases hname : inheritedNames.contains name
      · exact .inr hname
      · refine .inl ?_
        show motive ((table.lookup name).getD (if inheritedNames.contains name then _ else other))
        rw [if_neg hname]
        induction table with
        | nil => exact hother
        | cons entry table ih =>
            obtain ⟨hentry, hrest⟩ := List.forall_mem_cons.mp htable
            rw [List.lookup_cons]
            cases name == entry.1 with
            | true => exact hentry
            | false => exact ih hrest

/-- An inherited name that is not in the table is found as such. -/
theorem lookup_or_inherited {α : Type*} {table : List (List Char × α)}
    (htable : ∀ name ∈ inheritedNames, (table.lookup name).isNone) {inherited other : α}
    {name : Option (List Char)} (hname : inherits name = true) :
    lookupOr table (fun _ => inherited) other name = inherited := by
  cases name with
  | none => cases hname
  | some name =>
      have hcontains : inheritedNames.contains name := hname
      have hmem : name ∈ inheritedNames := List.contains_iff_mem.mp hcontains
      show (table.lookup name).getD (if inheritedNames.contains name then inherited else other) = _
      rw [Option.isNone_iff_eq_none.mp (htable name hmem), if_pos hcontains]
      rfl

/-- The entry of `STATE_MAP` for a status. -/
def PageStatus.stateStyle (data : PageStatus) : StateStyle :=
  lookupOr stateMap (fun _ => inheritedState) okStyle data.driverState

/-- The entry of `HMI_MAP` for a status. -/
def PageStatus.hmiStyle (data : PageStatus) : HmiStyle :=
  lookupOr hmiMap (fun _ => inheritedHmi) infoStyle data.hmiAction

theorem state_style_of_inherits {data : PageStatus} (h : inherits data.driverState = true) :
    data.stateStyle = inheritedState :=
  lookup_or_inherited (by decide) h

theorem hmi_style_of_inherits {data : PageStatus} (h : inherits data.hmiAction = true) :
    data.hmiStyle = inheritedHmi :=
  lookup_or_inherited (by decide) h

/-- The classes of a state are on the lists of the script, or `undefined` for an inherited name. -/
theorem state_style_classes (data : PageStatus) :
    (data.stateStyle.cls ∈ stateClasses ∧ data.stateStyle.border ∈ borderClasses ∧
        data.stateStyle.bg ∈ bgClasses) ∨
      inherits data.driverState = true ∧ data.stateStyle = inheritedState := by
  have htable : ∀ entry ∈ stateMap, entry.2.cls ∈ stateClasses ∧
      entry.2.border ∈ borderClasses ∧ entry.2.bg ∈ bgClasses := by decide
  have hcases : (data.stateStyle.cls ∈ stateClasses ∧ data.stateStyle.border ∈ borderClasses ∧
      data.stateStyle.bg ∈ bgClasses) ∨ inherits data.driverState = true :=
    lookup_or_cases (motive := fun style : StateStyle => style.cls ∈ stateClasses ∧
      style.border ∈ borderClasses ∧ style.bg ∈ bgClasses) (by decide) htable data.driverState
  exact hcases.imp_right fun hinherits => ⟨hinherits, state_style_of_inherits hinherits⟩

/-- The class of an HMI action is on the list of the script, or `undefined` for an inherited
name. -/
theorem hmi_style_class (data : PageStatus) :
    data.hmiStyle.cls ∈ stateClasses ∨
      inherits data.hmiAction = true ∧ data.hmiStyle = inheritedHmi := by
  have htable : ∀ entry ∈ hmiMap, entry.2.cls ∈ stateClasses := by decide
  have hcases : data.hmiStyle.cls ∈ stateClasses ∨ inherits data.hmiAction = true :=
    lookup_or_cases (motive := fun style : HmiStyle => style.cls ∈ stateClasses) (by decide)
      htable data.hmiAction
  exact hcases.imp_right fun hinherits => ⟨hinherits, hmi_style_of_inherits hinherits⟩

/-! ## Classes -/

/-- The class `undefined`, if it has been added. -/
def undefinedIf (added : Bool) : Finset PageClass := if added then {.undefined} else ∅

section Classes

variable {list : List PageClass} {classes : Finset PageClass} {cls : PageClass} {added : Bool}

/-- When the classes of a list are removed, the class `undefined` is left. -/
theorem filter_classes (hlist : .undefined ∉ list)
    (hclasses : ∀ cls ∈ classes, cls ∈ list ∨ added = true ∧ cls = .undefined) :
    ((classes ∪ undefinedIf added).filter fun cls => cls ∉ list) = undefinedIf added := by
  have hkept : ((undefinedIf added).filter fun cls => cls ∉ list) = undefinedIf added := by
    unfold undefinedIf
    cases added with
    | false => rfl
    | true => exact Finset.filter_true_of_mem fun cls hcls => Finset.mem_singleton.mp hcls ▸ hlist
  rw [Finset.filter_union, hkept, Finset.union_eq_right]
  intro cls hcls
  obtain ⟨hmem, hnot⟩ := Finset.mem_filter.mp hcls
  obtain ⟨rfl, rfl⟩ := (hclasses cls hmem).resolve_left hnot
  exact Finset.mem_singleton_self _

/-- The class that is added for an inherited name is one that stays. -/
theorem insert_undefined_if {inherited : Bool} (hcls : inherited = true → cls = .undefined) :
    insert cls (undefinedIf added) = {cls} ∪ undefinedIf (added || inherited) := by
  cases inherited with
  | false => rw [Bool.or_false, Finset.insert_eq]
  | true =>
      rw [hcls rfl, Bool.or_true]
      cases added <;> decide

end Classes

/-! ## One status -/

/-- What the statuses have left on the page for good: the colour that a blocked camera gives to the
reason, and the class `undefined` of a driver state and of an HMI action. -/
structure Leftover where
  camera : Bool := false
  state : Bool := false
  action : Bool := false

/-- What is left after another status. -/
def Leftover.after (self : Leftover) (data : PageStatus) : Leftover :=
  { camera := self.camera || data.reason = some "blocked_camera".toList
    state := self.state || inherits data.driverState
    action := self.action || inherits data.hmiAction }

/-- What the script keeps of the elements: when the classes of its lists are removed, what is left
has been left for good. -/
structure PageLabels.Tidy (labels : PageLabels) (leftover : Leftover) : Prop where
  driver_state : (labels.driverState.classList.filter fun cls => cls ∉ stateClasses) =
    undefinedIf leftover.state
  lkas_mode : labels.lkasMode.classList = ∅
  hmi_action : (labels.hmiAction.classList.filter fun cls => cls ∉ .blink :: stateClasses) =
    undefinedIf leftover.action
  alert_desc : labels.alertDesc.classList = ∅
  reason_val : labels.reasonVal.classList = if leftover.camera then {.stateCam} else ∅
  mrm_active : (labels.mrmActive.classList.filter fun cls => cls ∉ stateClasses) = ∅
  status_panel : (labels.statusPanel.classList.filter fun cls => cls ∉ borderClasses) =
    undefinedIf leftover.state
  status_panel_text : labels.statusPanel.textContent = []
  alert_box : (labels.alertBox.classList.filter fun cls => cls ∉ bgClasses) =
    undefinedIf leftover.state
  alert_box_text : labels.alertBox.textContent = []
  attention_value : (labels.attentionValue.classList.filter fun cls => cls ∉ stateClasses) = ∅
  timestamp : labels.timestamp.classList = ∅

/-- The HMI actions that blink. -/
def PageStatus.Blinks (data : PageStatus) : Prop :=
  data.hmiAction = some "DCA".toList ∨ data.hmiAction = some "MRM".toList

instance (data : PageStatus) : Decidable data.Blinks := inferInstanceAs (Decidable (_ ∨ _))

/-- What a status shows on a fresh page, which is not connected and has never shown a blocked
camera. -/
def statusLabels (data : PageStatus) (browser : Browser) : PageLabels :=
  { driverState :=
      { textContent := data.driverState.getD [], classList := {data.stateStyle.cls} }
    lkasMode := { textContent := orElseText data.lkasMode ['-', '-'] }
    hmiAction :=
      { textContent := data.hmiStyle.text
        classList := if data.Blinks then {.blink, data.hmiStyle.cls} else {data.hmiStyle.cls} }
    alertDesc := { textContent := data.stateStyle.desc }
    reasonVal :=
      { textContent := lookupOr reasonNames browser.inheritedText
          (orElseText data.reason ['-', '-']) data.reason }
    mrmActive :=
      { textContent := if data.mrmActive then "YES".toList else "NO".toList
        classList := {if data.mrmActive then .stateMrm else .stateOk} }
    statusPanel := { textContent := [], classList := {data.stateStyle.border} }
    alertBox := { textContent := [], classList := {data.stateStyle.bg} }
    attentionValue :=
      { textContent := if data.isAttentive then "Attentive".toList else "Distracted".toList
        classList := {if data.isAttentive then .stateOk else .stateMrm} }
    timestamp :=
      { textContent := "Updated: ".toList ++ orElseText data.timestamp browser.localTime } }

/-- What the last status shows on a fresh page, with the state of the connection and with what the
statuses have left for good. -/
def labelsOf (last : Option (PageStatus × Browser)) (leftover : Leftover) (connected : Bool) :
    PageLabels :=
  let labels : PageLabels :=
    match last with
    | some (data, browser) => statusLabels data browser
    | none => {}
  { labels with
    wsDot := { textContent := [], classList := if connected then {.connected} else ∅ }
    wsLabel :=
      { textContent := if connected then "CONNECTED".toList else "DISCONNECTED".toList }
    driverState :=
      { labels.driverState with
        classList := labels.driverState.classList ∪ undefinedIf leftover.state }
    hmiAction :=
      { labels.hmiAction with
        classList := labels.hmiAction.classList ∪ undefinedIf leftover.action }
    reasonVal :=
      { labels.reasonVal with classList := if leftover.camera then {.stateCam} else ∅ }
    statusPanel :=
      { labels.statusPanel with
        classList := labels.statusPanel.classList ∪ undefinedIf leftover.state }
    alertBox :=
      { labels.alertBox with
        classList := labels.alertBox.classList ∪ undefinedIf leftover.state } }

/-- The inherited names of a status are among those that have left something. -/
def Leftover.Covers (leftover : Leftover) (data : PageStatus) : Prop :=
  (inherits data.driverState = true → leftover.state = true) ∧
    (inherits data.hmiAction = true → leftover.action = true)

/-- The elements are tidy. -/
theorem labels_of_tidy {last : Option (PageStatus × Browser)} {leftover : Leftover}
    (hcovers : ∀ shown ∈ last, leftover.Covers shown.1) (connected : Bool) :
    (labelsOf last leftover connected).Tidy leftover := by
  cases last with
  | none =>
      have hempty : ∀ list : List PageClass, ∀ added : Bool, ∀ cls ∈ (∅ : Finset PageClass),
          cls ∈ list ∨ added = true ∧ cls = .undefined :=
        fun _ _ cls hcls => absurd hcls (Finset.notMem_empty cls)
      exact ⟨filter_classes (by decide) (hempty _ _), rfl, filter_classes (by decide) (hempty _ _),
        rfl, rfl, rfl, filter_classes (by decide) (hempty _ _), rfl,
        filter_classes (by decide) (hempty _ _), rfl, rfl, rfl⟩
  | some shown =>
      obtain ⟨data, browser⟩ := shown
      obtain ⟨hstate, haction⟩ := hcovers _ rfl
      have hstyle : ∀ (list : List PageClass) (cls : StateStyle → PageClass),
          cls inheritedState = .undefined →
          (cls data.stateStyle ∈ list ∨
            inherits data.driverState = true ∧ data.stateStyle = inheritedState) →
          ∀ other ∈ ({cls data.stateStyle} : Finset PageClass),
            other ∈ list ∨ leftover.state = true ∧ other = .undefined := by
        intro list cls hundefined hcases other hother
        rw [Finset.mem_singleton.mp hother]
        refine hcases.imp_right ?_
        rintro ⟨hinherits, hstyle⟩
        exact ⟨hstate hinherits, by rw [hstyle, hundefined]⟩
      have hcases := state_style_classes data
      refine ⟨filter_classes (by decide) (hstyle _ _ rfl (hcases.imp_left fun h => h.1)), rfl,
        filter_classes (by decide) ?_, rfl, rfl, ?_,
        filter_classes (by decide) (hstyle _ _ rfl (hcases.imp_left fun h => h.2.1)), rfl,
        filter_classes (by decide) (hstyle _ _ rfl (hcases.imp_left fun h => h.2.2)), rfl, ?_, rfl⟩
      · show ∀ cls ∈ (if data.Blinks then _ else _ : Finset PageClass), _
        intro cls hcls
        have hmem : cls = .blink ∨ cls = data.hmiStyle.cls := by
          by_cases hblinks : data.Blinks
          · rw [if_pos hblinks] at hcls
            simpa using hcls
          · rw [if_neg hblinks] at hcls
            exact .inr (Finset.mem_singleton.mp hcls)
        rcases hmem with rfl | rfl
        · exact .inl List.mem_cons_self
        · refine (hmi_style_class data).imp (List.mem_cons_of_mem _) ?_
          rintro ⟨hinherits, hstyle⟩
          exact ⟨haction hinherits, by rw [hstyle]; rfl⟩
      · show (({if data.mrmActive then .stateMrm else .stateOk} : Finset PageClass).filter _) = ∅
        cases data.mrmActive <;> decide
      · show (({if data.isAttentive then .stateOk else .stateMrm} : Finset PageClass).filter _) = ∅
        cases data.isAttentive <;> decide

section Elements

variable {el : PageElement} {list : List PageClass}

/-- Clearing and adding leaves the added class, and `undefined` if it had been added. -/
theorem clear_add {added inherited : Bool} {cls : PageClass}
    (h : (el.classList.filter fun cls => cls ∉ list) = undefinedIf added)
    (hcls : inherited = true → cls = .undefined) (text : List Char) :
    ((el.clearClasses list).setText text).addClass cls =
      { textContent := text, classList := {cls} ∪ undefinedIf (added || inherited) } := by
  rw [← insert_undefined_if hcls, ← h]
  rfl

/-- Clearing and adding a class of the script. -/
theorem clear_add_flag (h : (el.classList.filter fun cls => cls ∉ list) = ∅) (text : List Char)
    (cls : PageClass) :
    ((el.setText text).clearClasses list).addClass cls =
      { textContent := text, classList := {cls} } := by
  show ({ textContent := text, classList := insert cls (el.classList.filter _) } : PageElement) = _
  rw [h]
  rfl

/-- The blinking is set or not, whatever the element had. -/
theorem clear_add_blink {added inherited : Bool} {cls : PageClass}
    (h : (el.classList.filter fun cls => cls ∉ .blink :: list) = undefinedIf added)
    (hcls : inherited = true → cls = .undefined) (hblink : cls ≠ .blink) (text : List Char) :
    (((el.clearClasses list).setText text).addClass cls).addClass .blink =
        { textContent := text,
          classList := {.blink, cls} ∪ undefinedIf (added || inherited) } ∧
      (((el.clearClasses list).setText text).addClass cls).removeClass .blink =
        { textContent := text, classList := {cls} ∪ undefinedIf (added || inherited) } := by
  have hrest : ((el.classList.filter fun cls => cls ∉ list).filter fun cls => cls ≠ .blink) =
      undefinedIf added := by
    rw [← h, Finset.filter_filter]
    exact Finset.filter_congr fun cls _ => by simp [and_comm]
  have hremoved : ((insert cls (el.classList.filter fun cls => cls ∉ list)).filter
      fun cls => cls ≠ .blink) = {cls} ∪ undefinedIf (added || inherited) := by
    rw [Finset.filter_insert, if_pos hblink, hrest, insert_undefined_if hcls]
  constructor
  · refine congrArg (PageElement.mk text) ?_
    show insert .blink (insert cls (el.classList.filter fun cls => cls ∉ list)) = _
    rw [Finset.insert_union, ← hremoved]
    ext other
    by_cases hother : other = .blink <;> simp [hother]
  · exact congrArg (PageElement.mk text) hremoved

/-- A blocked camera gives its colour to the reason, and no other reason takes it away. -/
theorem set_reason {camera : Bool} (h : el.classList = if camera then {.stateCam} else ∅)
    (text : List Char) (blocked : Prop) [Decidable blocked] :
    (if blocked then ((el.setText text).clearClasses stateClasses).addClass .stateCam
      else el.setText text) =
      { textContent := text
        classList := if camera || decide blocked then {.stateCam} else ∅ } := by
  by_cases hblocked : blocked
  · have hcleared : (el.classList.filter fun cls => cls ∉ stateClasses) = ∅ := by
      rw [h]
      cases camera <;> decide
    rw [if_pos hblocked, clear_add_flag hcleared, decide_eq_true hblocked, Bool.or_true]
    rfl
  · rw [if_neg hblocked, decide_eq_false hblocked, Bool.or_false, ← h]
    rfl

end Elements

variable {self : Page}

/-- A status overwrites the elements of a tidy page, but for the connection and what is left for
good. -/
theorem apply_state_of_tidy {leftover : Leftover} (h : self.toPageLabels.Tidy leftover)
    (data : PageStatus) (browser : Browser) :
    (self.applyState data browser).toPageLabels =
      { labelsOf (some (data, browser)) (leftover.after data) false with
        wsDot := self.wsDot
        wsLabel := self.wsLabel } := by
  have hstate : ∀ {cls : StateStyle → PageClass}, cls inheritedState = .undefined →
      inherits data.driverState = true → cls data.stateStyle = .undefined := by
    intro cls hundefined hinherits
    rw [← hundefined]
    exact congrArg cls (state_style_of_inherits hinherits)
  have haction : inherits data.hmiAction = true → data.hmiStyle.cls = .undefined := by
    intro hinherits
    rw [hmi_style_of_inherits hinherits]
    rfl
  have hblink : data.hmiStyle.cls ≠ .blink := by
    rcases hmi_style_class data with hmem | ⟨_, hstyle⟩
    · intro heq
      rw [heq] at hmem
      exact absurd hmem (by decide)
    · rw [hstyle]
      decide
  obtain ⟨hadded, hremoved⟩ := clear_add_blink h.hmi_action haction hblink data.hmiStyle.text
  refine PageLabels.ext rfl rfl ?_ ?_ ?_ ?_ ?_ ?_ ?_ ?_ ?_ ?_
  · exact clear_add h.driver_state (hstate rfl) _
  · exact congrArg (PageElement.mk _) h.lkas_mode
  · show (if data.Blinks then _ else _) =
      PageElement.mk _ ((if data.Blinks then _ else _) ∪ undefinedIf _)
    split
    · exact hadded
    · exact hremoved
  · exact congrArg (PageElement.mk _) h.alert_desc
  · exact set_reason h.reason_val _ _
  · exact clear_add_flag h.mrm_active _ _
  · exact (clear_add h.status_panel (hstate rfl) _).trans
      (congrArg (PageElement.mk · _) h.status_panel_text)
  · exact (clear_add h.alert_box (hstate rfl) _).trans
      (congrArg (PageElement.mk · _) h.alert_box_text)
  · exact clear_add_flag h.attention_value _ _
  · exact congrArg (PageElement.mk _) h.timestamp

/-- A status on a page that shows the last one. -/
theorem apply_state_labels_of {last : Option (PageStatus × Browser)} {leftover : Leftover}
    {connected : Bool} (hcovers : ∀ shown ∈ last, leftover.Covers shown.1)
    (h : self.toPageLabels = labelsOf last leftover connected) (data : PageStatus)
    (browser : Browser) :
    (self.applyState data browser).toPageLabels =
      labelsOf (some (data, browser)) (leftover.after data) connected := by
  have htidy : self.toPageLabels.Tidy leftover := h ▸ labels_of_tidy hcovers connected
  rw [apply_state_of_tidy htidy, h]
  rfl

/-- A frame changes none of the elements with a text. -/
theorem show_frame_labels (data : List UInt8) :
    (self.showFrame data).toPageLabels = self.toPageLabels := by
  unfold Page.showFrame
  dsimp only
  split_ifs <;> rfl

/-! ## All messages -/

/-- The status of an event. -/
def PageEvent.status : PageEvent → Option (PageStatus × Browser)
  | .text message browser =>
      ((statusMembers message).bind PageStatus.ofMembers).map fun data => (data, browser)
  | .opened | .closed | .binary _ => none

/-- What an event says about the connection. -/
def PageEvent.connection : PageEvent → Option Bool
  | .opened => some true
  | .closed => some false
  | .text _ _ | .binary _ => none

/-- An event is no status, or a status whose members have the types that the viewer sends. -/
def PageEvent.Plain : PageEvent → Prop
  | .text message _ => ∀ members ∈ statusMembers message, (PageStatus.ofMembers members).isSome
  | .opened | .closed | .binary _ => True

instance (event : PageEvent) : Decidable event.Plain :=
  match event with
  | .text message _ => inferInstanceAs
      (Decidable (∀ members ∈ statusMembers message, (PageStatus.ofMembers members).isSome))
  | .opened | .closed | .binary _ => .isTrue trivial

/-- The last status. -/
def lastStatus (events : List PageEvent) : Option (PageStatus × Browser) :=
  (events.filterMap PageEvent.status).getLast?

/-- What the statuses have left on the page for good. -/
def leftoverOf (events : List PageEvent) : Leftover :=
  let statuses := (events.filterMap PageEvent.status).map Prod.fst
  { camera := statuses.any fun data => data.reason = some "blocked_camera".toList
    state := statuses.any fun data => inherits data.driverState
    action := statuses.any fun data => inherits data.hmiAction }

/-- The connection is open. -/
def connectedAfter (events : List PageEvent) : Bool :=
  (events.filterMap PageEvent.connection).getLast?.getD false

section Concat

variable (events : List PageEvent) (event : PageEvent)

theorem last_status_concat :
    lastStatus (events ++ [event]) = event.status.or (lastStatus events) := by
  cases hstatus : event.status <;> simp [lastStatus, hstatus]

theorem leftover_of_concat :
    leftoverOf (events ++ [event]) =
      (event.status.map fun shown => (leftoverOf events).after shown.1).getD
        (leftoverOf events) := by
  cases hstatus : event.status <;> simp [leftoverOf, Leftover.after, hstatus]

theorem connected_after_concat :
    connectedAfter (events ++ [event]) = event.connection.getD (connectedAfter events) := by
  cases hconnection : event.connection <;> simp [connectedAfter, hconnection]

end Concat

/-- The inherited names of the last status are among those that have left something. -/
theorem leftover_of_covers (events : List PageEvent) :
    ∀ shown ∈ lastStatus events, (leftoverOf events).Covers shown.1 := by
  intro shown hshown
  have hmem : shown.1 ∈ (events.filterMap PageEvent.status).map Prod.fst :=
    List.mem_map_of_mem (List.mem_of_getLast? hshown)
  exact ⟨fun h => List.any_eq_true.mpr ⟨_, hmem, h⟩, fun h => List.any_eq_true.mpr ⟨_, hmem, h⟩⟩

/-- Whatever messages have come and however often the connection was lost, if the members of the
statuses have the types that the viewer sends or are missing, the elements show the last status as a
fresh page would. There are two exceptions: the colour of the reason, which a blocked camera sets
once and for all, and the class `undefined`, which stays after a driver state or an HMI action with
an inherited name. -/
theorem page_shows_last_status {events : List PageEvent}
    (hplain : ∀ event ∈ events, event.Plain) :
    (page.run {} events).toPageLabels =
      labelsOf (lastStatus events) (leftoverOf events) (connectedAfter events) := by
  induction events using List.reverseRecOn with
  | nil => rfl
  | append_singleton events event ih =>
      obtain ⟨hevents, hevent⟩ := List.forall_mem_append.mp hplain
      have ih := ih hevents
      rw [Machine.run_concat, last_status_concat, leftover_of_concat, connected_after_concat]
      cases event with
      | opened =>
          show ({ (page.run {} events).toPageLabels with
            wsDot := (page.run {} events).toPageLabels.wsDot.addClass .connected
            wsLabel := _ } : PageLabels) = labelsOf (lastStatus events) (leftoverOf events) true
          rw [ih]
          cases connectedAfter events <;> rfl
      | closed =>
          show ({ (page.run {} events).toPageLabels with
            wsDot := (page.run {} events).toPageLabels.wsDot.removeClass .connected
            wsLabel := _ } : PageLabels) = labelsOf (lastStatus events) (leftoverOf events) false
          rw [ih]
          cases connectedAfter events <;> rfl
      | binary data => exact show_frame_labels data |>.trans ih
      | text message browser =>
          have hmembers : ∀ members ∈ statusMembers message,
              (PageStatus.ofMembers members).isSome := hevent _ (List.mem_singleton_self _)
          show ((page.run {} events).handle (.text message browser)).toPageLabels =
            labelsOf _ _ (connectedAfter events)
          rw [PageEvent.status, Page.handle]
          cases hstatus : statusMembers message with
          | none => exact ih
          | some members =>
              obtain ⟨data, hdata⟩ := Option.isSome_iff_exists.mp (hmembers members hstatus)
              rw [Option.bind_some, hdata]
              dsimp only
              rw [hdata]
              exact apply_state_labels_of (leftover_of_covers events) ih data browser

/-- A status with a blocked camera and an inherited driver state, and a later one. -/
def leftoverEvents : List PageEvent :=
  [.opened,
    .text ("\x7b\"type\":\"status\",\"driver_state\":\"constructor\"," ++
      "\"reason\":\"blocked_camera\"\x7d").toList {},
    .text "\x7b\"type\":\"status\",\"driver_state\":\"OK\"\x7d".toList {}, .closed]

/-- The later status leaves the two classes on the page. -/
theorem page_shows_last_status_leftover :
    (page.run {} leftoverEvents).driverState.textContent = "OK".toList ∧
      (page.run {} leftoverEvents).driverState.classList = {.stateOk, .undefined} ∧
      (page.run {} leftoverEvents).reasonVal.classList = {.stateCam} := by
  have hplain : ∀ event ∈ leftoverEvents, event.Plain := by decide +kernel
  have hlabels := page_shows_last_status hplain
  refine ⟨?_, ?_, ?_⟩
  · refine (congrArg (fun labels => labels.driverState.textContent) hlabels).trans ?_
    decide +kernel
  · refine (congrArg (fun labels => labels.driverState.classList) hlabels).trans ?_
    decide +kernel
  · refine (congrArg (fun labels => labels.reasonVal.classList) hlabels).trans ?_
    decide +kernel

end DcasPolicyEngine
