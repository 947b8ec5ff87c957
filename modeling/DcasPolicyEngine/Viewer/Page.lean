import Mathlib.Data.Finset.Filter
import Mathlib.Data.Finset.Insert
import DcasPolicyEngine.Json.Text
import DcasPolicyEngine.Machine.Run

/-!
# The page of the viewer

`applyState` of `dcas_viewer.html` writes a status into the elements of the page, and the handlers
of the WebSocket connect it to the messages. An element has a text and those of its classes that the
script adds and removes. `page` is the machine of the handlers.

A lookup in a table of the script also finds the properties that every object inherits. They are
functions and one object and have none of the members of an entry, so that the page adds the class
`undefined` for them.
-/

namespace DcasPolicyEngine

/-! ## Elements -/

/-- The classes that the script adds and removes. A member that is not there adds `undefined`. -/
inductive PageClass where
  | stateOk
  | stateWarn
  | stateEsc
  | stateMrm
  | stateCam
  | borderOk
  | borderWarn
  | borderEsc
  | borderMrm
  | borderCam
  | bgOk
  | bgWarn
  | bgEsc
  | bgMrm
  | bgCam
  | blink
  | connected
  | undefined
  deriving DecidableEq

/-- An element: `textContent` and `classList`. -/
structure PageElement where
  textContent : List Char := ['-', '-']
  classList : Finset PageClass := ∅

namespace PageElement

/-- `clearClasses`. -/
def clearClasses (el : PageElement) (list : List PageClass) : PageElement :=
  { el with classList := el.classList.filter fun cls => cls ∉ list }

/-- `classList.add`. -/
def addClass (el : PageElement) (cls : PageClass) : PageElement :=
  { el with classList := insert cls el.classList }

/-- `classList.remove`. -/
def removeClass (el : PageElement) (cls : PageClass) : PageElement :=
  { el with classList := el.classList.filter fun other => other ≠ cls }

/-- The assignment of `textContent`. -/
def setText (el : PageElement) (text : List Char) : PageElement := { el with textContent := text }

end PageElement

/-! ## Tables -/

/-- The properties that every object inherits. -/
def inheritedNames : List (List Char) :=
  ["constructor".toList, "hasOwnProperty".toList, "isPrototypeOf".toList,
    "propertyIsEnumerable".toList, "toLocaleString".toList, "toString".toList, "valueOf".toList,
    "__defineGetter__".toList, "__defineSetter__".toList, "__lookupGetter__".toList,
    "__lookupSetter__".toList, "__proto__".toList]

/-- `table[name] || other`. The name may be missing, and the table inherits. -/
def lookupOr {α : Type*} (table : List (List Char × α)) (inherited : List Char → α) (other : α) :
    Option (List Char) → α
  | some name =>
      (table.lookup name).getD (if inheritedNames.contains name then inherited name else other)
  | none => other

/-- An entry of `STATE_MAP`. -/
structure StateStyle where
  cls : PageClass
  border : PageClass
  bg : PageClass
  desc : List Char

/-- `STATE_MAP.OK`. -/
def okStyle : StateStyle := ⟨.stateOk, .borderOk, .bgOk, "Normal Driving".toList⟩

/-- `STATE_MAP`. -/
def stateMap : List (List Char × StateStyle) :=
  [("OK".toList, okStyle),
    ("WARNING".toList, ⟨.stateWarn, .borderWarn, .bgWarn, "Eyes on Road".toList⟩),
    ("ESCALATION".toList, ⟨.stateEsc, .borderEsc, .bgEsc, "Take Control Now".toList⟩),
    ("ABSENT".toList, ⟨.stateMrm, .borderMrm, .bgMrm, "MRM Active".toList⟩)]

/-- What an inherited property is as an entry of `STATE_MAP`. -/
def inheritedState : StateStyle := ⟨.undefined, .undefined, .undefined, []⟩

/-- `REASON_MAP`. -/
def reasonNames : List (List Char × List Char) :=
  [("none".toList, "None".toList), ("phone".toList, "Phone Use".toList),
    ("drowsy".toList, "Drowsiness".toList), ("unresponsive".toList, "Unresponsive".toList),
    ("intoxicated".toList, "Intoxication".toList),
    ("blocked_camera".toList, "Camera Blocked".toList), ("unknown".toList, "Unknown".toList)]

/-- An entry of `HMI_MAP`. -/
structure HmiStyle where
  text : List Char
  cls : PageClass

/-- `HMI_MAP.INFO`. -/
def infoStyle : HmiStyle := ⟨"Normal".toList, .stateOk⟩

/-- `HMI_MAP`. -/
def hmiMap : List (List Char × HmiStyle) :=
  [("INFO".toList, infoStyle), ("EOR".toList, ⟨"Eyes on Road".toList, .stateWarn⟩),
    ("DCA".toList, ⟨"Take Control".toList, .stateEsc⟩), ("MRM".toList, ⟨"MRM".toList, .stateMrm⟩)]

/-- What an inherited property is as an entry of `HMI_MAP`. -/
def inheritedHmi : HmiStyle := ⟨[], .undefined⟩

/-- `STATE_CLASSES`. -/
def stateClasses : List PageClass := [.stateOk, .stateWarn, .stateEsc, .stateMrm, .stateCam]

/-- `BORDER_CLASSES`. -/
def borderClasses : List PageClass := [.borderOk, .borderWarn, .borderEsc, .borderMrm, .borderCam]

/-- `BG_CLASSES`. -/
def bgClasses : List PageClass := [.bgOk, .bgWarn, .bgEsc, .bgMrm, .bgCam]

/-- `text || other`. The text may be missing. -/
def orElseText : Option (List Char) → List Char → List Char
  | some text, other => if text = [] then other else text
  | none, other => other

/-! ## The page -/

/-- The members of a status that the page uses. A text that is missing or `null` is `none`, and a
flag that is missing or `null` is not set. -/
structure PageStatus where
  driverState : Option (List Char) := none
  hmiAction : Option (List Char) := none
  lkasMode : Option (List Char) := none
  reason : Option (List Char) := none
  mrmActive : Bool := false
  isAttentive : Bool := false
  timestamp : Option (List Char) := none

/-- A picture and the placeholder in front of it. -/
structure PageFeed where
  src : Option ℕ := none
  shown : Bool := false
  placeholder : Bool := true

/-- The elements that statuses and the connection are written into. The script leaves the text of
the panel and of the box alone. -/
@[ext]
structure PageLabels where
  wsDot : PageElement := { textContent := [] }
  wsLabel : PageElement := { textContent := "DISCONNECTED".toList }
  driverState : PageElement := {}
  lkasMode : PageElement := {}
  hmiAction : PageElement := {}
  alertDesc : PageElement := { textContent := "System Standby".toList }
  reasonVal : PageElement := {}
  mrmActive : PageElement := {}
  statusPanel : PageElement := { textContent := [] }
  alertBox : PageElement := { textContent := [] }
  attentionValue : PageElement := {}
  timestamp : PageElement := {}

/-- The page: the elements, the two object URLs that the script keeps, and the URLs that have been
created and not revoked, each with its picture. -/
structure Page extends PageLabels where
  lkasFeed : PageFeed := {}
  driverFeed : PageFeed := {}
  lkasBlob : Option ℕ := none
  driverBlob : Option ℕ := none
  objectUrls : List (ℕ × List UInt8) := []
  createdUrls : ℕ := 0

/-- What the browser adds to a status: the local time, for one without a timestamp, the texts of the
inherited properties, for a reason of such a name, and what it leaves of the elements when it
converts a member of another type than those of the viewer, which is not worked out here. -/
structure Browser where
  localTime : List Char := []
  inheritedText : List Char → List Char := fun _ => []
  convert : PageLabels → List (List Char × Json) → PageLabels := fun labels _ => labels

/-- What the browser hands to the script. -/
inductive PageEvent where
  | opened
  | closed
  | text (message : List Char) (browser : Browser)
  | binary (data : List UInt8)

namespace Page

/-- `applyState`. A missing text is written as an empty one. -/
def applyState (self : Page) (data : PageStatus) (browser : Browser) : Page :=
  let s := lookupOr stateMap (fun _ => inheritedState) okStyle data.driverState
  let h := lookupOr hmiMap (fun _ => inheritedHmi) infoStyle data.hmiAction
  { self with
    driverState :=
      ((self.driverState.clearClasses stateClasses).setText (data.driverState.getD [])).addClass
        s.cls
    lkasMode := self.lkasMode.setText (orElseText data.lkasMode ['-', '-'])
    hmiAction :=
      let el := ((self.hmiAction.clearClasses stateClasses).setText h.text).addClass h.cls
      if data.hmiAction = some "DCA".toList ∨ data.hmiAction = some "MRM".toList then
        el.addClass .blink
      else el.removeClass .blink
    alertDesc := self.alertDesc.setText s.desc
    reasonVal :=
      let el := self.reasonVal.setText
        (lookupOr reasonNames browser.inheritedText (orElseText data.reason ['-', '-']) data.reason)
      -- no other reason clears the classes
      if data.reason = some "blocked_camera".toList then
        (el.clearClasses stateClasses).addClass .stateCam
      else el
    mrmActive :=
      ((self.mrmActive.setText (if data.mrmActive then "YES".toList else "NO".toList)).clearClasses
        stateClasses).addClass (if data.mrmActive then .stateMrm else .stateOk)
    statusPanel := (self.statusPanel.clearClasses borderClasses).addClass s.border
    alertBox := (self.alertBox.clearClasses bgClasses).addClass s.bg
    attentionValue :=
      ((self.attentionValue.setText
        (if data.isAttentive then "Attentive".toList else "Distracted".toList)).clearClasses
          stateClasses).addClass (if data.isAttentive then .stateOk else .stateMrm)
    timestamp :=
      self.timestamp.setText ("Updated: ".toList ++ orElseText data.timestamp browser.localTime) }

/-- `URL.revokeObjectURL`, if there is something to revoke. -/
def revoke (self : Page) (url : Option ℕ) : Page :=
  { self with objectUrls := self.objectUrls.filter fun entry => some entry.1 ≠ url }

/-- The handler of binary messages. An URL is created for every message, whatever its channel. -/
def showFrame (self : Page) (data : List UInt8) : Page :=
  let url := self.createdUrls
  let self :=
    { self with
      objectUrls := (url, data.tail) :: self.objectUrls
      createdUrls := self.createdUrls + 1 }
  if data.head? = some 1 then
    { self.revoke self.lkasBlob with
      lkasBlob := some url
      lkasFeed := { src := some url, shown := true, placeholder := false } }
  else if data.head? = some 2 then
    { self.revoke self.driverBlob with
      driverBlob := some url
      driverFeed := { src := some url, shown := true, placeholder := false } }
  else self

end Page

/-- A text member of an object, if it is a string or not there. -/
def textMember (members : List (List Char × Json)) (key : String) : Option (Option (List Char)) :=
  match members.lookup key.toList with
  | some (.string text) => some (some text)
  | some .null | none => some none
  | some (.bool _) | some (.number _) | some (.array _) | some (.object _) => none

/-- A flag of an object, if it is a boolean or not there. -/
def flagMember (members : List (List Char × Json)) (key : String) : Option Bool :=
  match members.lookup key.toList with
  | some (.bool value) => some value
  | some .null | none => some false
  | some (.string _) | some (.number _) | some (.array _) | some (.object _) => none

/-- The members of a status, if each has the type that the viewer sends or is not there. -/
def PageStatus.ofMembers (members : List (List Char × Json)) : Option PageStatus := do
  let driverState ← textMember members "driver_state"
  let hmiAction ← textMember members "hmi_action"
  let lkasMode ← textMember members "lkas_mode"
  let reason ← textMember members "reason"
  let mrmActive ← flagMember members "mrm_active"
  let isAttentive ← flagMember members "is_attentive"
  let timestamp ← textMember members "timestamp"
  some { driverState, hmiAction, lkasMode, reason, mrmActive, isAttentive, timestamp }

/-- The members of a message that is an object of the type `status`. -/
def statusMembers (message : List Char) : Option (List (List Char × Json)) :=
  match Json.parse message with
  | some (.object members) =>
      if textMember members "type" = some (some "status".toList) then some members else none
  | _ => none

namespace Page

/-- The handlers of the WebSocket. -/
def handle (self : Page) : PageEvent → Page
  | .opened =>
      { self with
        wsDot := self.wsDot.addClass .connected
        wsLabel := self.wsLabel.setText "CONNECTED".toList }
  | .closed =>
      { self with
        wsDot := self.wsDot.removeClass .connected
        wsLabel := self.wsLabel.setText "DISCONNECTED".toList }
  | .text message browser =>
      match statusMembers message with
      | some members =>
          match PageStatus.ofMembers members with
          | some data => self.applyState data browser
          | none => { self with toPageLabels := browser.convert self.toPageLabels members }
      | none => self
  | .binary data => self.showFrame data

end Page

/-- The page as a machine without outputs. -/
def page : Machine Page PageEvent Unit := ⟨fun self event => ((), self.handle event)⟩

end DcasPolicyEngine
