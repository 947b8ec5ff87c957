import DcasPolicyEngine.Bridge.Outputs
import DcasPolicyEngine.Json.RoundTrip

/-!
# The published status as JSON

The loop formats the status by hand into a buffer of 256 characters and sends as many bytes as the
whole text has. `bridge_status_read_back` says that the text always fits, and that a JSON parser
reads the six members back from it.
-/

namespace DcasPolicyEngine

/-- The size of the status buffer. -/
def statusBufferSize : ℕ := 256

/-- A word that is rendered as it stands. -/
def IsPlain (word : List Char) : Prop := word.flatMap Json.renderChar = word

instance (word : List Char) : Decidable (IsPlain word) := inferInstanceAs (Decidable (_ = _))

theorem IsPlain.render {word : List Char} (h : IsPlain word) :
    Json.renderString word = '"' :: (word ++ ['"']) := by
  rw [Json.renderString, Json.renderChars, h]

/-! ## The words of the status -/

theorem DriverState.to_string_plain (state : DriverState) :
    IsPlain state.toString.toList ∧ state.toString.length ≤ 10 := by
  cases state <;> decide

theorem HmiAction.to_string_plain (action : HmiAction) :
    IsPlain action.toString.toList ∧ action.toString.length ≤ 4 := by
  cases action <;> decide

theorem LkasMode.to_string_plain (mode : LkasMode) :
    IsPlain mode.toString.toList ∧ mode.toString.length ≤ 11 := by
  cases mode <;> decide

theorem Reason.to_string_plain (reason : Reason) :
    IsPlain reason.toString.toList ∧ reason.toString.length ≤ 14 := by
  cases reason with
  | unnamed offset => exact Reason.to_string_plain .unknown
  | none | phone | drowsy | unresponsive | intoxicated | unknown | blockedCamera => decide

/-! ## The status -/

/-- The members of the status of a tick. -/
def BridgeOutput.statusMembers (output : BridgeOutput) : List (List Char × Json) :=
  [("driver_state".toList, .string output.driverState.toString.toList),
    ("hmi_action".toList, .string output.output.stepC.hmiAction.toString.toList),
    ("lkas_mode".toList, .string output.output.stepC.nextLkasMode.toString.toList),
    ("reason".toList, .string output.output.stepB.reason.toString.toList),
    ("mrm_active".toList, .bool output.output.stepC.mrmActive),
    ("is_attentive".toList, .bool output.tick.stepB.perception.isAttentive)]

/-- The format string of the status with the words in it. -/
def statusFormat (state action mode reason : String) (mrmActive isAttentive : Bool) : String :=
  "\x7b\"driver_state\":\"" ++ state ++ "\",\"hmi_action\":\"" ++ action ++
    "\",\"lkas_mode\":\"" ++ mode ++ "\",\"reason\":\"" ++ reason ++
    "\",\"mrm_active\":" ++ (if mrmActive then "true" else "false") ++
    ",\"is_attentive\":" ++ (if isAttentive then "true" else "false") ++ "\x7d"

/-- The keys of a status are different. -/
theorem status_members_distinct (output : BridgeOutput) :
    Json.Distinct (.object output.statusMembers) := by
  refine ⟨?_, trivial, trivial, trivial, trivial, trivial, trivial, trivial⟩
  show ["driver_state".toList, "hmi_action".toList, "lkas_mode".toList, "reason".toList,
    "mrm_active".toList, "is_attentive".toList].Nodup
  decide

/-- The text that the format string makes of plain words is a compact rendering. -/
theorem format_eq_render {state action mode reason : String} (hstate : IsPlain state.toList)
    (haction : IsPlain action.toList) (hmode : IsPlain mode.toList)
    (hreason : IsPlain reason.toList) (mrmActive isAttentive : Bool) :
    (statusFormat state action mode reason mrmActive isAttentive).toList =
      Json.render .compact (.object
        [("driver_state".toList, .string state.toList),
          ("hmi_action".toList, .string action.toList),
          ("lkas_mode".toList, .string mode.toList),
          ("reason".toList, .string reason.toList),
          ("mrm_active".toList, .bool mrmActive),
          ("is_attentive".toList, .bool isAttentive)]) := by
  have hkey : ∀ key ∈ ["driver_state", "hmi_action", "lkas_mode", "reason", "mrm_active",
      "is_attentive"], IsPlain key.toList := by
    decide
  have hbool (value : Bool) : (if value = true then "true" else "false").toList =
      Json.render .compact (.bool value) := by
    cases value <;> rfl
  delta statusFormat
  simp only [String.toList_append, hbool, Json.render, Json.renderMembers, hstate.render,
    haction.render, hmode.render, hreason.render]
  rw [(hkey "driver_state" (by simp)).render, (hkey "hmi_action" (by simp)).render,
    (hkey "lkas_mode" (by simp)).render, (hkey "reason" (by simp)).render,
    (hkey "mrm_active" (by simp)).render, (hkey "is_attentive" (by simp)).render]
  simp [Json.Layout.compact]

/-- The formatted text is the compact rendering of the members. -/
theorem status_eq_render (config : BridgeConfig) (self : BridgeState) (input : BridgeInput) :
    (self.tickAndSend config input).1.status.toList =
      Json.render .compact (.object (self.tickAndSend config input).1.statusMembers) :=
  format_eq_render (DriverState.to_string_plain _).1 (HmiAction.to_string_plain _).1
    (LkasMode.to_string_plain _).1 (Reason.to_string_plain _).1 _ _

/-- The text of short words leaves room for its terminator. -/
theorem format_length {state action mode reason : String} (hstate : state.length ≤ 10)
    (haction : action.length ≤ 4) (hmode : mode.length ≤ 11) (hreason : reason.length ≤ 14)
    (mrmActive isAttentive : Bool) :
    (statusFormat state action mode reason mrmActive isAttentive).length < statusBufferSize := by
  have hbool (value : Bool) : (if value = true then "true" else "false").length ≤ 5 := by
    cases value <;> decide
  have hmrm := hbool mrmActive
  have hattentive := hbool isAttentive
  have hwords : ("\x7b\"driver_state\":\"".length + "\",\"hmi_action\":\"".length +
      "\",\"lkas_mode\":\"".length + "\",\"reason\":\"".length +
      "\",\"mrm_active\":".length + ",\"is_attentive\":".length + "\x7d".length) + 49 <
        statusBufferSize := by
    decide
  delta statusFormat
  simp only [String.length_append]
  omega

/-- Every output of a run is that of a tick. -/
theorem tick_of_shown {config : BridgeConfig} {startupUs : UInt64} {inputs : List BridgeInput}
    {output : BridgeOutput}
    (houtput : output ∈ (bridge config).shown (.start config startupUs) inputs) :
    ∃ self input, output = (BridgeState.tickAndSend self config input).1 := by
  obtain ⟨e, _, hstep⟩ := (bridge config).exists_of_mem_shown houtput
  exact ⟨e.before.read e.input, e.input, output_eq_tick_and_send hstep⟩

/-- A published status is read as its members. -/
theorem parse_published_status {config : BridgeConfig} {startupUs : UInt64}
    {inputs : List BridgeInput} {output : BridgeOutput}
    (houtput : output ∈ (bridge config).shown (.start config startupUs) inputs) :
    Json.parse output.status.toList = some (.object output.statusMembers) := by
  obtain ⟨self, input, rfl⟩ := tick_of_shown houtput
  rw [status_eq_render]
  exact Json.parse_render .compact (status_members_distinct _)

/-- In every run each published status fits into the buffer with its terminator, and is read as its
six members. -/
theorem bridge_status_read_back (config : BridgeConfig) (startupUs : UInt64)
    (inputs : List BridgeInput) :
    ∀ output ∈ (bridge config).shown (.start config startupUs) inputs,
      output.status.length < statusBufferSize ∧
        Json.parse output.status.toList = some (.object output.statusMembers) := by
  intro output houtput
  refine ⟨?_, parse_published_status houtput⟩
  obtain ⟨self, input, rfl⟩ := tick_of_shown houtput
  exact format_length (DriverState.to_string_plain _).2 (HmiAction.to_string_plain _).2
    (LkasMode.to_string_plain _).2 (Reason.to_string_plain _).2 _ _

/-- The status of the first tick is read back. -/
theorem bridge_status_read_back_first :
    ∃ output, (bridge {}).shown (.start {} 0) [{ speed := some {}, lkas := some {} }] = [output] ∧
      output.status.length < statusBufferSize ∧
        Json.parse output.status.toList = some (.object output.statusMembers) := by
  obtain ⟨output, houtput⟩ :
      ∃ output,
        (bridge {}).shown (.start {} 0) [{ speed := some {}, lkas := some {} }] = [output] :=
    ⟨_, rfl⟩
  have hmem : output ∈ (bridge {}).shown (.start {} 0) [{ speed := some {}, lkas := some {} }] := by
    rw [houtput]
    exact List.mem_singleton_self output
  exact ⟨output, houtput, bridge_status_read_back {} 0 _ output hmem⟩

end DcasPolicyEngine
