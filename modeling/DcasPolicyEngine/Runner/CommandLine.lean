import DcasPolicyEngine.CommandLine.Scan
import DcasPolicyEngine.Runner.Lines

/-!
# The command line of the runner

The arguments of `main.cpp` are those of a strict program. The conversions of numbers are the ones
of the standard library and a parameter here. A delta that is no number and other values that are
infinite are accepted by the program, but not followed into the loop: `toOptions` leaves them out.
`runner_main_starts_iff` says which arguments print lines and which lines they print.
-/

namespace DcasPolicyEngine

open CommandLine

/-- The variables as the conversions leave them. -/
structure RunnerArguments where
  options : RunnerOptions := {}
  deltaS : StdDouble := .number 2.5
  jetracerInput04 : StdDouble := .number (literal 0.2)
  lkasThrottle : StdDouble := .number 0.5

/-- The options of the loop, with numbers where it needs them. -/
def RunnerArguments.toOptions (arguments : RunnerArguments) : Option RunnerOptions := do
  let deltaS ← arguments.deltaS.toNumber
  let jetracerInput04 ← arguments.jetracerInput04.toWithNaN
  let lkasThrottle ← arguments.lkasThrottle.toWithNaN
  pure
    { arguments.options with
      deltaS := deltaS
      jetracerInput04 := jetracerInput04
      lkasThrottle := lkasThrottle }

/-- The options that take a value. -/
inductive RunnerOption where
  | attentive
  | reason
  | ts
  | reasonTs
  | dt
  | ticks
  | jetracer
  | lkasThrottle
  | lkasMode
  | switch
  | override
  | notebookAlive
  | cameraBlocked
  | cameraBlockedTs
  deriving DecidableEq

namespace RunnerOption

/-- `ParseBool`. -/
def parseBool (value : String) : Bool :=
  value = "1" || value = "true" || value = "yes" || value = "y"

/-- `ParseReason`. -/
def parseReason (value : String) : Reason :=
  if value = "phone" then .phone
  else if value = "drowsy" then .drowsy
  else if value = "unresponsive" then .unresponsive
  else if value = "intoxicated" then .intoxicated
  else if value = "none" then .none
  else .unknown

/-- `ParseLkasMode`. -/
def parseLkasMode (value : String) : LkasMode :=
  if value = "ON_INACTIVE" || value = "on_inactive" then .onInactive
  else if value = "ON_ACTIVE" || value = "on_active" then .onActive
  else .off

/-- `ParseSwitchEvent`. -/
def parseSwitchEvent (value : String) : LkasSwitchEvent :=
  if value = "ON" || value = "on" then .on
  else if value = "OFF" || value = "off" then .off
  else .none

/-- The option of an argument. -/
def ofName (name : String) : Option RunnerOption :=
  if name = "--attentive" then some attentive
  else if name = "--reason" then some reason
  else if name = "--ts" then some ts
  else if name = "--reason-ts" then some reasonTs
  else if name = "--dt" then some dt
  else if name = "--ticks" then some ticks
  else if name = "--jetracer" then some jetracer
  else if name = "--lkas-throttle" then some lkasThrottle
  else if name = "--lkas-mode" then some lkasMode
  else if name = "--switch" then some switch
  else if name = "--override" then some override
  else if name = "--notebook-alive" then some notebookAlive
  else if name = "--camera-blocked" then some cameraBlocked
  else if name = "--camera-blocked-ts" then some cameraBlockedTs
  else none

/-- The assignment of an option, if its value can be converted. -/
def convert (std : Conversions) (value : String) :
    RunnerOption → Option (RunnerArguments → RunnerArguments)
  | attentive => some fun arguments =>
      { arguments with options.isAttentive := parseBool value }
  | reason => some fun arguments => { arguments with options.reason := parseReason value }
  | ts => (std.stoll value).map fun ms arguments =>
      { arguments with options.isAttentiveTsMs := ms }
  | reasonTs => (std.stoll value).map fun ms arguments =>
      { arguments with options.reasonTsMs := ms, options.reasonTsOverridden := true }
  | dt => (std.stod value).map fun seconds arguments => { arguments with deltaS := seconds }
  | ticks => (std.stoi value).map fun count arguments =>
      { arguments with options.ticks := count }
  | jetracer => (std.stod value).map fun input arguments =>
      { arguments with jetracerInput04 := input }
  | lkasThrottle => (std.stod value).map fun throttle arguments =>
      { arguments with lkasThrottle := throttle }
  | lkasMode => some fun arguments => { arguments with options.lkasMode := parseLkasMode value }
  | switch => some fun arguments =>
      { arguments with options.switchEvent := parseSwitchEvent value }
  | override => some fun arguments =>
      { arguments with options.driverOverride := parseBool value }
  | notebookAlive => some fun arguments =>
      { arguments with options.notebookAlive := parseBool value }
  | cameraBlocked => some fun arguments =>
      { arguments with options.cameraBlocked := parseBool value }
  | cameraBlockedTs => (std.stoll value).map fun ms arguments =>
      { arguments with options.cameraBlockedTsMs := ms }

end RunnerOption

/-- The branches of the loop over the arguments. -/
def runnerMeaning (std : Conversions) (name : String) : Argument RunnerArguments :=
  if name = "--help" then .help
  else
    match RunnerOption.ofName name with
    | some option => .option fun value => option.convert std value
    | none => .unknown

/-- `main`, which prints lines or ends with a help text, an error text or an exception. Without a
number where the loop needs one, the lines are left open. -/
def runnerMain (std : Conversions) (args : List String) : Outcome (Option (List RunnerLine)) :=
  (scan (runnerMeaning std) true {} args).map fun arguments =>
    arguments.toOptions.map runnerLines

/-! ## What prints lines -/

/-- The scan accepts complete options with values that can be converted and nothing else. -/
theorem runner_scan_iff {std : Conversions} {args : List String} {arguments : RunnerArguments} :
    scan (runnerMeaning std) true {} args = .starts arguments ↔
      ∃ change, Reads (runnerMeaning std) true args change ∧ arguments = change {} := by
  rw [scan_starts_iff]
  constructor
  · rintro ⟨front, change, last, rfl, hreads, hlast, rfl⟩
    rcases hlast with rfl | ⟨_, _, hlenient, _⟩
    · rw [List.append_nil]
      exact ⟨change, hreads, rfl⟩
    · cases hlenient
  · rintro ⟨change, hreads, rfl⟩
    exact ⟨args, change, [], (List.append_nil args).symm, hreads, .inl rfl, rfl⟩

/-- The program prints lines for complete options with values that can be converted and for nothing
else, and when the loop gets numbers they are the lines of the options that these values make of the
defaults. -/
theorem runner_main_starts_iff (std : Conversions) (args : List String)
    (lines : Option (List RunnerLine)) :
    runnerMain std args = .starts lines ↔
      ∃ change, Reads (runnerMeaning std) true args change ∧
        lines = (change {}).toOptions.map fun options =>
          (List.range options.ticks.toNat).map options.line := by
  have hlines : runnerLines = fun options =>
      (List.range options.ticks.toNat).map options.line := funext runner_lines
  rw [runnerMain, Outcome.map_eq_starts_iff, hlines]
  constructor
  · rintro ⟨arguments, hscan, rfl⟩
    obtain ⟨change, hreads, rfl⟩ := runner_scan_iff.mp hscan
    exact ⟨change, hreads, rfl⟩
  · rintro ⟨change, hreads, rfl⟩
    exact ⟨change {}, runner_scan_iff.mpr ⟨change, hreads, rfl⟩, rfl⟩

/-- Conversions that know two texts. -/
def threeOnly : Conversions where
  stoi value := if value = "3" then some 3 else none
  stoll value := if value = "3" then some 3 else none
  stod value := if value = "3" then some (.number 3) else if value = "nan" then some .nan else none

/-- Values that are no numbers do not matter when a number follows. -/
example :
    (runnerMain threeOnly ["--dt", "nan", "--dt", "3", "--ticks", "3"]).map
        (fun lines => lines.map fun lines => lines.map RunnerLine.stepBNextState) =
      .starts (some [.warning, .escalation, .absent]) := by
  decide +kernel

end DcasPolicyEngine
