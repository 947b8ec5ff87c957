import DcasPolicyEngine.Bridge.Loop
import DcasPolicyEngine.CommandLine.Scan

/-!
# The command line of the bridge

The arguments of `dcas_rt_bridge.cpp` are those of a lenient program: it passes over what it does
not know, and over a last option without a value. `bridge_last_option_counts` says that the last of
repeated options counts, where `--once` is one with `--iterations`. A delta that is no number is
accepted as well, but not followed into the loop (`toConfig`).
-/

namespace DcasPolicyEngine

open CommandLine

/-- The variables that the command line sets. -/
structure BridgeOptions where
  deltaS : StdDouble := .number (literal 0.02)
  periodMs : ℤ := 10
  iterations : ℤ := -1
  verbose : Bool := false
  notebookInputAlive : Bool := true
  driverOverride : Bool := false
  lkasMode : LkasMode := .onActive

/-- What the loop uses of them, when the delta is a number. -/
def BridgeOptions.toConfig (options : BridgeOptions) : Option BridgeConfig :=
  options.deltaS.toNumber.map fun deltaS =>
    { notebookInputAlive := options.notebookInputAlive
      driverOverride := options.driverOverride
      deltaS := deltaS
      iterations := options.iterations
      lkasMode := options.lkasMode }

/-- The options. -/
inductive BridgeOption where
  | dt
  | periodMs
  | iterations
  | once
  | notebookAlive
  | driverOverride
  | lkasMode
  | verbose
  deriving DecidableEq

namespace BridgeOption

/-- `parse_bool`. -/
def parseBool (value : String) : Bool :=
  value = "1" || value = "true" || value = "yes" || value = "on"

/-- `parse_lkas_mode`. -/
def parseLkasMode (value : String) : LkasMode :=
  if value = "OFF" then .off
  else if value = "ON_INACTIVE" then .onInactive
  else if value = "ON_ACTIVE" then .onActive
  else .onActive

/-- The option of an argument. -/
def ofName (name : String) : Option BridgeOption :=
  if name = "--dt" then some dt
  else if name = "--period-ms" then some periodMs
  else if name = "--iterations" then some iterations
  else if name = "--once" then some once
  else if name = "--notebook-alive" then some notebookAlive
  else if name = "--driver-override" then some driverOverride
  else if name = "--lkas-mode" then some lkasMode
  else if name = "--verbose" then some verbose
  else none

/-- The assignment of an option. -/
def argument (std : Conversions) : BridgeOption → Argument BridgeOptions
  | dt => .option fun value =>
      (std.stod value).map fun seconds options => { options with deltaS := seconds }
  | periodMs => .option fun value =>
      (std.stoi value).map fun ms options => { options with periodMs := ms }
  | iterations => .option fun value =>
      (std.stoi value).map fun count options => { options with iterations := count }
  | once => .flag fun options => { options with iterations := 1 }
  | notebookAlive => .option fun value =>
      some fun options => { options with notebookInputAlive := parseBool value }
  | driverOverride => .option fun value =>
      some fun options => { options with driverOverride := parseBool value }
  | lkasMode => .option fun value =>
      some fun options => { options with lkasMode := parseLkasMode value }
  | verbose => .flag fun options => { options with verbose := true }

/-- The option for the same variable that takes a value, if there is one. -/
def target : BridgeOption → BridgeOption
  | once => iterations
  | option => option

end BridgeOption

/-- The branches of the loop over the arguments. -/
def bridgeMeaning (std : Conversions) (name : String) : Argument BridgeOptions :=
  match BridgeOption.ofName name with
  | some option => option.argument std
  | none => if name = "--help" then .help else .unknown

/-- The part of `main` before the loop. -/
def bridgeMain (std : Conversions) (args : List String) : Outcome BridgeOptions :=
  (scan (bridgeMeaning std) false {} args).map fun options =>
    { options with periodMs := if options.periodMs < 1 then 1 else options.periodMs }

/-! ## Repeated options -/

/-- The variable that an argument sets. -/
def bridgeKey (name : String) : Option BridgeOption :=
  (BridgeOption.ofName name).map BridgeOption.target

namespace BridgeOption

/-- Take the variable of an option from other options. -/
def copy (source target : BridgeOptions) : BridgeOption → BridgeOptions
  | dt => { target with deltaS := source.deltaS }
  | periodMs => { target with periodMs := source.periodMs }
  | iterations | once => { target with iterations := source.iterations }
  | notebookAlive => { target with notebookInputAlive := source.notebookInputAlive }
  | driverOverride => { target with driverOverride := source.driverOverride }
  | lkasMode => { target with lkasMode := source.lkasMode }
  | verbose => { target with verbose := source.verbose }

theorem copy_copy {option other : BridgeOption} (h : option.target = other.target)
    (first second target : BridgeOptions) :
    other.copy second (option.copy first target) = other.copy second target := by
  cases option <;> cases other <;> first | rfl | cases h

theorem copy_comm {option other : BridgeOption} (h : option.target ≠ other.target)
    (first second target : BridgeOptions) :
    other.copy second (option.copy first target) =
      option.copy first (other.copy second target) := by
  cases option <;> cases other <;> first | rfl | exact absurd rfl h

end BridgeOption

/-- What an option sets, with its value if it takes one. -/
theorem bridge_sets {std : Conversions} {name : String} {change : BridgeOptions → BridgeOptions}
    {args : List String} (h : Sets (bridgeMeaning std) name change args) :
    ∃ option source, BridgeOption.ofName name = some option ∧
      change = fun target => option.copy source target := by
  have hmeaning {argument : Argument BridgeOptions} (hname : bridgeMeaning std name = argument)
      (hhelp : argument ≠ .help) (hunknown : argument ≠ .unknown) :
      ∃ option, BridgeOption.ofName name = some option ∧ option.argument std = argument := by
    unfold bridgeMeaning at hname
    split at hname
    · rename_i option hoption
      exact ⟨option, hoption, hname⟩
    · split_ifs at hname
      · exact absurd hname.symm hhelp
      · exact absurd hname.symm hunknown
  cases h with
  | flag hname =>
      obtain ⟨option, hoption, hflag⟩ := hmeaning hname nofun nofun
      refine ⟨option, change {}, hoption, ?_⟩
      cases option with
      | once | verbose =>
          obtain rfl := Argument.flag.inj hflag
          rfl
      | _ => cases hflag
  | option hname hvalue =>
      obtain ⟨option, hoption, hconvert⟩ := hmeaning hname nofun nofun
      refine ⟨option, change {}, hoption, ?_⟩
      cases option with
      | once | verbose => cases hconvert
      | notebookAlive | driverOverride | lkasMode =>
          obtain rfl := Argument.option.inj hconvert
          obtain rfl := Option.some.inj hvalue
          rfl
      | dt | periodMs | iterations =>
          obtain rfl := Argument.option.inj hconvert
          obtain ⟨_, _, rfl⟩ := Option.map_eq_some_iff.mp hvalue
          rfl

/-- The variables of the bridge are the keys of its options. -/
theorem bridge_keyed (std : Conversions) : Keyed (bridgeMeaning std) bridgeKey where
  replaces := by
    intro _ _ _ _ _ _ hfirst hsecond hkey
    obtain ⟨option, _, hoption, rfl⟩ := bridge_sets hfirst
    obtain ⟨other, _, hother, rfl⟩ := bridge_sets hsecond
    unfold bridgeKey at hkey
    rw [hoption, hother] at hkey
    exact funext fun target => BridgeOption.copy_copy (Option.some.inj hkey) _ _ target
  commutes := by
    intro _ _ _ _ _ _ hfirst hsecond hkey
    obtain ⟨option, _, hoption, rfl⟩ := bridge_sets hfirst
    obtain ⟨other, _, hother, rfl⟩ := bridge_sets hsecond
    unfold bridgeKey at hkey
    rw [hoption, hother] at hkey
    exact funext fun target =>
      BridgeOption.copy_comm (fun heq => hkey (congrArg some heq)) _ _ target

/-- Of two options for one variable the bridge may be given the last one only, whatever stands
between them and after them. -/
theorem bridge_last_option_counts {std : Conversions} {name later : String}
    {earlier first between second : BridgeOptions → BridgeOptions}
    {front args middle others : List String} (rest : List String)
    (hfront : Reads (bridgeMeaning std) false front earlier)
    (hfirst : Sets (bridgeMeaning std) name first args)
    (hmiddle : Reads (bridgeMeaning std) false middle between)
    (hsecond : Sets (bridgeMeaning std) later second others)
    (hkey : bridgeKey name = bridgeKey later) :
    bridgeMain std (front ++ (args ++ (middle ++ (others ++ rest)))) =
      bridgeMain std (front ++ (middle ++ (others ++ rest))) := by
  unfold bridgeMain
  rw [(bridge_keyed std).scan_repeated hfront hfirst hmiddle hsecond hkey {} rest]

/-- Conversions that know one number. -/
def fiveOnly : Conversions where
  stoi value := if value = "5" then some 5 else none
  stoll value := if value = "5" then some 5 else none
  stod value := if value = "5" then some (.number 5) else none

/-- `--once` replaces the number of iterations that stands before it. -/
theorem bridge_last_option_counts_once :
    bridgeMain fiveOnly ["--iterations", "5", "-v", "--verbose", "--once", "--dt"] =
        bridgeMain fiveOnly ["-v", "--verbose", "--once", "--dt"] ∧
      (bridgeMain fiveOnly ["-v", "--verbose", "--once", "--dt"]).map
        (fun options => options.toConfig.map BridgeConfig.iterations) = .starts (some 1) := by
  have hverbose : Reads (bridgeMeaning fiveOnly) false ["--verbose"] _ := .sets (.flag rfl) .nil
  refine ⟨?_, rfl⟩
  exact bridge_last_option_counts ["--dt"] .nil (.option rfl rfl) (.unknown rfl rfl hverbose)
    (.flag rfl) rfl

end DcasPolicyEngine
