import Mathlib.Data.Int.Notation
import Mathlib.Data.Rat.Init
import Mathlib.Logic.Function.Basic
import DcasPolicyEngine.Numeric.WithNaN

/-!
# Command lines

A program reads its arguments from left to right: a flag stands alone, and an option takes the next
argument as its value, whatever it is. A strict program refuses what it does not know, and a lenient
one passes over it. `Reads` is the grammar of the arguments and what they change,
`scan_starts_iff` says that the scan accepts that grammar, and `scan_repeated` that the last one of
repeated options counts.
-/

namespace CommandLine

/-- What a text is converted to by `std::stod`, which accepts the names of values that are no
numbers. -/
inductive StdDouble where
  | number (value : ℚ)
  | nan
  | infinite (negative : Bool)

namespace StdDouble

/-- The value, if it is a number. -/
def toNumber : StdDouble → Option ℚ
  | number value => some value
  | nan => none
  | infinite _ => none

/-- The value, if it is not infinite. -/
def toWithNaN : StdDouble → Option (WithNaN ℚ)
  | number value => some (.num value)
  | nan => some .nan
  | infinite _ => none

end StdDouble

/-- The conversions of a standard library, which fail for some texts. -/
structure Conversions where
  stoi : String → Option ℤ
  stoll : String → Option ℤ
  stod : String → Option StdDouble

/-- What an argument means to a program with options of the type `ω`. The conversion of a value may
fail. -/
inductive Argument (ω : Type*) where
  | flag (change : ω → ω)
  | option (convert : String → Option (ω → ω))
  | help
  | unknown

/-- What becomes of the arguments. -/
inductive Outcome (ω : Type*) where
  | starts (options : ω)
  | helps
  | misses (name : String)
  | refuses (name : String)
  | fails (name value : String)
  deriving DecidableEq

variable {ω : Type*}

/-- The outcome of a program that goes on with its options. -/
def Outcome.map {β : Type*} (f : ω → β) : Outcome ω → Outcome β
  | .starts options => .starts (f options)
  | .helps => .helps
  | .misses name => .misses name
  | .refuses name => .refuses name
  | .fails name value => .fails name value

theorem Outcome.map_eq_starts_iff {β : Type*} {f : ω → β} {outcome : Outcome ω} {result : β} :
    outcome.map f = .starts result ↔ ∃ options, outcome = .starts options ∧ f options = result := by
  cases outcome <;> simp [Outcome.map]

/-- Read the arguments into the options. -/
def scan (meaning : String → Argument ω) (strict : Bool) : ω → List String → Outcome ω
  | options, [] => .starts options
  | options, name :: rest =>
      match meaning name with
      | .flag change => scan meaning strict (change options) rest
      | .option convert =>
          match rest with
          | [] => if strict then .misses name else .starts options
          | value :: rest =>
              match convert value with
              | some change => scan meaning strict (change options) rest
              | none => .fails name value
      | .help => .helps
      | .unknown => if strict then .refuses name else scan meaning strict options rest

/-- What one flag, or one option with its value, changes. -/
inductive Sets (meaning : String → Argument ω) : String → (ω → ω) → List String → Prop where
  | flag {name : String} {change : ω → ω} (hname : meaning name = .flag change) :
      Sets meaning name change [name]
  | option {name value : String} {convert : String → Option (ω → ω)} {change : ω → ω}
      (hname : meaning name = .option convert) (hvalue : convert value = some change) :
      Sets meaning name change [name, value]

/-- The arguments are complete and change the options in this way. -/
inductive Reads (meaning : String → Argument ω) (strict : Bool) : List String → (ω → ω) → Prop where
  | nil : Reads meaning strict [] id
  | sets {name : String} {first change : ω → ω} {args rest : List String}
      (hfirst : Sets meaning name first args) (hrest : Reads meaning strict rest change) :
      Reads meaning strict (args ++ rest) (change ∘ first)
  | unknown {name : String} {change : ω → ω} {rest : List String} (hlenient : strict = false)
      (hname : meaning name = .unknown) (hrest : Reads meaning strict rest change) :
      Reads meaning strict (name :: rest) change

variable {meaning : String → Argument ω} {strict : Bool} {name : String}
  {first change : ω → ω} {args rest : List String} {options : ω}

theorem Sets.scan (h : Sets meaning name first args) (options : ω) (rest : List String) :
    CommandLine.scan meaning strict options (args ++ rest) =
      CommandLine.scan meaning strict (first options) rest := by
  cases h with
  | flag hname => simp [CommandLine.scan, hname]
  | option hname hvalue => simp [CommandLine.scan, hname, hvalue]

/-- The scan goes on after complete arguments. -/
theorem Reads.scan (h : Reads meaning strict args change) (options : ω) (rest : List String) :
    CommandLine.scan meaning strict options (args ++ rest) =
      CommandLine.scan meaning strict (change options) rest := by
  induction h generalizing options with
  | nil => rfl
  | sets hfirst _ ih => rw [List.append_assoc, hfirst.scan, ih, Function.comp_apply]
  | unknown hlenient hname _ ih =>
      subst hlenient
      simpa [CommandLine.scan, hname] using ih options

/-- The last argument of a lenient program is an option without its value, which changes nothing. -/
def Dangling (meaning : String → Argument ω) (strict : Bool) (args : List String) : Prop :=
  args = [] ∨ ∃ name convert, strict = false ∧ meaning name = .option convert ∧ args = [name]

/-- The program starts on the arguments of the grammar and on no others. -/
theorem scan_starts_iff {result : ω} :
    scan meaning strict options args = .starts result ↔
      ∃ front change last, args = front ++ last ∧ Reads meaning strict front change ∧
        Dangling meaning strict last ∧ result = change options := by
  constructor
  · intro h
    fun_induction scan meaning strict options args with
    | case1 options =>
        obtain rfl := Outcome.starts.inj h
        exact ⟨[], id, [], rfl, .nil, .inl rfl, rfl⟩
    | case2 options name rest change hname ih =>
        obtain ⟨front, next, last, rfl, hreads, hlast, rfl⟩ := ih h
        exact ⟨name :: front, _, last, rfl, .sets (.flag hname) hreads, hlast, rfl⟩
    | case3 | case6 | case7 | case8 => cases h
    | case4 options name convert hname hlenient =>
        obtain rfl := Outcome.starts.inj h
        exact ⟨[], id, [name], rfl, .nil,
          .inr ⟨name, convert, Bool.eq_false_iff.mpr hlenient, hname, rfl⟩, rfl⟩
    | case5 options name convert hname value rest change hvalue ih =>
        obtain ⟨front, next, last, rfl, hreads, hlast, rfl⟩ := ih h
        exact ⟨name :: value :: front, _, last, rfl, .sets (.option hname hvalue) hreads, hlast,
          rfl⟩
    | case9 options name rest hname hlenient ih =>
        obtain ⟨front, next, last, rfl, hreads, hlast, rfl⟩ := ih h
        exact ⟨name :: front, next, last, rfl,
          .unknown (Bool.eq_false_iff.mpr hlenient) hname hreads, hlast, rfl⟩
  · rintro ⟨front, change, last, rfl, hreads, hlast, rfl⟩
    rw [hreads.scan]
    rcases hlast with rfl | ⟨name, convert, rfl, hname, rfl⟩
    · rfl
    · simp [scan, hname]

/-! ## Repeated options -/

/-- The options have keys: what is set last under a key replaces what was set before under the same
one and leaves the others alone. -/
structure Keyed (meaning : String → Argument ω) {κ : Type*} (key : String → κ) : Prop where
  replaces : ∀ {name later : String} {first second : ω → ω} {args others : List String},
    Sets meaning name first args → Sets meaning later second others → key name = key later →
      second ∘ first = second
  commutes : ∀ {name later : String} {first second : ω → ω} {args others : List String},
    Sets meaning name first args → Sets meaning later second others → key name ≠ key later →
      second ∘ first = first ∘ second

variable {κ : Type*} {key : String → κ} {later : String} {second : ω → ω}
  {middle others : List String}

/-- What is set last under a key does not depend on what was set before under the same one. -/
theorem Keyed.set_of_reads (h : Keyed meaning key) (hfirst : Sets meaning name first args)
    (hmiddle : Reads meaning strict middle change) (hsecond : Sets meaning later second others)
    (hkey : key name = key later) (options : ω) :
    second (change (first options)) = second (change options) := by
  induction hmiddle generalizing options with
  | nil => exact congrFun (h.replaces hfirst hsecond hkey) options
  | @sets between set change _ _ hset _ ih =>
      show second (change (set (first options))) = second (change (set options))
      by_cases hsame : key name = key between
      · have hreplaced : set (first options) = set options :=
          congrFun (h.replaces hfirst hset hsame) options
        rw [hreplaced]
      · have hcommuted : set (first options) = first (set options) :=
          congrFun (h.commutes hfirst hset hsame) options
        rw [hcommuted]
        exact ih (set options)
  | unknown _ _ _ ih => exact ih options

/-- Of two options under one key the first may be left out. -/
theorem Keyed.scan_repeated (h : Keyed meaning key) {front : List String} {earlier : ω → ω}
    (hfront : Reads meaning strict front earlier) (hfirst : Sets meaning name first args)
    (hmiddle : Reads meaning strict middle change) (hsecond : Sets meaning later second others)
    (hkey : key name = key later) (options : ω) (rest : List String) :
    scan meaning strict options (front ++ (args ++ (middle ++ (others ++ rest)))) =
      scan meaning strict options (front ++ (middle ++ (others ++ rest))) := by
  rw [hfront.scan, hfirst.scan, hmiddle.scan, hsecond.scan, hfront.scan, hmiddle.scan,
    hsecond.scan, h.set_of_reads hfirst hmiddle hsecond hkey]

end CommandLine
