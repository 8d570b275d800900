import HomeEnergy.Text.Decimal

/-!
# Command-line options

The arguments are pairs of a flag and a value; a value may be any text, even one that
looks like a flag.  A request for help ends the reading at once.
-/

namespace HomeEnergy

/-- What was asked for on the command line. -/
structure Options where
  scenario : Option String := none
  preset : Option String := none
  seed : Option UInt64 := none
  reports : Option UInt64 := none
  telemetryOut : Option String := none
  help : Bool := false
  deriving Repr, DecidableEq, Inhabited

/-- The flags that take a value. -/
inductive Flag
  | scenario | preset | seed | reports | telemetryOut
  deriving Repr, DecidableEq

namespace Flag

/-- How a flag is written. -/
def name : Flag → String
  | .scenario => "--scenario"
  | .preset => "--preset"
  | .seed => "--seed"
  | .reports => "--reports"
  | .telemetryOut => "--telemetry-out"

/-- What a flag expects after it. -/
def expectation : Flag → String
  | .scenario => "a TOML file path"
  | .preset => "a preset name"
  | .seed => "a u64"
  | .reports => "a count"
  | .telemetryOut => "a file path"

/-- Every flag. -/
def all : List Flag := [.scenario, .preset, .seed, .reports, .telemetryOut]

/-- The flag that is written so. -/
def ofName? (arg : String) : Option Flag := all.find? (·.name == arg)

end Flag

/-- Why the arguments are refused. -/
inductive OptionsError
  | missingValue (flag : Flag)
  | repeated (flag : Flag)
  /-- The value of this flag is no number below 2^64. -/
  | notNumber (flag : Flag) (value : String)
  | unknown (arg : String)
  /-- Both a scenario and a preset are given. -/
  | twoSources
  deriving Repr, DecidableEq

/-- The text of refused arguments. -/
def OptionsError.message : OptionsError → String
  | .missingValue flag => "missing value for " ++ flag.name ++ " (expected " ++ flag.expectation ++ ")"
  | .repeated flag => flag.name ++ " provided more than once"
  | .notNumber flag value =>
    flag.name ++ " value \"" ++ value ++ "\" is not a valid "
      ++ (if flag = .seed then "u64" else "count")
  | .unknown arg => "unknown argument: " ++ arg
  | .twoSources =>
    "arguments `--scenario` and `--preset` are mutually exclusive; choose one source"

namespace Options

/-- A value for a flag that may be given only once. -/
def once (flag : Flag) (before : Option String) (value : String) :
    Except OptionsError (Option String) :=
  if before.isSome then .error (.repeated flag) else .ok (some value)

/-- A number for a flag; the last one counts. -/
def number (flag : Flag) (value : String) : Except OptionsError (Option UInt64) :=
  match Text.Decimal.count? value.toList with
  | some n => .ok (some n)
  | none => .error (.notNumber flag value)

/-- Gives a flag its value. -/
def assign (o : Options) (flag : Flag) (value : String) : Except OptionsError Options :=
  match flag with
  | .scenario => return { o with scenario := ← once flag o.scenario value }
  | .preset => return { o with preset := ← once flag o.preset value }
  | .seed => return { o with seed := ← number flag value }
  | .reports => return { o with reports := ← number flag value }
  | .telemetryOut => return { o with telemetryOut := ← once flag o.telemetryOut value }

/-- The preset of a run for which neither scenario nor preset is given. -/
def defaultPreset : String := "demo"

/-- Checks that there is one source for the configuration, and fills it in if there is
none. -/
def complete (o : Options) : Except OptionsError Options :=
  match o.scenario, o.preset with
  | some _, some _ => .error .twoSources
  | none, none => .ok { o with preset := some defaultPreset }
  | _, _ => .ok o

/-- Reads the remaining arguments. -/
def readFrom (o : Options) : List String → Except OptionsError Options
  | [] => o.complete
  | [arg] =>
    if arg = "--help" ∨ arg = "-h" then .ok { o with help := true }
    else match Flag.ofName? arg with
      | some flag => .error (.missingValue flag)
      | none => .error (.unknown arg)
  | arg :: value :: rest =>
    if arg = "--help" ∨ arg = "-h" then .ok { o with help := true }
    else match Flag.ofName? arg with
      | some flag => do (← o.assign flag value).readFrom rest
      | none => .error (.unknown arg)

/-- Reads the arguments after the program's name. -/
def parse (args : List String) : Except OptionsError Options := readFrom {} args

/-- The lines of the help text. -/
def usage : List String :=
  ["house-node: smart-house energy node on a simulated board",
   "",
   "Usage:",
   "  house-node [--scenario <path> | --preset <name>] [--seed <u64>] [--reports <n>] "
     ++ "[--telemetry-out <path>]",
   "",
   "Options:",
   "  --scenario <path>        Load node config from a TOML file",
   "  --preset <name>          Use a built-in preset (demo, windy)",
   "  --seed <u64>             Override the button simulation seed",
   "  --reports <n>            Stop after n reports (0 = until stdin closes)",
   "  --telemetry-out <path>   Export report samples to CSV",
   "  --help                   Show this help message",
   "",
   "Commands are read from stdin, one per line: \"<target> <action>\".",
   "Telemetry is written to stdout; logs go to stderr (RUST_LOG)."]

end Options

end HomeEnergy
