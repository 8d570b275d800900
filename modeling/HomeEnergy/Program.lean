import HomeEnergy.Config.Preset
import HomeEnergy.Config.Scenario
import HomeEnergy.Controller.Run
import HomeEnergy.Csv
import HomeEnergy.Options

/-!
# The program

What a run does from its arguments to its exit code.  It reads its options, loads and
checks its configuration, runs the controller, and afterwards takes the power from all
outputs and exports the samples.  Files, messages and the reader of scenarios come with a
`Console`, so that the same program runs against real files and against files that are a value.
-/

namespace HomeEnergy

/-- Files, a reader for them, and lines for whoever started the program. -/
structure Console (m : Type → Type) where
  /-- The text of a file, or why it cannot be read. -/
  readFile : String → m (Except String String)
  /-- Writes a file, and says whether that worked. -/
  writeFile : String → String → m Bool
  /-- Writes a line of diagnostics. -/
  complain : String → m Unit
  /-- The configuration in a scenario's text, or why there is none. -/
  scenario : String → Except Config.ScenarioError Config

/-- What a run goes by once its arguments and its configuration have been accepted. -/
structure Plan where
  config : Config
  telemetryOut : Option String

namespace Program

/-- Why a configuration cannot be loaded or is not accepted: the field at fault and the
complaint. -/
structure ConfigProblem where
  field : String
  message : String
  deriving Repr, DecidableEq

/-- The whole text of a complaint about a configuration. -/
def ConfigProblem.text (e : ConfigProblem) : String :=
  "config error: " ++ e.field ++ ": " ++ e.message

/-- The complaint about a broken constraint. -/
def ConfigProblem.ofViolation (v : Violation) : ConfigProblem := ⟨v.field, v.message⟩

/-- The preset of a name. -/
def preset (name : String) : Except ConfigProblem Config :=
  match Config.presets.lookup name with
  | some config => .ok config
  | none =>
    .error ⟨"preset", "unknown preset \"" ++ name ++ "\", available: "
      ++ ", ".intercalate (Config.presets.map (·.1))⟩

variable {m : Type → Type} [Monad m] (console : Console m)

/-- Loads the configuration that the options name. -/
def load (o : Options) : m (Except ConfigProblem Config) := do
  match o.scenario, o.preset with
  | some path, _ =>
    match ← console.readFile path with
    | .ok text => return (console.scenario text).mapError fun e => ⟨"toml", e.message⟩
    | .error why => return .error ⟨"scenario", "cannot read \"" ++ path ++ "\": " ++ why⟩
  | none, some name => return preset name
  | none, none => return .ok Config.demo

/-- A configuration with the options' own values in it. -/
def override (c : Config) (o : Options) : Config :=
  { c with
    simulation := {
      c.simulation with
      seed := o.seed.getD c.simulation.seed
      maxReports := o.reports.getD c.simulation.maxReports } }

/-- Complains about an error. -/
def complainOf (text : String) : m Unit := console.complain ("error: " ++ text)

/-- Shows the help text. -/
def showUsage : m Unit := Options.usage.forM console.complain

/-- Everything before the controller runs: the plan of the run, or the exit code if
there will be none. -/
def prepare (args : List String) : m (Except UInt32 Plan) := do
  match Options.parse args with
  | .error e =>
    complainOf console e.message
    showUsage console
    return .error 2
  | .ok o =>
    if o.help then
      showUsage console
      return .error 0
    match ← load console o with
    | .error e =>
      complainOf console e.text
      return .error 1
    | .ok c =>
      let c := override c o
      match c.violations with
      | [] => return .ok { config := c, telemetryOut := o.telemetryOut }
      | vs =>
        for v in vs do
          complainOf console (ConfigProblem.ofViolation v).text
        return .error 1

/-- The observer of the run: it keeps the reports, and leaves when there are enough of
them, or, if their number is not limited, when the serial link has been found closed. -/
def observe (maxReports : UInt64) (linkClosed : m Bool) (iteration : Iteration) :
    StateT (Array Balance) m Verdict := do
  if let some balance := iteration.report then
    modify (·.push balance)
  let done ←
    if 0 < maxReports then pure (maxReports.toNat ≤ (← get).size : Bool)
    else linkClosed
  return if done then .leave else .goOn

/-- Everything after the run: the samples are exported if that was asked for, and the
error that ended the run is shown.  A failed export ends the program at once. -/
def conclude (plan : Plan) (samples : List Balance) (ending : Ending) : m UInt32 := do
  if let some path := plan.telemetryOut then
    unless ← console.writeFile path (Csv.render samples) do
      return 1
  match ending with
  | .left => return 0
  | .failed e =>
    complainOf console e.message
    return 1
  | .broken _ => return 101

end Program

end HomeEnergy
