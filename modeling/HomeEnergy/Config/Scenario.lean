import HomeEnergy.Config
import HomeEnergy.Config.Document

/-!
# Scenarios

A scenario is a configuration written in TOML: one table per section, every key
optional.  Keys that no section has are refused.  A section may also be written as a
list of its values in the order of its keys; values missing at its end keep their
defaults, and values beyond its last key are not looked at.  The first problem in the
order of the document is the one that counts.
-/

namespace HomeEnergy.Config

/-- Why a text is no scenario. -/
inductive ScenarioError
  /-- The text is not TOML. -/
  | malformed
  /-- A value has the wrong type or is out of its range. -/
  | mismatch
  /-- A key is none of those that its place knows. -/
  | unknownKey (key : String) (known : List String)
  deriving Repr, DecidableEq

/-- A name as it is quoted in messages. -/
def quoted (name : String) : String := "`" ++ name ++ "`"

/-- The text of a refused scenario. -/
def ScenarioError.message : ScenarioError → String
  | .malformed => "malformed document"
  | .mismatch => "value of the wrong type or out of range"
  | .unknownKey key known =>
    "unknown field " ++ quoted key ++ ", expected " ++
      (if known.length = 1 then "" else "one of ") ++ ", ".intercalate (known.map quoted)

/-- One of the keys of a section: how its value changes the section. -/
structure Key (σ : Type) where
  name : String
  assign : Toml.Value → σ → Except ScenarioError σ

/-- The key under which a date or time appears where a section is expected. -/
def momentKey : String := "$__toml_private_datetime"

/-- Reads a section: the keys of a table in its order, or the items of a list in the
order of the keys. -/
def readSection {σ : Type} (keys : List (Key σ)) (start : σ) :
    Toml.Value → Except ScenarioError σ
  | .table _ entries => entries.foldlM (fun s entry => assignEntry entry.1 entry.2 s) start
  | .list items => assignItems items
  | .tables elements => assignItems (elements.map (Toml.Value.table .header))
  | .moment => .error (.unknownKey momentKey (keys.map (·.name)))
  | _ => .error .mismatch
where
  assignEntry (name : String) (v : Toml.Value) (s : σ) : Except ScenarioError σ :=
    match keys.find? (·.name = name) with
    | some key => key.assign v s
    | none => .error (.unknownKey name (keys.map (·.name)))
  assignItems (items : List Toml.Value) : Except ScenarioError σ :=
    (keys.zip items).foldlM (fun s pair => pair.1.assign pair.2 s) start

/-- An integer within bounds. -/
def integerIn (least greatest : Int) : Toml.Value → Except ScenarioError Int
  | .integer n => if least ≤ n ∧ n ≤ greatest then .ok n else .error .mismatch
  | _ => .error .mismatch

/-- A signed 32-bit integer. -/
def word (v : Toml.Value) : Except ScenarioError Int32 :=
  return Int32.ofInt (← integerIn (-0x80000000) 0x7FFFFFFF v)

/-- An unsigned 32-bit integer. -/
def milliseconds (v : Toml.Value) : Except ScenarioError UInt32 :=
  return UInt32.ofNat (← integerIn 0 0xFFFFFFFF v).toNat

/-- An integer that is not negative. -/
def count (v : Toml.Value) : Except ScenarioError UInt64 :=
  return UInt64.ofNat (← integerIn 0 0xFFFFFFFFFFFFFFFF v).toNat

/-- A real number, or an integer, of which the nearest double is taken. -/
def real : Toml.Value → Except ScenarioError Float
  | .real x => .ok x
  | .integer n => .ok (Float.ofInt n)
  | _ => .error .mismatch

/-- Any text. -/
def text : Toml.Value → Except ScenarioError String
  | .text s => .ok s
  | _ => .error .mismatch

/-- The keys of the loop. -/
def loopKeys : List (Key Settings) :=
  [⟨"report_interval_ms", fun v s => return { s with reportInterval := ← milliseconds v }⟩,
   ⟨"idle_delay_ms", fun v s => return { s with idleDelay := ← milliseconds v }⟩,
   ⟨"marquee", fun v s => return { s with marquee := ← text v }⟩]

/-- The key of the lamp. -/
def lampKeys : List (Key LampParameters) :=
  [⟨"load_when_on", fun v s => return { s with loadWhenOn := ← word v }⟩]

/-- The keys of the battery. -/
def batteryKeys : List (Key BatteryParameters) :=
  [⟨"max_charge", fun v s => return { s with maxCharge := ← word v }⟩,
   ⟨"max_rate", fun v s => return { s with maxRate := ← word v }⟩,
   ⟨"initial_soc", fun v s => return { s with initialCharge := ← word v }⟩]

/-- The keys of the simulation. -/
def simulationKeys : List (Key Simulation) :=
  [⟨"seed", fun v s => return { s with seed := ← count v }⟩,
   ⟨"wind_press_chance", fun v s => return { s with windPressChance := ← real v }⟩,
   ⟨"heatpump_press_chance", fun v s => return { s with heatPumpPressChance := ← real v }⟩,
   ⟨"max_reports", fun v s => return { s with maxReports := ← count v }⟩]

/-- The sections. -/
def sections : List (Key Config) :=
  [⟨"node", fun v c => return { c with loop := ← readSection loopKeys {} v }⟩,
   ⟨"led", fun v c => return { c with lamp := ← readSection lampKeys {} v }⟩,
   ⟨"battery", fun v c => return { c with battery := ← readSection batteryKeys {} v }⟩,
   ⟨"simulation", fun v c => return { c with simulation := ← readSection simulationKeys {} v }⟩]

/-- The configuration of a document; there is none if its text was no document. -/
def ofDocument : Option Toml.Entries → Except ScenarioError Config
  | some entries => readSection sections {} (.table .header entries)
  | none => .error .malformed

end HomeEnergy.Config
