import HomeEnergy.Button.Simulated
import HomeEnergy.Controller

/-!
# Configurations

What a run is set up from: the loop, the lamp, the battery and the simulation.  Any
values can be held; `violations` lists the constraints that they break.
-/

namespace HomeEnergy

/-- The lamp's parameter. -/
structure LampParameters where
  loadWhenOn : Int32 := 1
  deriving Repr, DecidableEq, Inhabited

/-- The battery's parameters. -/
structure BatteryParameters where
  maxCharge : Int32 := 50
  maxRate : Int32 := 3
  initialCharge : Int32 := 0
  deriving Repr, DecidableEq, Inhabited

/-- What stands in for the world: the random presses of the buttons, and the number of
reports after which the run ends (zero for no end). -/
structure Simulation where
  seed : UInt64 := 42
  windPressChance : Float := 0.02
  heatPumpPressChance : Float := 0.01
  maxReports : UInt64 := 0
  deriving Inhabited

/-- A configuration. -/
structure Config where
  loop : Settings := {}
  lamp : LampParameters := {}
  battery : BatteryParameters := {}
  simulation : Simulation := {}
  deriving Inhabited

/-- A setting that breaks a constraint. -/
inductive Violation
  | reportInterval
  | marquee
  | lampLoad
  | maxCharge
  | maxRate
  | initialCharge
  | windPressChance
  | heatPumpPressChance
  deriving Repr, DecidableEq

namespace Violation

/-- The setting's place in the configuration. -/
def field : Violation → String
  | .reportInterval => "node.report_interval_ms"
  | .marquee => "node.marquee"
  | .lampLoad => "led.load_when_on"
  | .maxCharge => "battery.max_charge"
  | .maxRate => "battery.max_rate"
  | .initialCharge => "battery.initial_soc"
  | .windPressChance => "simulation.wind_press_chance"
  | .heatPumpPressChance => "simulation.heatpump_press_chance"

/-- The constraint. -/
def message : Violation → String
  | .reportInterval => "must be in 1..=2147483647"
  | .marquee => "must be non-empty ASCII text"
  | .lampLoad => "must be in [0, 5]"
  | .maxCharge => "must be > 0"
  | .maxRate => "must be > 0"
  | .initialCharge => "must be in [0, battery.max_charge]"
  | .windPressChance => "must be in [0.0, 1.0]"
  | .heatPumpPressChance => "must be in [0.0, 1.0]"

end Violation

namespace Config

/-- The greatest load of a lamp. -/
def maxLampLoad : Int32 := 5

/-- Text of at least one character, all of them ASCII. -/
def isReadable (text : String) : Bool :=
  !text.isEmpty && text.toList.all fun c => c.val < 0x80

/-- The constraint is broken. -/
def breaks (c : Config) : Violation → Bool
  | .reportInterval => c.loop.reportInterval = 0 ∨ 0x7FFFFFFF < c.loop.reportInterval
  | .marquee => !isReadable c.loop.marquee
  | .lampLoad => ¬(0 ≤ c.lamp.loadWhenOn ∧ c.lamp.loadWhenOn ≤ maxLampLoad)
  | .maxCharge => c.battery.maxCharge ≤ 0
  | .maxRate => c.battery.maxRate ≤ 0
  | .initialCharge =>
    c.battery.initialCharge < 0 ∨ c.battery.maxCharge < c.battery.initialCharge
  | .windPressChance => !isChance c.simulation.windPressChance
  | .heatPumpPressChance => !isChance c.simulation.heatPumpPressChance

/-- The constraints, in the order in which they are listed. -/
def constraints : List Violation :=
  [.reportInterval, .marquee, .lampLoad, .maxCharge, .maxRate, .initialCharge,
   .windPressChance, .heatPumpPressChance]

/-- The constraints that a configuration breaks. -/
def violations (c : Config) : List Violation := constraints.filter c.breaks

/-- The house of a configuration, everything off. -/
def buildHouse (c : Config) : Except Fault House := do
  let b := c.battery
  return {
    lamp := { loadWhenOn := c.lamp.loadWhenOn }
    battery := ← Battery.build b.maxCharge b.maxRate b.initialCharge }

/-- A house and the two buttons that press themselves. -/
structure Assembly where
  house : House
  heatPump : SimulatedButton
  wind : SimulatedButton

/-- How far apart the seeds of the two buttons are. -/
def windSeedOffset : UInt64 := 57

/-- Builds the house and its buttons. -/
def assemble (c : Config) : Except Fault Assembly := do
  let s := c.simulation
  return {
    house := ← c.buildHouse
    heatPump := ← SimulatedButton.build s.heatPumpPressChance s.seed
    wind := ← SimulatedButton.build s.windPressChance (s.seed + windSeedOffset) }

end Config

end HomeEnergy
