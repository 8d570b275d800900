import HomeEnergy.Appliance
import HomeEnergy.House.Balance

/-!
# The house

The four appliances, the commands that reach them, the two buttons, the balancing of
their power and the shutdown.  An operation gives its answer, the writes it makes in
order, and the house after it; a fault ends it without any of these.
-/

namespace HomeEnergy

/-- The appliances of a house. -/
structure House where
  lamp : Lamp
  heatPump : HeatPump := {}
  turbine : Turbine := {}
  battery : Battery
  deriving Repr, DecidableEq, Inhabited

/-- What an operation leaves: its answer, its writes in order, and the house. -/
structure Done (α : Type) where
  answer : α
  writes : List Output
  house : House
  deriving Repr, DecidableEq

namespace House

/-- The appliance that a target names. -/
def appliance (house : House) : Wire.Target → Appliance
  | .led => .lamp house.lamp
  | .battery => .battery house.battery
  | .turbine => .turbine house.turbine
  | .heatPump => .heatPump house.heatPump

/-- The house with this appliance in the place of its own of the kind. -/
def install (house : House) : Appliance → House
  | .lamp lamp => { house with lamp }
  | .battery battery => { house with battery }
  | .turbine turbine => { house with turbine }
  | .heatPump heatPump => { house with heatPump }

/-- Obeys a command. -/
def obey (house : House) (cmd : Wire.Command) : Except Fault House :=
  return house.install (← (house.appliance cmd.target).command cmd.action)

/-- Takes a line: the target it was addressed to, or why it is no command, in which
case nothing changes. -/
def dispatch (house : House) (line : Wire.Line) :
    Except Fault (Done (Except Wire.CommandError Wire.Target)) :=
  match Wire.Command.parse line with
  | .ok cmd => return { answer := .ok cmd.target, writes := [], house := ← house.obey cmd }
  | .error e => return { answer := .error e, writes := [], house }

/-- Balances the power: the loads of the lamp and the heat pump, then the turbine's,
then a step of the battery beside all these.  Each output is synchronised as soon as
its load is known. -/
def balance (house : House) : Except Fault (Done Balance) := do
  let lampWrite := house.lamp.sync
  let houseLoad := Word.satAdd (Word.satAdd 0 house.lamp.load) house.heatPump.load
  let pumpWrite ← house.heatPump.sync
  let turbineLoad ← house.turbine.load
  let turbineWrite ← house.turbine.sync
  let (batteryLoad, battery) ← house.battery.step (Word.satAdd houseLoad turbineLoad)
  let batteryGlyph ← battery.glyphIndex
  return {
    answer := {
      houseLoad, turbineLoad, batteryLoad, batteryGlyph
      totalLoad := Balance.netLoad houseLoad turbineLoad batteryLoad
      stateOfCharge := battery.charge }
    writes := [lampWrite, pumpWrite, turbineWrite]
    house := { house with battery } }

/-- The wind button: a stronger wind, shown at once. -/
def pressWind (house : House) : Except Fault (Done Unit) := do
  let turbine ← house.turbine.strengthen
  return { answer := (), writes := [← turbine.sync], house := { house with turbine } }

/-- The heat pump button: on or off, shown at once. -/
def pressHeatPump (house : House) : Except Fault (Done Unit) := do
  let heatPump := house.heatPump.toggle
  return { answer := (), writes := [← heatPump.sync], house := { house with heatPump } }

/-- Takes the power from all outputs: the turbine's, the heat pump's, the lamp's. -/
def shutDown (house : House) : Done Unit :=
  let (turbineWrite, turbine) := house.turbine.shutDown
  let (pumpWrite, heatPump) := house.heatPump.shutDown
  let (lampWrite, lamp) := house.lamp.shutDown
  { answer := ()
    writes := [turbineWrite, pumpWrite, lampWrite]
    house := { house with turbine, heatPump, lamp } }

end House

end HomeEnergy
