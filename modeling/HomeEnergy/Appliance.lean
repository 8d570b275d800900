import HomeEnergy.Appliance.Battery
import HomeEnergy.Appliance.HeatPump
import HomeEnergy.Appliance.Lamp
import HomeEnergy.Appliance.Turbine

/-!
# Appliances

What all four appliances can do: draw a load, obey a command, bring their output up
to their state, and say what kind they are.
-/

namespace HomeEnergy

/-- Any appliance of the house. -/
inductive Appliance
  | lamp (a : Lamp)
  | heatPump (a : HeatPump)
  | turbine (a : Turbine)
  | battery (a : Battery)
  deriving Repr, DecidableEq

namespace Appliance

/-- The load beside this flow of everything else.  For a battery this is a step. -/
def load (otherLoad : Int32) : Appliance → Except Fault (Int32 × Appliance)
  | .lamp a => .ok (a.load, .lamp a)
  | .heatPump a => .ok (a.load, .heatPump a)
  | .turbine a => return (← a.load, .turbine a)
  | .battery a => do
    let (rate, a) ← a.step otherLoad
    return (rate, .battery a)

/-- Obeys a command. -/
def command (action : List UInt8) : Appliance → Except Fault Appliance
  | .lamp a => .ok (.lamp (a.command action))
  | .heatPump a => return .heatPump (← a.command action)
  | .turbine a => .ok (.turbine a)
  | .battery a => .ok (.battery (a.command action))

/-- The writes that bring the outputs up to the state. -/
def sync : Appliance → Except Fault (List Output)
  | .lamp a => .ok [a.sync]
  | .heatPump a => return [← a.sync]
  | .turbine a => return [← a.sync]
  | .battery _ => .ok []

/-- The name of the kind. -/
def kind : Appliance → String
  | .lamp _ => "OnOff"
  | .heatPump _ => "DiscreteLoad"
  | .turbine _ => "Turbine"
  | .battery _ => "Battery"

end Appliance

end HomeEnergy
