import HomeEnergy.Appliance.Output

/-!
# The lamp

A load that is on or off.  Switching it changes only its state; its pin follows at
the next synchronisation.
-/

namespace HomeEnergy

/-- A lamp: what it draws when on, and whether it is on. -/
structure Lamp where
  loadWhenOn : Int32
  isOn : Bool := false
  deriving Repr, DecidableEq, Inhabited

namespace Lamp

/-- What the lamp draws now. -/
def load (lamp : Lamp) : Int32 := if lamp.isOn then lamp.loadWhenOn else 0

/-- The action that turns the lamp on; every other one turns it off. -/
def onAction : List UInt8 := [0x6F, 0x6E]

/-- Obeys a command. -/
def command (lamp : Lamp) (action : List UInt8) : Lamp :=
  { lamp with isOn := action == onAction }

/-- Brings the pin up to the state. -/
def sync (lamp : Lamp) : Output := .lamp lamp.isOn

/-- Turns the lamp off, pin included. -/
def shutDown (lamp : Lamp) : Output × Lamp := (.lamp false, { lamp with isOn := false })

end Lamp

end HomeEnergy
