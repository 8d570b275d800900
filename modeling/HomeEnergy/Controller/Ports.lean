import HomeEnergy.Appliance.Output
import HomeEnergy.Clock.Tick
import HomeEnergy.Panel.Call
import HomeEnergy.Wire.Framing

/-!
# Ports

Everything the control loop does to the world outside goes through these ports.  They
live in a monad of the caller's choice, so that one loop runs against the real world
and against a world that is a value.
-/

namespace HomeEnergy

/-- The ports of a controller.  Outputs always accept a write; the serial link and the
panel may fail. -/
structure Ports (m : Type → Type) where
  /-- Whether the input of the heat pump button is high. -/
  heatPumpHigh : m Bool
  /-- Whether the input of the wind button is high. -/
  windHigh : m Bool
  now : m Tick
  /-- Waits for this many milliseconds. -/
  sleep : UInt32 → m Unit
  /-- The next received line, if there is one; never waits. -/
  receive : m (Except LinkError (Option Wire.Line))
  /-- Sends a line. -/
  transmit : String → m (Except LinkError Unit)
  draw : Panel.Draw m
  drive : Output → m Unit

/-- The same ports beside a state of one's own. -/
def Ports.beside {m : Type → Type} [Monad m] (ports : Ports m) (σ : Type) : Ports (StateT σ m) where
  heatPumpHigh := ports.heatPumpHigh
  windHigh := ports.windHigh
  now := ports.now
  sleep ms := ports.sleep ms
  receive := ports.receive
  transmit line := ports.transmit line
  draw call := (ports.draw call : m _)
  drive write := ports.drive write

end HomeEnergy
