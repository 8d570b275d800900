import HomeEnergy.Controller.Ports
import HomeEnergy.Host.Draws
import HomeEnergy.Panel.Lcd
import HomeEnergy.Wire.Link

/-!
# The bench

A world for the controller that is a value.  Its clock moves only by sleeping, its
buttons are held by hand or press themselves, the panel is kept in memory, and the
link and the panel can be made to fail.  It logs, in order, everything the controller
does to it that takes effect.
-/

namespace HomeEnergy

/-- A button of the bench. -/
inductive Button
  /-- Held by hand at a level. -/
  | manual (high : Bool)
  | simulated (button : SimulatedButton)
  deriving Inhabited

/-- Whether the input reads high. -/
def Button.sample : Button → Bool × Button
  | .manual high => (high, .manual high)
  | .simulated button =>
    let (high, button) := button.sample
    (high, .simulated button)

/-- Something the controller did. -/
inductive Event
  | wrote (write : Output)
  | sent (line : String)
  | slept (ms : UInt32)
  | drew (call : Panel.Call)
  deriving Repr, DecidableEq

/-- The world of the bench. -/
structure Bench where
  heatPump : Button := .manual true
  wind : Button := .manual true
  clock : Tick := ⟨0⟩
  channel : Wire.Channel := {}
  /-- The error of every transmission while the link is down. -/
  linkDown : Option LinkError := none
  bus : Panel.Bus := {}
  actuators : Actuators := {}
  log : Array Event := #[]
  deriving Inhabited

namespace Bench

/-- Puts an event on the log. -/
def note (bench : Bench) (event : Event) : Bench := { bench with log := bench.log.push event }

/-- Makes a write and logs it. -/
def write (bench : Bench) (o : Output) : Bench :=
  { bench with actuators := bench.actuators.write o }.note (.wrote o)

/-- Sleeps and logs it. -/
def sleep (bench : Bench) (ms : UInt32) : Bench :=
  { bench with clock := bench.clock.after ms }.note (.slept ms)

/-- Sends a line, unless the link is down. -/
def transmit (bench : Bench) (line : String) : Except LinkError Unit × Bench :=
  match bench.linkDown with
  | some e => (.error e, bench)
  | none => (.ok (), bench.note (.sent line))

/-- Makes a call to the panel; a refused call is not logged. -/
def draw (bench : Bench) (call : Panel.Call) : Except PanelError Unit × Bench :=
  match bench.bus.call call with
  | .error e => (.error e, bench)
  | .ok bus => (.ok (), { bench with bus }.note (.drew call))

/-- Takes the oldest received line. -/
def receive (bench : Bench) : Except LinkError (Option Wire.Line) × Bench :=
  let (answer, channel) := bench.channel.poll
  (answer, { bench with channel })

/-- Samples the heat pump button. -/
def sampleHeatPump (bench : Bench) : Bool × Bench :=
  let (high, heatPump) := bench.heatPump.sample
  (high, { bench with heatPump })

/-- Samples the wind button. -/
def sampleWind (bench : Bench) : Bool × Bench :=
  let (high, wind) := bench.wind.sample
  (high, { bench with wind })

/-- The ports into the bench. -/
def ports : Ports (StateM Bench) where
  heatPumpHigh := modifyGet sampleHeatPump
  windHigh := modifyGet sampleWind
  now := return (← get).clock
  sleep ms := modify (·.sleep ms)
  receive := modifyGet receive
  transmit line := modifyGet (·.transmit line)
  draw call := (modifyGet (·.draw call) : StateM Bench _)
  drive o := modify (·.write o)

end Bench

end HomeEnergy
