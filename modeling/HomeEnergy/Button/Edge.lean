/-!
# Button presses

The two buttons pull their inputs low while they are pressed.  A press is a falling
edge: a low sample after a high one, where before the first sample the input counts
as high.
-/

namespace HomeEnergy

/-- Watches one input for falling edges. -/
structure FallingEdge where
  lastHigh : Bool := true
  deriving Repr, DecidableEq, Inhabited

/-- Takes a sample, and says whether it completes a falling edge. -/
def FallingEdge.sample (edge : FallingEdge) (high : Bool) : Bool × FallingEdge :=
  (edge.lastHigh && !high, { lastHigh := high })

/-- Which buttons were pressed. -/
structure Presses where
  heatPump : Bool
  wind : Bool
  deriving Repr, DecidableEq, Inhabited

/-- Whether any button was pressed. -/
def Presses.any (presses : Presses) : Bool := presses.heatPump || presses.wind

/-- The detectors of the two buttons. -/
structure Buttons where
  heatPump : FallingEdge := {}
  wind : FallingEdge := {}
  deriving Repr, DecidableEq, Inhabited

/-- Takes a sample of each button. -/
def Buttons.sample (buttons : Buttons) (heatPumpHigh windHigh : Bool) : Presses × Buttons :=
  let (heatPumpPressed, heatPump) := buttons.heatPump.sample heatPumpHigh
  let (windPressed, wind) := buttons.wind.sample windHigh
  ({ heatPump := heatPumpPressed, wind := windPressed }, { heatPump, wind })

end HomeEnergy
