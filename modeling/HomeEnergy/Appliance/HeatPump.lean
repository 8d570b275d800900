import HomeEnergy.Word
import HomeEnergy.Appliance.Output
import HomeEnergy.Wire.Command

/-!
# The heat pump

A load with five levels, off included.  A numeric command sets the level, and a
number that is no level turns the pump off; any other command steps up by one, from
the top level to off.  A toggle turns the pump off, or back to the level it was last
used at.  A pixel shows the level by its colour.
-/

namespace HomeEnergy

/-- A heat pump: its level, and the level a toggle goes back to. -/
structure HeatPump where
  level : Int32 := 0
  resumeLevel : Int32 := 1
  deriving Repr, DecidableEq, Inhabited

namespace HeatPump

/-- The highest level. -/
def maxLevel : Int32 := 4

/-- The colour that shows each level, from off to the highest. -/
def palette : List Colour :=
  [.dark, ⟨0, 0, 64⟩, ⟨0, 64, 64⟩, ⟨64, 64, 0⟩, ⟨96, 0, 0⟩]

/-- The colour of a level; a fault if the level has none. -/
def colour (level : Int32) : Except Fault Colour :=
  if level < 0 then .error .outsideTable
  else match palette[level.toInt.toNat]? with
    | some c => .ok c
    | none => .error .outsideTable

/-- What the pump draws: its level. -/
def load (pump : HeatPump) : Int32 := pump.level

/-- Goes to a level; off if the number is no level.  A level above off is remembered. -/
def setLevel (pump : HeatPump) (level : Int32) : HeatPump :=
  let level := if 0 ≤ level ∧ level ≤ maxLevel then level else 0
  { level, resumeLevel := if 0 < level then level else pump.resumeLevel }

/-- Turns the pump off, or back to the level it was last used at. -/
def toggle (pump : HeatPump) : HeatPump :=
  if 0 < pump.level then { pump with resumeLevel := pump.level }.setLevel 0
  else pump.setLevel pump.resumeLevel

/-- Obeys a command: a number is a level, anything else a step up. -/
def command (pump : HeatPump) (action : List UInt8) : Except Fault HeatPump :=
  match Wire.actionValue? action with
  | some level => .ok (pump.setLevel level)
  | none => return pump.setLevel (← Word.checked (pump.level.toInt + 1))

/-- Shows the level on the pixel. -/
def sync (pump : HeatPump) : Except Fault Output := do
  return .pixels [← colour pump.level]

/-- Turns the pump off, pixel included; the level to go back to stays remembered. -/
def shutDown (pump : HeatPump) : Output × HeatPump :=
  (.pixels [.dark], { pump with level := 0 })

end HeatPump

end HomeEnergy
