import HomeEnergy.Word
import HomeEnergy.Appliance.Output

/-!
# The wind turbine

It generates what the wind gives.  Only the wind button moves the wind, round and
round from calm to the strongest; commands are ignored.  The duty of its output
shows the wind.
-/

namespace HomeEnergy

/-- A turbine in a wind of some strength. -/
structure Turbine where
  wind : Int32 := 0
  deriving Repr, DecidableEq, Inhabited

namespace Turbine

/-- The strongest wind. -/
def maxWind : Int32 := 5

/-- The duty of the weakest wind is one step above this. -/
def baseDuty : Nat := 200

/-- What each step of the wind adds to the duty. -/
def dutyStep : Nat := 25

/-- What the turbine draws: its generation with a minus. -/
def load (turbine : Turbine) : Except Fault Int32 := Word.checked (-turbine.wind.toInt)

/-- The next stronger wind; calm after the strongest. -/
def strengthen (turbine : Turbine) : Except Fault Turbine :=
  if maxWind ≤ turbine.wind then .ok { wind := 0 }
  else return { wind := ← Word.checked (turbine.wind.toInt + 1) }

/-- The duty that shows the wind; none in a calm. -/
def duty (turbine : Turbine) : Except Fault UInt16 :=
  if 0 < turbine.wind then do
    let steps ← Word.checkedNat16 (dutyStep * (turbine.wind.toInt.toNat % UInt16.size))
    Word.checkedNat16 (baseDuty + steps.toNat)
  else .ok 0

/-- Shows the wind on the output. -/
def sync (turbine : Turbine) : Except Fault Output := return .duty (← turbine.duty)

/-- Takes the duty away; the wind goes on. -/
def shutDown (turbine : Turbine) : Output × Turbine := (.duty 0, turbine)

end Turbine

end HomeEnergy
