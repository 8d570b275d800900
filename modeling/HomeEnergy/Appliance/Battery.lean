import HomeEnergy.Word
import HomeEnergy.Wire.Command

/-!
# The battery

The battery brings the net flow of the house towards a target.  At each step it sees
the flow of everything else, takes the rate that would reach the target, as far as
its greatest rate allows, and charges or discharges at that rate unless it is full or
empty.  It reports the full rate also in the step in which it becomes full or empty.
-/

namespace HomeEnergy

/-- A battery: its two parameters, its charge, the net flow it aims at, and the rate of
its last step (positive when charging). -/
structure Battery where
  maxCharge : Int32
  maxRate : Int32
  charge : Int32
  netTarget : Int32 := 0
  lastRate : Int32 := 0
  deriving Repr, DecidableEq, Inhabited

namespace Battery

/-- How many glyphs show the charge. -/
def glyphCount : Nat := 6

/-- A battery at rest.  Its parameters are positive and its charge is within them. -/
def build (maxCharge maxRate charge : Int32) : Except Fault Battery := do
  require (0 < maxCharge) none
  require (0 < maxRate) none
  require (0 ≤ charge ∧ charge ≤ maxCharge) none
  return { maxCharge, maxRate, charge }

/-- Which glyph shows the charge: its share of the capacity in fifths, cut off below. -/
def glyphIndex (battery : Battery) : Except Fault Nat :=
  if battery.maxCharge = 0 then .error .divisionByZero
  else
    let top : Int := glyphCount - 1
    let fifths := Int.tdiv (battery.charge.toInt * top) battery.maxCharge.toInt
    .ok (max 0 (min fifths top)).toNat

/-- The rate that would bring the net flow to its target, as far as the greatest rate
allows. -/
def wantedRate (battery : Battery) (otherLoad : Int32) : Except Fault Int32 := do
  let least ← Word.checked (-battery.maxRate.toInt)
  Word.clamp least battery.maxRate (Word.satSub battery.netTarget otherLoad)

/-- One step beside this flow of everything else; the rate and the battery after it. -/
def step (battery : Battery) (otherLoad : Int32) : Except Fault (Int32 × Battery) := do
  let rate ← battery.wantedRate otherLoad
  if (battery.charge < battery.maxCharge ∧ 0 < rate) ∨ (0 < battery.charge ∧ rate < 0) then
    let charge ← Word.clamp 0 battery.maxCharge (Word.satAdd battery.charge rate)
    return (rate, { battery with charge, lastRate := rate })
  else return (0, { battery with lastRate := 0 })

/-- Obeys a command: a number is the new target, anything else is ignored. -/
def command (battery : Battery) (action : List UInt8) : Battery :=
  match Wire.actionValue? action with
  | some netTarget => { battery with netTarget }
  | none => battery

end Battery

end HomeEnergy
