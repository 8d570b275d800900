import HomeEnergy.Fault

/-!
# Simulated buttons

A button that presses itself at random: at each sample that finds it at rest it is
pressed with a given chance, and a press lasts for one sample.  A chance of zero or one needs
no draw.  Where the other draws come from is left open; all that counts is that a seed
determines them.

`samples_rest` says that between two presses the button is at rest, whatever is drawn.
-/

namespace HomeEnergy

/-- A source of random draws. -/
class RandomDraws where
  /-- Whether something of this chance happens, at the draw that comes after so many others from
  this seed. -/
  happens (seed : UInt64) (drawn : Nat) (chance : Float) : Bool

/-- A chance lies between zero and one; what is not a number is no chance. -/
def isChance (x : Float) : Bool := 0.0 ≤ x && x ≤ 1.0

/-- A button that presses itself. -/
structure SimulatedButton where
  chance : Float
  seed : UInt64
  /-- The number of draws made so far. -/
  drawn : Nat := 0
  /-- The last sample was low. -/
  held : Bool := false
  deriving Inhabited

namespace SimulatedButton

/-- A button at rest, with draws of its own. -/
def build (chance : Float) (seed : UInt64) : Except Fault SimulatedButton := do
  require (isChance chance) none
  return { chance, seed }

section

variable [RandomDraws] (button : SimulatedButton)

/-- Whether it is pressed now, and the number of draws made by then. -/
def draw : Bool × Nat :=
  if button.chance ≤ 0.0 then (false, button.drawn)
  else if 1.0 ≤ button.chance then (true, button.drawn)
  else (RandomDraws.happens button.seed button.drawn button.chance, button.drawn + 1)

/-- Whether the input reads high.  After a low sample the button is released. -/
def sample : Bool × SimulatedButton :=
  if button.held then (true, { button with held := false })
  else
    let (pressed, drawn) := button.draw
    (!pressed, { button with drawn, held := pressed })

/-- The next samples, oldest first. -/
def samples (button : SimulatedButton) : Nat → List Bool
  | 0 => []
  | n + 1 => button.sample.1 :: button.sample.2.samples n

variable {button}

/-- A press lasts for one sample. -/
theorem sample_of_low (h : button.sample.1 = false) : button.sample.2.sample.1 = true := by
  by_cases hheld : button.held = true
  · rw [sample, if_pos hheld] at h
    cases h
  · have hsample : button.sample =
        (!button.draw.1, { button with drawn := button.draw.2, held := button.draw.1 }) :=
      if_neg hheld
    have hpressed : button.draw.1 = true := by
      rw [hsample] at h
      exact Bool.not_inj h
    rw [hsample, hpressed]
    rfl

/-- **Between two presses the button is at rest**, whatever is drawn. -/
theorem samples_rest {n i : Nat} (h : (button.samples n)[i]? = some false) :
    (button.samples n)[i + 1]? ≠ some false := by
  induction n generalizing button i with
  | zero => cases h
  | succ n ih =>
    rw [samples, List.getElem?_cons_succ]
    cases i with
    | succ i =>
      rw [samples, List.getElem?_cons_succ] at h
      exact ih h
    | zero =>
      have hlow : button.sample.1 = false := Option.some.inj h
      have hhigh := sample_of_low hlow
      cases n with
      | zero => nofun
      | succ n =>
        rw [samples, List.getElem?_cons_zero, hhigh]
        nofun

end

end SimulatedButton

end HomeEnergy
