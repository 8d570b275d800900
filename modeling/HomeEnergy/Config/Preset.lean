import HomeEnergy.Config

/-!
# Presets

Configurations that are known by name.
-/

namespace HomeEnergy.Config

/-- All defaults. -/
def demo : Config := {}

/-- Much wind, and a battery half full. -/
def windy : Config where
  loop := { marquee := "Storm warning: turbine at full tilt * " }
  battery := { initialCharge := 25 }
  simulation := { windPressChance := 0.15, heatPumpPressChance := 0.05 }

/-- The presets by name. -/
def presets : List (String × Config) := [("demo", demo), ("windy", windy)]

end HomeEnergy.Config
