import HomeEnergy.Word
import HomeEnergy.Text.Decimal

/-!
# Power balances

What one balancing of the house finds.  Consumption and import are positive,
generation and export negative.
-/

namespace HomeEnergy

/-- The flows found by one balancing, and the battery after it. -/
structure Balance where
  /-- The loads of the lamp and the heat pump. -/
  houseLoad : Int32
  turbineLoad : Int32
  /-- Positive when charging. -/
  batteryLoad : Int32
  /-- The net flow reported to the grid. -/
  totalLoad : Int32
  stateOfCharge : Int32
  /-- Which glyph shows the battery's charge. -/
  batteryGlyph : Nat
  deriving Repr, DecidableEq, Inhabited

namespace Balance

/-- The net flow of three contributions, added from left to right. -/
def netLoad (house turbine battery : Int32) : Int32 :=
  Word.satAdd (Word.satAdd house turbine) battery

/-- The flow that the battery sees. -/
def beforeBattery (b : Balance) : Int32 := Word.satAdd b.houseLoad b.turbineLoad

/-- The balance in one line of text. -/
def summary (b : Balance) : String :=
  let signed (n : Int32) := Text.Decimal.ofIntSigned n.toInt
  String.ofList <|
    "house=".toList ++ signed b.houseLoad ++ " turbine=".toList ++ signed b.turbineLoad
      ++ " battery=".toList ++ signed b.batteryLoad
      ++ " (soc=".toList ++ Text.Decimal.ofInt b.stateOfCharge.toInt
      ++ ") | total=".toList ++ signed b.totalLoad

end Balance

end HomeEnergy
