import HomeEnergy.House.Balance

/-!
# Exported samples

Balances as comma-separated values: a header line, then one line for each balance with
its number, its flows and its charge.  Every line ends with a line feed.
-/

namespace HomeEnergy.Csv

/-- The names of the columns. -/
def header : List String :=
  ["report", "house_load", "turbine_load", "battery_load", "total_load", "state_of_charge"]

/-- The values of a row. -/
def row (index : Nat) (b : Balance) : List (List Char) :=
  Text.Decimal.ofNat index ::
    [b.houseLoad, b.turbineLoad, b.batteryLoad, b.totalLoad, b.stateOfCharge].map
      fun n => Text.Decimal.ofInt n.toInt

/-- A line of values. -/
def line (fields : List (List Char)) : List Char := [','].intercalate fields ++ ['\n']

/-- The lines of balances, numbered from a first number on. -/
def lines (first : Nat) : List Balance → List (List Char)
  | [] => []
  | b :: bs => line (row first b) :: lines (first + 1) bs

/-- The whole text. -/
def render (samples : List Balance) : String :=
  String.ofList (line (header.map String.toList) ++ (lines 0 samples).flatten)

end HomeEnergy.Csv
