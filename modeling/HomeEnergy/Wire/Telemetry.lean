import HomeEnergy.Text.Blank
import HomeEnergy.Text.Decimal

/-!
# Telemetry

Each report sends the net flow of the house as one line of text: a keyword and the
flow in decimal.

The reading of a line undoes its writing: `total?_line`.
-/

namespace HomeEnergy.Wire.Telemetry

/-- The word that opens every telemetry line. -/
def keyword : List Char := "powerSample".toList

/-- The line for a net flow. -/
def line (total : Int32) : String :=
  String.ofList (keyword ++ ' ' :: Text.Decimal.ofInt total.toInt)

/-- The text after a given beginning. -/
def after? : List Char → List Char → Option (List Char)
  | [], text => some text
  | _ :: _, [] => none
  | k :: ks, c :: cs => if k = c then after? ks cs else none

/-- The net flow that a line reports; blanks around the line and around the number
are allowed. -/
def total? (line : String) : Option Int32 := do
  let rest ← after? keyword (Text.trim line.toList)
  Text.Decimal.word? (Text.trim rest)

theorem after?_append (opening rest : List Char) : after? opening (opening ++ rest) = some rest := by
  induction opening with
  | nil => rfl
  | cons c opening ih => exact (if_pos rfl).trans ih

/-- There are no blanks around a line. -/
theorem trim_line (total : Int32) : Text.trim (line total).toList =
    keyword ++ ' ' :: Text.Decimal.ofInt total.toInt := by
  rw [line, String.toList_ofList]
  apply Text.trim_eq_self
  · intro c hc
    cases hc
    decide
  · intro c hc
    rw [List.getLast?_append, List.getLast?_cons,
      List.getLast?_eq_some_getLast (Text.Decimal.ofInt_ne_nil _)] at hc
    cases hc
    exact Text.Decimal.isBlank_of_mem_ofInt (List.getLast_mem _)

/-- **Every net flow is read back from its line.** -/
theorem total?_line (total : Int32) : total? (line total) = some total := by
  have hblank : Text.isBlank ' ' = true := by decide
  rw [total?, trim_line, after?_append, Option.bind_eq_bind, Option.bind_some,
    Text.trim_cons hblank, Text.Decimal.trim_ofInt, Text.Decimal.word?_ofInt]

end HomeEnergy.Wire.Telemetry
