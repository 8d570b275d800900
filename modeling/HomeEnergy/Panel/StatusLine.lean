import HomeEnergy.House.Balance
import HomeEnergy.Panel.Glyph

/-!
# The status line

One row that shows a balance: the three loads, each behind its glyph, and the net flow
behind an equals sign, all signed.  If the four do not fit with blanks between them the
blanks go, and if they still do not fit the loads are cut off; the net flow is never cut.

`length_statusLine` says that the line always fills the row exactly.
-/

namespace HomeEnergy.Panel

/-- Text cut off or filled up with blanks to a width. -/
def fit (width : Nat) (text : List Char) : List Char :=
  (text ++ List.replicate width ' ').take width

namespace StatusLine

/-- A power with its sign. -/
def power (n : Int32) : List Char := Text.Decimal.ofIntSigned n.toInt

/-- The three loads, each behind its glyph. -/
def loads (b : Balance) (glyphs : GlyphSet) : List (List Char) :=
  [glyphs.house :: power b.houseLoad,
   glyphs.turbine :: power b.turbineLoad,
   glyphs.batteryAt b.batteryGlyph :: power b.batteryLoad]

/-- The net flow behind an equals sign. -/
def total (b : Balance) : List Char := '=' :: power b.totalLoad

/-- All four fields with a blank between each two. -/
def spaced (b : Balance) (glyphs : GlyphSet) : List Char :=
  [' '].intercalate (loads b glyphs ++ [total b])

end StatusLine

/-- The row that shows a balance. -/
def statusLine (b : Balance) (glyphs : GlyphSet) : List Char :=
  let spaced := StatusLine.spaced b glyphs
  if spaced.length ≤ columns then fit columns spaced
  else
    let total := StatusLine.total b
    fit columns ((StatusLine.loads b glyphs).flatten.take (columns - total.length) ++ total)

@[simp] theorem length_fit (width : Nat) (text : List Char) : (fit width text).length = width := by
  simp [fit]

/-- The status line fills the row exactly. -/
theorem length_statusLine (b : Balance) (glyphs : GlyphSet) :
    (statusLine b glyphs).length = columns := by
  show (if _ then fit columns _ else fit columns _).length = columns
  split <;> exact length_fit columns _

end HomeEnergy.Panel
