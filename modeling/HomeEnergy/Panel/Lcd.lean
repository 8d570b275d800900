import HomeEnergy.Panel.Call

/-!
# The panel in memory

The cells, the cursor and the glyph slots of a panel.  Text is written from the cursor
to the end of the row and cut off there.  A cell that holds the character of a glyph
slot shows a shade for the share of the glyph's pixels that are lit.
-/

namespace HomeEnergy.Panel

/-- The cells of a panel, its cursor and its glyphs. -/
structure Lcd where
  cells : List (List Char) := List.replicate rows (List.replicate columns ' ')
  col : Nat := 0
  row : Nat := 0
  glyphs : List (Option Bitmap) := List.replicate slots none
  deriving Repr, DecidableEq, Inhabited

namespace Lcd

/-- Writes one character at the cursor and moves on; at the end of the row nothing
happens. -/
def putChar (lcd : Lcd) (c : Char) : Lcd :=
  if lcd.col < columns then
    { lcd with
      cells := lcd.cells.modify lcd.row fun cells => cells.set lcd.col c
      col := lcd.col + 1 }
  else lcd

/-- Obeys a call, unless it names a place that does not exist. -/
def call (lcd : Lcd) : Call → Except PanelError Lcd
  | .moveTo col row =>
    if col < columns ∧ row < rows then .ok { lcd with col, row } else .error (.outside col row)
  | .putText text => .ok (text.foldl putChar lcd)
  | .loadGlyph slot glyph =>
    if slot < slots then .ok { lcd with glyphs := lcd.glyphs.set slot (some glyph) }
    else .error (.outside slot 0)
  | .clear => .ok { glyphs := lcd.glyphs }

/-- The shades from none to full. -/
def shades : List Char := [' ', '░', '▒', '▓', '█']

/-- The pixels in a glyph. -/
def pixels : Nat := 40

/-- How many of the five pixels of a glyph row are lit. -/
def litInRow (bits : UInt8) : Nat := (List.range 5).countP bits.toNat.testBit

/-- The shade of a glyph: blank only if no pixel is lit, rounded up otherwise. -/
def shade (glyph : Bitmap) : Char :=
  let lit := glyph.foldr (litInRow · + ·) 0
  let darkest := shades.length - 1
  shades.getD (min ((lit * darkest + (pixels - 1)) / pixels) darkest) ' '

/-- How a character shows: an empty glyph slot shows blank. -/
def appearance (lcd : Lcd) (c : Char) : Char :=
  if c.toNat < slots then
    match lcd.glyphs.getD c.toNat none with
    | some glyph => shade glyph
    | none => ' '
  else c

/-- A row as it shows; a row that does not exist is empty. -/
def rowText (lcd : Lcd) (row : Nat) : List Char :=
  (lcd.cells.getD row []).map lcd.appearance

end Lcd

/-- A panel behind a bus that breaks after some more calls, or never. -/
structure Bus where
  lcd : Lcd := {}
  patience : Option Nat := none
  deriving Repr, DecidableEq, Inhabited

/-- The text of the error that a broken bus reports. -/
def Bus.breakage : String := "i2c nack"

/-- Makes a call over the bus. -/
def Bus.call (bus : Bus) (call : Call) : Except PanelError Bus :=
  match bus.patience with
  | some 0 => .error (.bus Bus.breakage)
  | some (n + 1) => return { lcd := ← bus.lcd.call call, patience := some n }
  | none => return { bus with lcd := ← bus.lcd.call call }

end HomeEnergy.Panel
