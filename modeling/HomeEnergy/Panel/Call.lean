import HomeEnergy.Error

/-!
# Calls to the panel

The panel is a character display of two rows with eight slots for custom glyphs.
The controller decides what goes where; it speaks to any panel by four calls, each of
which the panel may refuse.
-/

namespace HomeEnergy.Panel

/-- The characters in a row. -/
def columns : Nat := 16

/-- The rows of the panel. -/
def rows : Nat := 2

/-- The slots for custom glyphs. -/
def slots : Nat := 8

/-- A custom glyph: eight rows of five pixels, one byte each, low bits last. -/
abbrev Bitmap := List UInt8

/-- A call to the panel. -/
inductive Call
  /-- Puts the cursor at a place. -/
  | moveTo (col row : Nat)
  /-- Writes text from the cursor on. -/
  | putText (text : List Char)
  /-- Loads a custom glyph into a slot. -/
  | loadGlyph (slot : Nat) (glyph : Bitmap)
  /-- Blanks the panel and puts the cursor at its beginning. -/
  | clear
  deriving Repr, DecidableEq

/-- How calls reach a panel. -/
abbrev Draw (m : Type → Type) := Call → m (Except PanelError Unit)

/-- Makes calls in order until one is refused. -/
def drawAll {m : Type → Type} [Monad m] (draw : Draw m) : List Call → m (Except PanelError Unit)
  | [] => pure (.ok ())
  | call :: calls => do
    match ← draw call with
    | .ok () => drawAll draw calls
    | .error e => pure (.error e)

end HomeEnergy.Panel
