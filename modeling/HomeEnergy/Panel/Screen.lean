import HomeEnergy.Panel.Marquee
import HomeEnergy.Panel.StatusLine

/-!
# The screen

Each report redraws the whole panel: the status line on the first row and the marquee
on the second.  The marquee moves on only when all of this has been accepted.
-/

namespace HomeEnergy.Panel

/-- What the controller keeps of the panel. -/
structure Screen where
  glyphs : GlyphSet
  marquee : Marquee
  deriving Repr, DecidableEq, Inhabited

namespace Screen

/-- The calls that show a text on each row. -/
def twoRows (first second : List Char) : List Call :=
  [.moveTo 0 0, .putText first, .moveTo 0 1, .putText second]

/-- The calls that show a balance. -/
def frame (screen : Screen) (b : Balance) : List Call :=
  twoRows (statusLine b screen.glyphs) (screen.marquee.window columns)

/-- Shows a balance, and moves the marquee on if the panel has accepted it all. -/
def render {m : Type → Type} [Monad m] (screen : Screen) (draw : Draw m) (b : Balance) :
    m (Except PanelError Unit × Screen) := do
  match ← drawAll draw (screen.frame b) with
  | .ok () => pure (.ok (), { screen with marquee := screen.marquee.advance })
  | .error e => pure (.error e, screen)

end Screen

end HomeEnergy.Panel
