/-!
# Errors

What the serial link and the panel can refuse, and what therefore stops the control
loop.  A malformed command stops nothing and is no error of this kind.
-/

namespace HomeEnergy

/-- An input or output error of the serial link, by its text. -/
structure LinkError where
  text : String
  deriving Repr, DecidableEq, Inhabited

/-- Why the panel refuses a call. -/
inductive PanelError
  /-- The bus to the panel reports an error. -/
  | bus (text : String)
  /-- There is no such place on the panel. -/
  | outside (col row : Nat)
  deriving Repr, DecidableEq

/-- The text of a refused panel call. -/
def PanelError.message : PanelError → String
  | .bus text => "display bus error: " ++ text
  | .outside col row =>
    "position (" ++ toString col ++ ", " ++ toString row ++ ") is outside the display"

/-- What stops the control loop. -/
inductive ControlError
  /-- All custom glyph slots of the panel are in use. -/
  | slotsExhausted (slots : Nat)
  | link (e : LinkError)
  | panel (e : PanelError)
  deriving Repr, DecidableEq

/-- The text of an error that stops the loop. -/
def ControlError.message : ControlError → String
  | .slotsExhausted slots => "all " ++ toString slots ++ " custom glyph slots are in use"
  | .link e => "serial link failed: " ++ e.text
  | .panel e => "display failed: " ++ e.message

end HomeEnergy
