/-!
# Outputs

The house drives three outputs: the lamp's pin, a strip of one pixel that shows the
heat pump's level, and the duty of the turbine.  Every operation says which writes it
makes, in order; `Actuators` is what the outputs show after them.

`writeAll_append` says that writes may be made in pieces.
-/

namespace HomeEnergy

/-- A colour by its three channels. -/
structure Colour where
  red : UInt8
  green : UInt8
  blue : UInt8
  deriving Repr, DecidableEq, Inhabited

/-- The pixel is off. -/
def Colour.dark : Colour := ⟨0, 0, 0⟩

/-- A write to one of the outputs. -/
inductive Output
  | lamp (high : Bool)
  | pixels (frame : List Colour)
  | duty (value : UInt16)
  deriving Repr, DecidableEq

/-- What the outputs show: the last value written to each. -/
structure Actuators where
  lampHigh : Bool := false
  frame : List Colour := []
  duty : UInt16 := 0
  deriving Repr, DecidableEq, Inhabited

namespace Actuators

/-- The outputs after one write. -/
def write (a : Actuators) : Output → Actuators
  | .lamp high => { a with lampHigh := high }
  | .pixels frame => { a with frame }
  | .duty value => { a with duty := value }

/-- The outputs after some writes, in order. -/
def writeAll (a : Actuators) (writes : List Output) : Actuators := writes.foldl write a

@[simp] theorem writeAll_nil (a : Actuators) : a.writeAll [] = a := rfl

@[simp] theorem writeAll_cons (a : Actuators) (o : Output) (os : List Output) :
    a.writeAll (o :: os) = (a.write o).writeAll os := rfl

theorem writeAll_append (a : Actuators) (os ps : List Output) :
    a.writeAll (os ++ ps) = (a.writeAll os).writeAll ps :=
  List.foldl_append

end Actuators

end HomeEnergy
