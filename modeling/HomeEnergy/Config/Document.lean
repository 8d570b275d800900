/-!
# Documents

What scenarios are read from: the values of a TOML document.  How its text is read is left to
whoever runs the program.  A table keeps its entries in the order of the text, and remembers how
it came to be, which matters only while a text is being read.
-/

namespace HomeEnergy.Toml

/-- How a table came to be. -/
inductive Form
  /-- Written in braces: complete. -/
  | inline
  /-- Opened by its own header. -/
  | header
  /-- Implied by the header of a table inside it. -/
  | implied
  /-- Implied by a dotted key. -/
  | dotted
  deriving Repr, DecidableEq

/-- A value. -/
inductive Value
  | text (s : String)
  | integer (n : Int)
  | real (x : Float)
  | boolean (b : Bool)
  /-- A date, a time or both.  Nothing here needs to know which. -/
  | moment
  | list (items : List Value)
  | table (form : Form) (entries : List (String × Value))
  /-- The tables opened by double-bracketed headers of one name. -/
  | tables (elements : List (List (String × Value)))
  deriving Inhabited

/-- Keys with their values, in order. -/
abbrev Entries := List (String × Value)

end HomeEnergy.Toml
