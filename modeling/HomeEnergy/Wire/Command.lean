import HomeEnergy.Text.Blank
import HomeEnergy.Text.Decimal
import HomeEnergy.Text.Utf8
import HomeEnergy.Wire.Framing

/-!
# Commands

The grid controller addresses one appliance per line: the keyword of a target and
an action, separated by ASCII blanks.  The action reaches the appliance byte for
byte; what it means is for the appliance to say.
-/

namespace HomeEnergy.Wire

/-- What a command can be addressed to. -/
inductive Target
  | led | battery | turbine | heatPump
  deriving Repr, DecidableEq, Inhabited

namespace Target

/-- Every target. -/
def all : List Target := [.led, .battery, .turbine, .heatPump]

/-- The word that addresses a target. -/
def keyword : Target → String
  | .led => "led"
  | .battery => "battery"
  | .turbine => "turbine"
  | .heatPump => "heatpump"

/-- The target whose keyword these bytes are. -/
def ofKeyword? (token : List UInt8) : Option Target :=
  all.find? fun target => Text.Utf8.encode target.keyword.toList == token

end Target

/-- Why a line is not a command. -/
inductive CommandError
  /-- The line does not have two tokens but this many. -/
  | tokenCount (count : Nat)
  /-- The first of two tokens addresses nothing. -/
  | unknownTarget (name : List Char)
  deriving Repr, DecidableEq

/-- The text of a refused command. -/
def CommandError.message : CommandError → String
  | .tokenCount n => "expected `<target> <action>`, got " ++ toString n ++ " token(s)"
  | .unknownTarget name => "unknown target `" ++ String.ofList name ++ "`"

/-- A target and the action asked of it. -/
structure Command where
  target : Target
  action : List UInt8
  deriving Repr, DecidableEq

namespace Command

/-- The bytes that separate tokens: space, tab, line feed, form feed, carriage return. -/
def isSeparator (b : UInt8) : Bool :=
  b == 0x20 || b == 0x09 || b == 0x0A || b == 0x0C || b == 0x0D

/-- The longest runs of bytes that hold no separator. -/
def tokens (line : Line) : List (List UInt8) :=
  (line.splitOnP isSeparator).filter (· ≠ [])

/-- Reads a line of exactly two tokens, the first of them a keyword. -/
def parse (line : Line) : Except CommandError Command :=
  match tokens line with
  | [name, action] =>
    match Target.ofKeyword? name with
    | some target => .ok { target, action }
    | none => .error (.unknownTarget (Text.Utf8.repair name))
  | others => .error (.tokenCount others.length)

end Command

/-- The integer that an action spells, with blanks around it allowed. -/
def actionValue? (action : List UInt8) : Option Int32 := do
  let text ← Text.Utf8.decode? action
  Text.Decimal.word? (Text.trim text)

end HomeEnergy.Wire
