import HomeEnergy.Button.Edge
import HomeEnergy.Clock.Timer
import HomeEnergy.Controller.Ports
import HomeEnergy.House
import HomeEnergy.Panel.Screen
import HomeEnergy.Wire.Telemetry

/-!
# The controller

One house and the loop around it.  An iteration handles the buttons, makes a report
if one is due, obeys at most one command, and idles if there was neither report nor
command, never past the next deadline.

What an iteration has changed before it fails stays changed: the state is carried on
beside the error.
-/

namespace HomeEnergy

/-- How the loop is timed and what the marquee shows. -/
structure Settings where
  /-- The time between reports, in milliseconds. -/
  reportInterval : UInt32 := 1000
  /-- The longest time to idle at once, in milliseconds. -/
  idleDelay : UInt32 := 100
  marquee : String := "Smart House Energy Node * "
  deriving Repr, DecidableEq, Inhabited

/-- The state of the control loop. -/
structure Controller where
  house : House
  buttons : Buttons := {}
  screen : Panel.Screen
  timer : Timer
  idleDelay : UInt32
  deriving Repr, DecidableEq

/-- Why an iteration ended early: a port failed, or a precondition was broken. -/
inductive Halt
  | failed (e : ControlError)
  | broken (f : Fault)
  deriving Repr, DecidableEq

/-- What happened in one iteration. -/
structure Iteration where
  presses : Presses
  report : Option Balance
  /-- The outcome of the command line, if one arrived. -/
  command : Option (Except Wire.CommandError Wire.Target)
  /-- The milliseconds spent idling. -/
  idled : UInt32
  deriving Repr

/-- Work on the controller's state that may end early. -/
abbrev Control (m : Type → Type) := ExceptT Halt (StateT Controller m)

namespace Controller

variable {m : Type → Type} [Monad m] (ports : Ports m)

/-- The title before the first report, without the two glyphs after it. -/
def title : List Char := " Smart House ".toList

/-- Makes a call to the panel. -/
def drawOrHalt (call : Panel.Call) : ExceptT Halt m Unit := do
  match ← ports.draw call with
  | .ok () => pure ()
  | .error e => throw (.failed (.panel e))

/-- Prepares the panel, shows the title and the marquee, and starts the report timer. -/
def setUp (house : House) (settings : Settings) : ExceptT Halt m Controller := do
  drawOrHalt ports .clear
  match ← (((Panel.GlyphSet.load ports.draw).run).run {} : m _) with
  | (.error e, _) => throw (.failed e)
  | (.ok glyphs, _) =>
    let screen : Panel.Screen := { glyphs, marquee := .ofString settings.marquee }
    let first := (title ++ [glyphs.house, glyphs.turbine]).take Panel.columns
    let second := screen.marquee.window Panel.columns
    match ← (Panel.drawAll ports.draw (Panel.Screen.twoRows first second) : m _) with
    | .error e => throw (.failed (.panel e))
    | .ok () =>
      match Timer.start settings.reportInterval (← ports.now) with
      | .error f => throw (.broken f)
      | .ok timer => return { house, screen, timer, idleDelay := settings.idleDelay }

/-- Performs an operation on the house and makes its writes. -/
def operate {α : Type} (operation : House → Except Fault (Done α)) : Control m α := do
  match operation (← get).house with
  | .error f => throw (.broken f)
  | .ok done =>
    modify fun c => { c with house := done.house }
    for write in done.writes do
      ports.drive write
    return done.answer

/-- Samples both buttons, the heat pump's first. -/
def sampleButtons : Control m Presses := do
  let heatPumpHigh ← ports.heatPumpHigh
  let windHigh ← ports.windHigh
  let (presses, buttons) := (← get).buttons.sample heatPumpHigh windHigh
  modify fun c => { c with buttons }
  return presses

/-- Asks the timer whether a report is due. -/
def reportDue : Control m Bool := do
  let (due, timer) := (← get).timer.poll (← ports.now)
  modify fun c => { c with timer }
  return due

/-- Balances the house, sends the net flow and shows the balance. -/
def report : Control m Balance := do
  let balance ← operate ports House.balance
  if let .error e ← ports.transmit (Wire.Telemetry.line balance.totalLoad) then
    throw (.failed (.link e))
  let (outcome, screen) ← ((← get).screen.render ports.draw balance : m _)
  modify fun c => { c with screen }
  if let .error e := outcome then
    throw (.failed (.panel e))
  return balance

/-- Takes the next received line, if there is one, to the house. -/
def obeyNext : Control m (Option (Except Wire.CommandError Wire.Target)) := do
  match ← ports.receive with
  | .error e => throw (.failed (.link e))
  | .ok none => return none
  | .ok (some line) => return some (← operate ports (·.dispatch line))

/-- Sleeps for the idle delay, or up to the deadline if that is sooner. -/
def idle : Control m UInt32 := do
  let controller ← get
  let delay := min controller.idleDelay (controller.timer.remaining (← ports.now))
  if 0 < delay then
    ports.sleep delay
  return delay

/-- One iteration of the loop. -/
def iterate : Control m Iteration := do
  let presses ← sampleButtons ports
  if presses.heatPump then operate ports House.pressHeatPump
  if presses.wind then operate ports House.pressWind
  let report ← if ← reportDue ports then some <$> report ports else pure none
  let command ← obeyNext ports
  let idled ← if report.isNone && command.isNone then idle ports else pure 0
  return { presses, report, command, idled }

/-- Takes the power from all outputs. -/
def shutDown : StateT Controller m Unit := do
  let done := (← get).house.shutDown
  modify fun c => { c with house := done.house }
  for write in done.writes do
    ports.drive write

end Controller

end HomeEnergy
