import HomeEnergy.Bench
import HomeEnergy.Host.Toml.Document
import HomeEnergy.Program
import HomeEnergy.Program.Disk

/-!
# Rehearsals

The program run against a disk, an input and a clock that are values.  The whole input
has arrived when the loop begins, and the clock moves only by sleeping, except that an
iteration without anything to do and without sleep takes a millisecond.
-/

namespace HomeEnergy

/-- Where a rehearsal happens: the disk, what standard input will still give, and what
has been written to the other two streams, to standard output only by its path. -/
structure Desk where
  disk : Disk := {}
  input : List Wire.Read := []
  printed : String := ""
  complaints : String := ""
  deriving Inhabited

namespace Desk

/-- All bytes that some reads give up to their end, or the failure that they meet. -/
def readToEnd : List Wire.Read → Except LinkError (List UInt8)
  | [] | .bytes [] :: _ => .ok []
  | .bytes chunk :: reads => return chunk ++ (← readToEnd reads)
  | .interrupted :: reads => readToEnd reads
  | .failed e :: _ => .error e

/-- Reads the text that a path leads to.  Standard input can be read only once. -/
def readFile (desk : Desk) (path : String) : Except String String × Desk :=
  let textOf (bytes : List UInt8) := (Disk.textOf bytes).mapError (·.message)
  match desk.disk.find path with
  | .ok (.device .standardInput) =>
    ((readToEnd desk.input).mapError (·.text) >>= textOf, { desk with input := [] })
  | _ => ((desk.disk.read path).mapError (·.message) >>= textOf, desk)

/-- Writes a text where a path leads, and says whether that worked. -/
def writeFile (desk : Desk) (path text : String) : Bool × Desk :=
  match desk.disk.create path with
  | .ok (_, .device .standardOutput) => (true, { desk with printed := desk.printed ++ text })
  | .ok (_, .device .standardError) =>
    (true, { desk with complaints := desk.complaints ++ text })
  | _ =>
    match desk.disk.write path (Text.Utf8.encode text.toList) with
    | .ok disk => (true, { desk with disk })
    | .error _ => (false, desk)

/-- Writes a line of diagnostics. -/
def complain (desk : Desk) (line : String) : Desk :=
  { desk with complaints := desk.complaints ++ line ++ "\n" }

/-- The files and the diagnostics of a desk. -/
def console : Console (StateM Desk) where
  readFile path := modifyGet (·.readFile path)
  writeFile path text := modifyGet (·.writeFile path text)
  complain line := modify (·.complain line)
  scenario := Config.ofToml

end Desk

/-- What a run of the program leaves. -/
structure Outcome where
  exit : UInt32
  /-- The lines sent. -/
  sent : List String
  desk : Desk

/-- All that was written to standard output: the lines sent, and then what was written to
it by its path. -/
def Outcome.printed (r : Outcome) : String :=
  String.join (r.sent.map (· ++ "\n")) ++ r.desk.printed

namespace Program

/-- The observer of a rehearsal: that of the program, on a clock that moves on even if
nothing happens. -/
def observeTimed (maxReports : UInt64) (iteration : Iteration) :
    StateT (Array Balance) (StateM Bench) Verdict := do
  if iteration.report.isNone ∧ iteration.command.isNone ∧ iteration.idled = 0 then
    modifyThe Bench fun b => { b with clock := b.clock.after 1 }
  observe maxReports (return (← getThe Bench).channel.closed) iteration

/-- A number of iterations that a run does not exceed: each takes a message, makes a
report or lets a millisecond pass, and the last finds the link closed. -/
def longestRun (config : Config) (messages : Nat) : Nat :=
  messages + 2 + config.simulation.maxReports.toNat * (config.loop.reportInterval.toNat + 1)

/-- The lines that a bench has seen sent. -/
def sentLines (bench : Bench) : List String :=
  bench.log.toList.filterMap fun
    | .sent line => some line
    | _ => none

/-- Runs the controller of a plan on a bench; `none` if there is no end to it. -/
def rehearseLoop (plan : Plan) (house : House) (bench : Bench) (desk : Desk) : Option Outcome :=
  match (Controller.setUp Bench.ports house plan.config.loop).run.run bench with
  | (.error (.failed e), bench) =>
    let (_, desk) := (complainOf Desk.console ("node setup failed: " ++ e.message)).run desk
    some { exit := 1, sent := sentLines bench, desk }
  | (.error (.broken _), bench) => some { exit := 101, sent := sentLines bench, desk }
  | (.ok controller, bench) =>
    let ports := Bench.ports.beside (Array Balance)
    let bound := longestRun plan.config bench.channel.queue.length
    let observe := observeTimed plan.config.simulation.maxReports
    let loop := Controller.thenShutDown ports (Controller.run ports observe bound)
    match ((loop.run controller).run #[]).run bench with
    | (((none, _), _), _) => none
    | (((some ending, _), samples), bench) =>
      let (exit, desk) := (conclude Desk.console plan samples.toList ending).run desk
      some { exit, sent := sentLines bench, desk }

/-- Runs the program with these arguments on this disk, its standard input giving these
reads; `none` if there is no end to it. -/
def rehearse (args : List String) (disk : Disk) (input : List Wire.Read) : Option Outcome :=
  match (prepare Desk.console args).run { disk, input } with
  | (.error exit, desk) => some { exit, sent := [], desk }
  | (.ok plan, desk) =>
    match plan.config.assemble with
    | .error _ => some { exit := 101, sent := [], desk }
    | .ok parts =>
      rehearseLoop plan parts.house
        { heatPump := .simulated parts.heatPump
          wind := .simulated parts.wind
          channel := (Wire.Link.ofReads desk.input).settled.channel }
        desk

end Program

end HomeEnergy
