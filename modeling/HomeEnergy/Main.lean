import HomeEnergy.Host.Draws
import HomeEnergy.Host.Toml.Document
import HomeEnergy.Program
import HomeEnergy.Wire.Link
import HomeEnergy.Panel.Lcd

/-!
# The command line

The program against the real world: files, standard streams and the clock.  A task of
its own reads standard input, so that the loop never waits for it.
-/

namespace HomeEnergy.Live

/-- The text of a system error. -/
def describe : IO.Error → String
  | .noFileOrDirectory _ code details | .inappropriateType _ code details
  | .permissionDenied _ code details | .alreadyExists _ code details
  | .resourceExhausted _ code details | .invalidArgument _ code details =>
    details ++ " (os error " ++ toString code ++ ")"
  | .otherError code details | .resourceBusy code details | .resourceVanished code details
  | .hardwareFault code details | .illegalOperation code details
  | .unsupportedOperation code details | .protocolError code details =>
    details ++ " (os error " ++ toString code ++ ")"
  | e => toString e

/-- Files and standard error. -/
def console : Console IO where
  readFile path := do
    try
      let bytes ← IO.FS.withFile path .read fun file => file.readBinToEnd
      return match Text.Utf8.decode? bytes.toList with
        | some text => .ok (String.ofList text)
        | none => .error "stream did not contain valid UTF-8"
    catch e => return .error (describe e)
  writeFile path text := do
    try
      IO.FS.withFile path .write fun file => do
        file.putStr text
        file.flush
      return true
    catch _ => return false
  complain line := IO.eprintln line
  scenario := Config.ofToml

/-- What the simulated board holds. -/
structure Board where
  heatPump : SimulatedButton
  wind : SimulatedButton
  lcd : Panel.Lcd := {}
  actuators : Actuators := {}

/-- The ports: a simulated board, the clock since a start, standard output, and the channel
that standard input comes over. -/
def ports (board : IO.Ref Board) (channel : IO.Ref Wire.Channel) (start : Nat) : Ports IO where
  heatPumpHigh := board.modifyGet fun b =>
    let (high, heatPump) := b.heatPump.sample
    (high, { b with heatPump })
  windHigh := board.modifyGet fun b =>
    let (high, wind) := b.wind.sample
    (high, { b with wind })
  now := return ⟨UInt32.ofNat ((← IO.monoMsNow) - start)⟩
  sleep ms := IO.sleep ms
  receive := channel.modifyGet (·.poll)
  transmit line := do
    try
      let out ← IO.getStdout
      out.putStrLn line
      out.flush
      return .ok ()
    catch e => return .error ⟨describe e⟩
  draw call := board.modifyGet fun b =>
    match b.lcd.call call with
    | .ok lcd => (.ok (), { b with lcd })
    | .error e => (.error e, b)
  drive write := board.modify fun b => { b with actuators := b.actuators.write write }

/-- Reads standard input to its end and sends its lines over the channel. -/
partial def pump (input : IO.FS.Stream) (channel : IO.Ref Wire.Channel) (reader : Wire.Reader) :
    IO Unit := do
  let read ←
    try
      let chunk ← input.read 8192
      pure (Wire.Read.bytes chunk.toList)
    catch
      | .interrupted .. => pure .interrupted
      | e => pure (.failed ⟨describe e⟩)
  let reader := reader.take read
  channel.modify fun ch => reader.outbox.foldl Wire.Channel.send ch
  if reader.ended then channel.modify (·.hangUp)
  else pump input channel { reader with outbox := [] }

/-- Turns of the loop until one ends it. -/
partial def loop (ports : Ports (StateT (Array Balance) IO))
    (observe : Iteration → StateT (Array Balance) IO Verdict) :
    StateT Controller (StateT (Array Balance) IO) Ending := do
  match ← Controller.turn ports observe with
  | some ending => return ending
  | none => loop ports observe

/-- Runs the controller of a plan. -/
def runPlan (plan : Plan) (parts : Config.Assembly) : IO UInt32 := do
  let board ← IO.mkRef ({ heatPump := parts.heatPump, wind := parts.wind } : Board)
  let channel ← IO.mkRef ({} : Wire.Channel)
  let _ ← IO.asTask (pump (← IO.getStdin) channel {}) .dedicated
  let ports := ports board channel (← IO.monoMsNow)
  match ← (Controller.setUp ports parts.house plan.config.loop).run with
  | .error (.failed e) =>
    Program.complainOf console ("node setup failed: " ++ e.message)
    return 1
  | .error (.broken _) => return 101
  | .ok controller =>
    let ports := ports.beside (Array Balance)
    let observe := Program.observe plan.config.simulation.maxReports
      (return (← channel.get).closed)
    let body := Controller.thenShutDown ports (loop ports observe)
    let ((ending, _), samples) ← (body.run controller).run #[]
    Program.conclude console plan samples.toList ending

end HomeEnergy.Live

/-- Runs the program. -/
def main (args : List String) : IO UInt32 := do
  match ← HomeEnergy.Program.prepare HomeEnergy.Live.console args with
  | .error exit => return exit
  | .ok plan =>
    match plan.config.assemble with
    | .error _ => return 101
    | .ok parts => HomeEnergy.Live.runPlan plan parts
