import HomeEnergy.Controller

/-!
# Running the loop

The loop runs until an observer of its iterations leaves it, a port fails, or
something breaks.  In the last two cases the outputs lose their power before the run
ends; leaving writes nothing.
-/

namespace HomeEnergy

/-- What an observer says after an iteration. -/
inductive Verdict
  | goOn
  | leave
  /-- The observer itself breaks, with this text. -/
  | collapse (text : String)
  deriving Repr, DecidableEq

/-- How a run ended. -/
inductive Ending
  | left
  | failed (e : ControlError)
  | broken (f : Fault)
  deriving Repr, DecidableEq

namespace Controller

section

variable {m : Type → Type} [Monad m] (ports : Ports m) (observe : Iteration → m Verdict)

/-- One iteration, shown to the observer; the ending, if this was the last one. -/
def turn : StateT Controller m (Option Ending) := do
  match ← (iterate ports).run with
  | .ok iteration =>
    match ← observe iteration with
    | .goOn => return none
    | .leave => return some .left
    | .collapse text => shutDown ports; return some (.broken (.raised text))
  | .error (.failed e) => shutDown ports; return some (.failed e)
  | .error (.broken f) => shutDown ports; return some (.broken f)

/-- At most this many iterations; `none` if the loop is still running after them. -/
def run : Nat → StateT Controller m (Option Ending)
  | 0 => return none
  | n + 1 => do
    match ← turn ports observe with
    | some ending => return some ending
    | none => run n

/-- A run, and the shutdown after it, which comes also if the observer has left. -/
def thenShutDown {α : Type} (run : StateT Controller m α) : StateT Controller m α := do
  let ending ← run
  shutDown ports
  return ending

end

section

variable {m : Type → Type} [Monad m] (ports : Ports m)

/-- An observer that keeps every iteration and gives this verdict at the `n`-th. -/
def watch (n : Nat) (verdict : Verdict) (iteration : Iteration) :
    StateT (Array Iteration) m Verdict := do
  modify (·.push iteration)
  return if n ≤ (← get).size then verdict else .goOn

/-- Iterates this many times, or until an iteration ends early; what each one gave. -/
def iterateTimes : Nat → StateT Controller m (List (Except Halt Iteration))
  | 0 => return []
  | n + 1 => do
    match ← (iterate ports).run with
    | .ok iteration => return .ok iteration :: (← iterateTimes n)
    | .error halt => return [.error halt]

/-- Iterates until this many reports have been made, an iteration ends early, or the
limit on iterations is reached: the number of iterations begun, the reports made, and
what ended the last iteration early, if anything did. -/
def iterateUntil (reports : Nat) : Nat → StateT Controller m (Nat × List Balance × Option Halt)
  | 0 => return (0, [], none)
  | limit + 1 => do
    if reports = 0 then return (0, [], none)
    match ← (iterate ports).run with
    | .error halt => return (1, [], some halt)
    | .ok iteration =>
      let made := iteration.report.toList
      let (count, later, halt) ← iterateUntil (reports - made.length) limit
      return (count + 1, made ++ later, halt)

end

end Controller

end HomeEnergy
