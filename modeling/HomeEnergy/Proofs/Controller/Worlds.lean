import HomeEnergy.Bench
import HomeEnergy.Controller
import HomeEnergy.Proofs.Controller.Recording

/-!
# Worlds

Some statements ask more of a world than that it answers.  Two worlds show that it can be
had: a calm one, in which no port fails and the link hands out a queue, and the bench, whose
link and panel may fail, but whose clock keeps to the sleeps.

* `Calm.neverFails`, `Calm.sleepClock`, `Calm.inbox` — a calm world has all of it;
* `Bench.sleepClock` — on the bench, time passes only by sleeping.
-/

namespace HomeEnergy

open Exchange Wire

/-- A calm world. -/
structure Calm where
  clock : Tick
  /-- What the next samples of the heat pump button will give; high after these. -/
  heatPumpLevels : List Bool := []
  /-- What the next samples of the wind button will give; high after these. -/
  windLevels : List Bool := []
  queue : List Line := []

namespace Calm

/-- The ports into a calm world. -/
def ports : Ports (StateM Calm) where
  heatPumpHigh := modifyGet fun w =>
    (w.heatPumpLevels.headD true, { w with heatPumpLevels := w.heatPumpLevels.tail })
  windHigh := modifyGet fun w =>
    (w.windLevels.headD true, { w with windLevels := w.windLevels.tail })
  now := return (← get).clock
  sleep ms := modify fun w => { w with clock := w.clock.after ms }
  receive := modifyGet fun w => (.ok w.queue.head?, { w with queue := w.queue.tail })
  transmit _ := return .ok ()
  draw _ := (return .ok () : StateM Calm _)
  drive _ := return ()

theorem neverFails : ports.NeverFails := by
  intro w x w' h
  cases x <;> cases h <;> rfl

/-- The clock of a calm world moves only by sleeping. -/
def sleepClock : ports.SleepClock where
  clock := clock
  reading_eq h := by
    cases h
    rfl
  clock_eq {w x w'} h := by
    cases x with
    | sleep ms =>
      cases h
      rfl
    | _ =>
      cases h
      exact (Tick.after_zero _).symm

theorem queue_eq {w w' : Calm} {x : Exchange} (h : ports.Takes w x w') :
    w.queue = x.line?.toList ++ w'.queue := by
  cases x with
  | receive answer =>
    cases h
    show w.queue = w.queue.head?.toList ++ w.queue.tail
    cases w.queue <;> rfl
  | _ =>
    cases h
    rfl

/-- Only lines handed out leave the queue, and none is added. -/
theorem queue_of_path {w w' : Calm} {xs : List Exchange} (h : ports.Path w xs w') :
    w.queue = lines xs ++ w'.queue := by
  induction h with
  | nil w => rfl
  | @cons w w' w'' x xs head tail ih =>
    rw [queue_eq head, ih, lines, lines, List.filterMap_cons]
    cases x.line? <;> rfl

/-- The queue of a calm world is an inbox at which nothing arrives any more. -/
def inbox : ports.Inbox where
  pending := queue
  fifo h := ⟨[], (List.append_nil _).trans (queue_eq h)⟩

/-- A calm evening: the clock is about to wrap, the wind button has just been pressed, and
two lines wait, `led on` and `on`. -/
def evening : Calm where
  clock := ⟨0xFFFFFFF0⟩
  windLevels := [false]
  queue := [[0x6C, 0x65, 0x64, 0x20, 0x6F, 0x6E], [0x6F, 0x6E]]

/-- The house of that evening. -/
def cottage : House where
  lamp := { loadWhenOn := 1 }
  battery := { maxCharge := 50, maxRate := 3, charge := 10 }

/-- A report interval of which the idle delay is no divisor. -/
def pace : Settings := { reportInterval := 100, idleDelay := 60 }

end Calm

namespace Bench

variable (bench : Bench)

/-- Sending a line leaves the channel and the clock alone. -/
theorem transmit_frame (line : String) :
    (bench.transmit line).2.channel = bench.channel ∧
      (bench.transmit line).2.clock = bench.clock := by
  unfold transmit
  split <;> exact ⟨rfl, rfl⟩

/-- A call to the panel leaves them alone, too. -/
theorem draw_frame (call : Panel.Call) :
    (bench.draw call).2.channel = bench.channel ∧ (bench.draw call).2.clock = bench.clock := by
  unfold draw
  split <;> exact ⟨rfl, rfl⟩

/-- The clock of the bench moves only by sleeping. -/
def sleepClock : ports.SleepClock where
  clock := clock
  reading_eq h := by
    cases h
    rfl
  clock_eq {bench x bench'} h := by
    cases x with
    | sleep ms =>
      cases h
      rfl
    | transmit line answer =>
      cases h
      exact (bench.transmit_frame line).2.trans (Tick.after_zero _).symm
    | draw call answer =>
      cases h
      exact (bench.draw_frame call).2.trans (Tick.after_zero _).symm
    | _ =>
      cases h
      exact (Tick.after_zero _).symm

end Bench

end HomeEnergy
