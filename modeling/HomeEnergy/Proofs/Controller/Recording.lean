import HomeEnergy.Controller.Ports

/-!
# Recorded worlds

A world is anything that answers at the ports; what it answers may depend on all that
has been done to it before.  A **recorded** world also writes down every exchange, so
that statements about what the controller does to *any* world become statements about
lists of exchanges.

* `Ports.Path` — a world goes along with some exchanges: asked the same, in this order,
  it gives the same answers;
* `Ports.Leaves` — what some work leaves in every recorded world: exchanges that the world
  went along with, and a result that fits them;
* `leaves_bind` — such facts compose along a sequence of works;
* `Ports.NeverFails`, `Ports.Inbox`, `Ports.SleepClock` — what some statements ask of a
  world, with what follows along a path.
-/

namespace HomeEnergy

/-- One exchange over a port: what was asked of the world, and what it answered. -/
inductive Exchange
  | heatPumpHigh (high : Bool)
  | windHigh (high : Bool)
  | now (reading : Tick)
  | sleep (ms : UInt32)
  | receive (answer : Except LinkError (Option Wire.Line))
  | transmit (line : String) (answer : Except LinkError Unit)
  | draw (call : Panel.Call) (answer : Except PanelError Unit)
  | drive (write : Output)

namespace Exchange

/-- Asks the same of a world again, and gives the exchange as it then goes. -/
def again {m : Type → Type} [Monad m] (ports : Ports m) : Exchange → m Exchange
  | heatPumpHigh _ => .heatPumpHigh <$> ports.heatPumpHigh
  | windHigh _ => .windHigh <$> ports.windHigh
  | now _ => .now <$> ports.now
  | sleep ms => (fun _ => .sleep ms) <$> ports.sleep ms
  | receive _ => .receive <$> ports.receive
  | transmit line _ => .transmit line <$> ports.transmit line
  | draw call _ => .draw call <$> (ports.draw call : m _)
  | drive write => (fun _ => .drive write) <$> ports.drive write

/-- Why the exchange failed, if it did. -/
def failure? : Exchange → Option ControlError
  | receive (.error e) | transmit _ (.error e) => some (.link e)
  | draw _ (.error e) => some (.panel e)
  | _ => none

/-- The level seen at the heat pump button. -/
def heatPumpLevel? : Exchange → Option Bool
  | heatPumpHigh high => some high
  | _ => none

/-- The level seen at the wind button. -/
def windLevel? : Exchange → Option Bool
  | windHigh high => some high
  | _ => none

/-- The reading of the clock. -/
def reading? : Exchange → Option Tick
  | now t => some t
  | _ => none

/-- What the link handed out, if it did not fail: a line or nothing. -/
def handed? : Exchange → Option (Option Wire.Line)
  | receive (.ok line) => some line
  | _ => none

/-- The write to an output. -/
def write? : Exchange → Option Output
  | drive write => some write
  | _ => none

/-- The line that was sent. -/
def sent? : Exchange → Option String
  | transmit line (.ok ()) => some line
  | _ => none

/-- The line that was handed out. -/
def line? (x : Exchange) : Option Wire.Line := x.handed?.join

/-- The milliseconds slept. -/
def slept? : Exchange → Option UInt32
  | sleep ms => some ms
  | _ => none

/-- The writes to the outputs, in order. -/
def writes (trace : List Exchange) : List Output := trace.filterMap write?

/-- The lines sent, in order. -/
def sent (trace : List Exchange) : List String := trace.filterMap sent?

/-- The lines handed out by the link, in order. -/
def lines (trace : List Exchange) : List Wire.Line := trace.filterMap line?

/-- The sleeps, in order. -/
def sleeps (trace : List Exchange) : List UInt32 := trace.filterMap slept?

/-- The failures, in order. -/
def failures (trace : List Exchange) : List ControlError := trace.filterMap failure?

section

variable (xs ys : List Exchange) (ws : List Output)

@[simp] theorem writes_append : writes (xs ++ ys) = writes xs ++ writes ys :=
  List.filterMap_append

@[simp] theorem sent_append : sent (xs ++ ys) = sent xs ++ sent ys :=
  List.filterMap_append

@[simp] theorem lines_append : lines (xs ++ ys) = lines xs ++ lines ys :=
  List.filterMap_append

@[simp] theorem failures_append : failures (xs ++ ys) = failures xs ++ failures ys :=
  List.filterMap_append

@[simp] theorem sleeps_append : sleeps (xs ++ ys) = sleeps xs ++ sleeps ys :=
  List.filterMap_append

@[simp] theorem writes_drives : writes (ws.map drive) = ws := by
  rw [writes, List.filterMap_map]
  exact List.filterMap_some

@[simp] theorem sent_drives : sent (ws.map drive) = [] := by
  simp [sent, sent?]

@[simp] theorem lines_drives : lines (ws.map drive) = [] := by
  simp [lines, line?, handed?]

@[simp] theorem failures_drives : failures (ws.map drive) = [] := by
  simp [failures, failure?]

@[simp] theorem sleeps_drives : sleeps (ws.map drive) = [] := by
  simp [sleeps, slept?]

end

end Exchange

/-- A world and the exchanges it has had so far, the oldest first. -/
structure Recorded (σ : Type) where
  world : σ
  trace : List Exchange := []

namespace Ports

variable {σ α β : Type}

/-- Makes a request, and writes down the exchange. -/
def record (request : StateM σ α) (exchange : α → Exchange) : StateM (Recorded σ) α := fun r =>
  let (answer, world) := request.run r.world
  (answer, { world, trace := r.trace ++ [exchange answer] })

/-- The same ports into a world that is recorded. -/
def recorded (ports : Ports (StateM σ)) : Ports (StateM (Recorded σ)) where
  heatPumpHigh := record ports.heatPumpHigh .heatPumpHigh
  windHigh := record ports.windHigh .windHigh
  now := record ports.now .now
  sleep ms := record (ports.sleep ms) fun _ => .sleep ms
  receive := record ports.receive .receive
  transmit line := record (ports.transmit line) (.transmit line)
  draw call := record (ports.draw call) (.draw call)
  drive write := record (ports.drive write) fun _ => .drive write

variable (ports : Ports (StateM σ))

/-- A world goes along with an exchange, and is another after it. -/
def Takes (s : σ) (x : Exchange) (s' : σ) : Prop := (x.again ports).run s = (x, s')

/-- A world goes along with some exchanges, one after the other. -/
inductive Path : σ → List Exchange → σ → Prop
  | nil (s : σ) : Path s [] s
  | cons {s s' s'' : σ} {x : Exchange} {xs : List Exchange}
      (head : ports.Takes s x s') (tail : Path s' xs s'') : Path s (x :: xs) s''

/-- No port of the world ever fails. -/
def NeverFails : Prop := ∀ s x s', ports.Takes s x s' → x.failure? = none

/-- What some work leaves in every recorded world.  The trace before it is only ever
added to, and has no influence. -/
def Leaves (work : StateM (Recorded σ) α) (post : List Exchange → α → Prop) : Prop :=
  ∀ s, ∃ xs a s', ports.Path s xs s' ∧ post xs a ∧
    ∀ trace, work.run ⟨s, trace⟩ = (a, ⟨s', trace ++ xs⟩)

/-- The link of a world hands out lines in the order in which they arrive, each once.
Lines may arrive at any time. -/
structure Inbox where
  /-- The lines that have arrived and have not been handed out, the oldest first. -/
  pending : σ → List Wire.Line
  fifo {s : σ} {x : Exchange} {s' : σ} (h : ports.Takes s x s') :
    ∃ arrived, pending s ++ arrived = x.line?.toList ++ pending s'

/-- The clock of a world moves only by sleeping. -/
structure SleepClock where
  clock : σ → Tick
  reading_eq {s : σ} {t : Tick} {s' : σ} (h : ports.Takes s (.now t) s') : t = clock s
  clock_eq {s : σ} {x : Exchange} {s' : σ} (h : ports.Takes s x s') :
    clock s' = (clock s).after (x.slept?.getD 0)

variable {ports}

theorem Path.append {s s' s'' : σ} {xs ys : List Exchange}
    (hx : ports.Path s xs s') (hy : ports.Path s' ys s'') : ports.Path s (xs ++ ys) s'' := by
  induction hx with
  | nil => exact hy
  | cons head tail ih => exact .cons head (ih hy)

theorem Path.of_append {s s'' : σ} {xs ys : List Exchange} (h : ports.Path s (xs ++ ys) s'') :
    ∃ s', ports.Path s xs s' ∧ ports.Path s' ys s'' := by
  induction xs generalizing s with
  | nil => exact ⟨s, .nil s, h⟩
  | cons x xs ih =>
    cases h with
    | cons head tail =>
      obtain ⟨s', hxs, hys⟩ := ih tail
      exact ⟨s', .cons head hxs, hys⟩

/-- A world that never fails lets no exchange of its paths fail. -/
theorem Path.failures_eq_nil (hports : ports.NeverFails) {s s' : σ} {xs : List Exchange}
    (h : ports.Path s xs s') : Exchange.failures xs = [] := by
  induction h with
  | nil => rfl
  | cons head tail ih =>
    rw [Exchange.failures, List.filterMap_cons_none (hports _ _ _ head)]
    exact ih

/-- The clock after a path is the clock before it and all the sleeps. -/
theorem SleepClock.clock_of_path (c : ports.SleepClock) {s s' : σ} {xs : List Exchange}
    (h : ports.Path s xs s') :
    c.clock s' = (Exchange.sleeps xs).foldl Tick.after (c.clock s) := by
  induction h with
  | nil => rfl
  | @cons s s' s'' x xs head tail ih =>
    rw [ih, c.clock_eq head, Exchange.sleeps, Exchange.sleeps, List.filterMap_cons]
    cases x.slept? with
    | none => rw [Option.getD_none, Tick.after_zero]
    | some ms => rfl

/-- A reading before the first sleep is the clock at the start of the path. -/
theorem SleepClock.reading_of_path (c : ports.SleepClock) {s s' : σ} {xs ys : List Exchange}
    {t : Tick} (h : ports.Path s (xs ++ .now t :: ys) s') (hxs : Exchange.sleeps xs = []) :
    t = c.clock s := by
  obtain ⟨s₁, hbefore, hafter⟩ := h.of_append
  cases hafter with
  | cons head tail =>
    rw [c.reading_eq head, c.clock_of_path hbefore, hxs]
    rfl

/-- What was pending, and what arrives along a path, is handed out in order or pends still. -/
theorem Inbox.pending_append (inbox : ports.Inbox) {s s' : σ} {xs : List Exchange}
    (h : ports.Path s xs s') :
    ∃ arrived, inbox.pending s ++ arrived = Exchange.lines xs ++ inbox.pending s' := by
  induction h with
  | nil s => exact ⟨[], List.append_nil _⟩
  | @cons s s' s'' x xs head tail ih =>
    obtain ⟨first, hfirst⟩ := inbox.fifo head
    obtain ⟨later, hlater⟩ := ih
    have hlines : Exchange.lines (x :: xs) = x.line?.toList ++ Exchange.lines xs := by
      rw [Exchange.lines, List.filterMap_cons]
      cases x.line? <;> rfl
    refine ⟨first ++ later, ?_⟩
    rw [← List.append_assoc, hfirst, List.append_assoc, hlater, hlines, List.append_assoc]

theorem leaves_pure {a : α} {post : List Exchange → α → Prop} (h : post [] a) :
    ports.Leaves (pure a) post := by
  intro s
  refine ⟨[], a, s, .nil s, h, ?_⟩
  intro trace
  rw [List.append_nil]
  rfl

/-- Work after work leaves the exchanges of both, one after the other. -/
theorem leaves_bind {work : StateM (Recorded σ) α} {next : α → StateM (Recorded σ) β}
    {mid : List Exchange → α → Prop} {post : List Exchange → β → Prop}
    (hwork : ports.Leaves work mid)
    (hnext : ∀ xs a, mid xs a → ports.Leaves (next a) fun ys b => post (xs ++ ys) b) :
    ports.Leaves (work >>= next) post := by
  intro s
  obtain ⟨xs, a, s', hpath, hmid, hrun⟩ := hwork s
  obtain ⟨ys, b, s'', hpath', hpost, hrun'⟩ := hnext xs a hmid s'
  refine ⟨xs ++ ys, b, s'', hpath.append hpath', hpost, ?_⟩
  intro trace
  rw [← List.append_assoc, ← hrun' (trace ++ xs), StateT.run_bind, hrun trace]
  rfl

theorem Leaves.imp {work : StateM (Recorded σ) α} {mid post : List Exchange → α → Prop}
    (hwork : ports.Leaves work mid) (h : ∀ xs a, mid xs a → post xs a) :
    ports.Leaves work post := by
  intro s
  obtain ⟨xs, a, s', hpath, hmid, hrun⟩ := hwork s
  exact ⟨xs, a, s', hpath, h xs a hmid, hrun⟩

/-- A recorded request leaves one exchange, if that is how it goes when asked again. -/
theorem leaves_record {request : StateM σ α} {exchange : α → Exchange}
    (h : ∀ a, (exchange a).again ports = exchange <$> request) :
    ports.Leaves (record request exchange) fun xs a => xs = [exchange a] := by
  intro s
  refine ⟨[exchange (request.run s).1], (request.run s).1, (request.run s).2, .cons ?_ (.nil _),
    rfl, fun trace => rfl⟩
  rw [Takes, h]
  rfl

variable (ports)

theorem leaves_heatPumpHigh :
    ports.Leaves ports.recorded.heatPumpHigh fun xs high => xs = [.heatPumpHigh high] :=
  leaves_record fun _ => rfl

theorem leaves_windHigh :
    ports.Leaves ports.recorded.windHigh fun xs high => xs = [.windHigh high] :=
  leaves_record fun _ => rfl

theorem leaves_now : ports.Leaves ports.recorded.now fun xs t => xs = [.now t] :=
  leaves_record fun _ => rfl

theorem leaves_sleep (ms : UInt32) :
    ports.Leaves (ports.recorded.sleep ms) fun xs _ => xs = [.sleep ms] :=
  leaves_record fun _ => rfl

theorem leaves_receive :
    ports.Leaves ports.recorded.receive fun xs answer => xs = [.receive answer] :=
  leaves_record fun _ => rfl

theorem leaves_transmit (line : String) :
    ports.Leaves (ports.recorded.transmit line) fun xs answer => xs = [.transmit line answer] :=
  leaves_record fun _ => rfl

theorem leaves_draw (call : Panel.Call) :
    ports.Leaves (ports.recorded.draw call) fun xs answer => xs = [.draw call answer] :=
  leaves_record fun _ => rfl

theorem leaves_drive (write : Output) :
    ports.Leaves (ports.recorded.drive write) fun xs _ => xs = [.drive write] :=
  leaves_record fun _ => rfl

end Ports

end HomeEnergy
