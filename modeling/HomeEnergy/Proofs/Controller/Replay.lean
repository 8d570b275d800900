import HomeEnergy.Proofs.Controller.Rounds
import HomeEnergy.Proofs.Controller.SettingUp
import HomeEnergy.Proofs.Controller.Worlds
import Mathlib.Data.List.Basic

/-!
# The loop as a house alone

What the control loop does to its house can be told without the loop.  From what an
iteration sees of the world — the levels of the two buttons, the clock at the poll, the
line that came — follows an agenda for a bare house: a press of a button if its input
has fallen since the sample before, a balance if the timer is due, the line to obey.

* `House.attend`, `House.attendAll` — a bare house goes through its agendas;
* `Iterates.attends` — one iteration is one agenda;
* `history_attends` — **a fresh controller does to its house, its outputs and the link
  exactly what the bare house does**, for any number of iterations.  The panel and its
  marquee have no part in the replay, and therefore none in the house.
-/

namespace HomeEnergy

open Exchange Wire

/-- What a house is to do in one iteration, in this order. -/
structure Agenda where
  pressHeatPump : Bool
  pressWind : Bool
  balance : Bool
  line : Option Line

/-- What came of an agenda. -/
structure Attended where
  report : Option Balance
  command : Option (Except CommandError Target)

namespace House

/-- Performs an operation, if there is one. -/
def perhaps {α : Type} (house : House) :
    Option (House → Except Fault (Done α)) → Except Fault (Done (Option α))
  | none => return { answer := none, writes := [], house }
  | some operation => do
    let done ← operation house
    return { done with answer := some done.answer }

/-- Goes through an agenda. -/
def attend (house : House) (a : Agenda) : Except Fault (Done Attended) := do
  let pump ← house.perhaps (if a.pressHeatPump then some pressHeatPump else none)
  let wind ← pump.house.perhaps (if a.pressWind then some pressWind else none)
  let report ← wind.house.perhaps (if a.balance then some balance else none)
  let command ← report.house.perhaps (a.line.map fun line house => house.dispatch line)
  return {
    answer := { report := report.answer, command := command.answer }
    writes := pump.writes ++ wind.writes ++ report.writes ++ command.writes
    house := command.house }

theorem attend_eq_ok {house : House} {a : Agenda} {pump wind : Done (Option Unit)}
    {report : Done (Option Balance)} {command : Done (Option (Except CommandError Target))}
    (hpump : house.perhaps (if a.pressHeatPump then some pressHeatPump else none) = .ok pump)
    (hwind : pump.house.perhaps (if a.pressWind then some pressWind else none) = .ok wind)
    (hreport : wind.house.perhaps (if a.balance then some balance else none) = .ok report)
    (hcommand : report.house.perhaps (a.line.map fun line house => house.dispatch line) =
      .ok command) :
    house.attend a = .ok {
      answer := { report := report.answer, command := command.answer }
      writes := pump.writes ++ wind.writes ++ report.writes ++ command.writes
      house := command.house } := by
  simp only [attend, hpump, hwind, hreport, hcommand, bind, Except.bind]
  rfl

/-- Goes through agenda after agenda. -/
def attendAll (house : House) : List Agenda → Except Fault (Done (List Attended))
  | [] => return { answer := [], writes := [], house }
  | a :: as => do
    let first ← house.attend a
    let rest ← first.house.attendAll as
    return {
      answer := first.answer :: rest.answer
      writes := first.writes ++ rest.writes
      house := rest.house }

end House

/-- What an iteration sees of the world. -/
structure Sighting where
  heatPumpHigh : Bool
  windHigh : Bool
  /-- The clock when the timer is asked. -/
  polledAt : Tick
  line : Option Line

namespace Sighting

/-- What exchanges of an iteration show of the world: the first answer of each kind. -/
def of? (xs : List Exchange) : Option Sighting := do
  let heatPumpHigh ← xs.findSome? heatPumpLevel?
  let windHigh ← xs.findSome? windLevel?
  let polledAt ← xs.findSome? reading?
  let line ← xs.findSome? handed?
  return { heatPumpHigh, windHigh, polledAt, line }

/-- The agenda for what has been seen, given the samples and the timer before it. -/
def agenda (seen : Sighting) (heatPumpWasHigh windWasHigh : Bool) (timer : Timer) : Agenda where
  pressHeatPump := heatPumpWasHigh && !seen.heatPumpHigh
  pressWind := windWasHigh && !seen.windHigh
  balance := (timer.poll seen.polledAt).1
  line := seen.line

/-- The agendas for a sequence of sightings. -/
def agendas (heatPumpWasHigh windWasHigh : Bool) (timer : Timer) : List Sighting → List Agenda
  | [] => []
  | seen :: later =>
    seen.agenda heatPumpWasHigh windWasHigh timer ::
      agendas seen.heatPumpHigh seen.windHigh (timer.poll seen.polledAt).2 later

end Sighting

namespace Controller

variable {c c' : Controller} {xs : List Exchange}

/-- An optional operation of the controller is the same operation of its house. -/
theorem When.perhaps {α : Type} {wanted : Bool} {operation : House → Except Fault (Done α)}
    {result : Option α} (h : When wanted (Operates operation) c xs (.ok result) c') :
    ∃ done, c.house.perhaps (if wanted then some operation else none) = .ok done ∧
      result = done.answer ∧ xs = done.writes.map .drive ∧ c' = c.withHouse done.house := by
  cases h with
  | skips h =>
    subst h
    exact ⟨⟨none, [], c.house⟩, rfl, rfl, rfl, rfl⟩
  | does h hop =>
    subst h
    cases hop with
    | @does done hdone =>
      refine ⟨{ done with answer := some done.answer }, ?_, rfl, rfl, rfl⟩
      simp only [↓reduceIte, House.perhaps, hdone]
      rfl

/-- Up to the report, the presses are those of the two falling inputs. -/
theorem Opens.perhaps {presses : Presses} {due : Bool}
    (h : Opens c xs (.ok (presses, due)) c') :
    ∃ heatPumpHigh windHigh t pump wind,
      c.house.perhaps (if c.buttons.heatPump.lastHigh && !heatPumpHigh
        then some House.pressHeatPump else none) = .ok pump ∧
      pump.house.perhaps (if c.buttons.wind.lastHigh && !windHigh
        then some House.pressWind else none) = .ok wind ∧
      due = (c.timer.poll t).1 ∧
      xs = .heatPumpHigh heatPumpHigh :: .windHigh windHigh ::
        ((pump.writes ++ wind.writes).map .drive ++ [.now t]) ∧
      c' = ((c.sampled heatPumpHigh windHigh).withHouse wind.house).polled t := by
  cases h with
  | @opens heatPumpHigh windHigh presses _ _ _ _ c₁ c₂ t hpresses hpump hwind =>
    obtain ⟨pump, hpumpDone, -, rfl, rfl⟩ := hpump.perhaps
    obtain ⟨wind, hwindDone, -, rfl, rfl⟩ := hwind.perhaps
    subst hpresses
    refine ⟨heatPumpHigh, windHigh, t, pump, wind, hpumpDone, hwindDone, rfl, ?_, rfl⟩
    rw [List.map_append]

/-- A report is a balance of the house, its line and a frame for the panel. -/
theorem When.reports {due : Bool} {report : Option Balance}
    (h : When due Reports c xs (.ok report) c') :
    ∃ done, c.house.perhaps (if due then some House.balance else none) = .ok done ∧
      report = done.answer ∧ writes xs = done.writes ∧
      sent xs = (report.map fun b => Telemetry.line b.totalLoad).toList ∧
      xs.filterMap handed? = [] ∧
      c'.house = done.house ∧ c'.buttons = c.buttons ∧ c'.timer = c.timer := by
  cases h with
  | skips h =>
    subst h
    exact ⟨⟨none, [], c.house⟩, rfl, rfl, rfl, rfl, rfl, rfl, rfl, rfl⟩
  | does h hreport =>
    subst h
    cases hreport with
    | @shows done xs h hdraws =>
      refine ⟨{ done with answer := some done.answer }, ?_, rfl, ?_, ?_, ?_, rfl, rfl, rfl⟩
      · simp only [↓reduceIte, House.perhaps, h]
        rfl
      · cases hdraws
        simp [writes, List.filterMap_map, Function.comp_def, write?]
      · cases hdraws
        simp [sent, List.filterMap_map, Function.comp_def, sent?]
      · cases hdraws
        simp [List.filterMap_map, Function.comp_def, handed?]

/-- Obeying the next line is dispatching it to the house. -/
theorem Obeys.perhaps {command : Option (Except CommandError Target)}
    (h : Obeys c xs (.ok command) c') :
    ∃ line done, c.house.perhaps (line.map fun line house => house.dispatch line) = .ok done ∧
      command = done.answer ∧ xs = .receive (.ok line) :: done.writes.map .drive ∧
      c' = c.withHouse done.house := by
  cases h with
  | nothing => exact ⟨none, ⟨none, [], c.house⟩, rfl, rfl, rfl, rfl⟩
  | @obeys line done h =>
    refine ⟨some line, { done with answer := some done.answer }, ?_, rfl, rfl, rfl⟩
    simp only [Option.map_some, House.perhaps, h]
    rfl

/-- Idling changes nothing but the time. -/
theorem When.idles {wanted : Bool} {idled : Option UInt32}
    (h : When wanted Idles c xs (.ok idled) c') :
    c' = c ∧ writes xs = [] ∧ sent xs = [] ∧ lines xs = [] := by
  cases h with
  | skips => exact ⟨rfl, rfl, rfl, rfl⟩
  | does _ h => cases h <;> exact ⟨rfl, rfl, rfl, rfl⟩

/-- An iteration that is one agenda of its house. -/
structure Attends (c : Controller) (xs : List Exchange) (it : Iteration) (c' : Controller)
    (seen : Sighting) (done : Done Attended) : Prop where
  of?_eq : Sighting.of? xs = some seen
  attend_eq :
    c.house.attend
      (seen.agenda c.buttons.heatPump.lastHigh c.buttons.wind.lastHigh c.timer) = .ok done
  answer_eq : done.answer = { report := it.report, command := it.command }
  house_eq : c'.house = done.house
  writes_eq : writes xs = done.writes
  sent_eq : sent xs = (it.report.map fun b => Telemetry.line b.totalLoad).toList
  lines_eq : lines xs = seen.line.toList
  buttons_eq : c'.buttons = ⟨⟨seen.heatPumpHigh⟩, ⟨seen.windHigh⟩⟩
  timer_eq : c'.timer = (c.timer.poll seen.polledAt).2

/-- What the exchanges of a completed iteration show. -/
theorem Sighting.of?_course {heatPumpHigh windHigh : Bool} {t : Tick} {line : Option Line}
    {ws vs : List Output} {ys us : List Exchange} (hys : ∀ x ∈ ys, x.handed? = none) :
    Sighting.of? (.heatPumpHigh heatPumpHigh :: .windHigh windHigh ::
        (ws.map drive ++ [.now t]) ++ ys ++ .receive (.ok line) :: vs.map drive ++ us) =
      some ⟨heatPumpHigh, windHigh, t, line⟩ := by
  have hreading : (ws.map drive).findSome? reading? = none := by
    simp [List.findSome?_map, Function.comp_def, reading?]
  have hwrites : (ws.map drive).findSome? handed? = none := by
    simp [List.findSome?_map, Function.comp_def, handed?]
  have hreport : ys.findSome? handed? = none := List.findSome?_eq_none_iff.mpr hys
  simp [Sighting.of?, List.findSome?_append, List.findSome?_cons, heatPumpLevel?, windLevel?,
    reading?, handed?, hreading, hwrites, hreport]

/-- **One iteration is one agenda.** -/
theorem Iterates.attends {it : Iteration} (h : Iterates c xs (.ok it) c') :
    ∃ seen done, Attends c xs it c' seen done := by
  cases h with
  | @completes _ ys _ _ _ _ _ _ _ _ _ _ _ hopens hreport hcommand hidle =>
    obtain ⟨heatPumpHigh, windHigh, t, pump, wind, hpump, hwind, rfl, rfl, rfl⟩ := hopens.perhaps
    obtain ⟨report, hbalance, rfl, hwrites, hsent, hhanded, hhouse, hbuttons, htimer⟩ :=
      hreport.reports
    obtain ⟨line, command, hdispatch, rfl, rfl, rfl⟩ := hcommand.perhaps
    obtain ⟨rfl, hidlewrites, hidlesent, hidlelines⟩ := hidle.idles
    rw [hhouse] at hdispatch
    refine ⟨⟨heatPumpHigh, windHigh, t, line⟩,
      ⟨⟨report.answer, command.answer⟩,
        pump.writes ++ wind.writes ++ report.writes ++ command.writes, command.house⟩,
      ?_, ?_, rfl, rfl, ?_, ?_, ?_, hbuttons, htimer⟩
    · exact Sighting.of?_course (List.filterMap_eq_nil_iff.mp hhanded)
    · exact House.attend_eq_ok hpump hwind hbalance hdispatch
    · rw [writes_append, writes_append, writes_append, hwrites, hidlewrites, List.append_nil]
      show writes ((pump.writes ++ wind.writes).map drive ++ [.now t]) ++ report.writes ++
        writes (command.writes.map drive) = _
      have hnow : writes [.now t] = [] := rfl
      rw [writes_append, writes_drives, writes_drives, hnow, List.append_nil]
    · rw [sent_append, sent_append, sent_append, hsent, hidlesent, List.append_nil]
      show sent ((pump.writes ++ wind.writes).map drive ++ [.now t]) ++ _ ++
        sent (command.writes.map drive) = _
      rw [sent_append, sent_drives, sent_drives, List.append_nil]
      rfl
    · have hreport : lines ys = [] := by
        rw [lines, List.filterMap_eq_nil_iff]
        rw [List.filterMap_eq_nil_iff] at hhanded
        intro x hx
        rw [line?, hhanded x hx]
        rfl
      have hopening : lines ((pump.writes ++ wind.writes).map drive ++ [.now t]) = [] := by
        rw [lines_append, lines_drives]
        rfl
      have hobeyed : lines (.receive (.ok line) :: command.writes.map drive) = line.toList := by
        cases line with
        | none => exact lines_drives _
        | some line => exact congrArg (line :: ·) (lines_drives _)
      rw [lines_append, lines_append, lines_append, hreport, hobeyed, hidlelines, List.append_nil]
      show lines ((pump.writes ++ wind.writes).map drive ++ [.now t]) ++ [] ++ line.toList = _
      rw [hopening]
      rfl

variable {σ : Type}

/-- Rounds that have all completed are a replay of their agendas, from any controller. -/
theorem Succession.replay {rounds : List (Round σ)} (h : Succession c rounds c')
    (its : List Iteration) (hok : rounds.map (·.result) = its.map .ok) :
    ∃ seen done,
      rounds.map (Sighting.of? ·.exchanges) = seen.map some ∧
      c.house.attendAll (Sighting.agendas c.buttons.heatPump.lastHigh c.buttons.wind.lastHigh
        c.timer seen) = .ok done ∧
      done.answer = its.map (fun it => { report := it.report, command := it.command }) ∧
      c'.house = done.house ∧
      writes (exchangesOf rounds) = done.writes ∧
      sent (exchangesOf rounds) =
        (its.filterMap (·.report)).map (fun b => Telemetry.line b.totalLoad) ∧
      lines (exchangesOf rounds) = seen.filterMap (·.line) := by
  induction h generalizing its with
  | nil c =>
    obtain rfl : its = [] := by simpa using hok.symm
    exact ⟨[], ⟨[], [], c.house⟩, rfl, rfl, rfl, rfl, rfl, rfl, rfl⟩
  | @cons c c' r rounds hround hlater ih =>
    cases its with
    | nil => simp at hok
    | cons it its =>
      rw [List.map_cons, List.map_cons, List.cons.injEq] at hok
      obtain ⟨hfirst, hrest⟩ := hok
      rw [hfirst] at hround
      obtain ⟨seen, done, h⟩ := hround.attends
      obtain ⟨later, rest, hseen, hattend, hanswer, hhouse, hwrites, hsent, hlines⟩ :=
        ih its hrest
      rw [h.house_eq, h.buttons_eq, h.timer_eq] at hattend
      refine ⟨seen :: later, ⟨done.answer :: rest.answer, done.writes ++ rest.writes, rest.house⟩,
        ?_, ?_, ?_, hhouse, ?_, ?_, ?_⟩
      · rw [List.map_cons, List.map_cons, hseen, h.of?_eq]
      · simp only [Sighting.agendas, House.attendAll, h.attend_eq, hattend, bind, Except.bind]
        rfl
      · rw [List.map_cons, h.answer_eq, hanswer]
      · rw [exchangesOf_cons, writes_append, h.writes_eq, hwrites]
      · rw [exchangesOf_cons, sent_append, h.sent_eq, hsent, List.filterMap_cons]
        cases it.report <;> rfl
      · rw [exchangesOf_cons, lines_append, h.lines_eq, hlines, List.filterMap_cons]
        cases seen.line <;> rfl

variable (ports : Ports (StateM σ))

/-- **The loop is the house alone.**  After any number of completed iterations of a fresh
controller, in any world: the house, its writes, the reports and the outcomes of the
commands are those of the bare house going through the agendas of what was seen; one
line was sent for each report, in order; and the lines obeyed, at most one in an
iteration, are the first of those that were pending or arrived, the others pending still. -/
theorem history_attends (house : House) (settings : Settings) {s₀ s : σ} {c : Controller}
    {trace : List Exchange}
    (hset : (setUp ports.recorded house settings).run.run ⟨s₀, []⟩ = (.ok c, ⟨s, trace⟩))
    (n : Nat) (its : List Iteration)
    (hok : (history ports c s n).map (·.result) = its.map .ok) :
    ∃ start timer seen done,
      trace.getLast? = some (.now start) ∧
      Timer.start settings.reportInterval start = .ok timer ∧
      (history ports c s n).map (Sighting.of? ·.exchanges) = seen.map some ∧
      house.attendAll (Sighting.agendas true true timer seen) = .ok done ∧
      (after ports c s n).1.house = done.house ∧
      writes (exchangesOf (history ports c s n)) = done.writes ∧
      its.map (·.report) = done.answer.map (·.report) ∧
      its.map (·.command) = done.answer.map (·.command) ∧
      sent (exchangesOf (history ports c s n)) =
        (its.filterMap (·.report)).map (fun b => Telemetry.line b.totalLoad) ∧
      lines (exchangesOf (history ports c s n)) = seen.filterMap (·.line) ∧
      ∀ inbox : ports.Inbox, ∃ arrived, inbox.pending s ++ arrived =
        seen.filterMap (·.line) ++ inbox.pending (after ports c s n).2 := by
  obtain ⟨xs, result, s', -, hsets, hrun⟩ := @setUp_leaves σ ports house settings s₀
  obtain ⟨rfl, hrecorded⟩ := Prod.mk.inj ((hrun []).symm.trans hset)
  obtain ⟨rfl, rfl⟩ := Recorded.mk.inj hrecorded
  cases hsets with
  | @ready _ start timer _ htimer =>
    obtain ⟨seen, done, hseen, hattend, hanswer, hhouse, hwrites, hsent, hlines⟩ :=
      (succession_history ports _ _ n).replay its hok
    refine ⟨start, timer, seen, done, List.getLast?_concat, htimer, hseen, hattend, hhouse,
      hwrites, ?_, ?_, hsent, hlines, ?_⟩
    · rw [hanswer, List.map_map]
      rfl
    · rw [hanswer, List.map_map]
      rfl
    · intro inbox
      rw [← hlines]
      exact inbox.pending_append (path_history ports _ _ n)

/-- A calm evening: the two lines come before the first report, so that it shows the lamp
lit; the second one is no command. -/
def eveningIterations : List Iteration := [
  { presses := ⟨false, true⟩, report := none, command := some (.ok .led), idled := 0 },
  { presses := ⟨false, false⟩, report := none, command := some (.error (.tokenCount 1)),
    idled := 0 },
  { presses := ⟨false, false⟩, report := none, command := none, idled := 60 },
  { presses := ⟨false, false⟩, report := none, command := none, idled := 40 },
  { presses := ⟨false, false⟩
    report := some {
      houseLoad := 1, turbineLoad := -1, batteryLoad := 0, totalLoad := 0
      stateOfCharge := 10, batteryGlyph := 1 }
    command := none, idled := 0 }]

/-- The controller on a calm evening, just set up. -/
def eveningController : Controller where
  house := Calm.cottage
  screen := firstScreen Calm.pace
  timer := ⟨100, ⟨84⟩⟩
  idleDelay := 60

set_option maxRecDepth 10000 in
theorem result_evening :
    (history Calm.ports eveningController Calm.evening 5).map (·.result) =
      eveningIterations.map .ok := by
  rfl

set_option maxRecDepth 10000 in
/-- The replay of a calm evening. -/
theorem history_attends_evening :
    ∃ trace start timer seen done,
      (setUp Calm.ports.recorded Calm.cottage Calm.pace).run.run ⟨Calm.evening, []⟩ =
        (.ok eveningController, ⟨Calm.evening, trace⟩) ∧
      (history Calm.ports eveningController Calm.evening 5).map (·.result) =
        eveningIterations.map .ok ∧
      trace.getLast? = some (.now start) ∧
      Timer.start Calm.pace.reportInterval start = .ok timer ∧
      (history Calm.ports eveningController Calm.evening 5).map (Sighting.of? ·.exchanges) =
        seen.map some ∧
      Calm.cottage.attendAll (Sighting.agendas true true timer seen) = .ok done ∧
      (after Calm.ports eveningController Calm.evening 5).1.house = done.house ∧
      sent (exchangesOf (history Calm.ports eveningController Calm.evening 5)) =
        ["powerSample 0"] ∧
      ∃ arrived, Calm.evening.queue ++ arrived = seen.filterMap (·.line) ++
        (after Calm.ports eveningController Calm.evening 5).2.queue := by
  obtain ⟨trace, hset⟩ : ∃ trace,
      (setUp Calm.ports.recorded Calm.cottage Calm.pace).run.run ⟨Calm.evening, []⟩ =
        (.ok eveningController, ⟨Calm.evening, trace⟩) := ⟨_, rfl⟩
  obtain ⟨start, timer, seen, done, hstart, htimer, hseen, hattend, hhouse, -, -, -, hsent, -,
    hinbox⟩ := history_attends Calm.ports Calm.cottage Calm.pace hset 5 eveningIterations
      result_evening
  have hline : sent (exchangesOf (history Calm.ports eveningController Calm.evening 5)) =
      ["powerSample 0"] := hsent.trans (by decide)
  exact ⟨trace, start, timer, seen, done, hset, result_evening, hstart, htimer, hseen, hattend,
    hhouse, hline, hinbox Calm.inbox⟩

end Controller

end HomeEnergy
