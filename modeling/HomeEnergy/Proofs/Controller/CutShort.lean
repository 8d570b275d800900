import HomeEnergy.Proofs.Controller.Replay

/-!
# Iterations that are cut short

An iteration fails at one of three calls: when it sends the line of a report, when it draws
one, and when it asks for a received line.  What it has done by then stays done.

* `CutShort` — the courses of a failing iteration, with everything that was exchanged, in
  order, and the controller that it leaves;
* `Iterates.cutShort` — **a failing iteration takes one of these courses.**

The exchanges of each course end with the call that failed.  So a line that was not sent
leaves the panel and the received lines alone, a refused call comes after the calls of the
frame before it and no others, and a failed read is followed by no command and no sleep.
-/

namespace HomeEnergy

open Exchange Wire

namespace Exchange

/-- The call that the panel accepted. -/
def accepted? : Exchange → Option Panel.Call
  | draw call (.ok ()) => some call
  | _ => none

/-- The calls that the panel accepted, in order. -/
def accepted (trace : List Exchange) : List Panel.Call := trace.filterMap accepted?

section

variable (x : Exchange) (xs ys : List Exchange) (ws : List Output) (calls : List Panel.Call)

@[simp] theorem writes_singleton : writes [x] = x.write?.toList := by
  rw [writes, List.filterMap_cons]
  cases x.write? <;> rfl

@[simp] theorem sent_singleton : sent [x] = x.sent?.toList := by
  rw [sent, List.filterMap_cons]
  cases x.sent? <;> rfl

@[simp] theorem accepted_singleton : accepted [x] = x.accepted?.toList := by
  rw [accepted, List.filterMap_cons]
  cases x.accepted? <;> rfl

@[simp] theorem accepted_append : accepted (xs ++ ys) = accepted xs ++ accepted ys :=
  List.filterMap_append

@[simp] theorem accepted_drives : accepted (ws.map drive) = [] := by
  simp [accepted, accepted?]

/-- A frame without a refusal is accepted as a whole. -/
@[simp] theorem accepted_draws : accepted (calls.map (draw · (.ok ()))) = calls := by
  simp [accepted, accepted?, List.filterMap_map, Function.comp_def]

@[simp] theorem writes_draws : writes (calls.map (draw · (.ok ()))) = [] := by
  simp [writes, write?]

@[simp] theorem sent_draws : sent (calls.map (draw · (.ok ()))) = [] := by
  simp [sent, sent?]

/-- Writes hand out no line. -/
@[simp] theorem handed_drives : (ws.map drive).findSome? handed? = none := by
  simp [List.findSome?_map, Function.comp_def, handed?]

@[simp] theorem handed_draws : (calls.map (draw · (.ok ()))).findSome? handed? = none := by
  simp [List.findSome?_map, Function.comp_def, handed?]

end

end Exchange

/-- The timer one period further. -/
def Timer.next (timer : Timer) : Timer :=
  { timer with deadline := timer.deadline.after timer.interval }

section

variable {timer : Timer} {t : Tick}

/-- A timer that is due moves on by one period. -/
theorem Timer.poll_of_due (h : (timer.poll t).1 = true) : (timer.poll t).2 = timer.next := by
  unfold poll at h ⊢
  split at h
  · rw [if_pos ‹_›]
    rfl
  · cases h

/-- A timer that is not due stays as it is. -/
theorem Timer.poll_of_not_due (h : (timer.poll t).1 = false) : (timer.poll t).2 = timer := by
  unfold poll at h ⊢
  split at h
  · cases h
  · rw [if_neg ‹_›]

end

/-- What two samples ask of a house, before any report or command. -/
def Buttons.agenda (buttons : Buttons) (heatPumpHigh windHigh : Bool) : Agenda where
  pressHeatPump := buttons.heatPump.lastHigh && !heatPumpHigh
  pressWind := buttons.wind.lastHigh && !windHigh
  balance := false
  line := none

namespace Controller

/-- What is exchanged up to the question whether a report is due: the two samples, the writes
of the presses and the clock. -/
def preamble (heatPumpHigh windHigh : Bool) (presses : List Output) (t : Tick) : List Exchange :=
  .heatPumpHigh heatPumpHigh :: .windHigh windHigh :: (presses.map .drive ++ [.now t])

/-- An iteration in which a report is due, up to the balance of the report: what the presses
make of the house, and what the balance makes of it then. -/
structure Balances (c : Controller) (heatPumpHigh windHigh : Bool) (t : Tick)
    (pressed : Done Attended) (balanced : Done Balance) : Prop where
  pressed_eq : c.house.attend (c.buttons.agenda heatPumpHigh windHigh) = .ok pressed
  due : (c.timer.poll t).1 = true
  balanced_eq : pressed.house.balance = .ok balanced

/-- The exchanges of a report that is due, up to its line and what came of sending it. -/
def sending (heatPumpHigh windHigh : Bool) (t : Tick) (pressed : Done Attended)
    (balanced : Done Balance) (answer : Except LinkError Unit) : List Exchange :=
  preamble heatPumpHigh windHigh pressed.writes t ++ (balanced.writes.map .drive ++
    [.transmit (Telemetry.line balanced.answer.totalLoad) answer])

section

variable (heatPumpHigh windHigh : Bool) (presses : List Output) (t : Tick)
  (pressed : Done Attended) (balanced : Done Balance) (answer : Except LinkError Unit)

/-- The line of a report, in front of what comes after it. -/
theorem sending_append (xs : List Exchange) :
    sending heatPumpHigh windHigh t pressed balanced answer ++ xs =
      preamble heatPumpHigh windHigh pressed.writes t ++ (balanced.writes.map .drive ++
        .transmit (Telemetry.line balanced.answer.totalLoad) answer :: xs) := by
  simp only [sending, List.append_assoc, List.singleton_append]

/-- Up to the clock the presses make all the writes. -/
@[simp] theorem writes_preamble :
    writes (preamble heatPumpHigh windHigh presses t) = presses := by
  show writes (presses.map drive ++ [.now t]) = presses
  rw [writes_append, writes_drives]
  exact List.append_nil _

@[simp] theorem sent_preamble : sent (preamble heatPumpHigh windHigh presses t) = [] := by
  show sent (presses.map drive ++ [.now t]) = []
  rw [sent_append, sent_drives]
  rfl

@[simp] theorem accepted_preamble :
    accepted (preamble heatPumpHigh windHigh presses t) = [] := by
  show accepted (presses.map drive ++ [.now t]) = []
  rw [accepted_append, accepted_drives]
  rfl

/-- Up to its line a report makes the writes of the presses and of the balance. -/
@[simp] theorem writes_sending :
    writes (sending heatPumpHigh windHigh t pressed balanced answer) =
      pressed.writes ++ balanced.writes := by
  rw [sending, writes_append, writes_append, writes_preamble, writes_drives]
  exact congrArg _ (List.append_nil _)

/-- The panel is not called before the line is sent. -/
@[simp] theorem accepted_sending :
    accepted (sending heatPumpHigh windHigh t pressed balanced answer) = [] := by
  rw [sending, accepted_append, accepted_append, accepted_preamble, accepted_drives]
  rfl

/-- A line that was sent is the balance of the report. -/
@[simp] theorem sent_sending_ok :
    sent (sending heatPumpHigh windHigh t pressed balanced (.ok ())) =
      [Telemetry.line balanced.answer.totalLoad] := by
  rw [sending, sent_append, sent_append, sent_preamble, sent_drives]
  rfl

/-- A line that could not be sent does not count. -/
@[simp] theorem sent_sending_error (e : LinkError) :
    sent (sending heatPumpHigh windHigh t pressed balanced (.error e)) = [] := by
  rw [sending, sent_append, sent_append, sent_preamble, sent_drives]
  rfl

end

/-- The courses of an iteration that fails. -/
inductive CutShort (c : Controller) : List Exchange → ControlError → Controller → Prop
  /-- The line of a report was not sent.  The buttons and the balance have had their effect,
  and the timer has moved on. -/
  | unsent {heatPumpHigh windHigh : Bool} {t : Tick} {pressed : Done Attended}
      {balanced : Done Balance} {e : LinkError}
      (h : Balances c heatPumpHigh windHigh t pressed balanced) :
      CutShort c (sending heatPumpHigh windHigh t pressed balanced (.error e)) (.link e)
        { c with
          house := balanced.house
          buttons := ⟨⟨heatPumpHigh⟩, ⟨windHigh⟩⟩
          timer := c.timer.next }
  /-- A call of the frame was refused.  The line has been sent, and the panel has accepted
  the calls before that one; the marquee has not moved. -/
  | unshown {heatPumpHigh windHigh : Bool} {t : Tick} {pressed : Done Attended}
      {balanced : Done Balance} {before after : List Panel.Call} {call : Panel.Call}
      {e : PanelError} (h : Balances c heatPumpHigh windHigh t pressed balanced)
      (hframe : c.screen.frame balanced.answer = before ++ call :: after) :
      CutShort c
        (sending heatPumpHigh windHigh t pressed balanced (.ok ()) ++
          (before.map (.draw · (.ok ())) ++ [.draw call (.error e)]))
        (.panel e)
        { c with
          house := balanced.house
          buttons := ⟨⟨heatPumpHigh⟩, ⟨windHigh⟩⟩
          timer := c.timer.next }
  /-- No report was due, and no line could be read. -/
  | unread {heatPumpHigh windHigh : Bool} {t : Tick} {pressed : Done Attended} {e : LinkError}
      (hpressed : c.house.attend (c.buttons.agenda heatPumpHigh windHigh) = .ok pressed)
      (hdue : (c.timer.poll t).1 = false) :
      CutShort c (preamble heatPumpHigh windHigh pressed.writes t ++ [.receive (.error e)])
        (.link e)
        { c with
          house := pressed.house
          buttons := ⟨⟨heatPumpHigh⟩, ⟨windHigh⟩⟩ }
  /-- A report was due and is complete, marquee included; then no line could be read. -/
  | unreadAfterReport {heatPumpHigh windHigh : Bool} {t : Tick} {pressed : Done Attended}
      {balanced : Done Balance} {e : LinkError}
      (h : Balances c heatPumpHigh windHigh t pressed balanced) :
      CutShort c
        (sending heatPumpHigh windHigh t pressed balanced (.ok ()) ++
          (c.screen.frame balanced.answer).map (.draw · (.ok ())) ++ [.receive (.error e)])
        (.link e)
        { c with
          house := balanced.house
          buttons := ⟨⟨heatPumpHigh⟩, ⟨windHigh⟩⟩
          screen := { c.screen with marquee := c.screen.marquee.advance }
          timer := c.timer.next }

section

variable {α : Type} {c c' : Controller} {xs : List Exchange} {e : ControlError}

/-- An operation of the house breaks, if it does not succeed; it never fails. -/
theorem Operates.not_failed {operation : House → Except Fault (Done α)} :
    ¬ Operates operation c xs (.error (.failed e)) c' := nofun

/-- Nor does one that is made only if it is wanted. -/
theorem When.not_failed {wanted : Bool} {operation : House → Except Fault (Done α)} :
    ¬ When wanted (Operates operation) c xs (.error (.failed e)) c' := by
  intro h
  cases h with
  | halts _ h => exact h.not_failed

/-- Nothing can fail before the question whether a report is due. -/
theorem Opens.not_failed : ¬ Opens c xs (.error (.failed e)) c' := by
  intro h
  cases h with
  | pumpBreaks _ h => exact h.not_failed
  | windBreaks _ _ h => exact h.not_failed

/-- Up to the question whether a report is due, the house has attended to the presses. -/
theorem Opens.pressed {presses : Presses} {due : Bool} (h : Opens c xs (.ok (presses, due)) c') :
    ∃ heatPumpHigh windHigh t pressed,
      c.house.attend (c.buttons.agenda heatPumpHigh windHigh) = .ok pressed ∧
      due = (c.timer.poll t).1 ∧
      xs = preamble heatPumpHigh windHigh pressed.writes t ∧
      c' = { c with
        house := pressed.house
        buttons := ⟨⟨heatPumpHigh⟩, ⟨windHigh⟩⟩
        timer := (c.timer.poll t).2 } := by
  obtain ⟨heatPumpHigh, windHigh, t, pump, wind, hpump, hwind, hdue, rfl, rfl⟩ := h.perhaps
  have hattend := House.attend_eq_ok (a := c.buttons.agenda heatPumpHigh windHigh) hpump hwind
    rfl rfl
  refine ⟨heatPumpHigh, windHigh, t, _, hattend, hdue, ?_, rfl⟩
  simp only [preamble, List.append_nil]

/-- **A failing iteration takes one of the courses above.** -/
theorem Iterates.cutShort (h : Iterates c xs (.error (.failed e)) c') : CutShort c xs e c' := by
  cases h with
  | unopened hopens => exact absurd hopens Opens.not_failed
  | unreported hopens hreport =>
    obtain ⟨heatPumpHigh, windHigh, t, pressed, hpressed, rfl, rfl, rfl⟩ := hopens.pressed
    cases hreport with
    | halts hdue hreport =>
      rw [Timer.poll_of_due hdue] at hreport
      cases hreport with
      | unsent hbalance => exact .unsent ⟨hpressed, hdue, hbalance⟩
      | unshown hbalance hdraws =>
        cases hdraws with
        | some hframe =>
          rw [← sending_append]
          exact .unshown ⟨hpressed, hdue, hbalance⟩ hframe
  | unobeyed hopens hreport hcommand =>
    obtain ⟨heatPumpHigh, windHigh, t, pressed, hpressed, rfl, rfl, rfl⟩ := hopens.pressed
    -- of the ways to obey the next line only a failed read fails; the report before it is whole
    cases hcommand with
    | unread =>
      cases hreport with
      | skips hdue =>
        rw [Timer.poll_of_not_due hdue, List.append_nil]
        exact .unread hpressed hdue
      | does hdue hreport =>
        rw [Timer.poll_of_due hdue] at hreport
        cases hreport with
        | shows hbalance hdraws =>
          cases hdraws with
          | all =>
            rw [← sending_append]
            exact .unreadAfterReport ⟨hpressed, hdue, hbalance⟩

end

end Controller

end HomeEnergy
