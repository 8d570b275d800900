import HomeEnergy.Proofs.Controller.CutShort
import HomeEnergy.Proofs.Controller.Outcome
import HomeEnergy.Proofs.Controller.Pace
import HomeEnergy.Proofs.Panel.Redraw

/-!
# The accounts of a run

A controller whose iterations may fail, and that is iterated again all the same, does no
part of a report twice and leaves none out: each balance moves the deadline on once, is sent
at most once, and moves the marquee on if the panel has shown all of it.

* `Accounted` — what one round adds to the accounts, complete or cut short;
* `Accounts` — what any number of rounds add up to;
* `history_accounts` — **failing iterations keep the accounts.**
-/

namespace HomeEnergy

open Exchange Wire

/-- The calls to the world that can fail: to send a line, to draw, to ask for a line. -/
inductive FallibleCall
  | transmit
  | draw
  | receive
  deriving DecidableEq

namespace Exchange

/-- The call that failed, if it did. -/
def failedCall? : Exchange → Option FallibleCall
  | transmit _ (.error _) => some .transmit
  | draw _ (.error _) => some .draw
  | receive (.error _) => some .receive
  | _ => none

theorem failedCall?_eq_none {x : Exchange} (h : x.failure? = none) : x.failedCall? = none := by
  unfold failedCall?
  split
  case h_4 => rfl
  all_goals cases h

end Exchange

namespace Sighting

/-- What exchanges show of the world up to where they were cut short, if they were: the first
answer of each kind, and no line if none was handed out. -/
def upTo? (xs : List Exchange) : Option Sighting := do
  let heatPumpHigh ← xs.findSome? heatPumpLevel?
  let windHigh ← xs.findSome? windLevel?
  let polledAt ← xs.findSome? reading?
  return { heatPumpHigh, windHigh, polledAt, line := (xs.findSome? handed?).join }

theorem upTo?_of_of? {xs : List Exchange} {seen : Sighting} (h : of? xs = some seen) :
    upTo? xs = some seen := by
  simp only [of?, Option.bind_eq_bind, Option.bind_eq_some_iff] at h
  obtain ⟨heatPumpHigh, hheatPump, windHigh, hwind, polledAt, hpolled, line, hline, h⟩ := h
  simp only [upTo?, hheatPump, hwind, hpolled, hline, Option.bind_eq_bind, Option.bind_some]
  exact h

end Sighting

/-- A house that attends to an agenda makes a report if it is asked for a balance. -/
theorem House.report_attend {house : House} {a : Agenda} {done : Done Attended}
    (h : house.attend a = .ok done) : done.answer.report.isSome = a.balance := by
  obtain ⟨pump, -, h⟩ := bind_eq_ok_iff.mp h
  obtain ⟨wind, -, h⟩ := bind_eq_ok_iff.mp h
  obtain ⟨report, hreport, h⟩ := bind_eq_ok_iff.mp h
  obtain ⟨command, -, h⟩ := bind_eq_ok_iff.mp h
  cases h
  cases hbalance : a.balance with
  | false =>
    rw [hbalance] at hreport
    cases hreport
    rfl
  | true =>
    rw [hbalance] at hreport
    obtain ⟨balanced, -, hreport⟩ := bind_eq_ok_iff.mp hreport
    cases hreport
    rfl

namespace Controller

/-- The round ended with a call of this kind that failed. -/
def Round.failsAt {σ : Type} (r : Round σ) (call : FallibleCall) : Bool :=
  decide (r.exchanges.getLast?.bind failedCall? = some call)

/-- The panel has accepted a whole frame, which is four calls. -/
def Round.shows {σ : Type} (r : Round σ) : Bool := (accepted r.exchanges).length == 4

/-- What a round adds to the accounts. -/
structure Accounted {σ : Type} (c : Controller) (r : Round σ) (seen : Sighting)
    (done : Done Attended) : Prop where
  upTo?_eq : Sighting.upTo? r.exchanges = some seen
  attend_eq :
    c.house.attend
      (seen.agenda c.buttons.heatPump.lastHigh c.buttons.wind.lastHigh c.timer) = .ok done
  house_eq : r.controller.house = done.house
  writes_eq : writes r.exchanges = done.writes
  buttons_eq : r.controller.buttons = ⟨⟨seen.heatPumpHigh⟩, ⟨seen.windHigh⟩⟩
  timer_eq : r.controller.timer = (c.timer.poll seen.polledAt).2
  screen_eq : r.controller.screen = if r.shows then c.shown.screen else c.screen
  shows_toNat : r.shows.toNat = r.reports.toNat + (r.failsAt .receive && r.shows).toNat
  sent_length : (sent r.exchanges).length =
    r.reports.toNat + (r.failsAt .draw).toNat + (r.failsAt .receive && r.shows).toNat
  balance_toNat : (c.timer.poll seen.polledAt).1.toNat =
    (sent r.exchanges).length + (r.failsAt .transmit).toNat

section

variable (heatPumpHigh windHigh : Bool) (presses : List Output) (t : Tick)
  (pressed : Done Attended) (balanced : Done Balance) (answer : Except LinkError Unit)

/-- What a course shows that begins like this and hands out no line. -/
theorem upTo?_preamble {ys : List Exchange} (hys : ys.findSome? handed? = none) :
    Sighting.upTo? (preamble heatPumpHigh windHigh presses t ++ ys) =
      some ⟨heatPumpHigh, windHigh, t, none⟩ := by
  have hreading : (presses.map drive).findSome? reading? = none := by
    simp [List.findSome?_map, Function.comp_def, reading?]
  simp [Sighting.upTo?, preamble, List.findSome?_append, List.findSome?_cons, heatPumpLevel?,
    windLevel?, reading?, handed?, hreading, hys]

theorem upTo?_sending {ys : List Exchange} (hys : ys.findSome? handed? = none) :
    Sighting.upTo? (sending heatPumpHigh windHigh t pressed balanced answer ++ ys) =
      some ⟨heatPumpHigh, windHigh, t, none⟩ := by
  rw [sending_append]
  apply upTo?_preamble
  rw [List.findSome?_append, handed_drives]
  exact hys

end

section

variable {c : Controller} {heatPumpHigh windHigh : Bool} {t : Tick} {pressed : Done Attended}
  {balanced : Done Balance}

/-- Up to a balance, the house has attended to the presses and the balance. -/
theorem Balances.attend_eq (h : Balances c heatPumpHigh windHigh t pressed balanced) :
    c.house.attend ((Sighting.mk heatPumpHigh windHigh t none).agenda
        c.buttons.heatPump.lastHigh c.buttons.wind.lastHigh c.timer) =
      .ok {
        answer := { report := some balanced.answer, command := none }
        writes := pressed.writes ++ balanced.writes
        house := balanced.house } := by
  obtain ⟨pump, hpump, hrest⟩ := bind_eq_ok_iff.mp h.pressed_eq
  obtain ⟨wind, hwind, hrest⟩ := bind_eq_ok_iff.mp hrest
  obtain rfl := Except.ok.inj hrest
  have hbalance : wind.house.perhaps (if (c.timer.poll t).1 then some House.balance else none) =
      .ok { balanced with answer := some balanced.answer } := by
    rw [h.due, if_pos rfl]
    exact bind_eq_ok_iff.mpr ⟨balanced, h.balanced_eq, rfl⟩
  have hattend := House.attend_eq_ok (a := (Sighting.mk heatPumpHigh windHigh t none).agenda
    c.buttons.heatPump.lastHigh c.buttons.wind.lastHigh c.timer) hpump hwind hbalance rfl
  simp only [List.append_nil] at hattend ⊢
  exact hattend

/-- If no report is due, the presses are all that the house attends to. -/
theorem agenda_of_not_due (hdue : (c.timer.poll t).1 = false) :
    (Sighting.mk heatPumpHigh windHigh t none).agenda
        c.buttons.heatPump.lastHigh c.buttons.wind.lastHigh c.timer =
      c.buttons.agenda heatPumpHigh windHigh := by
  rw [Sighting.agenda, hdue]
  rfl

end

section

variable {σ : Type} {c : Controller} {r : Round σ} {e : ControlError}

/-- A round that is cut short has kept the balance, the deadline and the line in step. -/
theorem CutShort.accounted (hresult : r.result = .error (.failed e))
    (h : CutShort c r.exchanges e r.controller) : ∃ seen done, Accounted c r seen done := by
  obtain ⟨result, exchanges, controller, world⟩ := r
  obtain rfl : result = .error (.failed e) := hresult
  dsimp only at h
  cases h with
  | @unsent heatPumpHigh windHigh t pressed balanced e h =>
    exact ⟨⟨heatPumpHigh, windHigh, t, none⟩, _, {
      upTo?_eq := by
        rw [← List.append_nil (sending _ _ _ _ _ _)]
        exact upTo?_sending _ _ _ _ _ _ rfl
      attend_eq := h.attend_eq
      house_eq := rfl
      writes_eq := writes_sending _ _ _ _ _ _
      buttons_eq := rfl
      timer_eq := (Timer.poll_of_due h.due).symm
      screen_eq := by simp [Round.shows]
      shows_toNat := by simp [Round.reports, Round.shows]
      sent_length := by
        simp [Round.reports, Round.shows, Round.failsAt, sending, sent?, accepted?, failedCall?]
      balance_toNat := by simp [h.due, Round.failsAt, sending, sent?, failedCall?] }⟩
  | @unshown heatPumpHigh windHigh t pressed balanced before after call e h hframe =>
    -- fewer than four calls were accepted, since the one after them was refused
    have hlength : before.length ≠ 4 := by
      have hfour : (before ++ call :: after).length = 4 := by
        rw [← hframe]
        rfl
      rw [List.length_append, List.length_cons] at hfour
      omega
    exact ⟨⟨heatPumpHigh, windHigh, t, none⟩, _, {
      upTo?_eq := by
        apply upTo?_sending
        rw [List.findSome?_append, handed_draws]
        rfl
      attend_eq := h.attend_eq
      house_eq := rfl
      writes_eq := by simp [write?]
      buttons_eq := rfl
      timer_eq := (Timer.poll_of_due h.due).symm
      screen_eq := by simp [Round.shows, hlength, accepted?]
      shows_toNat := by
        simp [Round.reports, Round.shows, Round.failsAt, accepted?, failedCall?,
          beq_eq_false_iff_ne.mpr hlength]
      sent_length := by simp [Round.reports, Round.shows, Round.failsAt, sent?, failedCall?]
      balance_toNat := by simp [h.due, Round.failsAt, sent?, failedCall?] }⟩
  | @unread heatPumpHigh windHigh t pressed e hpressed hdue =>
    exact ⟨⟨heatPumpHigh, windHigh, t, none⟩, pressed, {
      upTo?_eq := upTo?_preamble _ _ _ _ rfl
      attend_eq := by rw [agenda_of_not_due hdue, hpressed]
      house_eq := rfl
      writes_eq := by simp [write?]
      buttons_eq := rfl
      timer_eq := (Timer.poll_of_not_due hdue).symm
      screen_eq := by simp [Round.shows, accepted?]
      shows_toNat := by simp [Round.reports, Round.shows, accepted?]
      sent_length := by
        simp [Round.reports, Round.shows, Round.failsAt, sent?, accepted?, failedCall?]
      balance_toNat := by simp [hdue, Round.failsAt, sent?, failedCall?] }⟩
  | @unreadAfterReport heatPumpHigh windHigh t pressed balanced e h =>
    have hlength : (c.screen.frame balanced.answer).length = 4 := rfl
    exact ⟨⟨heatPumpHigh, windHigh, t, none⟩, _, {
      upTo?_eq := by
        rw [List.append_assoc]
        apply upTo?_sending
        rw [List.findSome?_append, handed_draws]
        rfl
      attend_eq := h.attend_eq
      house_eq := rfl
      writes_eq := by simp [write?]
      buttons_eq := rfl
      timer_eq := (Timer.poll_of_due h.due).symm
      screen_eq := by simp [Round.shows, hlength, accepted?, shown]
      shows_toNat := by
        simp [Round.reports, Round.shows, Round.failsAt, accepted?, hlength, failedCall?]
      sent_length := by
        simp [Round.reports, Round.shows, Round.failsAt, sent?, accepted?, hlength, failedCall?]
      balance_toNat := by simp [h.due, Round.failsAt, sent?, failedCall?] }⟩

/-- A round in which no call has failed does not end with one that has. -/
theorem Round.failsAt_eq_false (h : failures r.exchanges = []) (call : FallibleCall) :
    r.failsAt call = false := by
  rw [failures, List.filterMap_eq_nil_iff] at h
  have hlast : r.exchanges.getLast?.bind failedCall? = none := by
    rw [Option.bind_eq_none_iff]
    exact fun x hx => failedCall?_eq_none (h x (List.mem_of_getLast? hx))
  rw [failsAt, hlast]
  rfl

/-- A report that is made shows a whole frame. -/
theorem When.shows {c' : Controller} {due : Bool} {report : Option Balance}
    {xs : List Exchange} (h : When due Reports c xs (.ok report) c') :
    (accepted xs).length = (if report.isSome then 4 else 0) ∧
      c'.screen = if report.isSome then c.shown.screen else c.screen := by
  cases h with
  | skips => exact ⟨rfl, rfl⟩
  | does _ hreport =>
    cases hreport with
    | shows hbalance hdraws =>
      cases hdraws
      refine ⟨?_, rfl⟩
      rw [accepted_append, accepted_drives]
      rfl

theorem Iterates.shows {c' : Controller} {xs : List Exchange} {it : Iteration}
    (h : Iterates c xs (.ok it) c') :
    (accepted xs).length = (if it.report.isSome then 4 else 0) ∧
      c'.screen = if it.report.isSome then c.shown.screen else c.screen := by
  cases h with
  | @completes _ _ _ us _ _ _ _ _ _ _ _ _ hopens hreport hcommand hidle =>
    obtain ⟨heatPumpHigh, windHigh, t, pressed, -, -, rfl, rfl⟩ := hopens.pressed
    obtain ⟨haccepted, hscreen⟩ := hreport.shows
    obtain ⟨line, command, -, -, rfl, rfl⟩ := hcommand.perhaps
    obtain ⟨rfl, -, -, -⟩ := hidle.idles
    have hidled : accepted us = [] := by
      cases hidle with
      | skips => rfl
      | does _ hidle => cases hidle <;> rfl
    have hobeyed : accepted (.receive (.ok line) :: command.writes.map drive) = [] :=
      accepted_drives command.writes
    refine ⟨?_, hscreen⟩
    rw [accepted_append, accepted_append, accepted_append, accepted_preamble, hobeyed, hidled,
      List.append_nil, List.append_nil]
    exact haccepted

/-- A completed round has sent and shown its report, if it has made one. -/
theorem Iterates.accounted {it : Iteration} (hresult : r.result = .ok it)
    (h : Iterates c r.exchanges (.ok it) r.controller) :
    ∃ seen done, Accounted c r seen done := by
  obtain ⟨seen, done, hattends⟩ := h.attends
  obtain ⟨haccepted, hscreen⟩ := h.shows
  have hcomplete (call : FallibleCall) : r.failsAt call = false :=
    Round.failsAt_eq_false h.failures_eq call
  have hreports : r.reports = it.report.isSome := by rw [Round.reports, hresult]
  have hshows : r.shows = it.report.isSome := by
    rw [Round.shows, haccepted]
    cases it.report <;> rfl
  have hsent : (sent r.exchanges).length = it.report.isSome.toNat := by
    rw [hattends.sent_eq]
    cases it.report <;> rfl
  have hbalance := House.report_attend hattends.attend_eq
  rw [hattends.answer_eq] at hbalance
  refine ⟨seen, done, Sighting.upTo?_of_of? hattends.of?_eq, hattends.attend_eq,
    hattends.house_eq, hattends.writes_eq, hattends.buttons_eq, hattends.timer_eq, ?_, ?_, ?_,
    ?_⟩
  · rw [hscreen, hshows]
  · rw [hshows, hreports, hcomplete]
    rfl
  · rw [hsent, hreports, hcomplete, hcomplete]
    rfl
  · rw [hsent, hcomplete]
    exact congrArg Bool.toNat hbalance.symm

end

/-- The agendas of a controller's house for what has been seen. -/
def agendas (c : Controller) (seen : List Sighting) : List Agenda :=
  Sighting.agendas c.buttons.heatPump.lastHigh c.buttons.wind.lastHigh c.timer seen

/-- How many balances a controller's house makes for what has been seen. -/
def balanceCount (c : Controller) (seen : List Sighting) : Nat :=
  (c.agendas seen).countP (·.balance)

/-- What rounds add up to, from the controller before them to the one after them. -/
structure Accounts {σ : Type} (c : Controller) (rounds : List (Round σ)) (c' : Controller)
    (seen : List Sighting) (done : Done (List Attended)) : Prop where
  seen_eq : rounds.map (Sighting.upTo? ·.exchanges) = seen.map some
  /-- The house has made as many balances as its agendas ask for. -/
  attendAll_eq : c.house.attendAll (c.agendas seen) = .ok done
  house_eq : c'.house = done.house
  writes_eq : writes (exchangesOf rounds) = done.writes
  /-- The deadline has moved on once for each balance. -/
  timer_eq : c'.timer = Timer.next^[c.balanceCount seen] c.timer
  /-- A balance whose line could not be sent is the only one without a line. -/
  balanceCount_eq :
    c.balanceCount seen = (sent (exchangesOf rounds)).length + rounds.countP (·.failsAt .transmit)
  /-- A frame was shown for each report that was made, or was complete when no line could be
  read. -/
  shows_eq : rounds.countP (·.shows) =
    rounds.countP (·.reports) + rounds.countP (fun r => r.failsAt .receive && r.shows)
  /-- A line was sent for each of these reports, and for each that could not be drawn. -/
  sent_length : (sent (exchangesOf rounds)).length =
    rounds.countP (·.reports) + rounds.countP (·.failsAt .draw) +
      rounds.countP (fun r => r.failsAt .receive && r.shows)
  /-- The marquee has moved on once for each frame that was shown. -/
  screen_eq : c'.screen = { c.screen with
    marquee := Panel.Marquee.advance^[rounds.countP (·.shows)] c.screen.marquee }

section

variable {σ : Type} {c c' : Controller} {r : Round σ} {rounds : List (Round σ)}
  {seen : Sighting} {later : List Sighting} {done : Done Attended} {rest : Done (List Attended)}

/-- The head of a list counts for one or for nothing. -/
theorem countP_cons {α : Type} (p : α → Bool) (a : α) (as : List α) :
    (a :: as).countP p = as.countP p + (p a).toNat := by
  rw [List.countP_cons]
  cases p a <;> rfl

theorem accounts_nil (c : Controller) :
    Accounts c ([] : List (Round σ)) c [] ⟨[], [], c.house⟩ :=
  ⟨rfl, rfl, rfl, rfl, rfl, rfl, rfl, rfl, rfl⟩

/-- The agendas after a round are those of the controller that it has left. -/
theorem Accounted.agendas_cons (h : Accounted c r seen done) (later : List Sighting) :
    c.agendas (seen :: later) =
      seen.agenda c.buttons.heatPump.lastHigh c.buttons.wind.lastHigh c.timer ::
        r.controller.agendas later := by
  rw [agendas, agendas, h.buttons_eq, h.timer_eq]
  rfl

theorem Accounted.balanceCount_cons (h : Accounted c r seen done) (later : List Sighting) :
    c.balanceCount (seen :: later) =
      r.controller.balanceCount later + (c.timer.poll seen.polledAt).1.toNat := by
  rw [balanceCount, h.agendas_cons, countP_cons]
  rfl

theorem Accounts.cons (h : Accounted c r seen done)
    (hrest : Accounts r.controller rounds c' later rest) :
    Accounts c (r :: rounds) c' (seen :: later)
      ⟨done.answer :: rest.answer, done.writes ++ rest.writes, rest.house⟩ where
  seen_eq := by rw [List.map_cons, List.map_cons, h.upTo?_eq, hrest.seen_eq]
  attendAll_eq := by
    rw [h.agendas_cons]
    refine bind_eq_ok_iff.mpr ⟨done, h.attend_eq, ?_⟩
    rw [← h.house_eq]
    exact bind_eq_ok_iff.mpr ⟨rest, hrest.attendAll_eq, rfl⟩
  house_eq := hrest.house_eq
  writes_eq := by rw [exchangesOf_cons, writes_append, h.writes_eq, hrest.writes_eq]
  timer_eq := by
    rw [hrest.timer_eq, h.balanceCount_cons, h.timer_eq]
    cases hdue : (c.timer.poll seen.polledAt).1 with
    | true =>
      rw [Timer.poll_of_due hdue]
      rfl
    | false =>
      rw [Timer.poll_of_not_due hdue]
      rfl
  balanceCount_eq := by
    rw [h.balanceCount_cons, exchangesOf_cons, sent_append, List.length_append, countP_cons,
      h.balance_toNat, hrest.balanceCount_eq]
    omega
  shows_eq := by
    rw [countP_cons, countP_cons, countP_cons, h.shows_toNat, hrest.shows_eq]
    omega
  sent_length := by
    rw [exchangesOf_cons, sent_append, List.length_append, countP_cons, countP_cons,
      countP_cons, h.sent_length, hrest.sent_length]
    omega
  screen_eq := by
    rw [hrest.screen_eq, h.screen_eq, countP_cons]
    cases hshows : r.shows with
    | true => rfl
    | false => rfl

end

section

variable {σ : Type}

/-- A round with a sound house, complete or cut short, adds to the accounts. -/
theorem Iterates.accounted_of_sound {c : Controller} {r : Round σ} (hc : c.house.Sound)
    (h : Iterates c r.exchanges r.result r.controller) :
    ∃ seen done, Accounted c r seen done := by
  have hunbroken := (sustains_iterates h hc).2
  cases hresult : r.result with
  | ok it =>
    rw [hresult] at h
    exact h.accounted hresult
  | error halt =>
    cases halt with
    | failed e =>
      rw [hresult] at h
      exact h.cutShort.accounted hresult
    | broken f => exact absurd hresult (hunbroken f)

/-- Rounds that begin with a sound house keep the accounts. -/
theorem Succession.accounted {c c' : Controller} {rounds : List (Round σ)}
    (h : Succession c rounds c') (hc : c.house.Sound) :
    ∃ seen done, Accounts c rounds c' seen done := by
  induction h with
  | nil c => exact ⟨[], _, accounts_nil c⟩
  | cons hround hlater ih =>
    -- the house stays sound where the round fails too, so the rounds after it go on the same way
    have hnext := (sustains_iterates hround hc).1
    obtain ⟨seen, done, hfirst⟩ := hround.accounted_of_sound hc
    obtain ⟨later, rest, hrest⟩ := ih hnext
    exact ⟨seen :: later, _, hrest.cons hfirst⟩

variable (ports : Ports (StateM σ))

/-- **Failing iterations keep the accounts.**  An iteration that fails takes one of the courses
of an iteration that is cut short.  And however many iterations fail, in any world, a controller
that is iterated again and again has done to its house and its outputs what its agendas ask for,
moved its deadline on once for each balance, sent the line of each balance unless that failed,
and moved its marquee on once for each frame that was shown. -/
theorem history_accounts (c : Controller) (s : σ) :
    (∀ e, (round ports c s).result = .error (.failed e) →
      CutShort c (round ports c s).exchanges e (round ports c s).controller) ∧
    (c.house.Sound → ∀ n, ∃ seen done,
      Accounts c (history ports c s n) (after ports c s n).1 seen done ∧
      (c.screen.marquee.offset < c.screen.marquee.text.length →
        (after ports c s n).1.screen.marquee.offset =
          (c.screen.marquee.offset + (history ports c s n).countP (·.shows)) %
            c.screen.marquee.text.length)) := by
  refine ⟨?_, ?_⟩
  · intro e hresult
    have hcourse := iterates_round ports c s
    rw [hresult] at hcourse
    exact hcourse.cutShort
  · intro hc n
    obtain ⟨seen, done, haccounts⟩ := (succession_history ports c s n).accounted hc
    refine ⟨seen, done, haccounts, ?_⟩
    intro hoffset
    rw [haccounts.screen_eq, Panel.Marquee.iterate_advance hoffset]

end

/-- A rough evening: the panel gives up after two frames, and the link after one line. -/
def roughEvening : Bench where
  clock := ⟨3⟩
  channel := { queue := [.ok [0x6C, 0x65, 0x64, 0x20, 0x6F, 0x6E], .error ⟨"line dropped"⟩] }
  bus := { patience := some 8 }

/-- A controller that is late for its first reports on that evening. -/
def lateController : Controller where
  house := Calm.cottage
  screen := firstScreen Calm.pace
  timer := ⟨1, ⟨0⟩⟩
  idleDelay := 60

set_option maxRecDepth 10000 in
/-- Of the four reports that are late, one is made, one is complete when no line can be read,
and two are refused by the panel; the marquee has moved on by the two frames that were shown.  A
panel that gives up within its first frame cuts the first round short. -/
theorem history_accounts_rough :
    Calm.cottage.Sound ∧
    (∃ seen done,
      Accounts lateController (history Bench.ports lateController roughEvening 4)
        (after Bench.ports lateController roughEvening 4).1 seen done ∧
      lateController.balanceCount seen = 4 ∧
      (history Bench.ports lateController roughEvening 4).countP (·.shows) = 2) ∧
    (after Bench.ports lateController roughEvening 4).1.screen.marquee.offset = 2 ∧
    let first := round Bench.ports lateController { roughEvening with bus.patience := some 2 }
    first.result = .error (.failed (.panel (.bus Panel.Bus.breakage))) ∧
      CutShort lateController first.exchanges (.panel (.bus Panel.Bus.breakage))
        first.controller := by
  have hbuild : Battery.build 50 3 10 = .ok Calm.cottage.battery := rfl
  have hsound : Calm.cottage.Sound := House.sound_of_build hbuild Calm.cottage.lamp
  have hfirst : (round Bench.ports lateController
      { roughEvening with bus.patience := some 2 }).result =
        .error (.failed (.panel (.bus Panel.Bus.breakage))) := by
    rfl
  have hsent : (sent (exchangesOf
      (history Bench.ports lateController roughEvening 4))).length = 4 := by
    decide +kernel
  have hunsent : (history Bench.ports lateController roughEvening 4).countP
      (·.failsAt .transmit) = 0 := by
    decide +kernel
  have hshown : (history Bench.ports lateController roughEvening 4).countP (·.shows) = 2 := by
    decide +kernel
  obtain ⟨seen, done, haccounts, hmarquee⟩ :=
    (history_accounts Bench.ports lateController roughEvening).2 hsound 4
  refine ⟨hsound, ⟨seen, done, haccounts, ?_, hshown⟩, ?_, hfirst, ?_⟩
  · rw [haccounts.balanceCount_eq, hsent, hunsent]
  · rw [hmarquee (by decide), hshown]
    decide
  · exact (history_accounts Bench.ports lateController _).1 _ hfirst

end Controller

end HomeEnergy
