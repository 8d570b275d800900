import HomeEnergy.Proofs.Controller.Worlds
import HomeEnergy.Proofs.Wire.Delivery

/-!
# Worlds with a serial link

The port for received lines is the poller's end of a serial link, and the reader at the other
end takes its turns whenever it likes.  What a controller exchanges with such a world is
therefore a play of the link, and all that is known of plays holds of it.

* `Link.Plays` — what turns of the two parties can give the poller;
* `Link.Plays.due_eq` — **if no call fails and the link is closed in the end, each of its lines
  has been handed out once, in order;**
* `Ports.Wired` — a world with a link in it, and a way to see whether the link is closed;
* `Ports.Wired.plays_path` — the exchanges of a path play the link.
-/

namespace HomeEnergy

open Exchange Wire

namespace Exchange

/-- What was answered to the request for a line. -/
def answer? : Exchange → Option (Except LinkError (Option Line))
  | receive answer => some answer
  | _ => none

/-- The answers to requests for a line, in order. -/
def answers (trace : List Exchange) : List (Except LinkError (Option Line)) :=
  trace.filterMap answer?

@[simp] theorem answers_append (xs ys : List Exchange) :
    answers (xs ++ ys) = answers xs ++ answers ys :=
  List.filterMap_append

@[simp] theorem answers_drives (ws : List Output) : answers (ws.map drive) = [] := by
  simp [answers, answer?]

@[simp] theorem answers_draws (calls : List Panel.Call) :
    answers (calls.map (draw · (.ok ()))) = [] := by
  simp [answers, answer?]

theorem answers_cons (x : Exchange) (xs : List Exchange) :
    answers (x :: xs) = x.answer?.toList ++ answers xs := by
  rw [answers, List.filterMap_cons, answers]
  cases x.answer? <;> rfl

/-- If nothing has failed, what was received is the lines that were handed out. -/
theorem received_answers {xs : List Exchange} (h : failures xs = []) :
    Link.received (answers xs) = (lines xs).map .ok := by
  induction xs with
  | nil => rfl
  | cons x xs ih =>
    rw [failures, List.filterMap_eq_nil_iff] at h
    rcases List.forall_mem_cons.mp h with ⟨hx, hxs⟩
    have hrest := ih (List.filterMap_eq_nil_iff.mpr hxs)
    have hlines : lines (x :: xs) = x.line?.toList ++ lines xs := by
      rw [lines, List.filterMap_cons, lines]
      cases x.line? <;> rfl
    rw [answers_cons, hlines, List.map_append, ← hrest, Link.received, List.filterMap_append]
    congr 1
    cases x with
    | receive answer =>
      cases answer with
      | error e => cases hx
      | ok line => cases line <;> rfl
    | _ => rfl

end Exchange

namespace Wire.Link

/-- Some turns of the two parties give the poller these answers and lead to that link. -/
def Plays (link : Link) (answers : List (Except LinkError (Option Line))) (link' : Link) : Prop :=
  ∃ turns, link.play turns = (answers, link')

theorem plays_nil (link : Link) : link.Plays [] link := ⟨[], rfl⟩

theorem Plays.append {link link' link'' : Link}
    {earlier later : List (Except LinkError (Option Line))} (h : link.Plays earlier link')
    (hlater : link'.Plays later link'') : link.Plays (earlier ++ later) link'' := by
  rcases h with ⟨turns, hturns⟩
  rcases hlater with ⟨laterTurns, hlaterTurns⟩
  refine ⟨turns ++ laterTurns, ?_⟩
  rw [play_append, hturns, hlaterTurns]

/-- The reader neither opens nor closes the link. -/
theorem closed_advance (link : Link) : link.advance.channel.closed = link.channel.closed := by
  cases houtbox : link.reader.outbox with
  | cons msg outbox =>
    rw [advance_send houtbox]
    rfl
  | nil =>
    cases hended : link.reader.ended with
    | true =>
      rw [advance_hangUp houtbox hended]
      rfl
    | false => rw [advance_read houtbox hended]

/-- Only a poll that finds nothing closes the link. -/
theorem closed_play_eq_false {link : Link} (hopen : link.channel.closed = false)
    {turns : List Party} (hanswers : .ok none ∉ (link.play turns).1) :
    (link.play turns).2.channel.closed = false := by
  induction turns generalizing link with
  | nil => exact hopen
  | cons party turns ih =>
    cases party with
    | reader =>
      rw [play_reader] at hanswers ⊢
      exact ih ((closed_advance link).trans hopen) hanswers
    | poller =>
      rw [play_poller] at hanswers ⊢
      have hfirst := List.ne_of_not_mem_cons hanswers
      have hrest := List.not_mem_of_not_mem_cons hanswers
      cases hqueue : link.channel.queue with
      | nil =>
        rw [poll_empty hqueue] at hfirst
        exact absurd rfl hfirst
      | cons msg queue =>
        apply ih _ hrest
        rw [(poll_message hqueue).2]
        exact hopen

theorem Plays.closed_eq_false {link link' : Link}
    {answers : List (Except LinkError (Option Line))} (h : link.Plays answers link')
    (hopen : link.channel.closed = false) (hanswers : .ok none ∉ answers) :
    link'.channel.closed = false := by
  rcases h with ⟨turns, hturns⟩
  have hstill := @closed_play_eq_false link hopen turns
  rw [hturns] at hstill
  exact hstill hanswers

/-- If nothing has failed and the link has been closed in the end, each of its lines has been
handed out once, in order, and there was nothing else to receive. -/
theorem Plays.due_eq {link link' : Link} {xs : List Exchange} (h : link.Plays (answers xs) link')
    (hlink : link.Orderly) (hxs : failures xs = []) (hclosed : link'.channel.closed = true) :
    link.due = (lines xs).map .ok := by
  rcases h with ⟨turns, hturns⟩
  have hdue := due_play link turns
  have horderly := hlink.play turns
  rw [hturns] at hdue horderly
  rw [hdue, horderly.due_eq_nil hclosed, List.append_nil, received_answers hxs]

end Wire.Link

/-- A world in which the port for received lines is the poller's end of a serial link, and in
which `linkClosed` says whether the link is closed.  The reader may take any turns at any
time. -/
structure Ports.Wired {σ : Type} (ports : Ports (StateM σ)) (linkClosed : StateM σ Bool) where
  link : σ → Link
  plays {s : σ} {x : Exchange} {s' : σ} (h : ports.Takes s x s') :
    (link s).Plays x.answer?.toList (link s')
  looks (s : σ) : (link s).Plays [] (link (linkClosed.run s).2)
  closed_eq (s : σ) : (linkClosed.run s).1 = (link (linkClosed.run s).2).channel.closed

namespace Ports.Wired

variable {σ : Type} {ports : Ports (StateM σ)} {linkClosed : StateM σ Bool}

/-- A world goes along with exchanges only as a play of its link. -/
theorem plays_path (wire : ports.Wired linkClosed) {s s' : σ} {xs : List Exchange}
    (h : ports.Path s xs s') : (wire.link s).Plays (answers xs) (wire.link s') := by
  induction h with
  | nil s => exact Link.plays_nil _
  | cons head tail ih =>
    rw [answers_cons]
    exact (wire.plays head).append ih

end Ports.Wired

namespace Bench

/-- The channel of the bench belongs to a link whose reader has sent everything. -/
def wired : ports.Wired (return (← get).channel.closed) where
  link bench := { reader := { ended := true }, channel := bench.channel }
  plays {bench x bench'} h := by
    cases x with
    | receive answer =>
      cases h
      exact ⟨[.poller], rfl⟩
    | transmit line answer =>
      cases h
      show Link.Plays _ [] { reader := _, channel := (bench.transmit line).2.channel }
      rw [(bench.transmit_frame line).1]
      exact Link.plays_nil _
    | draw call answer =>
      cases h
      show Link.Plays _ [] { reader := _, channel := (bench.draw call).2.channel }
      rw [(bench.draw_frame call).1]
      exact Link.plays_nil _
    | _ =>
      cases h
      exact Link.plays_nil _
  looks _ := Link.plays_nil _
  closed_eq _ := rfl

end Bench

end HomeEnergy
