import HomeEnergy.Controller
import HomeEnergy.Proofs.Controller.Recording

/-!
# The courses of an iteration

Which exchanges an iteration can have with a world, what it gives, and the controller
after it, said as relations with one rule for each way it can go.  Nothing here depends
on the world: whatever the answers, an iteration takes one of these courses.

* `Operates`, `Opens`, `Reports`, `Obeys`, `Idles` — the courses of the parts;
* `Iterates` — the courses of an iteration, failed ones included.
-/

namespace HomeEnergy

open Exchange

/-- The courses of some work of the controller: the controller before it, the exchanges,
what it gives, and the controller after it. -/
abbrev Course (α : Type) := Controller → List Exchange → Except Halt α → Controller → Prop

namespace Controller

/-- The controller with another house. -/
def withHouse (c : Controller) (house : House) : Controller := { c with house }

/-- The controller after both buttons have been sampled. -/
def sampled (c : Controller) (heatPumpHigh windHigh : Bool) : Controller :=
  { c with buttons := (c.buttons.sample heatPumpHigh windHigh).2 }

/-- The controller after the timer has been asked. -/
def polled (c : Controller) (t : Tick) : Controller := { c with timer := (c.timer.poll t).2 }

/-- The controller after the panel has shown a balance. -/
def shown (c : Controller) : Controller :=
  { c with screen := { c.screen with marquee := c.screen.marquee.advance } }

section

variable (c : Controller) (house : House) (heatPumpHigh windHigh : Bool) (t : Tick)

/-- Another house is all that changes. -/
@[simp] theorem withHouse_house : (c.withHouse house).house = house := rfl
@[simp] theorem withHouse_buttons : (c.withHouse house).buttons = c.buttons := rfl
@[simp] theorem withHouse_screen : (c.withHouse house).screen = c.screen := rfl
@[simp] theorem withHouse_timer : (c.withHouse house).timer = c.timer := rfl
@[simp] theorem withHouse_idleDelay : (c.withHouse house).idleDelay = c.idleDelay := rfl

/-- Sampling changes nothing but the buttons. -/
@[simp] theorem sampled_house : (c.sampled heatPumpHigh windHigh).house = c.house := rfl
/-- Each button keeps its last sample. -/
@[simp] theorem sampled_buttons :
    (c.sampled heatPumpHigh windHigh).buttons = ⟨⟨heatPumpHigh⟩, ⟨windHigh⟩⟩ := rfl
@[simp] theorem sampled_screen : (c.sampled heatPumpHigh windHigh).screen = c.screen := rfl
@[simp] theorem sampled_timer : (c.sampled heatPumpHigh windHigh).timer = c.timer := rfl
@[simp] theorem sampled_idleDelay :
    (c.sampled heatPumpHigh windHigh).idleDelay = c.idleDelay := rfl

/-- The question to the timer changes nothing but the timer. -/
@[simp] theorem polled_house : (c.polled t).house = c.house := rfl
@[simp] theorem polled_buttons : (c.polled t).buttons = c.buttons := rfl
@[simp] theorem polled_screen : (c.polled t).screen = c.screen := rfl
@[simp] theorem polled_timer : (c.polled t).timer = (c.timer.poll t).2 := rfl
@[simp] theorem polled_idleDelay : (c.polled t).idleDelay = c.idleDelay := rfl

/-- Showing a balance changes nothing but the screen. -/
@[simp] theorem shown_house : c.shown.house = c.house := rfl
@[simp] theorem shown_buttons : c.shown.buttons = c.buttons := rfl
@[simp] theorem shown_timer : c.shown.timer = c.timer := rfl
@[simp] theorem shown_idleDelay : c.shown.idleDelay = c.idleDelay := rfl

end

section

variable {α : Type}

/-- An operation on the house either breaks or makes its writes. -/
inductive Operates (operation : House → Except Fault (Done α)) (c : Controller) :
    List Exchange → Except Halt α → Controller → Prop
  | breaks {f : Fault} (h : operation c.house = .error f) :
      Operates operation c [] (.error (.broken f)) c
  | does {done : Done α} (h : operation c.house = .ok done) :
      Operates operation c (done.writes.map .drive) (.ok done.answer)
        (c.withHouse done.house)

/-- Work that is done only when wanted. -/
inductive When (wanted : Bool) (work : Course α) (c : Controller) :
    List Exchange → Except Halt (Option α) → Controller → Prop
  | skips (h : wanted = false) : When wanted work c [] (.ok none) c
  | halts {xs : List Exchange} {halt : Halt} {c' : Controller} (h : wanted = true)
      (hwork : work c xs (.error halt) c') : When wanted work c xs (.error halt) c'
  | does {xs : List Exchange} {a : α} {c' : Controller} (h : wanted = true)
      (hwork : work c xs (.ok a) c') : When wanted work c xs (.ok (some a)) c'

end

/-- An iteration up to the question whether a report is due. -/
inductive Opens (c : Controller) :
    List Exchange → Except Halt (Presses × Bool) → Controller → Prop
  | pumpBreaks {heatPumpHigh windHigh : Bool} {presses : Presses} {xs : List Exchange}
      {halt : Halt} {c' : Controller}
      (hpresses : presses = (c.buttons.sample heatPumpHigh windHigh).1)
      (hpump : When presses.heatPump (Operates House.pressHeatPump)
        (c.sampled heatPumpHigh windHigh) xs (.error halt) c') :
      Opens c (.heatPumpHigh heatPumpHigh :: .windHigh windHigh :: xs) (.error halt) c'
  | windBreaks {heatPumpHigh windHigh : Bool} {presses : Presses} {xs ys : List Exchange}
      {pump : Option Unit} {halt : Halt} {c₁ c' : Controller}
      (hpresses : presses = (c.buttons.sample heatPumpHigh windHigh).1)
      (hpump : When presses.heatPump (Operates House.pressHeatPump)
        (c.sampled heatPumpHigh windHigh) xs (.ok pump) c₁)
      (hwind : When presses.wind (Operates House.pressWind) c₁ ys (.error halt) c') :
      Opens c (.heatPumpHigh heatPumpHigh :: .windHigh windHigh :: (xs ++ ys)) (.error halt) c'
  | opens {heatPumpHigh windHigh : Bool} {presses : Presses} {xs ys : List Exchange}
      {pump wind : Option Unit} {c₁ c₂ : Controller} {t : Tick}
      (hpresses : presses = (c.buttons.sample heatPumpHigh windHigh).1)
      (hpump : When presses.heatPump (Operates House.pressHeatPump)
        (c.sampled heatPumpHigh windHigh) xs (.ok pump) c₁)
      (hwind : When presses.wind (Operates House.pressWind) c₁ ys (.ok wind) c₂) :
      Opens c (.heatPumpHigh heatPumpHigh :: .windHigh windHigh :: (xs ++ ys ++ [.now t]))
        (.ok (presses, (c₂.timer.poll t).1)) (c₂.polled t)

/-- Calls to the panel: all are accepted, or all before the first that is refused. -/
inductive Draws (calls : List Panel.Call) : List Exchange → Except PanelError Unit → Prop
  | all : Draws calls (calls.map (.draw · (.ok ()))) (.ok ())
  | some {before after : List Panel.Call} {call : Panel.Call} {e : PanelError}
      (h : calls = before ++ call :: after) :
      Draws calls (before.map (.draw · (.ok ())) ++ [.draw call (.error e)]) (.error e)

/-- A report: the balance, then the telemetry line, then the panel. -/
inductive Reports (c : Controller) : List Exchange → Except Halt Balance → Controller → Prop
  | breaks {f : Fault} (h : c.house.balance = .error f) : Reports c [] (.error (.broken f)) c
  | unsent {done : Done Balance} {e : LinkError} (h : c.house.balance = .ok done) :
      Reports c
        (done.writes.map .drive ++
          [.transmit (Wire.Telemetry.line done.answer.totalLoad) (.error e)])
        (.error (.failed (.link e))) (c.withHouse done.house)
  | unshown {done : Done Balance} {xs : List Exchange} {e : PanelError}
      (h : c.house.balance = .ok done)
      (hdraws : Draws (c.screen.frame done.answer) xs (.error e)) :
      Reports c
        (done.writes.map .drive ++
          .transmit (Wire.Telemetry.line done.answer.totalLoad) (.ok ()) :: xs)
        (.error (.failed (.panel e))) (c.withHouse done.house)
  | shows {done : Done Balance} {xs : List Exchange} (h : c.house.balance = .ok done)
      (hdraws : Draws (c.screen.frame done.answer) xs (.ok ())) :
      Reports c
        (done.writes.map .drive ++
          .transmit (Wire.Telemetry.line done.answer.totalLoad) (.ok ()) :: xs)
        (.ok done.answer) (c.withHouse done.house).shown

/-- The next line of the link, if there is one, is obeyed. -/
inductive Obeys (c : Controller) :
    List Exchange → Except Halt (Option (Except Wire.CommandError Wire.Target)) →
      Controller → Prop
  | unread {e : LinkError} : Obeys c [.receive (.error e)] (.error (.failed (.link e))) c
  | nothing : Obeys c [.receive (.ok none)] (.ok none) c
  | breaks {line : Wire.Line} {f : Fault} (h : c.house.dispatch line = .error f) :
      Obeys c [.receive (.ok (some line))] (.error (.broken f)) c
  | obeys {line : Wire.Line} {done : Done (Except Wire.CommandError Wire.Target)}
      (h : c.house.dispatch line = .ok done) :
      Obeys c (.receive (.ok (some line)) :: done.writes.map .drive) (.ok (some done.answer))
        (c.withHouse done.house)

/-- How long the controller idles from a tick on. -/
def idleFrom (c : Controller) (t : Tick) : UInt32 := min c.idleDelay (c.timer.remaining t)

/-- The controller sleeps, if it has to idle at all. -/
inductive Idles (c : Controller) : List Exchange → Except Halt UInt32 → Controller → Prop
  | sleeps {t : Tick} (h : 0 < c.idleFrom t) :
      Idles c [.now t, .sleep (c.idleFrom t)] (.ok (c.idleFrom t)) c
  | stays {t : Tick} (h : ¬ 0 < c.idleFrom t) : Idles c [.now t] (.ok (c.idleFrom t)) c

/-- The courses of an iteration. -/
inductive Iterates (c : Controller) :
    List Exchange → Except Halt Iteration → Controller → Prop
  | unopened {xs : List Exchange} {halt : Halt} {c' : Controller}
      (hopens : Opens c xs (.error halt) c') : Iterates c xs (.error halt) c'
  | unreported {xs ys : List Exchange} {presses : Presses} {due : Bool} {halt : Halt}
      {c₁ c' : Controller} (hopens : Opens c xs (.ok (presses, due)) c₁)
      (hreport : When due Reports c₁ ys (.error halt) c') :
      Iterates c (xs ++ ys) (.error halt) c'
  | unobeyed {xs ys zs : List Exchange} {presses : Presses} {due : Bool}
      {report : Option Balance} {halt : Halt} {c₁ c₂ c' : Controller}
      (hopens : Opens c xs (.ok (presses, due)) c₁)
      (hreport : When due Reports c₁ ys (.ok report) c₂)
      (hcommand : Obeys c₂ zs (.error halt) c') :
      Iterates c (xs ++ ys ++ zs) (.error halt) c'
  | completes {xs ys zs us : List Exchange} {presses : Presses} {due : Bool}
      {report : Option Balance} {command : Option (Except Wire.CommandError Wire.Target)}
      {idled : Option UInt32} {c₁ c₂ c₃ c₄ : Controller}
      (hopens : Opens c xs (.ok (presses, due)) c₁)
      (hreport : When due Reports c₁ ys (.ok report) c₂)
      (hcommand : Obeys c₂ zs (.ok command) c₃)
      (hidle : When (report.isNone && command.isNone) Idles c₃ us (.ok idled) c₄) :
      Iterates c (xs ++ ys ++ zs ++ us)
        (.ok { presses, report, command, idled := idled.getD 0 }) c₄

end Controller

end HomeEnergy
