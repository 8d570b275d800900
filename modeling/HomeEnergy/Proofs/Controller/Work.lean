import HomeEnergy.Proofs.Controller.Course

/-!
# The controller at work

Each work of the controller, in any recorded world, takes one of its courses.  The
works are written with a state of their own and errors; `Does` is what `Ports.Leaves` is
for such a work, and the rules for `Does` follow the way the works are put together.

* `iterate_does` — **every iteration takes one of the courses of an iteration;**
* `shutDown_leaves` — a shutdown makes its three writes, whatever the world.
-/

namespace HomeEnergy

open Exchange

section

variable {σ ε τ α β : Type}

/-- Work with a state of its own that may end early, on ports into a recorded world. -/
abbrev RecordedWork (σ ε τ α : Type) := ExceptT ε (StateT τ (StateM (Recorded σ))) α

/-- What some work does in every recorded world: the exchanges, what it gives, and its
state after it. -/
def Does (ports : Ports (StateM σ)) (work : RecordedWork σ ε τ α) (c : τ)
    (post : List Exchange → Except ε α → τ → Prop) : Prop :=
  ports.Leaves (work.run.run c) fun xs out => post xs out.1 out.2

variable {ports : Ports (StateM σ)} {c : τ}

theorem does_pure {post : List Exchange → Except ε α → τ → Prop} {a : α}
    (h : post [] (.ok a) c) : Does ports (pure a) c post :=
  Ports.leaves_pure h

theorem does_throw {post : List Exchange → Except ε α → τ → Prop} {e : ε}
    (h : post [] (.error e) c) : Does ports (throw e) c post :=
  Ports.leaves_pure h

/-- What some work does may be said with less detail. -/
theorem Does.imp {work : RecordedWork σ ε τ α} {mid post : List Exchange → Except ε α → τ → Prop}
    (hwork : Does ports work c mid)
    (h : ∀ xs result c', mid xs result c' → post xs result c') : Does ports work c post :=
  Ports.Leaves.imp hwork fun xs out => h xs out.1 out.2

variable {post : List Exchange → Except ε β → τ → Prop}

/-- Work after work: an error ends the whole, and otherwise the exchanges of both are
made, one after the other. -/
theorem does_bind {work : RecordedWork σ ε τ α} {next : α → RecordedWork σ ε τ β}
    {mid : List Exchange → Except ε α → τ → Prop} (hwork : Does ports work c mid)
    (hok : ∀ xs a c', mid xs (.ok a) c' →
      Does ports (next a) c' fun ys result c'' => post (xs ++ ys) result c'')
    (herror : ∀ xs e c', mid xs (.error e) c' → post xs (.error e) c') :
    Does ports (work >>= next) c post := by
  rw [Does, ExceptT.run_bind, StateT.run_bind]
  refine Ports.leaves_bind hwork ?_
  intro xs out hmid
  obtain ⟨result, c'⟩ := out
  cases result with
  | error e =>
    have hpost := herror xs e c' hmid
    exact Ports.leaves_pure (by rwa [List.append_nil])
  | ok a => exact hok xs a c' hmid

/-- Work that begins by looking at its state. -/
theorem does_get_bind {next : τ → RecordedWork σ ε τ β} (h : Does ports (next c) c post) :
    Does ports (get >>= next) c post := h

/-- Work that begins by changing its state. -/
theorem does_modify_bind {next : Unit → RecordedWork σ ε τ β} {f : τ → τ}
    (h : Does ports (next ()) (f c) post) : Does ports (modify f >>= next) c post := h

theorem does_set_bind {next : PUnit → RecordedWork σ ε τ β} {c' : τ}
    (h : Does ports (next ⟨⟩) c' post) : Does ports (set c' >>= next) c post := h

/-- Work that begins with a request to the ports; the request leaves the state alone. -/
theorem does_request_bind {request : StateM (Recorded σ) α} {next : α → RecordedWork σ ε τ β}
    {mid : List Exchange → α → Prop} (hrequest : ports.Leaves request mid)
    (h : ∀ xs a, mid xs a → Does ports (next a) c fun ys result c' => post (xs ++ ys) result c') :
    Does ports ((request : RecordedWork σ ε τ α) >>= next) c post := by
  have hrun : ((request : RecordedWork σ ε τ α) >>= next).run.run c =
      request >>= fun a => (next a).run.run c := rfl
  rw [Does, hrun]
  exact Ports.leaves_bind hrequest h

end

namespace Controller

section

variable {σ α : Type} {ports : Ports (StateM σ)}

/-- Writes are made one after the other. -/
theorem does_writes (writes : List Output) (c : Controller) :
    Does ports
      (forIn writes PUnit.unit fun write _ => do
        (ports.recorded.drive write : Control (StateM (Recorded σ)) Unit)
        pure (ForInStep.yield PUnit.unit))
      c fun xs result c' => xs = writes.map .drive ∧ result = .ok PUnit.unit ∧ c' = c := by
  induction writes with
  | nil => exact does_pure ⟨rfl, rfl, rfl⟩
  | cons write writes ih =>
    rw [List.forIn_cons, bind_assoc]
    simp only [pure_bind]
    refine does_request_bind (ports.leaves_drive write) ?_
    intro xs _ hxs
    subst hxs
    refine ih.imp ?_
    intro xs result c' h
    obtain ⟨rfl, hresult, hc⟩ := h
    exact ⟨rfl, hresult, hc⟩

/-- An operation takes effect before its writes are made, or breaks and makes none. -/
theorem operate_does (operation : House → Except Fault (Done α)) (c : Controller) :
    Does ports (operate ports.recorded operation) c (Operates operation c) := by
  refine does_get_bind ?_
  cases h : operation c.house with
  | error f => exact does_throw (.breaks h)
  | ok done =>
    refine does_modify_bind (does_bind (does_writes done.writes _) ?_ ?_)
    · intro xs result c' h
      obtain ⟨rfl, -, rfl⟩ := h
      refine does_pure ?_
      rw [List.append_nil]
      exact .does h
    · intro xs result c' h
      obtain ⟨-, h, -⟩ := h
      cases h

/-- Both buttons are sampled, the one of the heat pump first. -/
theorem sampleButtons_does (c : Controller) :
    Does ports (sampleButtons ports.recorded) c fun xs result c' =>
      ∃ heatPumpHigh windHigh, xs = [.heatPumpHigh heatPumpHigh, .windHigh windHigh] ∧
        result = .ok (c.buttons.sample heatPumpHigh windHigh).1 ∧
        c' = c.sampled heatPumpHigh windHigh := by
  refine does_request_bind ports.leaves_heatPumpHigh ?_
  intro xs heatPumpHigh hxs
  subst hxs
  refine does_request_bind ports.leaves_windHigh ?_
  intro xs windHigh hxs
  subst hxs
  exact does_get_bind (does_modify_bind (does_pure ⟨heatPumpHigh, windHigh, rfl, rfl, rfl⟩))

theorem reportDue_does (c : Controller) :
    Does ports (reportDue ports.recorded) c fun xs result c' =>
      ∃ t, xs = [.now t] ∧ result = .ok (c.timer.poll t).1 ∧ c' = c.polled t := by
  refine does_get_bind (does_request_bind ports.leaves_now ?_)
  intro xs t hxs
  subst hxs
  exact does_modify_bind (does_pure ⟨t, rfl, rfl, rfl⟩)

/-- Calls are made until one is refused. -/
theorem drawAll_leaves (calls : List Panel.Call) :
    ports.Leaves (Panel.drawAll ports.recorded.draw calls) (Draws calls) := by
  induction calls with
  | nil => exact Ports.leaves_pure .all
  | cons call calls ih =>
    refine Ports.leaves_bind (ports.leaves_draw call) ?_
    intro xs answer hxs
    subst hxs
    cases answer with
    | error e =>
      refine Ports.leaves_pure ?_
      exact .some (List.nil_append _).symm
    | ok =>
      refine ih.imp ?_
      intro xs outcome h
      cases h with
      | all => exact .all
      | @some before after refused e h =>
        exact @Draws.some _ (call :: before) after refused e (by rw [h, List.cons_append])

/-- The screen moves on if all of its frame was accepted, and only then. -/
theorem render_leaves (screen : Panel.Screen) (balance : Balance) :
    ports.Leaves (screen.render ports.recorded.draw balance) fun xs out =>
      Draws (screen.frame balance) xs out.1 ∧
        (out.1 = .ok () → out.2 = { screen with marquee := screen.marquee.advance }) ∧
        (∀ e, out.1 = .error e → out.2 = screen) := by
  refine Ports.leaves_bind (drawAll_leaves _) ?_
  intro xs outcome h
  cases outcome with
  | ok =>
    refine Ports.leaves_pure ?_
    rw [List.append_nil]
    exact ⟨h, fun _ => rfl, fun _ h => nomatch h⟩
  | error e =>
    refine Ports.leaves_pure ?_
    rw [List.append_nil]
    exact ⟨h, fun h => (nomatch h), fun _ _ => rfl⟩

/-- A report takes one of its courses. -/
theorem report_does (c : Controller) : Does ports (report ports.recorded) c (Reports c) := by
  refine does_bind (operate_does House.balance c) ?_ ?_
  · intro xs balance c' h
    cases h with
    | does h =>
      refine does_request_bind (ports.leaves_transmit _) ?_
      intro xs answer hxs
      subst hxs
      cases answer with
      | error e => exact does_throw (.unsent h)
      | ok =>
        refine does_get_bind (does_request_bind (render_leaves _ _) ?_)
        intro ys out h
        obtain ⟨outcome, screen⟩ := out
        obtain ⟨hdraws, hshown, hkept⟩ := h
        refine does_modify_bind ?_
        cases outcome with
        | error e =>
          obtain rfl := hkept e rfl
          refine does_throw ?_
          rw [List.append_nil]
          exact .unshown h hdraws
        | ok =>
          obtain rfl := hshown rfl
          refine does_pure ?_
          rw [List.append_nil]
          exact .shows h hdraws
  · intro xs halt c' h
    cases h with
    | breaks h => exact .breaks h

/-- So does obeying the next line. -/
theorem obeyNext_does (c : Controller) : Does ports (obeyNext ports.recorded) c (Obeys c) := by
  refine does_request_bind ports.leaves_receive ?_
  intro xs answer hxs
  subst hxs
  cases answer with
  | error e => exact does_throw .unread
  | ok line =>
    cases line with
    | none => exact does_pure .nothing
    | some line =>
      refine does_bind (operate_does (·.dispatch line) c) ?_ ?_
      · intro xs answer c' h
        refine does_pure ?_
        rw [List.append_nil]
        cases h with
        | does h => exact .obeys h
      · intro xs halt c' h
        cases h with
        | breaks h => exact .breaks h

/-- So does idling. -/
theorem idle_does (c : Controller) : Does ports (idle ports.recorded) c (Idles c) := by
  refine does_get_bind (does_request_bind ports.leaves_now ?_)
  intro xs t hxs
  subst hxs
  show Does ports (if 0 < c.idleFrom t then _ else _) c _
  split
  case isTrue h =>
    refine does_request_bind (ports.leaves_sleep _) ?_
    intro xs _ hxs
    subst hxs
    exact does_pure (.sleeps h)
  case isFalse h => exact does_pure (.stays h)

/-- Does some work if it is wanted. -/
def whenever {m : Type → Type} [Monad m] {α : Type} (wanted : Bool) (work : Control m α) :
    Control m (Option α) :=
  if wanted then some <$> work else pure none

/-- What is not wanted does nothing before the work that follows. -/
theorem whenever_bind {m : Type → Type} [Monad m] [LawfulMonad m] {α β : Type} (wanted : Bool)
    (work : Control m α) (next : Option α → Control m β) :
    whenever wanted work >>= next =
      if wanted then work >>= fun a => next (some a) else next none := by
  cases wanted with
  | false => exact pure_bind none next
  | true => exact bind_map_left some work next

/-- An iteration up to the question whether a report is due. -/
def opening {m : Type → Type} [Monad m] (ports : Ports m) : Control m (Presses × Bool) := do
  let presses ← sampleButtons ports
  let _ ← whenever presses.heatPump (operate ports House.pressHeatPump)
  let _ ← whenever presses.wind (operate ports House.pressWind)
  return (presses, ← reportDue ports)

/-- An iteration is a sequence of works, some of them optional. -/
theorem iterate_eq {m : Type → Type} [Monad m] [LawfulMonad m] (ports : Ports m) :
    iterate ports = do
      let (presses, due) ← opening ports
      let report ← whenever due (report ports)
      let command ← obeyNext ports
      let idled ← whenever (report.isNone && command.isNone) (idle ports)
      return { presses, report, command, idled := idled.getD 0 } := by
  simp only [iterate, opening, bind_assoc, pure_bind]
  simp only [whenever_bind, bind_map_left, Option.getD_some, Option.getD_none]

theorem whenever_does {work : Control (StateM (Recorded σ)) α} {course : Course α}
    (hwork : ∀ c, Does ports work c (course c)) (wanted : Bool) (c : Controller) :
    Does ports (whenever wanted work) c (When wanted course c) := by
  cases wanted with
  | false => exact does_pure (.skips rfl)
  | true =>
    show Does ports (some <$> work) c _
    rw [map_eq_pure_bind]
    refine does_bind (hwork c) ?_ ?_
    · intro xs a c' h
      refine does_pure ?_
      rw [List.append_nil]
      exact .does rfl h
    · intro xs halt c' h
      exact .halts rfl h

/-- The samples, the presses and the question to the timer take one of their courses. -/
theorem opening_does (c : Controller) : Does ports (opening ports.recorded) c (Opens c) := by
  refine does_bind (sampleButtons_does c) ?_ fun _ _ _ ⟨_, _, _, h, _⟩ => nomatch h
  intro xs presses c' h
  obtain ⟨heatPumpHigh, windHigh, rfl, hpresses, rfl⟩ := h
  replace hpresses := Except.ok.inj hpresses
  refine does_bind (whenever_does (operate_does House.pressHeatPump) presses.heatPump _) ?_
    fun xs halt c' hpump => .pumpBreaks hpresses hpump
  intro xs pump c₁ hpump
  refine does_bind (whenever_does (operate_does House.pressWind) presses.wind _) ?_
    fun ys _ _ hwind => @Opens.windBreaks c _ _ _ xs ys _ _ _ _ hpresses hpump hwind
  intro ys wind c₂ hwind
  refine does_bind (reportDue_does c₂) ?_ fun _ _ _ ⟨_, _, h, _⟩ => nomatch h
  intro xs due c' h
  obtain ⟨t, rfl, hdue, rfl⟩ := h
  obtain rfl := Except.ok.inj hdue
  have hopens := Opens.opens (t := t) hpresses hpump hwind
  exact does_pure
    (by simpa only [List.cons_append, List.nil_append, List.append_assoc] using hopens)

/-- **Every iteration takes one of the courses**, whatever world it happens in. -/
theorem iterate_does (c : Controller) : Does ports (iterate ports.recorded) c (Iterates c) := by
  rw [iterate_eq]
  refine does_bind (opening_does c) ?_ fun xs halt c' hopens => .unopened hopens
  intro xs out c₁ hopens
  obtain ⟨presses, due⟩ := out
  refine does_bind (whenever_does report_does due c₁) ?_
    fun ys halt c' hreport => .unreported hopens hreport
  intro ys report c₂ hreport
  refine does_bind (obeyNext_does c₂) ?_ fun zs halt c' hcommand => ?_
  · intro zs command c₃ hcommand
    refine does_bind (whenever_does idle_does _ c₃) ?_ ?_
    · intro us idled c₄ hidle
      have hdone := Iterates.completes hopens hreport hcommand hidle
      exact does_pure (by simpa only [List.append_assoc, List.append_nil] using hdone)
    · -- Idling never ends an iteration early.
      intro us halt c' hidle
      cases hidle with
      | halts _ hidle => cases hidle
  · rw [← List.append_assoc]
    exact .unobeyed hopens hreport hcommand

/-- The writes of a shutdown are made one after the other, too; it cannot end early. -/
theorem writes_leaves (writes : List Output) (c : Controller) :
    ports.Leaves
      ((forIn writes PUnit.unit fun write _ => do
        (ports.recorded.drive write : StateT Controller (StateM (Recorded σ)) Unit)
        pure (ForInStep.yield PUnit.unit)).run c)
      fun xs out => xs = writes.map .drive ∧ out.2 = c := by
  induction writes with
  | nil => exact Ports.leaves_pure ⟨rfl, rfl⟩
  | cons write writes ih =>
    rw [List.forIn_cons, bind_assoc]
    simp only [pure_bind]
    change ports.Leaves (ports.recorded.drive write >>= fun _ =>
      (forIn writes PUnit.unit _ : StateT Controller (StateM (Recorded σ)) PUnit).run c) _
    refine Ports.leaves_bind (ports.leaves_drive write) ?_
    intro xs _ hxs
    subst hxs
    refine ih.imp ?_
    intro xs out h
    obtain ⟨rfl, hc⟩ := h
    exact ⟨rfl, hc⟩

/-- A shutdown makes its writes in every world, and the controller keeps all but the house. -/
theorem shutDown_leaves (c : Controller) :
    ports.Leaves ((shutDown ports.recorded).run c) fun xs out =>
      xs = c.house.shutDown.writes.map .drive ∧
        out.2 = { c with house := c.house.shutDown.house } := by
  refine Ports.leaves_bind (writes_leaves c.house.shutDown.writes _) ?_
  intro xs out h
  obtain ⟨rfl, hc⟩ := h
  refine Ports.leaves_pure ?_
  rw [List.append_nil]
  exact ⟨rfl, hc⟩

end

end Controller

end HomeEnergy
