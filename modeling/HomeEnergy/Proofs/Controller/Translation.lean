import HomeEnergy.Proofs.Controller.FailSafe

/-!
# Work in one world as work in another

The controller is written for any monad with ports.  So a translation of one monad into another
takes what it does over some ports to what it does over the translated ports.  One use of this:
an observer may keep a state of its own beside the ports, and the run is then the same as one
whose observer keeps that state in the world.

* `Carries` — work in two monads, of which the one is the translation of the other;
* `iterate_carries`, `thenShutDown_carries` — the controller's work is carried over;
* `thenShutDown_merge` — **a run beside a state is a run in the world with that state;**
* `runAndShutDown_course` — what comes of such a run and the shutdown after it.
-/

namespace HomeEnergy

/-- A translation of work in one monad into work in another, step by step. -/
structure Translation (m n : Type → Type) [Monad m] [Monad n] where
  map {α : Type} : m α → n α
  map_pure {α : Type} (a : α) : map (pure a : m α) = pure a
  map_bind {α β : Type} (work : m α) (next : α → m β) :
    map (work >>= next) = map work >>= fun a => map (next a)

section

variable {m n : Type → Type} [Monad m] [Monad n] (φ : Translation m n)

/-- The ports with every request translated. -/
def Ports.translate (ports : Ports m) : Ports n where
  heatPumpHigh := φ.map ports.heatPumpHigh
  windHigh := φ.map ports.windHigh
  now := φ.map ports.now
  sleep ms := φ.map (ports.sleep ms)
  receive := φ.map ports.receive
  transmit line := φ.map (ports.transmit line)
  draw call := φ.map (ports.draw call : m _)
  drive write := φ.map (ports.drive write)

/-- Work with a state whose translation is this other work with that state. -/
def Carries {κ α : Type} (work : StateT κ m α) (work' : StateT κ n α) : Prop :=
  ∀ k, work'.run k = φ.map (work.run k)

/-- Work with a state and errors, whose translation is this other work. -/
def CarriesHalting {κ ε α : Type} (work : ExceptT ε (StateT κ m) α)
    (work' : ExceptT ε (StateT κ n) α) : Prop :=
  Carries φ work.run work'.run

variable {φ} {κ ε α β : Type}

theorem carries_pure (a : α) : Carries φ (pure a : StateT κ m α) (pure a) :=
  fun k => (φ.map_pure (a, k)).symm

theorem carries_get : Carries φ (get : StateT κ m κ) get :=
  fun k => (φ.map_pure (k, k)).symm

theorem carries_modify (f : κ → κ) : Carries φ (modify f : StateT κ m PUnit) (modify f) :=
  fun k => (φ.map_pure (PUnit.unit, f k)).symm

/-- Work after work is carried over, if both are. -/
theorem Carries.bind {work : StateT κ m α} {work' : StateT κ n α} {next : α → StateT κ m β}
    {next' : α → StateT κ n β} (hwork : Carries φ work work')
    (hnext : ∀ a, Carries φ (next a) (next' a)) :
    Carries φ (work >>= next) (work' >>= next') := by
  intro k
  rw [StateT.run_bind, StateT.run_bind, φ.map_bind, hwork k]
  exact congrArg _ (funext fun out => hnext out.1 out.2)

/-- A request that leaves the state alone is translated as it is. -/
theorem carries_request (request : m α) :
    Carries φ (request : StateT κ m α) (φ.map request : StateT κ n α) := by
  intro k
  show (φ.map request >>= fun a => pure (a, k)) = φ.map (request >>= fun a => pure (a, k))
  rw [φ.map_bind]
  exact congrArg _ (funext fun a => (φ.map_pure (a, k)).symm)

theorem carriesHalting_pure (a : α) :
    CarriesHalting φ (pure a : ExceptT ε (StateT κ m) α) (pure a) :=
  fun k => (φ.map_pure (Except.ok a, k)).symm

/-- An early end needs no translation. -/
theorem carriesHalting_throw (e : ε) :
    CarriesHalting φ (throw e : ExceptT ε (StateT κ m) α) (throw e) :=
  fun k => (φ.map_pure (Except.error e, k)).symm

/-- Nothing is done after an error. -/
theorem carriesHalting_throw_bind [LawfulMonad m] [LawfulMonad n] (e : ε)
    (next : α → ExceptT ε (StateT κ m) β) (next' : α → ExceptT ε (StateT κ n) β) :
    CarriesHalting φ (throw e >>= next) (throw e >>= next') := by
  intro k
  show (pure (Except.error e, k) >>= _) = φ.map (pure (Except.error e, k) >>= _)
  rw [pure_bind, pure_bind]
  exact (φ.map_pure _).symm

/-- Work after work is carried over, also if the first of the two can end early. -/
theorem CarriesHalting.bind {work : ExceptT ε (StateT κ m) α} {work' : ExceptT ε (StateT κ n) α}
    {next : α → ExceptT ε (StateT κ m) β} {next' : α → ExceptT ε (StateT κ n) β}
    (hwork : CarriesHalting φ work work') (hnext : ∀ a, CarriesHalting φ (next a) (next' a)) :
    CarriesHalting φ (work >>= next) (work' >>= next') := by
  refine Carries.bind hwork ?_
  intro result
  cases result with
  | error e => exact carriesHalting_throw e
  | ok a => exact hnext a

/-- Work that cannot end early, among work that can. -/
theorem Carries.halting {work : StateT κ m α} {work' : StateT κ n α}
    (hwork : Carries φ work work') :
    CarriesHalting φ (work : ExceptT ε (StateT κ m) α) (work' : ExceptT ε (StateT κ n) α) := by
  intro k
  show (work'.run k >>= fun out => pure (Except.ok out.1, out.2)) =
    φ.map (work.run k >>= fun out => pure (Except.ok out.1, out.2))
  rw [φ.map_bind, hwork k]
  exact congrArg _ (funext fun out => (φ.map_pure (Except.ok out.1, out.2)).symm)

theorem carriesHalting_get : CarriesHalting φ (get : ExceptT ε (StateT κ m) κ) get :=
  carries_get.halting

theorem carriesHalting_modify (f : κ → κ) :
    CarriesHalting φ (modify f : ExceptT ε (StateT κ m) PUnit) (modify f) :=
  (carries_modify f).halting

theorem carriesHalting_request (request : m α) :
    CarriesHalting φ (request : ExceptT ε (StateT κ m) α)
      (φ.map request : ExceptT ε (StateT κ n) α) :=
  (carries_request request).halting

end

/-- What relates the steps of two loops over a list relates the loops, if it relates returns
and what is put together of related work. -/
theorem related_forIn {m n : Type → Type} [Monad m] [Monad n]
    {related : {α : Type} → m α → n α → Prop}
    (hpure : ∀ {α : Type} (a : α), related (pure a : m α) (pure a))
    (hbind : ∀ {α β : Type} {work : m α} {work' : n α} {next : α → m β} {next' : α → n β},
      related work work' → (∀ a, related (next a) (next' a)) →
        related (work >>= next) (work' >>= next'))
    {α β : Type} {as : List α} {b : β} {f : α → β → m (ForInStep β)}
    {f' : α → β → n (ForInStep β)} (h : ∀ a b, related (f a b) (f' a b)) :
    related (forIn as b f) (forIn as b f') := by
  induction as generalizing b with
  | nil => exact hpure b
  | cons a as ih =>
    rw [List.forIn_cons, List.forIn_cons]
    apply hbind (h a b)
    intro step
    cases step with
    | done b => exact hpure b
    | yield b => exact ih

section

variable {m n : Type → Type} [Monad m] [Monad n] (φ : Translation m n) (ports : Ports m)

/-- The calls to the panel stop at the first refused one in both worlds. -/
theorem drawAll_translate (calls : List Panel.Call) :
    Panel.drawAll (ports.translate φ).draw calls = φ.map (Panel.drawAll ports.draw calls) := by
  induction calls with
  | nil => exact (φ.map_pure _).symm
  | cons call calls ih =>
    rw [Panel.drawAll, Panel.drawAll, φ.map_bind]
    refine congrArg _ (funext fun answer => ?_)
    cases answer with
    | ok => exact ih
    | error e => exact (φ.map_pure _).symm

/-- A screen is rendered over the translated ports as over the ports. -/
theorem render_translate (screen : Panel.Screen) (b : Balance) :
    screen.render (ports.translate φ).draw b = φ.map (screen.render ports.draw b) := by
  rw [Panel.Screen.render, Panel.Screen.render, φ.map_bind, drawAll_translate]
  refine congrArg _ (funext fun outcome => ?_)
  cases outcome with
  | ok => exact (φ.map_pure _).symm
  | error e => exact (φ.map_pure _).symm

end

namespace Controller

variable {m n : Type → Type} [Monad m] [Monad n] {φ : Translation m n} {α : Type}
  (ports : Ports m)

/-- A shutdown is carried over. -/
theorem shutDown_carries : Carries φ (shutDown ports) (shutDown (ports.translate φ)) := by
  refine carries_get.bind fun c => ?_
  refine (carries_modify _).bind fun _ => ?_
  refine Carries.bind ?_ fun _ => carries_pure _
  apply related_forIn carries_pure Carries.bind
  intro write _
  exact (carries_request (ports.drive write)).bind fun _ => carries_pure _

/-- An operation is carried over with its writes. -/
theorem operate_carries (operation : House → Except Fault (Done α)) :
    CarriesHalting φ (operate ports operation) (operate (ports.translate φ) operation) := by
  refine carriesHalting_get.bind fun c => ?_
  cases operation c.house with
  | error f => exact carriesHalting_throw _
  | ok done =>
    refine (carriesHalting_modify _).bind fun _ => ?_
    refine CarriesHalting.bind ?_ fun _ => carriesHalting_pure _
    apply related_forIn carriesHalting_pure CarriesHalting.bind
    intro write _
    exact (carriesHalting_request (ports.drive write)).bind fun _ => carriesHalting_pure _

theorem sampleButtons_carries :
    CarriesHalting φ (sampleButtons ports) (sampleButtons (ports.translate φ)) := by
  refine (carriesHalting_request ports.heatPumpHigh).bind fun heatPumpHigh => ?_
  refine (carriesHalting_request ports.windHigh).bind fun windHigh => ?_
  refine carriesHalting_get.bind fun c => ?_
  exact (carriesHalting_modify _).bind fun _ => carriesHalting_pure _

theorem reportDue_carries :
    CarriesHalting φ (reportDue ports) (reportDue (ports.translate φ)) := by
  refine carriesHalting_get.bind fun c => ?_
  refine (carriesHalting_request ports.now).bind fun t => ?_
  exact (carriesHalting_modify _).bind fun _ => carriesHalting_pure _

theorem idle_carries : CarriesHalting φ (idle ports) (idle (ports.translate φ)) := by
  refine carriesHalting_get.bind fun c => ?_
  refine (carriesHalting_request ports.now).bind fun t => ?_
  by_cases h : 0 < min c.idleDelay (c.timer.remaining t)
  · rw [if_pos h, if_pos h]
    exact (carriesHalting_request (ports.sleep _)).bind fun _ => carriesHalting_pure _
  · rw [if_neg h, if_neg h]
    exact carriesHalting_pure _

theorem obeyNext_carries : CarriesHalting φ (obeyNext ports) (obeyNext (ports.translate φ)) := by
  refine (carriesHalting_request ports.receive).bind fun answer => ?_
  match answer with
  | .error e => exact carriesHalting_throw _
  | .ok none => exact carriesHalting_pure _
  | .ok (some line) =>
    exact (operate_carries ports (·.dispatch line)).bind fun _ => carriesHalting_pure _

variable [LawfulMonad m] [LawfulMonad n]

/-- A report is carried over, whichever of its calls fails. -/
theorem report_carries : CarriesHalting φ (report ports) (report (ports.translate φ)) := by
  refine (operate_carries ports House.balance).bind fun balance => ?_
  refine (carriesHalting_request (ports.transmit _)).bind fun answer => ?_
  cases answer with
  | error e => exact carriesHalting_throw_bind _ _ _
  | ok =>
    refine carriesHalting_get.bind fun c => ?_
    rw [render_translate]
    refine (carriesHalting_request (c.screen.render ports.draw balance)).bind fun out => ?_
    refine (carriesHalting_modify _).bind fun _ => ?_
    cases out.1 with
    | error e => exact carriesHalting_throw_bind _ _ _
    | ok => exact carriesHalting_pure _

/-- Optional work is carried over. -/
theorem whenever_carries {work : Control m α} {work' : Control n α} (wanted : Bool)
    (h : CarriesHalting φ work work') :
    CarriesHalting φ (whenever wanted work) (whenever wanted work') := by
  cases wanted with
  | false => exact carriesHalting_pure none
  | true =>
    show CarriesHalting φ (some <$> work) (some <$> work')
    rw [map_eq_pure_bind, map_eq_pure_bind]
    exact h.bind fun a => carriesHalting_pure (some a)

theorem opening_carries : CarriesHalting φ (opening ports) (opening (ports.translate φ)) := by
  refine (sampleButtons_carries ports).bind fun presses => ?_
  refine (whenever_carries presses.heatPump (operate_carries ports _)).bind fun _ => ?_
  refine (whenever_carries presses.wind (operate_carries ports _)).bind fun _ => ?_
  exact (reportDue_carries ports).bind fun due => carriesHalting_pure _

/-- **An iteration over translated ports is the translated iteration.** -/
theorem iterate_carries :
    CarriesHalting φ (iterate ports) (iterate (ports.translate φ)) := by
  rw [iterate_eq, iterate_eq]
  refine (opening_carries ports).bind fun (presses, due) => ?_
  refine (whenever_carries due (report_carries ports)).bind fun report => ?_
  refine (obeyNext_carries ports).bind fun command => ?_
  exact (whenever_carries _ (idle_carries ports)).bind fun idled => carriesHalting_pure _

variable (observe : Iteration → m Verdict)

/-- A turn is carried over with what its observer says. -/
theorem turn_carries :
    Carries φ (turn ports observe)
      (turn (ports.translate φ) fun it => φ.map (observe it)) := by
  refine Carries.bind (iterate_carries ports) fun result => ?_
  cases result with
  | error halt =>
    cases halt with
    | failed e => exact (shutDown_carries ports).bind fun _ => carries_pure _
    | broken f => exact (shutDown_carries ports).bind fun _ => carries_pure _
  | ok it =>
    refine (carries_request (observe it)).bind fun verdict => ?_
    cases verdict with
    | goOn => exact carries_pure none
    | leave => exact carries_pure (some Ending.left)
    | collapse text => exact (shutDown_carries ports).bind fun _ => carries_pure _

/-- A run is carried over turn by turn. -/
theorem run_carries (k : Nat) :
    Carries φ (run ports observe k)
      (run (ports.translate φ) (fun it => φ.map (observe it)) k) := by
  induction k with
  | zero => exact carries_pure none
  | succ k ih =>
    refine (turn_carries ports observe).bind fun ending => ?_
    cases ending with
    | none => exact ih
    | some ending => exact carries_pure (some ending)

/-- **A run and its shutdown are carried over.** -/
theorem thenShutDown_carries (k : Nat) :
    Carries φ (thenShutDown ports (run ports observe k))
      (thenShutDown (ports.translate φ)
        (run (ports.translate φ) (fun it => φ.map (observe it)) k)) := by
  refine (run_carries ports observe k).bind fun ending => ?_
  exact (shutDown_carries ports).bind fun _ => carries_pure ending

end Controller

/-! ## A state beside the ports as a part of the world -/

section

variable {σ : Type} (τ : Type)

/-- Work in a recorded world with a state beside it, as work in the world with that state. -/
def Ports.merge : Translation (StateT τ (StateM (Recorded σ))) (StateM (Recorded (σ × τ))) where
  map work := fun r =>
    let out := (work.run r.world.2).run ⟨r.world.1, r.trace⟩
    (out.1.1, ⟨(out.2.world, out.1.2), out.2.trace⟩)
  map_pure _ := rfl
  map_bind _ _ := rfl

/-- The same ports into the world with a state that none of them touches. -/
def Ports.paired (ports : Ports (StateM σ)) : Ports (StateM (σ × τ)) :=
  ports.translate {
    map := fun work w => let (a, s) := work.run w.1; (a, (s, w.2))
    map_pure := fun _ => rfl
    map_bind := fun _ _ => rfl }

variable (ports : Ports (StateM σ))

/-- Recording comes to the same before and after a state is put into the world. -/
theorem Ports.translate_merge :
    (ports.recorded.beside τ).translate (merge τ) = (ports.paired τ).recorded := rfl

variable {τ ports}

/-- What work does with its state in the world, it does with its state beside the ports. -/
theorem Ports.run_of_merge {α : Type} {work : StateT τ (StateM (Recorded σ)) α} {a : α}
    {s s' : σ} {t t' : τ} {trace trace' : List Exchange}
    (h : ((merge τ).map work).run ⟨(s, t), trace⟩ = (a, ⟨(s', t'), trace'⟩)) :
    (work.run t).run ⟨s, trace⟩ = ((a, t'), ⟨s', trace'⟩) := by
  have hout : ∀ out, (work.run t).run ⟨s, trace⟩ = out →
      (out.1.1, Recorded.mk (out.2.world, out.1.2) out.2.trace) = (a, ⟨(s', t'), trace'⟩) := by
    rintro _ rfl
    exact h
  rcases hwork : (work.run t).run ⟨s, trace⟩ with ⟨⟨b, u⟩, ⟨world, later⟩⟩
  cases hout _ hwork
  rfl

/-- What work with a state does in the world with that state. -/
theorem Ports.merge_apply {α : Type} {work : StateT τ (StateM (Recorded σ)) α}
    {r : Recorded (σ × τ)} {outcome : StateM (Recorded σ) (α × τ)}
    (h : work.run r.world.2 = outcome) :
    (merge τ).map work r =
      let out := outcome.run ⟨r.world.1, r.trace⟩
      (out.1.1, ⟨(out.2.world, out.1.2), out.2.trace⟩) := by
  rw [← h]
  rfl

/-- Work that records nothing leaves the record as it is. -/
theorem Ports.unrecorded_apply {α : Type} {work : StateM σ α} {r : Recorded σ} {a : α} {s : σ}
    (h : work.run r.world = (a, s)) : unrecorded work r = (a, { r with world := s }) :=
  congrArg (fun out : α × σ => (out.1, ({ r with world := out.2 } : Recorded σ))) h

/-- Nothing at the ports touches the state beside the world. -/
theorem Ports.takes_paired_iff {w w' : σ × τ} {x : Exchange} :
    (ports.paired τ).Takes w x w' ↔ ports.Takes w.1 x w'.1 ∧ w'.2 = w.2 := by
  have hpair {a : Exchange} {s : σ} {t : τ} :
      (a, (s, t)) = (x, w') ↔ (a, s) = (x, w'.1) ∧ w'.2 = t := by
    simp only [Prod.ext_iff, and_assoc, eq_comm (a := t)]
  cases x <;> exact hpair

/-- A world goes along with the same exchanges without the state beside it. -/
theorem Ports.Path.unpaired {w w' : σ × τ} {xs : List Exchange}
    (h : (ports.paired τ).Path w xs w') : ports.Path w.1 xs w'.1 ∧ w'.2 = w.2 := by
  induction h with
  | nil w => exact ⟨.nil w.1, rfl⟩
  | cons head tail ih =>
    rcases takes_paired_iff.mp head with ⟨hhead, hsame⟩
    exact ⟨.cons hhead ih.1, ih.2.trans hsame⟩

end

namespace Controller

variable {σ τ : Type} {ports : Ports (StateM σ)}

/-- The controller after a shutdown. -/
def off (c : Controller) : Controller := c.withHouse c.house.shutDown.house

/-- What a shutdown does to the world. -/
def offWrites (c : Controller) : List Exchange := c.house.shutDown.writes.map .drive

variable (ports) in
theorem thenShutDown_of_run {α : Type} {work : StateT Controller (StateM (Recorded σ)) α}
    {c c' : Controller} {r : Recorded σ} {a : α} {s' : σ} {trace : List Exchange}
    (h : (work.run c).run r = ((a, c'), ⟨s', trace⟩)) :
    ∃ s'', ports.Path s' c'.offWrites s'' ∧
      ((thenShutDown ports.recorded work).run c).run r =
        ((a, c'.off), ⟨s'', trace ++ c'.offWrites⟩) := by
  rcases @shutDown_leaves σ ports c' s' with ⟨_, out, s'', hpath, ⟨rfl, hc⟩, hrun⟩
  refine ⟨s'', hpath, ?_⟩
  rw [thenShutDown, StateT.run_bind, StateT.run_bind, h]
  show ((do shutDown ports.recorded; return a :
    StateT Controller (StateM (Recorded σ)) α).run c').run ⟨s', trace⟩ = _
  rw [StateT.run_bind, StateT.run_bind, hrun trace, off, withHouse, ← hc]
  rfl

section

variable {observe : Iteration → StateT τ (StateM (Recorded σ)) Verdict}
  {look : Iteration → StateM (σ × τ) Verdict}
  (hlook : ∀ it, (Ports.merge τ).map (observe it) = Ports.unrecorded (look it))

include hlook

/-- **A run whose observer has a state beside the ports is a run in the world with that
state.** -/
theorem thenShutDown_merge (k : Nat) (c : Controller) :
    (Ports.merge τ).map
        ((thenShutDown (ports.recorded.beside τ) (run (ports.recorded.beside τ) observe k)).run c) =
      (thenShutDown (ports.paired τ).recorded
        (run (ports.paired τ).recorded (fun it => Ports.unrecorded (look it)) k)).run c := by
  have hcarried := @thenShutDown_carries _ _ _ _ (Ports.merge τ) (ports.recorded.beside τ) _ _
    observe k c
  rw [Ports.translate_merge, funext hlook] at hcarried
  exact hcarried.symm

variable (ports) in
omit hlook in
/-- What comes of a run of at most `k` turns and the shutdown after it, for an observer with a
state beside the ports. -/
def runAndShutDown (observe : Iteration → StateT τ (StateM (Recorded σ)) Verdict) (k : Nat)
    (c : Controller) (t : τ) (r : Recorded σ) : ((Option Ending × Controller) × τ) × Recorded σ :=
  (((thenShutDown (ports.recorded.beside τ) (run (ports.recorded.beside τ) observe k)).run
    c).run t).run r

/-- The course of such a run and its shutdown: rounds after which it went on, and a last one
if it has ended.  The observer's state at the end is the one that he had after the last round. -/
theorem runAndShutDown_course (k : Nat) (c : Controller) (s : σ) (t : τ)
    (before : List Exchange) :
    ∃ rounds c₁ w₁, GoesOn (ports.paired τ) look c (s, t) rounds c₁ w₁ ∧
      ((rounds.length = k ∧ ∃ s', runAndShutDown ports observe k c t ⟨s, before⟩ =
        (((none, c₁.off), w₁.2), ⟨s', before ++ exchangesOf rounds ++ c₁.offWrites⟩)) ∨
      (rounds.length < k ∧ ∃ ending xs c' s',
        endingAfter look (round (ports.paired τ) c₁ w₁) = some ending ∧
        Closes (round (ports.paired τ) c₁ w₁) ending xs c' ∧
        runAndShutDown ports observe k c t ⟨s, before⟩ =
          (((some ending, c'.off), (observed look (round (ports.paired τ) c₁ w₁)).2),
            ⟨s', before ++ exchangesOf rounds ++ xs ++ c'.offWrites⟩))) := by
  have hmerge := @thenShutDown_merge σ τ ports observe look hlook k c
  rcases @runBeside_course _ (ports.paired τ) look k c (s, t) with
    ⟨rounds, c₁, w₁, hrounds, hrest⟩
  refine ⟨rounds, c₁, w₁, hrounds, ?_⟩
  rcases hrest with ⟨hlength, hrun⟩ | ⟨hlength, ending, xs, c', w', hending, hcloses, hpath, hrun⟩
  · rcases thenShutDown_of_run (ports.paired τ) (hrun before) with ⟨⟨s', t'⟩, hoff, hall⟩
    have hsame : t' = w₁.2 := hoff.unpaired.2
    refine .inl ⟨hlength, s', Ports.run_of_merge ?_⟩
    rw [hmerge, ← hsame]
    exact hall
  · rcases thenShutDown_of_run (ports.paired τ) (hrun before) with ⟨⟨s', t'⟩, hoff, hall⟩
    rcases hpath with ⟨ys, hys⟩
    have hsame : t' = (observed look (round (ports.paired τ) c₁ w₁)).2 :=
      hoff.unpaired.2.trans hys.unpaired.2
    refine .inr ⟨hlength, ending, xs, c', s', hending, hcloses, Ports.run_of_merge ?_⟩
    rw [hmerge, ← hsame]
    exact hall

end

end Controller

end HomeEnergy
