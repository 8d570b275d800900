import HomeEnergy.Controller.Run
import HomeEnergy.Proofs.Controller.Outcome
import HomeEnergy.Proofs.Controller.Rounds

/-!
# Runs that fail safe

A run is one round after the other under an observer, who may do to the world what he
likes between two rounds.  However a run ends, unless the observer leaves it, the outputs
are without power at its end.

* `runBeside_course` — every run is a sequence of rounds after which it went on, and a last one;
* `run_failSafe` — **a run that fails or breaks ends with the three writes of the
  shutdown, and with the error of its first failing call;** one that is left makes no
  write of its own.
-/

namespace HomeEnergy

open Exchange

/-- Work in the world of a recorded one that leaves no exchange. -/
def Ports.unrecorded {σ α : Type} (work : StateM σ α) : StateM (Recorded σ) α := fun r =>
  let (answer, world) := work.run r.world
  (answer, { r with world })

namespace Controller

/-- With a sound house no round is ever broken, whatever the world does. -/
theorem Succession.unbroken {σ : Type} {c c' : Controller} {rounds : List (Round σ)}
    (h : Succession c rounds c') (hc : c.house.Sound) :
    (∀ r ∈ rounds, Unbroken r.result) ∧ c'.house.Sound := by
  induction h with
  | nil c => exact ⟨fun _ hr => absurd hr List.not_mem_nil, hc⟩
  | cons hround _ ih =>
    rcases sustains_iterates hround hc with ⟨hsound, hunbroken⟩
    rcases ih hsound with ⟨hlater, hlast⟩
    exact ⟨List.forall_mem_cons.mpr ⟨hunbroken, hlater⟩, hlast⟩

end Controller

/-- How a run ends with an iteration that ended early. -/
def Halt.ending : Halt → Ending
  | failed e => .failed e
  | broken f => .broken f

/-- The failure that ended a run. -/
def Ending.failure? : Ending → Option ControlError
  | failed e => some e
  | _ => none

namespace Controller

section

variable {σ : Type} (ports : Ports (StateM σ)) (observe : Iteration → StateM σ Verdict)

/-- One turn, the observer of which acts on the world beside the ports. -/
def turnBeside (c : Controller) (recorded : Recorded σ) :
    (Option Ending × Controller) × Recorded σ :=
  ((turn ports.recorded fun it => Ports.unrecorded (observe it)).run c).run recorded

/-- A run of at most `n` turns, the observer of which acts on the world beside the ports. -/
def runBeside (n : Nat) (c : Controller) (recorded : Recorded σ) :
    (Option Ending × Controller) × Recorded σ :=
  ((run ports.recorded (fun it => Ports.unrecorded (observe it)) n).run c).run recorded

/-- The shutdown with which a turn ends a run. -/
def shutDownBeside (ending : Ending) (c : Controller) (recorded : Recorded σ) :
    (Option Ending × Controller) × Recorded σ :=
  ((do shutDown ports.recorded; return some ending :
    StateT Controller (StateM (Recorded σ)) (Option Ending)).run c).run recorded

/-- The ending that a round brings to a run, if any. -/
def endingAfter (r : Round σ) : Option Ending :=
  match r.result with
  | .error halt => some halt.ending
  | .ok it =>
    match ((observe it).run r.world).1 with
    | .goOn => none
    | .leave => some .left
    | .collapse text => some (.broken (.raised text))

/-- The world after a round that has been observed. -/
def observed (r : Round σ) : σ :=
  match r.result with
  | .error _ => r.world
  | .ok it => ((observe it).run r.world).2

/-- Rounds after each of which a run goes on. -/
inductive GoesOn : Controller → σ → List (Round σ) → Controller → σ → Prop
  | nil (c : Controller) (s : σ) : GoesOn c s [] c s
  | cons {c : Controller} {s : σ} {later : List (Round σ)} {c' : Controller} {s' : σ}
      (hround : endingAfter observe (round ports c s) = none)
      (hlater : GoesOn (round ports c s).controller (observed observe (round ports c s))
        later c' s') :
      GoesOn c s (round ports c s :: later) c' s'

/-- The end of a run in its last round: all stays as it is if the observer leaves, and
the house is shut down otherwise. -/
inductive Closes (last : Round σ) : Ending → List Exchange → Controller → Prop
  | left : Closes last .left last.exchanges last.controller
  | shutDown {ending : Ending} (h : ending ≠ .left) :
      Closes last ending
        (last.exchanges ++ last.controller.house.shutDown.writes.map .drive)
        (last.controller.withHouse last.controller.house.shutDown.house)

variable {ports observe}

/-- What the observer does is done before the rest, and leaves no exchange. -/
theorem run_unrecorded_bind {α β : Type} (work : StateM σ α)
    (next : α → StateT Controller (StateM (Recorded σ)) β) (c : Controller) (s : σ)
    (trace : List Exchange) :
    (((Ports.unrecorded work : StateT Controller (StateM (Recorded σ)) α) >>= next).run c).run
        ⟨s, trace⟩ =
      ((next (work.run s).1).run c).run ⟨(work.run s).2, trace⟩ := rfl

theorem shutDownBeside_eq (ending : Ending) (c : Controller) (s : σ) :
    ∃ s', ports.Path s (c.house.shutDown.writes.map .drive) s' ∧
      ∀ trace, shutDownBeside ports ending c ⟨s, trace⟩ =
        ((some ending, c.withHouse c.house.shutDown.house),
          ⟨s', trace ++ c.house.shutDown.writes.map .drive⟩) := by
  obtain ⟨_, out, s', hpath, ⟨rfl, hc⟩, hrun⟩ := @shutDown_leaves σ ports c s
  refine ⟨s', hpath, ?_⟩
  intro trace
  rw [shutDownBeside, StateT.run_bind, StateT.run_bind, hrun trace, withHouse, ← hc]
  rfl

section

variable {c : Controller} {s : σ} (trace : List Exchange)

theorem turnBeside_of_error {halt : Halt} (h : (round ports c s).result = .error halt) :
    turnBeside ports observe c ⟨s, trace⟩ =
      shutDownBeside ports halt.ending (round ports c s).controller
        ⟨(round ports c s).world, trace ++ (round ports c s).exchanges⟩ := by
  rw [turnBeside, turn, StateT.run_bind, StateT.run_bind, run_iterate, h]
  cases halt <;> rfl

theorem turnBeside_of_ok {it : Iteration} (h : (round ports c s).result = .ok it) :
    turnBeside ports observe c ⟨s, trace⟩ =
      match (observe it).run (round ports c s).world with
      | (.goOn, s') =>
        ((none, (round ports c s).controller), ⟨s', trace ++ (round ports c s).exchanges⟩)
      | (.leave, s') =>
        ((some .left, (round ports c s).controller), ⟨s', trace ++ (round ports c s).exchanges⟩)
      | (.collapse text, s') =>
        shutDownBeside ports (.broken (.raised text)) (round ports c s).controller
          ⟨s', trace ++ (round ports c s).exchanges⟩ := by
  rw [turnBeside, turn, StateT.run_bind, StateT.run_bind, run_iterate, h]
  refine (run_unrecorded_bind _ _ _ _ _).trans ?_
  cases (observe it).run (round ports c s).world with
  | mk verdict s' => cases verdict <;> rfl

end

/-- A turn that ends with a shutdown closes its round. -/
theorem closes_of_shutDown {c : Controller} {s s₁ : σ} {ending : Ending} (hne : ending ≠ .left)
    (hturn : ∀ trace, turnBeside ports observe c ⟨s, trace⟩ =
      shutDownBeside ports ending (round ports c s).controller
        ⟨s₁, trace ++ (round ports c s).exchanges⟩) :
    ∃ xs c' s', Closes (round ports c s) ending xs c' ∧ (∃ ys, ports.Path s₁ ys s') ∧
      ∀ trace,
        turnBeside ports observe c ⟨s, trace⟩ = ((some ending, c'), ⟨s', trace ++ xs⟩) := by
  obtain ⟨s', hpath, hshutDown⟩ :=
    @shutDownBeside_eq σ ports ending (round ports c s).controller s₁
  refine ⟨_, _, s', .shutDown hne, ⟨_, hpath⟩, ?_⟩
  intro trace
  rw [hturn, hshutDown, List.append_assoc]

/-- A turn is a round and its observation, and closes the round if the run ends with it. -/
theorem turnBeside_course (c : Controller) (s : σ) :
    match endingAfter observe (round ports c s) with
    | none => ∀ trace, turnBeside ports observe c ⟨s, trace⟩ =
        ((none, (round ports c s).controller),
          ⟨observed observe (round ports c s), trace ++ (round ports c s).exchanges⟩)
    | some ending => ∃ xs c' s', Closes (round ports c s) ending xs c' ∧
        (∃ ys, ports.Path (observed observe (round ports c s)) ys s') ∧ ∀ trace,
          turnBeside ports observe c ⟨s, trace⟩ = ((some ending, c'), ⟨s', trace ++ xs⟩) := by
  cases hresult : (round ports c s).result with
  | error halt =>
    have hending : endingAfter observe (round ports c s) = some halt.ending := by
      rw [endingAfter, hresult]
    have hobserved : observed observe (round ports c s) = (round ports c s).world := by
      rw [observed, hresult]
    rw [hending, hobserved]
    refine closes_of_shutDown ?_ fun trace => turnBeside_of_error trace hresult
    cases halt <;> exact nofun
  | ok it =>
    have hturn (trace : List Exchange) := @turnBeside_of_ok σ ports observe c s trace it hresult
    obtain ⟨verdict, s', hverdict⟩ :
        ∃ verdict s', (observe it).run (round ports c s).world = (verdict, s') := ⟨_, _, rfl⟩
    rw [hverdict] at hturn
    simp only [endingAfter, observed, hresult, hverdict]
    cases verdict with
    | goOn => exact hturn
    | leave => exact ⟨_, _, s', .left, ⟨[], .nil s'⟩, hturn⟩
    | collapse text => exact closes_of_shutDown nofun hturn

theorem runBeside_succ_of_none {n : Nat} {c c' : Controller} {recorded recorded' : Recorded σ}
    (hturn : turnBeside ports observe c recorded = ((none, c'), recorded')) :
    runBeside ports observe (n + 1) c recorded = runBeside ports observe n c' recorded' := by
  rw [turnBeside] at hturn
  rw [runBeside, run, StateT.run_bind, StateT.run_bind, hturn]
  rfl

theorem runBeside_succ_of_some {n : Nat} {c c' : Controller} {recorded recorded' : Recorded σ}
    {ending : Ending} (hturn : turnBeside ports observe c recorded = ((some ending, c'), recorded')) :
    runBeside ports observe (n + 1) c recorded = ((some ending, c'), recorded') := by
  rw [turnBeside] at hturn
  rw [runBeside, run, StateT.run_bind, StateT.run_bind, hturn]
  rfl

/-- **Every run is a sequence of rounds after which it went on**, closed by a last one if
it has ended.  After that, the world has gone along with what the shutdown did to it. -/
theorem runBeside_course (n : Nat) (c : Controller) (s : σ) :
    ∃ rounds c₁ s₁, GoesOn ports observe c s rounds c₁ s₁ ∧
      ((rounds.length = n ∧ ∀ trace, runBeside ports observe n c ⟨s, trace⟩ =
        ((none, c₁), ⟨s₁, trace ++ exchangesOf rounds⟩)) ∨
      (rounds.length < n ∧ ∃ ending xs c' s',
        endingAfter observe (round ports c₁ s₁) = some ending ∧
        Closes (round ports c₁ s₁) ending xs c' ∧
        (∃ ys, ports.Path (observed observe (round ports c₁ s₁)) ys s') ∧
        ∀ trace, runBeside ports observe n c ⟨s, trace⟩ =
          ((some ending, c'), ⟨s', trace ++ exchangesOf rounds ++ xs⟩))) := by
  induction n generalizing c s with
  | zero =>
    refine ⟨[], c, s, .nil c s, .inl ⟨rfl, ?_⟩⟩
    intro trace
    rw [exchangesOf_nil, List.append_nil]
    rfl
  | succ n ih =>
    have hturn := @turnBeside_course σ ports observe c s
    cases hending : endingAfter observe (round ports c s) with
    | none =>
      rw [hending] at hturn
      obtain ⟨rounds, c₁, s₁, hrounds, hrest⟩ :=
        ih (round ports c s).controller (observed observe (round ports c s))
      have hrun (trace : List Exchange) := runBeside_succ_of_none (n := n) (hturn trace)
      refine ⟨round ports c s :: rounds, c₁, s₁, .cons hending hrounds, ?_⟩
      rw [List.length_cons]
      rcases hrest with
        ⟨hlength, hlater⟩ | ⟨hlength, ending, xs, c', s', hlast, hcloses, hpath, hlater⟩
      · refine .inl ⟨by omega, ?_⟩
        intro trace
        rw [hrun, hlater, List.append_assoc]
        rfl
      · refine .inr ⟨by omega, ending, xs, c', s', hlast, hcloses, hpath, ?_⟩
        intro trace
        rw [hrun, hlater, List.append_assoc trace]
        rfl
    | some ending =>
      rw [hending] at hturn
      obtain ⟨xs, c', s', hcloses, hpath, hrun⟩ := hturn
      refine ⟨[], c, s, .nil c s,
        .inr ⟨Nat.succ_pos n, ending, xs, c', s', hending, hcloses, hpath, ?_⟩⟩
      intro trace
      rw [exchangesOf_nil, List.append_nil]
      exact runBeside_succ_of_some (hrun trace)

/-- The rounds of a run succeed one another. -/
theorem GoesOn.succession {c c' : Controller} {s s' : σ} {rounds : List (Round σ)}
    (h : GoesOn ports observe c s rounds c' s') : Succession c rounds c' := by
  induction h with
  | nil c s => exact .nil c
  | @cons c s _ _ _ _ _ ih => exact .cons (iterates_round ports c s) ih

/-- A round has met the failure with which it ends a run, and no other. -/
theorem failures_round (c : Controller) (s : σ) :
    failures (round ports c s).exchanges =
      ((endingAfter observe (round ports c s)).bind Ending.failure?).toList := by
  have hfailures := (iterates_round ports c s).failures_eq
  rw [hfailures, endingAfter]
  cases (round ports c s).result with
  | error halt => cases halt <;> rfl
  | ok it =>
    dsimp only
    cases ((observe it).run (round ports c s).world).1 <;> rfl

/-- While a run goes on, nothing has failed. -/
theorem GoesOn.failures_eq {c c' : Controller} {s s' : σ} {rounds : List (Round σ)}
    (h : GoesOn ports observe c s rounds c' s') : failures (exchangesOf rounds) = [] := by
  induction h with
  | nil => rfl
  | @cons c s later c' s' hround hlater ih =>
    have hfirst := @failures_round σ ports observe c s
    rw [hround] at hfirst
    rw [exchangesOf_cons, failures_append, hfirst]
    exact ih

/-- What a run leaves that has made the exchanges `earlier` up to its ending, and whose
controller is then `last`. -/
structure Ended (last : Controller) (earlier : List Exchange) (ending : Ending)
    (c' : Controller) (trace : List Exchange) : Prop where
  left (h : ending = .left) : c' = last ∧ trace = earlier
  /-- The three writes of the shutdown are the last ones. -/
  trace_eq (h : ending ≠ .left) :
    trace = earlier ++ [.drive (.duty 0), .drive (.pixels [.dark]), .drive (.lamp false)]
  outputs_eq (h : ending ≠ .left) (a : Actuators) :
    a.writeAll (writes trace) = { lampHigh := false, frame := [.dark], duty := 0 }
  lamp_eq (h : ending ≠ .left) : c'.house.lamp = { last.house.lamp with isOn := false }
  heatPump_eq (h : ending ≠ .left) :
    c'.house.heatPump = { last.house.heatPump with level := 0 }
  turbine_eq : c'.house.turbine = last.house.turbine
  battery_eq : c'.house.battery = last.house.battery
  /-- Another shutdown changes nothing. -/
  again (h : ending ≠ .left) : c'.house.shutDown.house = c'.house

theorem Closes.ended {r : Round σ} {ending : Ending} {xs : List Exchange} {c' : Controller}
    (h : Closes r ending xs c') (before : List Exchange) :
    Ended r.controller (before ++ r.exchanges) ending c' (before ++ xs) := by
  cases h with
  | left =>
    exact {
      left := fun _ => ⟨rfl, rfl⟩
      trace_eq := fun h => absurd rfl h
      outputs_eq := fun h => absurd rfl h
      lamp_eq := fun h => absurd rfl h
      heatPump_eq := fun h => absurd rfl h
      turbine_eq := rfl
      battery_eq := rfl
      again := fun h => absurd rfl h }
  | shutDown hne =>
    have htrace : before ++ (r.exchanges ++ r.controller.house.shutDown.writes.map .drive) =
        before ++ r.exchanges ++
          [.drive (.duty 0), .drive (.pixels [.dark]), .drive (.lamp false)] :=
      (List.append_assoc before r.exchanges _).symm
    exact {
      left := fun h => absurd h hne
      trace_eq := fun _ => htrace
      outputs_eq := fun _ a => by
        rw [htrace, writes_append, Actuators.writeAll_append]
        rfl
      lamp_eq := fun _ => rfl
      heatPump_eq := fun _ => rfl
      turbine_eq := rfl
      battery_eq := rfl
      again := fun _ => rfl }

/-- The shutdown makes no call that can fail. -/
theorem Closes.failures_eq {r : Round σ} {ending : Ending} {xs : List Exchange}
    {c' : Controller} (h : Closes r ending xs c') : failures xs = failures r.exchanges := by
  cases h with
  | left => rfl
  | shutDown hne => rw [failures_append, failures_drives, List.append_nil]

/-- **A run fails safe.**  It goes on round after round until one of them ends it: because
a call has failed, or something has broken, in the iteration or in the observer, or because
the observer leaves.  The ending reports the failure of the first call that failed.
Unless the observer has left, the shutdown then makes the last writes, and all outputs are
off; what the lamp and the heat pump are at follows, and nothing else of the house. -/
theorem run_failSafe (n : Nat) (c : Controller) (s : σ) :
    ∃ rounds c₁ s₁, GoesOn ports observe c s rounds c₁ s₁ ∧
      ((rounds.length = n ∧
        runBeside ports observe n c ⟨s, []⟩ = ((none, c₁), ⟨s₁, exchangesOf rounds⟩)) ∨
      (rounds.length < n ∧ ∃ ending c' s' trace,
        runBeside ports observe n c ⟨s, []⟩ = ((some ending, c'), ⟨s', trace⟩) ∧
        endingAfter observe (round ports c₁ s₁) = some ending ∧
        failures trace = ending.failure?.toList ∧
        Ended (round ports c₁ s₁).controller (exchangesOf (rounds ++ [round ports c₁ s₁]))
          ending c' trace)) := by
  obtain ⟨rounds, c₁, s₁, hrounds, hrest⟩ := @runBeside_course σ ports observe n c s
  refine ⟨rounds, c₁, s₁, hrounds, ?_⟩
  rcases hrest with ⟨hlength, hrun⟩ | ⟨hlength, ending, xs, c', s', hending, hcloses, -, hrun⟩
  · exact .inl ⟨hlength, hrun []⟩
  · have hlast := @failures_round σ ports observe c₁ s₁
    have hended := hcloses.ended (exchangesOf rounds)
    refine .inr ⟨hlength, ending, c', s', exchangesOf rounds ++ xs, hrun [], hending, ?_, ?_⟩
    · rw [failures_append, hrounds.failures_eq, hcloses.failures_eq, hlast, hending]
      rfl
    · rw [exchangesOf_concat]
      exact hended

end

end Controller

end HomeEnergy
