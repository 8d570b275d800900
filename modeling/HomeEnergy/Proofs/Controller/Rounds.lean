import HomeEnergy.Proofs.Controller.Work

/-!
# Rounds

One round is one iteration in a world, with the exchanges it made.  A controller that is
iterated again and again, failed iterations included, has a history of rounds; each
round begins with the controller and the world that the one before has left.

* `iterates_round` — every round takes one of the courses of an iteration;
* `Succession` — rounds of which each begins with the controller that the one before has left,
  whatever happens to the world between them;
* `path_history` — a world goes along with the exchanges of a whole history.
-/

namespace HomeEnergy.Controller

/-- One iteration in a world. -/
structure Round (σ : Type) where
  result : Except Halt Iteration
  exchanges : List Exchange
  /-- The controller after the iteration. -/
  controller : Controller
  /-- The world after the iteration. -/
  world : σ

variable {σ : Type} (ports : Ports (StateM σ))

/-- Makes one iteration. -/
def round (c : Controller) (s : σ) : Round σ :=
  let ((result, controller), recorded) := ((iterate ports.recorded).run.run c).run ⟨s, []⟩
  { result, exchanges := recorded.trace, controller, world := recorded.world }

/-- The controller and the world after some iterations. -/
def after (c : Controller) (s : σ) : Nat → Controller × σ
  | 0 => (c, s)
  | n + 1 =>
    let r := round ports c s
    after r.controller r.world n

/-- The first rounds. -/
def history (c : Controller) (s : σ) : Nat → List (Round σ)
  | 0 => []
  | n + 1 =>
    let r := round ports c s
    r :: history r.controller r.world n

/-- The round after this many others. -/
def nthRound (c : Controller) (s : σ) (i : Nat) : Round σ :=
  round ports (after ports c s i).1 (after ports c s i).2

/-- The exchanges of some rounds, in order. -/
def exchangesOf (rounds : List (Round σ)) : List Exchange := rounds.flatMap (·.exchanges)

@[simp] theorem exchangesOf_nil : exchangesOf ([] : List (Round σ)) = [] := rfl

@[simp] theorem exchangesOf_cons (r : Round σ) (rounds : List (Round σ)) :
    exchangesOf (r :: rounds) = r.exchanges ++ exchangesOf rounds := rfl

@[simp] theorem exchangesOf_append (rounds later : List (Round σ)) :
    exchangesOf (rounds ++ later) = exchangesOf rounds ++ exchangesOf later :=
  List.flatMap_append

/-- The exchanges of the last round come last. -/
theorem exchangesOf_concat (rounds : List (Round σ)) (r : Round σ) :
    exchangesOf (rounds ++ [r]) = exchangesOf rounds ++ r.exchanges := by
  rw [exchangesOf_append, exchangesOf_cons, exchangesOf_nil, List.append_nil]

variable (c : Controller) (s : σ)

/-- A round is the iteration in any recorded world. -/
theorem run_iterate (trace : List Exchange) :
    ((iterate ports.recorded).run.run c).run ⟨s, trace⟩ =
      (((round ports c s).result, (round ports c s).controller),
        ⟨(round ports c s).world, trace ++ (round ports c s).exchanges⟩) := by
  obtain ⟨xs, out, s', -, -, hrun⟩ := @iterate_does σ ports c s
  rw [hrun trace, round, hrun []]
  rfl

/-- **A round takes one of the courses of an iteration.** -/
theorem iterates_round :
    Iterates c (round ports c s).exchanges (round ports c s).result
      (round ports c s).controller := by
  obtain ⟨xs, out, s', -, hcourse, hrun⟩ := @iterate_does σ ports c s
  rw [round, hrun []]
  exact hcourse

theorem path_round : ports.Path s (round ports c s).exchanges (round ports c s).world := by
  obtain ⟨xs, out, s', hpath, -, hrun⟩ := @iterate_does σ ports c s
  rw [round, hrun []]
  exact hpath

theorem after_succ (n : Nat) :
    after ports c s (n + 1) =
      ((nthRound ports c s n).controller, (nthRound ports c s n).world) := by
  induction n generalizing c s with
  | zero => rfl
  | succ n ih => exact ih _ _

theorem length_history (n : Nat) : (history ports c s n).length = n := by
  induction n generalizing c s with
  | zero => rfl
  | succ n ih => exact congrArg Nat.succ (ih _ _)

/-- Rounds of which each begins with the controller that the one before has left. -/
inductive Succession : Controller → List (Round σ) → Controller → Prop
  | nil (c : Controller) : Succession c [] c
  | cons {c c' : Controller} {r : Round σ} {later : List (Round σ)}
      (hround : Iterates c r.exchanges r.result r.controller)
      (hlater : Succession r.controller later c') : Succession c (r :: later) c'

variable {c} in
theorem Succession.concat {c' : Controller} {r : Round σ} {rounds : List (Round σ)}
    (h : Succession c rounds c') (hround : Iterates c' r.exchanges r.result r.controller) :
    Succession c (rounds ++ [r]) r.controller := by
  induction h with
  | nil => exact .cons hround (.nil _)
  | cons hfirst _ ih => exact .cons hfirst (ih hround)

/-- The rounds of a history succeed one another. -/
theorem succession_history (n : Nat) :
    Succession c (history ports c s n) (after ports c s n).1 := by
  induction n generalizing c s with
  | zero => exact .nil c
  | succ n ih => exact .cons (iterates_round ports c s) (ih _ _)

/-- A world goes along with the exchanges of a whole history. -/
theorem path_history (n : Nat) :
    ports.Path s (exchangesOf (history ports c s n)) (after ports c s n).2 := by
  induction n generalizing c s with
  | zero => exact .nil s
  | succ n ih => exact (path_round ports c s).append (ih _ _)

end HomeEnergy.Controller
