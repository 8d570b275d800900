import HomeEnergy.Proofs.Controller.Sending
import HomeEnergy.Proofs.Controller.Translation

/-!
# The controller in other hands

Who embeds the controller may leave the loop to it and watch, or iterate it himself.  Either way
he is shown the rounds of its history, up to the first that ends early; only the shutdown after a
run is not made for him if he iterates himself.

* `run_iterateTimes` — so many iterations by hand;
* `run_iterateUntil` — iterations by hand until there are reports enough;
* `run_watch` — **a run that is watched is iterated by hand, and then closed.**
-/

namespace HomeEnergy

open Exchange

namespace Controller

/-- What some iterations by hand have given: all but perhaps the last have completed. -/
def resultsOf (its : List Iteration) (halt : Option Halt) : List (Except Halt Iteration) :=
  its.map .ok ++ halt.toList.map .error

/-- The reports that some iterations have made, in order. -/
def reported (its : List Iteration) : List Balance := its.flatMap (·.report.toList)

/-- One more completed iteration before the others. -/
theorem resultsOf_cons (it : Iteration) (its : List Iteration) (halt : Option Halt) :
    resultsOf (it :: its) halt = .ok it :: resultsOf its halt := rfl

section

variable {σ : Type} (ports : Ports (StateM σ))

/-- What the first rounds of a history leave: the controller, and the world with all that was
exchanged after `before`. -/
def leftAfter (c : Controller) (s : σ) (before : List Exchange) (rounds : Nat) :
    Controller × Recorded σ :=
  ((after ports c s rounds).1,
    ⟨(after ports c s rounds).2, before ++ exchangesOf (history ports c s rounds)⟩)

variable {ports} {c : Controller} {s : σ} (before : List Exchange)

/-- The rounds after the first are those of the controller that it has left. -/
theorem leftAfter_succ (rounds : Nat) :
    leftAfter ports c s before (rounds + 1) =
      leftAfter ports (round ports c s).controller (round ports c s).world
        (before ++ (round ports c s).exchanges) rounds := by
  rw [leftAfter, leftAfter, history, exchangesOf_cons, ← List.append_assoc]
  rfl

theorem leftAfter_zero : leftAfter ports c s before 0 = (c, ⟨s, before⟩) :=
  congrArg (fun trace => (c, Recorded.mk s trace)) (List.append_nil before)

/-! ## Iterating by hand -/

theorem iterateTimes_of_error (n : Nat) {halt : Halt}
    (h : (round ports c s).result = .error halt) :
    ((iterateTimes ports.recorded (n + 1)).run c).run ⟨s, before⟩ =
      (([.error halt], (leftAfter ports c s before 1).1), (leftAfter ports c s before 1).2) := by
  rw [leftAfter_succ, leftAfter_zero, iterateTimes, StateT.run_bind, StateT.run_bind, run_iterate,
    h]
  rfl

theorem iterateTimes_of_ok (n : Nat) {it : Iteration} (h : (round ports c s).result = .ok it) :
    ((iterateTimes ports.recorded (n + 1)).run c).run ⟨s, before⟩ =
      let later := ((iterateTimes ports.recorded n).run (round ports c s).controller).run
        ⟨(round ports c s).world, before ++ (round ports c s).exchanges⟩
      ((.ok it :: later.1.1, later.1.2), later.2) := by
  rw [iterateTimes, StateT.run_bind, StateT.run_bind, run_iterate, h]
  rfl

variable (ports) in
/-- **Iterations by hand are the first rounds of the history**, up to the first that ends early:
as many as were asked for, if none does. -/
theorem run_iterateTimes (n : Nat) (c : Controller) (s : σ) (before : List Exchange) :
    ∃ its halt, (history ports c s (resultsOf its halt).length).map (·.result) =
        resultsOf its halt ∧
      (resultsOf its halt).length ≤ n ∧ (halt = none → its.length = n) ∧
      let left := leftAfter ports c s before (resultsOf its halt).length
      ((iterateTimes ports.recorded n).run c).run ⟨s, before⟩ =
        ((resultsOf its halt, left.1), left.2) := by
  induction n generalizing c s before with
  | zero =>
    refine ⟨[], none, rfl, Nat.le_refl 0, fun _ => rfl, ?_⟩
    have hnone : (resultsOf [] none).length = 0 := rfl
    rw [hnone, leftAfter_zero]
    rfl
  | succ n ih =>
    cases hresult : (round ports c s).result with
    | error halt =>
      refine ⟨[], some halt, congrArg (fun result => [result]) hresult, Nat.succ_pos n, nofun, ?_⟩
      exact iterateTimes_of_error before n hresult
    | ok it =>
      obtain ⟨its, halt, hhistory, hle, hall, hrun⟩ := ih (round ports c s).controller
        (round ports c s).world (before ++ (round ports c s).exchanges)
      refine ⟨it :: its, halt, ?_, Nat.succ_le_succ hle, ?_, ?_⟩
      · rw [resultsOf_cons, List.length_cons, history, List.map_cons, hresult, hhistory]
      · exact fun hnone => congrArg Nat.succ (hall hnone)
      · rw [iterateTimes_of_ok before n hresult, hrun, resultsOf_cons, List.length_cons,
          leftAfter_succ]

theorem iterateUntil_of_zero (limit : Nat) :
    ((iterateUntil ports.recorded 0 limit).run c).run ⟨s, before⟩ =
      (((0, [], none), (leftAfter ports c s before 0).1), (leftAfter ports c s before 0).2) := by
  rw [leftAfter_zero]
  cases limit <;> rfl

theorem iterateUntil_of_error {reports : Nat} (hwanted : reports ≠ 0) (limit : Nat) {halt : Halt}
    (h : (round ports c s).result = .error halt) :
    ((iterateUntil ports.recorded reports (limit + 1)).run c).run ⟨s, before⟩ =
      (((1, [], some halt), (leftAfter ports c s before 1).1),
        (leftAfter ports c s before 1).2) := by
  rw [leftAfter_succ, leftAfter_zero, iterateUntil, if_neg hwanted, StateT.run_bind,
    StateT.run_bind, run_iterate, h]
  rfl

theorem iterateUntil_of_ok {reports : Nat} (hwanted : reports ≠ 0) (limit : Nat) {it : Iteration}
    (h : (round ports c s).result = .ok it) :
    ((iterateUntil ports.recorded reports (limit + 1)).run c).run ⟨s, before⟩ =
      let later := ((iterateUntil ports.recorded (reports - it.report.toList.length) limit).run
        (round ports c s).controller).run
          ⟨(round ports c s).world, before ++ (round ports c s).exchanges⟩
      (((later.1.1.1 + 1, it.report.toList ++ later.1.1.2.1, later.1.1.2.2), later.1.2),
        later.2) := by
  rw [iterateUntil, if_neg hwanted, StateT.run_bind, StateT.run_bind, run_iterate, h]
  rfl

variable (ports) in
/-- **Iterations by hand until there are reports enough** are the first rounds of the history, too.
Before each of them a report was lacking.  If none ends early and the limit is not reached, there
are as many reports as were asked for in the end. -/
theorem run_iterateUntil (reports limit : Nat) (c : Controller) (s : σ) (before : List Exchange) :
    ∃ its halt, (history ports c s (resultsOf its halt).length).map (·.result) =
        resultsOf its halt ∧
      (∀ i < (resultsOf its halt).length, (reported (its.take i)).length < reports) ∧
      (reported its).length ≤ reports ∧
      (halt = none → its.length = limit ∨ (reported its).length = reports) ∧
      let left := leftAfter ports c s before (resultsOf its halt).length
      ((iterateUntil ports.recorded reports limit).run c).run ⟨s, before⟩ =
        ((((resultsOf its halt).length, reported its, halt), left.1), left.2) := by
  have hnone : (resultsOf [] none).length = 0 := rfl
  induction limit generalizing reports c s before with
  | zero =>
    refine ⟨[], none, rfl, nofun, Nat.zero_le _, fun _ => .inl rfl, ?_⟩
    rw [hnone, leftAfter_zero]
    rfl
  | succ limit ih =>
    by_cases hwanted : reports = 0
    · subst hwanted
      exact ⟨[], none, rfl, nofun, Nat.zero_le _, fun _ => .inr rfl, iterateUntil_of_zero before _⟩
    cases hresult : (round ports c s).result with
    | error halt =>
      refine ⟨[], some halt, congrArg (fun result => [result]) hresult, ?_, Nat.zero_le _, nofun,
        iterateUntil_of_error before hwanted limit hresult⟩
      intro i _
      rw [List.take_nil]
      exact Nat.pos_of_ne_zero hwanted
    | ok it =>
      obtain ⟨its, halt, hhistory, hlacking, hle, hend, hrun⟩ := ih
        (reports - it.report.toList.length) (round ports c s).controller (round ports c s).world
        (before ++ (round ports c s).exchanges)
      have hone : it.report.toList.length ≤ 1 := by
        cases it.report with
        | none => exact Nat.zero_le 1
        | some _ => exact Nat.le_refl 1
      have hreported (later : List Iteration) :
          (reported (it :: later)).length = it.report.toList.length + (reported later).length :=
        List.length_append
      refine ⟨it :: its, halt, ?_, ?_, ?_, ?_, ?_⟩
      · rw [resultsOf_cons, List.length_cons, history, List.map_cons, hresult, hhistory]
      · intro i hi
        cases i with
        | zero => exact Nat.pos_of_ne_zero hwanted
        | succ i =>
          have hlater := hlacking i (Nat.lt_of_succ_lt_succ hi)
          rw [List.take_succ_cons, hreported]
          omega
      · rw [hreported]
        omega
      · intro hnone
        rw [hreported, List.length_cons]
        have hlater := hend hnone
        omega
      · rw [iterateUntil_of_ok before hwanted limit hresult, hrun, resultsOf_cons,
          List.length_cons, leftAfter_succ]
        rfl

end

end Controller

/-! ## Watching -/

/-- Work without a state of its own, beside a state that it leaves alone. -/
def Translation.lifting (m : Type → Type) [Monad m] [LawfulMonad m] (τ : Type) :
    Translation m (StateT τ m) where
  map work := StateT.lift work
  map_pure a := by
    funext t
    exact pure_bind a _
  map_bind work next := by
    funext t
    show (work >>= next) >>= _ = (work >>= _) >>= _
    rw [bind_assoc, bind_assoc]
    simp only [pure_bind]
    rfl

/-- What is carried over beside a state leaves that state alone. -/
theorem Carries.run_beside {m : Type → Type} [Monad m] [LawfulMonad m] {τ κ α : Type}
    {work : StateT κ m α} {work' : StateT κ (StateT τ m) α}
    (h : Carries (Translation.lifting m τ) work work') (k : κ) (t : τ) :
    (work'.run k).run t = work.run k >>= fun out => pure (out, t) :=
  congrFun (h k) t

/-- The ending that a verdict brings to a run, if any. -/
def Verdict.ending? : Verdict → Option Ending
  | goOn => none
  | leave => some .left
  | collapse text => some (.broken (.raised text))

namespace Controller

/-- The early end of the last of some iterations by hand, if there was one. -/
def haltOf? (results : List (Except Halt Iteration)) : Option Halt :=
  results.findSome? fun
    | .ok _ => none
    | .error halt => some halt

section

variable {m : Type → Type} [Monad m] (ports : Ports m)

/-- Closes a run: the outputs lose their power, unless the observer has left. -/
def close : Ending → StateT Controller m Unit
  | .left => pure ()
  | _ => shutDown ports

/-- Closes a run and says how it has ended. -/
def closeWith (ending : Ending) : StateT Controller m (Option Ending) := do
  close ports ending
  return some ending

/-- What is made of iterations by hand to make a run of them that is watched: the run is closed,
with the ending of the last iteration if that has ended early. -/
def closeAfter (ending : Ending) (seen : Array Iteration)
    (out : List (Except Halt Iteration) × Controller) :
    m ((Option Ending × Controller) × Array Iteration) :=
  (closeWith ports ((haltOf? out.1).elim ending Halt.ending)).run out.2 >>= fun last =>
    pure (last, seen ++ (out.1.filterMap Except.toOption).toArray)

theorem closeWith_carries {n : Type → Type} [Monad n] {φ : Translation m n} (ending : Ending) :
    Carries φ (closeWith ports ending) (closeWith (ports.translate φ) ending) := by
  refine Carries.bind ?_ fun _ => carries_pure _
  cases ending with
  | left => exact carries_pure _
  | failed e => exact shutDown_carries ports
  | broken f => exact shutDown_carries ports

/-- If no iteration has completed, nothing is added to what has been seen. -/
theorem closeAfter_of_none (ending : Ending) (seen : Array Iteration)
    {results : List (Except Halt Iteration)} (h : results.filterMap Except.toOption = [])
    (c : Controller) :
    closeAfter ports ending seen (results, c) =
      (closeWith ports ((haltOf? results).elim ending Halt.ending)).run c >>= fun last =>
        pure (last, seen) := by
  rw [closeAfter, h, Array.append_empty]

/-- A completed iteration might as well have been seen before. -/
theorem closeAfter_cons (ending : Ending) (seen : Array Iteration) (it : Iteration)
    (results : List (Except Halt Iteration)) (c : Controller) :
    closeAfter ports ending seen (.ok it :: results, c) =
      closeAfter ports ending (seen.push it) (results, c) := by
  have hseen : seen ++ (((.ok it :: results : List (Except Halt Iteration)).filterMap
      Except.toOption).toArray) = seen.push it ++ (results.filterMap Except.toOption).toArray := by
    simp [Except.toOption]
  rw [closeAfter, hseen]
  rfl

variable [LawfulMonad m]

/-- Nothing of a run is left to do when it has been closed. -/
theorem closeWith_bind (ending : Ending) (c : Controller) {α : Type}
    (next : Option Ending × Controller → m α) :
    (closeWith ports ending).run c >>= next =
      (close ports ending).run c >>= fun out => next (some ending, out.2) := by
  rw [closeWith, StateT.run_bind, bind_assoc]
  exact congrArg _ (funext fun out => pure_bind _ _)

/-- A turn that is watched is an iteration by hand, which the watcher keeps, and the end of the
run if he has seen enough or the iteration ended early. -/
theorem turn_watch {verdict : Verdict} {ending : Ending} (hverdict : verdict.ending? = some ending)
    (n : Nat) (c : Controller) (seen : Array Iteration) :
    ((turn (ports.beside (Array Iteration)) (watch n verdict)).run c).run seen =
      (iterate ports).run.run c >>= fun out =>
        match out.1 with
        | .ok it =>
          if n ≤ seen.size + 1 then
            (closeWith ports ending).run out.2 >>= fun last => pure (last, seen.push it)
          else pure ((none, out.2), seen.push it)
        | .error halt =>
          (closeWith ports halt.ending).run out.2 >>= fun last => pure (last, seen) := by
  have hiterate := Carries.run_beside (iterate_carries ports) c seen
  have hclose (ending : Ending) (c : Controller) (seen : Array Iteration) :=
    Carries.run_beside (closeWith_carries ports ending) c seen
  rw [turn, StateT.run_bind, StateT.run_bind]
  refine (congrArg (· >>= _) hiterate).trans ?_
  rw [bind_assoc]
  refine congrArg _ (funext fun out => ?_)
  obtain ⟨result, c'⟩ := out
  rw [pure_bind]
  cases result with
  | error halt =>
    cases halt with
    | failed e => exact hclose (.failed e) c' seen
    | broken f => exact hclose (.broken f) c' seen
  | ok it =>
    have hwatch : ((watch n verdict it : StateT (Array Iteration) m Verdict) >>= fun verdict =>
        pure (verdict, c') : StateT (Array Iteration) m (Verdict × Controller)).run seen =
          pure ((if n ≤ seen.size + 1 then verdict else .goOn, c'), seen.push it) := by
      simp [watch]
    dsimp only
    rw [StateT.run_bind, StateT.run_bind]
    refine (congrArg (· >>= _) hwatch).trans ?_
    rw [pure_bind]
    by_cases henough : n ≤ seen.size + 1
    · simp only [if_pos henough]
      cases verdict with
      | goOn => cases hverdict
      | leave =>
        cases hverdict
        have hleft : (pure (some .left) : StateT Controller (StateT (Array Iteration) m) _) =
            closeWith (ports.beside (Array Iteration)) .left :=
          (pure_bind () fun _ => pure (some Ending.left)).symm
        dsimp only
        rw [hleft]
        exact hclose .left c' (seen.push it)
      | collapse text =>
        cases hverdict
        exact hclose (.broken (.raised text)) c' (seen.push it)
    · simp only [if_neg henough]
      rfl

/-- **A run that is watched is iterated by hand, and then closed.**  The watcher is shown what he
would have been given by hand. -/
theorem run_watch {verdict : Verdict} {ending : Ending} (hverdict : verdict.ending? = some ending)
    {missing k : Nat} (hmissing : 0 < missing) (hk : missing ≤ k) (c : Controller)
    (seen : Array Iteration) :
    ((run (ports.beside (Array Iteration)) (watch (seen.size + missing) verdict) k).run c).run
        seen =
      (iterateTimes ports missing).run c >>= closeAfter ports ending seen := by
  induction k generalizing c seen missing with
  | zero => omega
  | succ k ih =>
    obtain ⟨missing, rfl⟩ : ∃ later, missing = later + 1 := ⟨missing - 1, by omega⟩
    rw [run, StateT.run_bind, StateT.run_bind, turn_watch ports hverdict, bind_assoc,
      iterateTimes, StateT.run_bind, bind_assoc]
    refine congrArg _ (funext fun out => ?_)
    obtain ⟨result, c'⟩ := out
    cases result with
    | error halt =>
      dsimp only
      rw [bind_assoc, closeWith_bind]
      show _ = pure ([Except.error halt], c') >>= closeAfter ports ending seen
      rw [pure_bind, closeAfter_of_none ports ending seen rfl, closeWith_bind]
      exact congrArg _ (funext fun out => pure_bind _ _)
    | ok it =>
      rw [StateT.run_bind, bind_assoc]
      have hcons : ∀ out : List (Except Halt Iteration) × Controller,
          ((pure (.ok it :: out.1) : StateT Controller m (List (Except Halt Iteration))).run
            out.2 >>= closeAfter ports ending seen) =
              closeAfter ports ending (seen.push it) out := by
        intro out
        rw [← closeAfter_cons]
        exact pure_bind _ _
      simp only [hcons]
      cases missing with
      | zero =>
        rw [if_pos (Nat.le_refl _), bind_assoc, closeWith_bind]
        show _ = pure ([], c') >>= closeAfter ports ending (seen.push it)
        rw [pure_bind, closeAfter_of_none ports ending (seen.push it) rfl, closeWith_bind]
        exact congrArg _ (funext fun out => pure_bind _ _)
      | succ missing =>
        have hsize : seen.size + (missing + 1 + 1) = (seen.push it).size + (missing + 1) := by
          rw [Array.size_push]
          omega
        rw [if_neg (by omega), pure_bind, hsize]
        exact ih (Nat.succ_pos missing) (by omega) c' (seen.push it)

end

end Controller

end HomeEnergy
