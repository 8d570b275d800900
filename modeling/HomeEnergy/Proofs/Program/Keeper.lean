import HomeEnergy.Program
import HomeEnergy.Proofs.Controller.Sending
import HomeEnergy.Proofs.Controller.Translation

/-!
# The observer of the program

The observer keeps the reports beside the ports and sees only the link.  In the world that
holds the samples he is a part of the world, and of a run that he watches all is known that is
known of runs beside their observers.

* `Program.keeper`, `Program.merge_observe` — **what the observer does beside the ports, he does
  in the world that holds the samples;**
* `Program.toList_of_goesOn` — while a run goes on, the samples are the reports of its rounds;
* `Program.left_limited`, `Program.left_unlimited` — when he leaves.
-/

namespace HomeEnergy

open Exchange Wire Controller

namespace Program

/-- The samples after an iteration. -/
def collect (samples : Array Balance) (it : Iteration) : Array Balance :=
  match it.report with
  | some balance => samples.push balance
  | none => samples

/-- The report of an iteration, if it made one, comes behind the samples. -/
theorem toList_collect (samples : Array Balance) (it : Iteration) :
    (collect samples it).toList = samples.toList ++ it.report.toList := by
  unfold collect
  cases it.report with
  | none => exact (List.append_nil _).symm
  | some balance => exact Array.toList_push

section

variable {m : Type → Type} [Monad m] [LawfulMonad m] (closed : m Bool) (it : Iteration)
  (samples : Array Balance)

/-- If the reports are limited, the observer counts them. -/
theorem run_observe_limited {maxReports : UInt64} (h : 0 < maxReports) :
    (observe maxReports closed it).run samples =
      pure (if maxReports.toNat ≤ (collect samples it).size then .leave else .goOn,
        collect samples it) := by
  unfold observe collect
  cases it.report <;> simp [h]

/-- If they are not, the observer asks for the link. -/
theorem run_observe_unlimited {maxReports : UInt64} (h : ¬ 0 < maxReports) :
    (observe maxReports closed it).run samples =
      closed >>= fun done => pure (if done then .leave else .goOn, collect samples it) := by
  unfold observe collect
  cases it.report <;> simp [h]

end

section

variable {σ : Type} (maxReports : UInt64) (linkClosed : StateM σ Bool)

/-- The observer of the program, in the world that holds the samples. -/
def keeper (it : Iteration) : StateM (σ × Array Balance) Verdict := fun w =>
  let samples := collect w.2 it
  if 0 < maxReports then
    (if maxReports.toNat ≤ samples.size then .leave else .goOn, (w.1, samples))
  else
    (if (linkClosed.run w.1).1 then .leave else .goOn, ((linkClosed.run w.1).2, samples))

variable (it : Iteration) (w : σ × Array Balance)

theorem run_keeper_limited (h : 0 < maxReports) :
    (keeper maxReports linkClosed it).run w =
      (if maxReports.toNat ≤ (collect w.2 it).size then .leave else .goOn,
        (w.1, collect w.2 it)) :=
  if_pos h

theorem run_keeper_unlimited (h : ¬ 0 < maxReports) :
    (keeper maxReports linkClosed it).run w =
      (if (linkClosed.run w.1).1 then .leave else .goOn,
        ((linkClosed.run w.1).2, collect w.2 it)) :=
  if_neg h

variable {it w}

/-- With a limit the run goes on as long as samples are missing. -/
theorem goOn_limited_iff (h : 0 < maxReports) :
    ((keeper maxReports linkClosed it).run w).1 = .goOn ↔
      ((keeper maxReports linkClosed it).run w).2.2.size < maxReports.toNat := by
  rw [run_keeper_limited _ _ _ _ h]
  split <;> simp_all

theorem leave_limited_iff (h : 0 < maxReports) :
    ((keeper maxReports linkClosed it).run w).1 = .leave ↔
      maxReports.toNat ≤ ((keeper maxReports linkClosed it).run w).2.2.size := by
  rw [run_keeper_limited _ _ _ _ h]
  split <;> simp_all

theorem goOn_unlimited_iff (h : ¬ 0 < maxReports) :
    ((keeper maxReports linkClosed it).run w).1 = .goOn ↔ (linkClosed.run w.1).1 = false := by
  rw [run_keeper_unlimited _ _ _ _ h]
  split <;> simp_all

/-- Without one it is left as soon as the link is closed. -/
theorem leave_unlimited_iff (h : ¬ 0 < maxReports) :
    ((keeper maxReports linkClosed it).run w).1 = .leave ↔ (linkClosed.run w.1).1 = true := by
  rw [run_keeper_unlimited _ _ _ _ h]
  split <;> simp_all

variable (it)

/-- What the observer does beside the ports, he does in the world that holds the samples. -/
theorem merge_observe :
    (Ports.merge (Array Balance)).map (observe maxReports (Ports.unrecorded linkClosed) it) =
      Ports.unrecorded (keeper maxReports linkClosed it) := by
  funext r
  by_cases h : 0 < maxReports
  · rw [Ports.merge_apply (run_observe_limited _ it r.world.2 h),
      Ports.unrecorded_apply (run_keeper_limited _ _ it r.world h)]
    rfl
  · rw [Ports.merge_apply (run_observe_unlimited _ it r.world.2 h),
      Ports.unrecorded_apply (run_keeper_unlimited _ _ it r.world h)]
    rfl

end

section

variable {σ : Type} {ports : Ports (StateM σ)} {maxReports : UInt64} {linkClosed : StateM σ Bool}
  {c c' : Controller} {w w' : σ × Array Balance} {r : Round (σ × Array Balance)}
  {rounds : List (Round (σ × Array Balance))}

/-- A round and its observation add the report of the round to the samples. -/
theorem toList_observed (r : Round (σ × Array Balance)) :
    (observed (keeper maxReports linkClosed) r).2.toList =
      r.world.2.toList ++ r.report?.toList := by
  cases hresult : r.result with
  | error halt =>
    rw [observed, Round.report?, hresult]
    exact (List.append_nil _).symm
  | ok it =>
    rw [observed_of_ok hresult, report?_of_ok hresult, ← toList_collect]
    by_cases h : 0 < maxReports
    · rw [run_keeper_limited _ _ _ _ h]
    · rw [run_keeper_unlimited _ _ _ _ h]

/-- Nothing but the observer touches the samples. -/
theorem samples_round (c : Controller) (w : σ × Array Balance) :
    (round (ports.paired (Array Balance)) c w).world.2 = w.2 :=
  (path_round _ c w).unpaired.2

/-- The samples of a run that goes on are the reports of its rounds. -/
theorem toList_of_goesOn
    (h : GoesOn (ports.paired (Array Balance)) (keeper maxReports linkClosed) c w rounds c' w') :
    w'.2.toList = w.2.toList ++ reportsOf rounds := by
  induction h with
  | nil => exact (List.append_nil _).symm
  | cons _ _ ih => rw [ih, toList_observed, samples_round, List.append_assoc, reportsOf_cons]

/-! ## A limited number of reports -/

section

variable (hlimited : 0 < maxReports)

include hlimited

theorem size_of_goesOn
    (h : GoesOn (ports.paired (Array Balance)) (keeper maxReports linkClosed) c w rounds c' w')
    (hsize : w.2.size < maxReports.toNat) : w'.2.size < maxReports.toNat := by
  induction h with
  | nil => exact hsize
  | cons hround _ ih =>
    apply ih
    rcases goesOn_of_endingAfter hround with ⟨it, hresult, hverdict⟩
    rw [observed_of_ok hresult]
    exact (goOn_limited_iff _ _ hlimited).mp hverdict

/-- The observer leaves at the report with which there are enough. -/
theorem left_limited
    (hleft : endingAfter (keeper maxReports linkClosed) r = some .left)
    (hsize : r.world.2.size < maxReports.toNat) :
    r.report?.isSome = true ∧
      (observed (keeper maxReports linkClosed) r).2.size = maxReports.toNat := by
  have hsamples := congrArg List.length (@toList_observed σ maxReports linkClosed r)
  rw [List.length_append, Array.length_toList, Array.length_toList] at hsamples
  have henough : maxReports.toNat ≤ (observed (keeper maxReports linkClosed) r).2.size := by
    rcases left_of_endingAfter hleft with ⟨it, hresult, hverdict⟩
    rw [observed_of_ok hresult]
    exact (leave_limited_iff _ _ hlimited).mp hverdict
  cases hreport : r.report? with
  | none =>
    rw [hreport, Option.toList_none, List.length_nil] at hsamples
    omega
  | some balance =>
    rw [hreport, Option.toList_some, List.length_singleton] at hsamples
    exact ⟨rfl, by omega⟩

end

/-! ## An unlimited number of reports, on a link -/

/-- The observer does nothing to the link but look at it. -/
theorem plays_observed (wire : ports.Wired linkClosed) (r : Round (σ × Array Balance)) :
    (wire.link r.world.1).Plays [] (wire.link (observed (keeper maxReports linkClosed) r).1) := by
  cases hresult : r.result with
  | error halt =>
    rw [observed, hresult]
    exact Link.plays_nil _
  | ok it =>
    rw [observed_of_ok hresult]
    by_cases h : 0 < maxReports
    · rw [run_keeper_limited _ _ _ _ h]
      exact Link.plays_nil _
    · rw [run_keeper_unlimited _ _ _ _ h]
      exact wire.looks _

theorem plays_round (wire : ports.Wired linkClosed) (c : Controller) (w : σ × Array Balance) :
    let r := round (ports.paired (Array Balance)) c w
    (wire.link w.1).Plays (answers r.exchanges)
      (wire.link (observed (keeper maxReports linkClosed) r).1) := by
  have hround := wire.plays_path (path_round (ports.paired (Array Balance)) c w).unpaired.1
  have hall := hround.append (@plays_observed _ _ maxReports _ wire _)
  rwa [List.append_nil] at hall

theorem plays_of_goesOn (wire : ports.Wired linkClosed)
    (h : GoesOn (ports.paired (Array Balance)) (keeper maxReports linkClosed) c w rounds c' w') :
    (wire.link w.1).Plays (answers (exchangesOf rounds)) (wire.link w'.1) := by
  induction h with
  | nil => exact Link.plays_nil _
  | cons _ _ ih =>
    rw [exchangesOf_cons, answers_append]
    exact (plays_round wire _ _).append ih

section

variable (hunlimited : ¬ 0 < maxReports)

include hunlimited

/-- A run goes on only while the link is open. -/
theorem open_of_goesOn (wire : ports.Wired linkClosed)
    (h : GoesOn (ports.paired (Array Balance)) (keeper maxReports linkClosed) c w rounds c' w')
    (hopen : (wire.link w.1).channel.closed = false) :
    (wire.link w'.1).channel.closed = false := by
  induction h with
  | nil => exact hopen
  | cons hround _ ih =>
    apply ih
    rcases goesOn_of_endingAfter hround with ⟨it, hresult, hverdict⟩
    rw [observed_of_ok hresult, run_keeper_unlimited _ _ _ _ hunlimited, ← wire.closed_eq]
    exact (goOn_unlimited_iff _ _ hunlimited).mp hverdict

/-- The observer leaves when the link has been found closed. -/
theorem left_unlimited (hleft : endingAfter (keeper maxReports linkClosed) r = some .left) :
    (linkClosed.run r.world.1).1 = true ∧
      (observed (keeper maxReports linkClosed) r).1 = (linkClosed.run r.world.1).2 := by
  rcases left_of_endingAfter hleft with ⟨it, hresult, hverdict⟩
  rw [observed_of_ok hresult, run_keeper_unlimited _ _ _ _ hunlimited]
  exact ⟨(leave_unlimited_iff _ _ hunlimited).mp hverdict, rfl⟩

end

end

end Program

end HomeEnergy
