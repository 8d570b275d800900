import HomeEnergy.Proofs.Controller.Outcome
import HomeEnergy.Proofs.Controller.Rounds

/-!
# Time within a round

On a clock that moves only while the controller sleeps, the deadline of the report timer
lies ahead of the clock by what is left of the interval.  A round that reports starts
the next interval at the very tick at which the last one ended; a round that reads a
line takes no time; any other sleeps, and never past the deadline.

* `Iterates.paces` — which iterations ask the clock when, and how long they sleep;
* `OnTime.step` — **a round that finds the controller on time leaves it on time**, and
  is of one of three kinds.
-/

namespace HomeEnergy

open Exchange

namespace Controller

/-- What an iteration has to do with the clock: it asks the time once for the timer, and
a second time to idle, if it has neither reported nor read a line. -/
inductive Paces (c : Controller) (it : Iteration) (timer' : Timer) : List Exchange → Prop
  | stays {xs ys : List Exchange} {t : Tick}
      (hbusy : it.report ≠ none ∨ it.command ≠ none)
      (hdue : it.report.isSome = (c.timer.poll t).1) (htimer : timer' = (c.timer.poll t).2)
      (hidled : it.idled = 0) (hxs : sleeps xs = []) (hys : sleeps ys = []) :
      Paces c it timer' (xs ++ .now t :: ys)
  | idles {xs ys zs : List Exchange} {t t' : Tick}
      (hreport : it.report = none) (hcommand : it.command = none)
      (hdue : (c.timer.poll t).1 = false) (htimer : timer' = (c.timer.poll t).2)
      (hidled : it.idled = min c.idleDelay (timer'.remaining t'))
      (hxs : sleeps xs = []) (hys : sleeps ys = [])
      (hzs : zs = if 0 < it.idled then [.sleep it.idled] else []) :
      Paces c it timer' (xs ++ .now t :: (ys ++ .now t' :: zs))

section

variable {c c' : Controller} {xs : List Exchange}

theorem When.sleeps_eq {α : Type} {wanted : Bool}
    {operation : House → Except Fault (Done α)} {result : Except Halt (Option α)}
    (h : When wanted (Operates operation) c xs result c') :
    sleeps xs = [] ∧ c'.timer = c.timer ∧ c'.idleDelay = c.idleDelay := by
  cases h with
  | skips => exact ⟨rfl, rfl, rfl⟩
  | halts h hoperates =>
    cases hoperates
    exact ⟨rfl, rfl, rfl⟩
  | does h hoperates =>
    cases hoperates
    exact ⟨sleeps_drives _, rfl, rfl⟩

theorem Opens.paces {presses : Presses} {due : Bool} (h : Opens c xs (.ok (presses, due)) c') :
    ∃ ys t, xs = ys ++ [.now t] ∧ sleeps ys = [] ∧ due = (c.timer.poll t).1 ∧
      c'.timer = (c.timer.poll t).2 ∧ c'.idleDelay = c.idleDelay := by
  cases h with
  | @opens heatPumpHigh windHigh _ ys zs _ _ c₁ c₂ t hpresses hpump hwind =>
    obtain ⟨hys, htimer₁, hdelay₁⟩ := hpump.sleeps_eq
    obtain ⟨hzs, htimer₂, hdelay₂⟩ := hwind.sleeps_eq
    have htimer : c₂.timer = c.timer := htimer₂.trans htimer₁
    refine ⟨.heatPumpHigh heatPumpHigh :: .windHigh windHigh :: (ys ++ zs), t, rfl, ?_, ?_, ?_, ?_⟩
    · show sleeps (ys ++ zs) = []
      rw [sleeps_append, hys, hzs]
      rfl
    · rw [htimer]
    · rw [polled_timer, htimer]
    · exact hdelay₂.trans hdelay₁

theorem When.reports_paces {due : Bool} {report : Option Balance}
    (h : When due Reports c xs (.ok report) c') :
    report.isSome = due ∧ sleeps xs = [] ∧ c'.timer = c.timer ∧ c'.idleDelay = c.idleDelay := by
  cases h with
  | skips h => exact ⟨h.symm, rfl, rfl, rfl⟩
  | does h hreport =>
    cases hreport with
    | shows hbalance hdraws =>
      refine ⟨h.symm, ?_, rfl, rfl⟩
      cases hdraws
      simp [sleeps, slept?]

theorem Obeys.paces {command : Option (Except Wire.CommandError Wire.Target)}
    (h : Obeys c xs (.ok command) c') :
    sleeps xs = [] ∧ c'.timer = c.timer ∧ c'.idleDelay = c.idleDelay := by
  cases h with
  | nothing => exact ⟨rfl, rfl, rfl⟩
  | @obeys _ done h => exact ⟨sleeps_drives done.writes, rfl, rfl⟩

theorem Iterates.paces {it : Iteration} (h : Iterates c xs (.ok it) c') :
    Paces c it c'.timer xs ∧ c'.idleDelay = c.idleDelay := by
  cases h with
  | @completes _ ys zs us presses due report command idled c₁ c₂ c₃ _
      hopens hreport hcommand hidle =>
    obtain ⟨xs, t, rfl, hxs, hdue, htimer₁, hdelay₁⟩ := hopens.paces
    obtain ⟨hisSome, hys, htimer₂, hdelay₂⟩ := hreport.reports_paces
    obtain ⟨hzs, htimer₃, hdelay₃⟩ := hcommand.paces
    have htimer : c₃.timer = (c.timer.poll t).2 := by rw [htimer₃, htimer₂, htimer₁]
    have hdelay : c₃.idleDelay = c.idleDelay := by rw [hdelay₃, hdelay₂, hdelay₁]
    have hbetween : sleeps (ys ++ zs) = [] := by
      rw [sleeps_append, hys, hzs]
      rfl
    have hlists (us : List Exchange) :
        xs ++ [.now t] ++ ys ++ zs ++ us = xs ++ .now t :: (ys ++ zs ++ us) := by
      simp only [List.append_assoc, List.cons_append, List.nil_append]
    rw [hlists]
    cases hidle with
    | skips hbusy =>
      refine ⟨?_, hdelay⟩
      rw [List.append_nil]
      refine .stays ?_ (hisSome.trans hdue) htimer rfl hxs hbetween
      cases report with
      | none =>
        cases command with
        | none => cases hbusy
        | some answer => exact .inr nofun
      | some balance => exact .inl nofun
    | does hquiet hidles =>
      have hnone : report = none ∧ command = none := by
        simpa only [Bool.and_eq_true, Option.isNone_iff_eq_none] using hquiet
      obtain ⟨rfl, rfl⟩ := hnone
      have hnotDue : (c.timer.poll t).1 = false := (hisSome.trans hdue).symm
      cases hidles with
      | @sleeps t' hpos =>
        refine ⟨?_, hdelay⟩
        refine @Paces.idles c _ _ xs (ys ++ zs) [.sleep _] t t' rfl rfl hnotDue htimer ?_ hxs
          hbetween (if_pos hpos).symm
        rw [← hdelay]
        rfl
      | @stays t' hzero =>
        refine ⟨?_, hdelay⟩
        refine @Paces.idles c _ _ xs (ys ++ zs) [] t t' rfl rfl hnotDue htimer ?_ hxs hbetween
          (if_neg hzero).symm
        rw [← hdelay]
        rfl

end

section

variable {σ : Type} {ports : Ports (StateM σ)} (clock : ports.SleepClock)

/-- A round that reports or reads a line asks the timer once, and takes no time. -/
theorem Paces.time_of_busy {c : Controller} {it : Iteration} {timer' : Timer}
    {xs : List Exchange} {s s' : σ} (h : Paces c it timer' xs) (hpath : ports.Path s xs s')
    (hbusy : it.report ≠ none ∨ it.command ≠ none) :
    it.report.isSome = (c.timer.poll (clock.clock s)).1 ∧
      timer' = (c.timer.poll (clock.clock s)).2 ∧
      it.idled = 0 ∧ sleeps xs = [] ∧ clock.clock s' = clock.clock s := by
  cases h with
  | @stays xs ys t _ hdue htimer hidled hxs hys =>
    obtain rfl := clock.reading_of_path hpath hxs
    have hsleeps : sleeps (xs ++ .now (clock.clock s) :: ys) = [] := by
      rw [sleeps_append, hxs]
      exact hys
    refine ⟨hdue, htimer, hidled, hsleeps, ?_⟩
    rw [clock.clock_of_path hpath, hsleeps]
    rfl
  | idles hreport hcommand => exact absurd hbusy (by simp [hreport, hcommand])

/-- Any other round asks the timer twice at the same time, and then sleeps. -/
theorem Paces.time_of_quiet {c : Controller} {it : Iteration} {timer' : Timer}
    {xs : List Exchange} {s s' : σ} (h : Paces c it timer' xs) (hpath : ports.Path s xs s')
    (hreport : it.report = none) (hcommand : it.command = none) :
    (c.timer.poll (clock.clock s)).1 = false ∧
      timer' = (c.timer.poll (clock.clock s)).2 ∧
      it.idled = min c.idleDelay (timer'.remaining (clock.clock s)) ∧
      sleeps xs = (if 0 < it.idled then [it.idled] else []) ∧
      clock.clock s' = (clock.clock s).after it.idled := by
  cases h with
  | stays hbusy => exact absurd hbusy (by simp [hreport, hcommand])
  | @idles xs ys zs t t' _ _ hdue htimer hidled hxs hys hzs =>
    obtain rfl := clock.reading_of_path hpath hxs
    have hsplit : xs ++ .now (clock.clock s) :: (ys ++ .now t' :: zs) =
        (xs ++ .now (clock.clock s) :: ys) ++ .now t' :: zs := by
      rw [List.append_assoc, List.cons_append]
    have hbefore : sleeps (xs ++ .now (clock.clock s) :: ys) = [] := by
      rw [sleeps_append, hxs]
      exact hys
    rw [hsplit] at hpath ⊢
    obtain rfl := clock.reading_of_path hpath hbefore
    have hsleeps : sleeps ((xs ++ .now (clock.clock s) :: ys) ++ .now (clock.clock s) :: zs) =
        if 0 < it.idled then [it.idled] else [] := by
      rw [sleeps_append, hbefore, hzs]
      split <;> rfl
    refine ⟨hdue, htimer, hidled, hsleeps, ?_⟩
    rw [clock.clock_of_path hpath, hsleeps]
    by_cases hpos : 0 < it.idled
    · rw [if_pos hpos]
      rfl
    · have hzero : it.idled = 0 := UInt32.le_zero_iff.mp (UInt32.not_lt.mp hpos)
      rw [if_neg hpos, hzero, Tick.after, UInt32.add_zero]
      rfl

/-- The controller and its world are on time: the deadline is so much ahead of the clock. -/
structure OnTime (interval delay : UInt32) (due : Tick) (left : UInt32) (c : Controller)
    (s : σ) : Prop where
  sound : c.house.Sound
  interval_eq : c.timer.interval = interval
  idleDelay_eq : c.idleDelay = delay
  deadline_eq : c.timer.deadline = due
  due_eq : due = (clock.clock s).after left
  left_le : left ≤ interval

/-- The three kinds of rounds on time, by what is left of the interval: the sleeps they
make, and the deadline and what is left after them. -/
inductive Spends (interval delay : UInt32) (due : Tick) (left : UInt32) (it : Iteration) :
    List UInt32 → Tick → UInt32 → Prop
  | reports (hleft : left = 0) (hreport : it.report ≠ none) (hidled : it.idled = 0) :
      Spends interval delay due left it [] (due.after interval) interval
  | reads (hleft : left ≠ 0) (hreport : it.report = none) (hcommand : it.command ≠ none)
      (hidled : it.idled = 0) : Spends interval delay due left it [] due left
  | sleeps (hleft : left ≠ 0) (hreport : it.report = none) (hcommand : it.command = none)
      (hidled : it.idled = min delay left) :
      Spends interval delay due left it [min delay left] due (left - min delay left)

variable {clock} {interval delay : UInt32} {due : Tick} {left : UInt32} {c : Controller} {s : σ}

/-- Time that passes is taken from what is left. -/
theorem OnTime.pass (h : OnTime clock interval delay due left c s) {c' : Controller} {s' : σ}
    {ms : UInt32} (hsound : c'.house.Sound) (hidleDelay : c'.idleDelay = delay)
    (htimer : c'.timer = c.timer) (hclock : clock.clock s' = (clock.clock s).after ms)
    (hms : ms ≤ left) : OnTime clock interval delay due (left - ms) c' s' where
  sound := hsound
  interval_eq := by
    rw [htimer]
    exact h.interval_eq
  idleDelay_eq := hidleDelay
  deadline_eq := by
    rw [htimer]
    exact h.deadline_eq
  due_eq := by
    have hsum : ms + (left - ms) = left := by
      rw [UInt32.add_comm, UInt32.sub_add_cancel]
    rw [hclock, Tick.after_after, hsum]
    exact h.due_eq
  left_le := UInt32.le_trans (UInt32.sub_le hms) h.left_le

/-- A round that finds the controller on time completes. -/
theorem OnTime.completes (hports : ports.NeverFails)
    (h : OnTime clock interval delay due left c s) :
    ∃ it, (round ports c s).result = .ok it ∧
      Paces c it (round ports c s).controller.timer (round ports c s).exchanges ∧
      (round ports c s).controller.idleDelay = delay ∧
      (round ports c s).controller.house.Sound := by
  have hcourse := iterates_round ports c s
  obtain ⟨it, hit⟩ := hcourse.eq_ok h.sound ((path_round ports c s).failures_eq_nil hports)
  have hsound := (sustains_iterates hcourse h.sound).1
  rw [hit] at hcourse
  obtain ⟨hpaces, hidleDelay⟩ := hcourse.paces
  exact ⟨it, hit, hpaces, hidleDelay.trans h.idleDelay_eq, hsound⟩

/-- **A round that finds the controller on time leaves it on time.** -/
theorem OnTime.step (hinterval : interval ≤ 0x7FFFFFFF) (hdelay : 0 < delay)
    (hports : ports.NeverFails) (h : OnTime clock interval delay due left c s) :
    ∃ it ms due' left', (round ports c s).result = .ok it ∧
      sleeps (round ports c s).exchanges = ms ∧
      Spends interval delay due left it ms due' left' ∧
      OnTime clock interval delay due' left' (round ports c s).controller
        (round ports c s).world := by
  obtain ⟨it, hit, hpaces, hidleDelay, hsound⟩ := h.completes hports
  have hpath := path_round ports c s
  have hdeadline := h.deadline_eq.trans h.due_eq
  have hleft : left ≤ 0x7FFFFFFF := UInt32.le_trans h.left_le hinterval
  have hpoll := Timer.poll_of_left hdeadline hleft
  by_cases hquiet : it.report = none ∧ it.command = none
  · obtain ⟨hreport, hcommand⟩ := hquiet
    obtain ⟨hdue, htimer, hidled, hsleeps, hclock⟩ :=
      hpaces.time_of_quiet clock hpath hreport hcommand
    rw [hpoll] at hdue htimer
    have hzero : left ≠ 0 := by
      intro hzero
      rw [if_pos hzero] at hdue
      cases hdue
    rw [if_neg hzero] at htimer
    rw [htimer, Timer.remaining_of_left hdeadline hleft, h.idleDelay_eq] at hidled
    rw [hidled, if_pos (Tick.min_pos hdelay hzero)] at hsleeps
    rw [hidled] at hclock
    exact ⟨it, _, due, _, hit, hsleeps, .sleeps hzero hreport hcommand hidled,
      h.pass hsound hidleDelay htimer hclock Std.min_le_right⟩
  · have hbusy := Classical.not_and_iff_not_or_not.mp hquiet
    obtain ⟨hdue, htimer, hidled, hsleeps, hclock⟩ := hpaces.time_of_busy clock hpath hbusy
    rw [hpoll] at hdue htimer
    by_cases hzero : left = 0
    · rw [if_pos hzero] at hdue htimer
      have hreport : it.report ≠ none := Option.isSome_iff_ne_none.mp hdue
      refine ⟨it, [], due.after interval, interval, hit, hsleeps,
        .reports hzero hreport hidled, hsound, ?_, hidleDelay, ?_, ?_, UInt32.le_refl _⟩
      · rw [htimer]
        exact h.interval_eq
      · rw [htimer, ← h.deadline_eq, ← h.interval_eq]
      · rw [hclock, h.due_eq, hzero, Tick.after_zero]
    · rw [if_neg hzero] at hdue htimer
      have hreport : it.report = none := by
        rw [← Option.not_isSome_iff_eq_none, hdue]
        exact Bool.false_ne_true
      have hcommand : it.command ≠ none := hbusy.resolve_left (absurd hreport)
      have hstill : clock.clock (round ports c s).world = (clock.clock s).after 0 :=
        hclock.trans (Tick.after_zero _).symm
      have hlater := h.pass hsound hidleDelay htimer hstill UInt32.zero_le
      rw [UInt32.sub_zero] at hlater
      exact ⟨it, [], due, left, hit, hsleeps, .reads hzero hreport hcommand hidled, hlater⟩

end

end Controller

end HomeEnergy
