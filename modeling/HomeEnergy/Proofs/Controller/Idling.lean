import HomeEnergy.Proofs.Controller.SettingUp
import HomeEnergy.Proofs.Controller.Timing
import HomeEnergy.Proofs.Controller.Worlds

/-!
# Idling

A timer says in two ways whether it is due: it fires, and nothing remains to its deadline.  The
two agree wherever the clock stands, except half a turn from the deadline, where a distance and
its opposite are the same word: there nothing remains, and the timer does not fire.

* `poll_iff_ahead`, `remaining_of_ahead` — both answers by how far ahead the deadline is;
* `Apart.step` — a clock that moves only while the controller sleeps never gets half a turn away;
* `Stranded.step` — and never leaves it, if that is where it stands;
* `due_and_remaining` — **where the two answers agree, and what the loop makes of them.**
-/

namespace HomeEnergy

open Exchange

namespace Timer

/-- The clock stands half a turn from the deadline. -/
def Opposite (timer : Timer) (now : Tick) : Prop := now = timer.deadline.after 0x80000000

instance (timer : Timer) (now : Tick) : Decidable (timer.Opposite now) :=
  inferInstanceAs (Decidable (now = _))

/-- How far the deadline is ahead of the clock; most of a turn, if it has passed. -/
def ahead (timer : Timer) (now : Tick) : UInt32 := timer.deadline.ms - now.ms

section

variable {timer : Timer} {now : Tick}

theorem after_ahead (timer : Timer) (now : Tick) : now.after (timer.ahead now) = timer.deadline := by
  rw [Tick.after, ahead, UInt32.add_comm, UInt32.sub_add_cancel]

/-- Half a turn is as far in both directions. -/
theorem opposite_iff_ahead : timer.Opposite now ↔ (timer.ahead now).toNat = 0x80000000 := by
  have hhalf : UInt32.toNat 0x80000000 = 0x80000000 := rfl
  have hturn : (0x80000000 : UInt32) + 0x80000000 = 0 := rfl
  rw [← hhalf, UInt32.toNat_inj]
  constructor
  · intro h
    rw [ahead, show now = _ from h, Tick.after, UInt32.sub_eq_iff_eq_add, UInt32.add_comm,
      UInt32.add_assoc, hturn, UInt32.add_zero]
  · intro h
    rw [Opposite, ← after_ahead timer now, h, Tick.after_after, hturn, Tick.after_zero]

/-- A timer fires in the half turn that begins at its deadline. -/
theorem poll_of_ahead (timer : Timer) (now : Tick) :
    timer.poll now =
      if (timer.ahead now).toNat = 0 ∨ 0x80000000 < (timer.ahead now).toNat
      then (true, { timer with deadline := timer.deadline.after timer.interval })
      else (false, timer) := by
  have hhalf : UInt32.toNat 0x7FFFFFFF = 0x7FFFFFFF := rfl
  have hsize : UInt32.size = 0x100000000 := rfl
  have hbound := (timer.ahead now).toNat_lt
  have hsince : now.since timer.deadline = (-timer.ahead now).toInt32 := by
    rw [← after_ahead timer now, Tick.since_self_after]
  have hdue : 0 ≤ now.since timer.deadline ↔
      (timer.ahead now).toNat = 0 ∨ 0x80000000 < (timer.ahead now).toNat := by
    rw [hsince, Tick.toInt32_nonneg_iff, UInt32.le_iff_toNat_le, hhalf, UInt32.toNat_neg, hsize]
    omega
  unfold poll
  simp only [hdue]

/-- Nothing remains from half a turn before the deadline. -/
theorem remaining_of_ahead (timer : Timer) (now : Tick) :
    timer.remaining now =
      if (timer.ahead now).toNat < 0x80000000 then timer.ahead now else 0 := by
  have hleft : 0 ≤ timer.deadline.since now ↔ (timer.ahead now).toNat < 0x80000000 :=
    Tick.toInt32_nonneg_iff.trans Nat.lt_succ_iff.symm
  unfold remaining
  simp only [hleft]
  rfl

theorem poll_iff_ahead :
    (timer.poll now).1 = true ↔
      (timer.ahead now).toNat = 0 ∨ 0x80000000 < (timer.ahead now).toNat := by
  rw [poll_of_ahead]
  split
  next h => exact iff_of_true rfl h
  next h => exact iff_of_false Bool.false_ne_true h

theorem poll_of_not (h : (timer.poll now).1 = false) : timer.poll now = (false, timer) := by
  rw [poll_of_ahead] at h ⊢
  split
  next hdue =>
    rw [if_pos hdue] at h
    cases h
  next => rfl

theorem remaining_eq_zero_iff :
    timer.remaining now = 0 ↔
      (timer.ahead now).toNat = 0 ∨ 0x80000000 ≤ (timer.ahead now).toNat := by
  rw [remaining_of_ahead, ← UInt32.toNat_inj, UInt32.toNat_zero]
  split
  next => omega
  next h => exact iff_of_true rfl (.inr (Nat.le_of_not_lt h))

/-- **A timer fires exactly if nothing remains**, except half a turn from its deadline. -/
theorem poll_iff_remaining :
    (timer.poll now).1 = true ↔ timer.remaining now = 0 ∧ ¬ timer.Opposite now := by
  rw [poll_iff_ahead, remaining_eq_zero_iff, opposite_iff_ahead]
  omega

/-- A timer that does not fire has its deadline ahead, by what remains. -/
theorem remaining_of_not (h : (timer.poll now).1 = false) (hapart : ¬ timer.Opposite now) :
    timer.deadline = now.after (timer.remaining now) ∧ timer.remaining now ≠ 0 ∧
      timer.remaining now ≤ 0x7FFFFFFF := by
  have hhalf : UInt32.toNat 0x7FFFFFFF = 0x7FFFFFFF := rfl
  have hnot := mt poll_iff_ahead.mpr (Bool.eq_false_iff.mp h)
  rw [opposite_iff_ahead] at hapart
  refine ⟨?_, ?_, ?_⟩
  · rw [remaining_of_ahead, if_pos (by omega), after_ahead]
  · rw [ne_eq, remaining_eq_zero_iff]
    omega
  · rw [remaining_of_ahead, if_pos (by omega), UInt32.le_iff_toNat_le, hhalf]
    omega

/-- Half a turn from its deadline a timer does not fire, and nothing remains. -/
theorem Opposite.stalls (h : timer.Opposite now) :
    timer.poll now = (false, timer) ∧ timer.remaining now = 0 := by
  have hhalf := opposite_iff_ahead.mp h
  refine ⟨?_, remaining_eq_zero_iff.mpr (.inr (Nat.le_of_eq hhalf.symm))⟩
  rw [poll_of_ahead, if_neg (by omega)]

/-- Half a turn after its deadline, a timer that was started at zero is not due, and yet nothing
remains. -/
theorem undue_and_nothing_remains :
    ∃ timer, start 100 ⟨0⟩ = .ok timer ∧ (timer.poll ⟨100 + 0x80000000⟩).1 = false ∧
      timer.remaining ⟨100 + 0x80000000⟩ = 0 ∧
      (⟨100 + 0x80000000⟩ : Tick).after (timer.remaining ⟨100 + 0x80000000⟩) ≠ timer.deadline :=
  ⟨⟨100, ⟨100⟩⟩, rfl, by decide, by decide, by decide⟩

theorem not_opposite_of_left {left : UInt32} (hdeadline : timer.deadline = now.after left)
    (hleft : left ≤ 0x7FFFFFFF) : ¬ timer.Opposite now := by
  have hnat : left.toNat ≤ 0x7FFFFFFF := hleft
  have hahead : timer.ahead now = left := by
    rw [ahead, hdeadline, Tick.after, UInt32.add_comm, UInt32.add_sub_cancel]
  rw [opposite_iff_ahead, hahead]
  omega

/-- Firing moves the deadline by too little to bring it half a turn away. -/
theorem not_opposite_of_poll (hinterval : timer.interval ≤ 0x7FFFFFFF)
    (h : (timer.poll now).1 = true) : ¬ (timer.poll now).2.Opposite now := by
  have hnat : timer.interval.toNat ≤ 0x7FFFFFFF := hinterval
  have hdue := poll_iff_ahead.mp h
  have hbound := (timer.ahead now).toNat_lt
  -- The new deadline is less than half a turn ahead of one that has passed, or is just due.
  have hahead : (timer.poll now).2.ahead now = timer.ahead now + timer.interval := by
    rw [poll_of_ahead, if_pos hdue]
    show timer.deadline.ms + timer.interval - now.ms =
      timer.deadline.ms - now.ms + timer.interval
    rw [UInt32.sub_eq_add_neg, UInt32.sub_eq_add_neg, UInt32.add_assoc, UInt32.add_assoc,
      UInt32.add_comm timer.interval]
  rw [opposite_iff_ahead, hahead, UInt32.toNat_add]
  omega

end

end Timer

namespace Controller

variable {σ : Type} {ports : Ports (StateM σ)}

variable (ports) in
/-- All rounds before this one complete. -/
def Completes (c : Controller) (s : σ) (i : Nat) : Prop :=
  ∀ j < i, ∃ it, (nthRound ports c s j).result = .ok it

/-- What holds at the start, and is kept by every round that completes, holds before each round
of a run. -/
theorem Completes.keeps {Kept : Controller → σ → Prop}
    (hstep : ∀ c s it, Kept c s → (round ports c s).result = .ok it →
      Kept (round ports c s).controller (round ports c s).world)
    {c : Controller} {s : σ} (hstart : Kept c s) {i : Nat} (h : Completes ports c s i) :
    Kept (after ports c s i).1 (after ports c s i).2 := by
  induction i with
  | zero => exact hstart
  | succ i ih =>
    obtain ⟨it, hit⟩ := h i (Nat.lt_succ_self i)
    rw [after_succ]
    exact hstep _ _ it (ih fun j hj => h j (Nat.lt_succ_of_lt hj)) hit

/-- The clock is not half a turn from the deadline of a timer with a period of less than that. -/
structure Apart (clock : ports.SleepClock) (delay : UInt32) (c : Controller) (s : σ) : Prop where
  interval_le : c.timer.interval ≤ 0x7FFFFFFF
  idleDelay_eq : c.idleDelay = delay
  apart : ¬ c.timer.Opposite (clock.clock s)

/-- The clock is half a turn from the deadline of this timer. -/
structure Stranded (clock : ports.SleepClock) (timer : Timer) (c : Controller) (s : σ) :
    Prop where
  timer_eq : c.timer = timer
  opposite : timer.Opposite (clock.clock s)

section

variable {clock : ports.SleepClock} {delay : UInt32} {timer : Timer} {c : Controller} {s : σ}
  {it : Iteration}

theorem paces_round (hit : (round ports c s).result = .ok it) :
    Paces c it (round ports c s).controller.timer (round ports c s).exchanges ∧
      (round ports c s).controller.idleDelay = c.idleDelay := by
  have hcourse := iterates_round ports c s
  rw [hit] at hcourse
  exact hcourse.paces

/-- **A round with nothing to do sleeps**, for the idle delay or up to the deadline. -/
theorem Apart.sleeps (h : Apart clock delay c s) (hit : (round ports c s).result = .ok it)
    (hreport : it.report = none) (hcommand : it.command = none) :
    ∃ left, c.timer.deadline = (clock.clock s).after left ∧ left ≠ 0 ∧ left ≤ 0x7FFFFFFF ∧
      it.idled = min delay left ∧
      sleeps (round ports c s).exchanges = (if 0 < it.idled then [it.idled] else []) ∧
      clock.clock (round ports c s).world = (clock.clock s).after it.idled ∧
      (round ports c s).controller.timer = c.timer := by
  obtain ⟨hdue, htimer, hidled, hsleeps, hclock⟩ :=
    (paces_round hit).1.time_of_quiet clock (path_round ports c s) hreport hcommand
  obtain ⟨hdeadline, hne, hle⟩ := Timer.remaining_of_not hdue h.apart
  rw [Timer.poll_of_not hdue] at htimer
  rw [htimer, h.idleDelay_eq] at hidled
  exact ⟨_, hdeadline, hne, hle, hidled, hsleeps, hclock, htimer⟩

/-- **A clock that moves only while the controller sleeps never gets half a turn away.** -/
theorem Apart.step (h : Apart clock delay c s) (hit : (round ports c s).result = .ok it) :
    Apart clock delay (round ports c s).controller (round ports c s).world := by
  obtain ⟨hpaces, hdelay⟩ := paces_round hit
  by_cases hquiet : it.report = none ∧ it.command = none
  · obtain ⟨left, hdeadline, -, hleft, hidled, -, hclock, htimer⟩ :=
      h.sleeps hit hquiet.1 hquiet.2
    -- The sleep is taken from what is left, which never was half a turn.
    have hle : it.idled ≤ left := hidled ▸ Std.min_le_right
    have hsum : it.idled + (left - it.idled) = left := by
      rw [UInt32.add_comm, UInt32.sub_add_cancel]
    refine ⟨htimer ▸ h.interval_le, hdelay.trans h.idleDelay_eq, ?_⟩
    rw [htimer, hclock]
    refine Timer.not_opposite_of_left ?_ (UInt32.le_trans (UInt32.sub_le hle) hleft)
    rw [Tick.after_after, hsum, hdeadline]
  · have hbusy := Classical.not_and_iff_not_or_not.mp hquiet
    obtain ⟨-, htimer, -, -, hclock⟩ :=
      hpaces.time_of_busy clock (path_round ports c s) hbusy
    refine ⟨?_, hdelay.trans h.idleDelay_eq, ?_⟩
    · rw [htimer, Timer.interval_poll]
      exact h.interval_le
    · rw [htimer, hclock]
      cases hdue : (c.timer.poll (clock.clock s)).1 with
      | true => exact Timer.not_opposite_of_poll h.interval_le hdue
      | false =>
        rw [Timer.poll_of_not hdue]
        exact h.apart

variable (clock) in
/-- A controller that has just been set up is a period away from its first deadline. -/
theorem apart_of_setUpIn {house : House} {settings : Settings} {s₀ : σ} {before : List Exchange}
    (h : setUpIn ports house settings s₀ = (.ok c, ⟨s, before⟩)) :
    Apart clock settings.idleDelay c s := by
  obtain ⟨hsets, hpath⟩ := setsUp_of_setUpIn h
  obtain ⟨hstarts, hdelay, -⟩ := hsets.starts clock hpath
  obtain ⟨-, hinterval, htimer⟩ := Timer.start_eq_ok_iff.mp hstarts
  refine ⟨?_, hdelay, ?_⟩
  · rw [htimer]
    exact hinterval
  · rw [htimer]
    exact Timer.not_opposite_of_left rfl hinterval

/-- **A clock that stands half a turn away stays there**: there is no report and no sleep. -/
theorem Stranded.step (h : Stranded clock timer c s) (hit : (round ports c s).result = .ok it) :
    it.report = none ∧ it.idled = 0 ∧ sleeps (round ports c s).exchanges = [] ∧
      Stranded clock timer (round ports c s).controller (round ports c s).world := by
  have hpaces := (paces_round hit).1
  have hpath := path_round ports c s
  obtain ⟨hpoll, hremaining⟩ := h.opposite.stalls
  by_cases hquiet : it.report = none ∧ it.command = none
  · obtain ⟨hreport, hcommand⟩ := hquiet
    obtain ⟨-, htimer, hidled, hsleeps, hclock⟩ :=
      hpaces.time_of_quiet clock hpath hreport hcommand
    rw [h.timer_eq, hpoll] at htimer
    have hnone : it.idled = 0 := by
      rw [hidled, htimer, hremaining]
      exact UInt32.le_zero_iff.mp Std.min_le_right
    rw [hnone, if_neg (UInt32.lt_irrefl 0)] at hsleeps
    rw [hnone, Tick.after_zero] at hclock
    refine ⟨hreport, hnone, hsleeps, htimer, ?_⟩
    rw [hclock]
    exact h.opposite
  · have hbusy := Classical.not_and_iff_not_or_not.mp hquiet
    obtain ⟨hdue, htimer, hidled, hsleeps, hclock⟩ := hpaces.time_of_busy clock hpath hbusy
    rw [h.timer_eq, hpoll] at hdue htimer
    refine ⟨Option.not_isSome_iff_eq_none.mp ?_, hidled, hsleeps, htimer, ?_⟩
    · rw [hdue]
      exact Bool.false_ne_true
    · rw [hclock]
      exact h.opposite

end

/-- **Where the two answers agree, and what the loop makes of them.**  They agree everywhere but
half a turn from the deadline; there nothing remains, and the timer does not fire.  On a clock
that moves only while the controller sleeps, no run gets there from its setting up, and every
round of it that has nothing else to do sleeps up to the deadline at most.  A clock that has got
there all the same stays: nothing is reported and nothing is slept any more. -/
theorem due_and_remaining (clock : ports.SleepClock) :
    (∀ (timer : Timer) (now : Tick),
      ((timer.poll now).1 = true ↔ timer.remaining now = 0 ∧ ¬ timer.Opposite now) ∧
      ((timer.poll now).1 = false → ¬ timer.Opposite now →
        now.after (timer.remaining now) = timer.deadline) ∧
      (timer.Opposite now → timer.poll now = (false, timer) ∧ timer.remaining now = 0)) ∧
    (∀ house settings s₀ c s before,
      setUpIn ports house settings s₀ = (.ok c, ⟨s, before⟩) → 0 < settings.idleDelay →
      ∀ i, Completes ports c s i → ∀ it, (nthRound ports c s i).result = .ok it →
        it.report = none → it.command = none →
        ∃ left, (after ports c s i).1.timer.deadline =
            (clock.clock (after ports c s i).2).after left ∧ left ≤ 0x7FFFFFFF ∧
          0 < it.idled ∧ it.idled ≤ left ∧ sleeps (nthRound ports c s i).exchanges = [it.idled]) ∧
    (∀ c s, c.timer.Opposite (clock.clock s) →
      ∀ i, Completes ports c s i → ∀ it, (nthRound ports c s i).result = .ok it →
        it.report = none ∧ it.idled = 0 ∧ sleeps (nthRound ports c s i).exchanges = []) := by
  refine ⟨fun timer now => ⟨Timer.poll_iff_remaining, ?_, Timer.Opposite.stalls⟩, ?_, ?_⟩
  · intro hundue hapart
    exact (Timer.remaining_of_not hundue hapart).1.symm
  · intro house settings s₀ c s before hset hdelay i hcompletes it hit hreport hcommand
    have hapart : Apart clock settings.idleDelay (after ports c s i).1 (after ports c s i).2 :=
      hcompletes.keeps (fun _ _ _ h => h.step) (apart_of_setUpIn clock hset)
    obtain ⟨left, hdeadline, hne, hleft, hidled, hsleeps, -⟩ := hapart.sleeps hit hreport hcommand
    have hpos : 0 < it.idled := hidled ▸ Tick.min_pos hdelay hne
    rw [if_pos hpos] at hsleeps
    exact ⟨left, hdeadline, hleft, hpos, hidled ▸ Std.min_le_right, hsleeps⟩
  · intro c s hopposite i hcompletes it hit
    have hstranded : Stranded clock c.timer (after ports c s i).1 (after ports c s i).2 :=
      hcompletes.keeps (fun _ _ _ h hit => (h.step hit).2.2.2) ⟨rfl, hopposite⟩
    obtain ⟨hreport, hidled, hsleeps, -⟩ := hstranded.step hit
    exact ⟨hreport, hidled, hsleeps⟩

/-- A calm night: the clock is about to wrap, and nothing comes up. -/
def calmNight : Calm := { clock := ⟨0xFFFFFFF0⟩ }

/-- The bench half a turn after the first report of a night. -/
def stuckNight : Bench := { clock := ⟨84 + 0x80000000⟩ }

/-- The controller of both nights, as it has been set up in the calm one. -/
def nightController : Controller where
  house := Calm.cottage
  screen := firstScreen Calm.pace
  timer := ⟨100, ⟨84⟩⟩
  idleDelay := 60

/-- An iteration in which nothing comes up, with its sleep. -/
def quietIteration (idled : UInt32) : Iteration :=
  { presses := ⟨false, false⟩, report := none, command := none, idled }

set_option maxRecDepth 10000 in
theorem result_calmNight :
    (history Calm.ports nightController calmNight 2).map (·.result) =
      [.ok (quietIteration 60), .ok (quietIteration 40)] := by
  rfl

set_option maxRecDepth 10000 in
theorem result_stuckNight :
    (nthRound Bench.ports nightController stuckNight 0).result = .ok (quietIteration 0) := by
  rfl

set_option maxRecDepth 10000 in
/-- In the calm night the second round sleeps for what the first has left of the period.  On the
bench, whose clock is stuck half a turn from the deadline, the timer does not fire, nothing
remains, and a round neither reports nor sleeps. -/
theorem due_and_remaining_night :
    (∃ before left,
      setUpIn Calm.ports Calm.cottage Calm.pace calmNight =
        (.ok nightController, ⟨calmNight, before⟩) ∧
      (history Calm.ports nightController calmNight 2).map (·.result) =
        [.ok (quietIteration 60), .ok (quietIteration 40)] ∧
      (after Calm.ports nightController calmNight 1).1.timer.deadline =
        (after Calm.ports nightController calmNight 1).2.clock.after left ∧
      40 ≤ left ∧ left ≤ 0x7FFFFFFF ∧
      sleeps (nthRound Calm.ports nightController calmNight 1).exchanges = [40]) ∧
    nightController.timer.Opposite stuckNight.clock ∧
    nightController.timer.poll stuckNight.clock = (false, nightController.timer) ∧
    nightController.timer.remaining stuckNight.clock = 0 ∧
    (nthRound Bench.ports nightController stuckNight 0).result = .ok (quietIteration 0) ∧
    sleeps (nthRound Bench.ports nightController stuckNight 0).exchanges = [] := by
  obtain ⟨-, hruns, -⟩ := due_and_remaining Calm.sleepClock
  obtain ⟨hanswers, -, hstuck⟩ := due_and_remaining Bench.sleepClock
  obtain ⟨before, hset⟩ : ∃ before, setUpIn Calm.ports Calm.cottage Calm.pace calmNight =
      (.ok nightController, ⟨calmNight, before⟩) := ⟨_, rfl⟩
  obtain ⟨hfirst, hlater⟩ := List.cons_eq_cons.mp result_calmNight
  obtain ⟨hsecond, -⟩ := List.cons_eq_cons.mp hlater
  have hcompletes : Completes Calm.ports nightController calmNight 1 := by
    intro j hj
    obtain rfl : j = 0 := Nat.lt_one_iff.mp hj
    exact ⟨_, hfirst⟩
  obtain ⟨left, hdeadline, hturn, -, hle, hsleeps⟩ :=
    hruns Calm.cottage Calm.pace calmNight nightController calmNight before hset (by decide) 1
      hcompletes (quietIteration 40) hsecond rfl rfl
  have hopposite : nightController.timer.Opposite stuckNight.clock := by decide
  obtain ⟨hpoll, hremaining⟩ := (hanswers nightController.timer stuckNight.clock).2.2 hopposite
  obtain ⟨-, -, hnone⟩ :=
    hstuck nightController stuckNight hopposite 0 nofun (quietIteration 0) result_stuckNight
  exact ⟨⟨before, left, hset, result_calmNight, hdeadline, hle, hturn, hsleeps⟩, hopposite, hpoll,
    hremaining, result_stuckNight, hnone⟩

end Controller

end HomeEnergy
