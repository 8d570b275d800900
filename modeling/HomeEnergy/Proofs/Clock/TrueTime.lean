import HomeEnergy.Clock.Timer
import Mathlib.Data.List.Induction

/-!
# Timers in true time

The clock shows the true time modulo its wrap, and a timer compares ticks by the signed distance
between them.  As long as no poll comes half a turn of the clock or more after the deadline that
is pending then, nothing of this can be seen: the timer does what one would do that sees the true
time.

* `OnSchedule.poll_of_le`, `OnSchedule.poll_of_lt` — what a poll at a true time does;
* `OnSchedule.after` — what any number of polls leave behind;
* `start_trueTo` — **a timer fires at its true deadlines**, and once for each of them, however
  late and however irregularly it is asked.
-/

namespace HomeEnergy

/-- The tick that the clock shows at a true time. -/
def Tick.ofTime (time : Nat) : Tick := ⟨UInt32.ofNat time⟩

theorem Tick.ofTime_add (time delay : Nat) :
    Tick.ofTime (time + delay) = (Tick.ofTime time).after (UInt32.ofNat delay) := by
  rw [ofTime, ofTime, after, UInt32.ofNat_add]

/-- A delay of less than half a turn of the clock is kept by its word. -/
theorem Tick.toNat_ofNat {delay : Nat} (h : delay < 0x80000000) :
    (UInt32.ofNat delay).toNat = delay := by
  have hsize : UInt32.size = 0x100000000 := rfl
  apply UInt32.toNat_ofNat_of_lt'
  omega

theorem Tick.ofNat_le {delay : Nat} (h : delay < 0x80000000) :
    UInt32.ofNat delay ≤ 0x7FFFFFFF := by
  rw [UInt32.le_iff_toNat_le, toNat_ofNat h]
  exact Nat.le_of_lt_succ h

namespace Timer

/-- Asks a timer at these true times, one after the other: its answers, and the timer after
the last of them. -/
def pollAt (timer : Timer) : List Nat → List Bool × Timer
  | [] => ([], timer)
  | time :: later =>
    let (due, timer) := timer.poll (Tick.ofTime time)
    let (answers, timer) := timer.pollAt later
    (due :: answers, timer)

/-- The timer after it has been asked at these times. -/
def after (timer : Timer) (times : List Nat) : Timer := (timer.pollAt times).2

/-- How often a timer fires that is asked at these times. -/
def fires (timer : Timer) (times : List Nat) : Nat := (timer.pollAt times).1.count true

/-- The true deadline that is pending once a timer, started at this time, has fired so often. -/
def dueTime (timer : Timer) (start fired : Nat) : Nat :=
  start + (fired + 1) * timer.interval.toNat

/-- The whole intervals between two times. -/
def periods (timer : Timer) (start now : Nat) : Nat := (now - start) / timer.interval.toNat

/-- No poll comes half a turn of the clock or more after the deadline that is pending then. -/
def Prompt (timer : Timer) (start : Nat) (times : List Nat) : Prop :=
  ∀ i, (h : i < times.length) →
    times[i] < timer.dueTime start (timer.fires (times.take i)) + 0x80000000

instance (timer : Timer) (start : Nat) (times : List Nat) : Decidable (timer.Prompt start times) :=
  inferInstanceAs (Decidable (∀ i, (h : i < times.length) → _))

theorem pollAt_append (timer : Timer) (times later : List Nat) :
    timer.pollAt (times ++ later) =
      ((timer.pollAt times).1 ++ ((timer.after times).pollAt later).1,
        ((timer.after times).pollAt later).2) := by
  induction times generalizing timer with
  | nil => rfl
  | cons time times ih =>
    simp only [List.cons_append, pollAt, after, ih]

theorem pollAt_singleton (timer : Timer) (now : Nat) :
    timer.pollAt [now] = ([(timer.poll (Tick.ofTime now)).1], (timer.poll (Tick.ofTime now)).2) :=
  rfl

theorem after_append (timer : Timer) (times later : List Nat) :
    timer.after (times ++ later) = (timer.after times).after later := by
  rw [after, pollAt_append]
  rfl

theorem fires_append (timer : Timer) (times later : List Nat) :
    timer.fires (times ++ later) = timer.fires times + (timer.after times).fires later := by
  rw [fires, pollAt_append, List.count_append, fires, fires]

theorem fires_singleton (timer : Timer) (now : Nat) :
    timer.fires [now] = (timer.poll (Tick.ofTime now)).1.toNat := by
  rw [fires, pollAt_singleton]
  cases (timer.poll (Tick.ofTime now)).1 <;> rfl

/-- The last poll is prompt by itself. -/
theorem prompt_concat {timer : Timer} {start now : Nat} {times : List Nat}
    (h : timer.Prompt start (times ++ [now])) :
    timer.Prompt start times ∧ now < timer.dueTime start (timer.fires times) + 0x80000000 := by
  constructor
  · intro i hi
    have hlast := h i (by rw [List.length_append]; omega)
    rwa [List.getElem_append_left hi, List.take_append_of_le_length (Nat.le_of_lt hi)] at hlast
  · have hlast := h times.length (by simp)
    rwa [List.getElem_concat_length rfl, List.take_left] at hlast

theorem dueTime_eq (timer : Timer) (start fired : Nat) :
    timer.dueTime start fired =
      start + fired * timer.interval.toNat + timer.interval.toNat := by
  rw [dueTime, Nat.add_mul, Nat.one_mul, Nat.add_assoc]

/-- One interval lies between a deadline and the next one. -/
theorem dueTime_succ (timer : Timer) (start fired : Nat) :
    timer.dueTime start (fired + 1) = timer.dueTime start fired + timer.interval.toNat :=
  dueTime_eq timer start (fired + 1)

@[simp] theorem interval_after (timer : Timer) (times : List Nat) :
    (timer.after times).interval = timer.interval := by
  induction times generalizing timer with
  | nil => rfl
  | cons time later ih => exact (ih _).trans (interval_poll timer _)

@[simp] theorem dueTime_after (timer : Timer) (times : List Nat) (start fired : Nat) :
    (timer.after times).dueTime start fired = timer.dueTime start fired := by
  rw [dueTime, dueTime, interval_after]

@[simp] theorem periods_after (timer : Timer) (times : List Nat) (start now : Nat) :
    (timer.after times).periods start now = timer.periods start now := by
  rw [periods, periods, interval_after]

/-- A timer that was started at this time and has fired so often: its deadline is the tick of
the true one, and the time of its last firing has come. -/
structure OnSchedule (timer : Timer) (start fired time : Nat) : Prop where
  interval_pos : 0 < timer.interval.toNat
  interval_le : timer.interval.toNat ≤ 0x7FFFFFFF
  deadline_eq : timer.deadline = Tick.ofTime (timer.dueTime start fired)
  reached : start + fired * timer.interval.toNat ≤ time

/-- A timer that has been started is on its schedule. -/
theorem onSchedule_start {interval : UInt32} {start : Nat} {timer : Timer}
    (h : Timer.start interval (Tick.ofTime start) = .ok timer) : timer.OnSchedule start 0 start := by
  obtain ⟨hpos, hfit, rfl⟩ := start_eq_ok_iff.mp h
  refine ⟨hpos, hfit, ?_, ?_⟩
  · show (Tick.ofTime start).after interval = Tick.ofTime (start + (0 + 1) * interval.toNat)
    rw [Nat.zero_add, Nat.one_mul, Tick.ofTime_add, UInt32.ofNat_toNat]
  · rw [Nat.zero_mul]
    exact Nat.le_refl start

/-- A timer that has fired so often has to wait: it tells the true time to its next deadline,
and this is no longer than an interval. -/
structure Waits (timer : Timer) (start fired now : Nat) : Prop where
  due_eq : now + (timer.remaining (Tick.ofTime now)).toNat = timer.dueTime start fired
  remaining_pos : 1 ≤ (timer.remaining (Tick.ofTime now)).toNat
  remaining_le : (timer.remaining (Tick.ofTime now)).toNat ≤ timer.interval.toNat

section

variable {timer : Timer} {start fired time now : Nat} (h : timer.OnSchedule start fired time)

include h

theorem OnSchedule.mono (hle : time ≤ now) : timer.OnSchedule start fired now :=
  { h with reached := Nat.le_trans h.reached hle }

/-- It has not fired more often than whole intervals have passed. -/
theorem OnSchedule.fired_le : fired ≤ timer.periods start time := by
  rw [periods, Nat.le_div_iff_mul_le h.interval_pos]
  have hreached := h.reached
  omega

/-- Its next deadline has come exactly if it has fired less often than that. -/
theorem OnSchedule.dueTime_le_iff :
    timer.dueTime start fired ≤ time ↔ fired < timer.periods start time := by
  rw [dueTime, periods, Nat.lt_iff_add_one_le, Nat.le_div_iff_mul_le h.interval_pos]
  have hreached := h.reached
  omega

/-- **At its true deadline and for half a turn of the clock after it, the timer fires.** -/
theorem OnSchedule.poll_of_le (hdue : timer.dueTime start fired ≤ now)
    (hnear : now < timer.dueTime start fired + 0x80000000) :
    timer.poll (Tick.ofTime now) =
      (true, { timer with deadline := Tick.ofTime (timer.dueTime start (fired + 1)) }) := by
  obtain ⟨late, rfl⟩ := Nat.exists_eq_add_of_le hdue
  have hlate : late < 0x80000000 := by omega
  have hfires : 0 ≤ (Tick.ofTime (timer.dueTime start fired + late)).since timer.deadline := by
    rw [Tick.ofTime_add, h.deadline_eq, Tick.since_after]
    exact Tick.toInt32_nonneg (Tick.ofNat_le hlate)
  rw [poll, if_pos hfires, dueTime_succ, Tick.ofTime_add, UInt32.ofNat_toNat, h.deadline_eq]

/-- What is left of the interval before its true deadline. -/
theorem OnSchedule.left (hle : time ≤ now) (hearly : now < timer.dueTime start fired) :
    timer.deadline = (Tick.ofTime now).after (UInt32.ofNat (timer.dueTime start fired - now)) ∧
      timer.dueTime start fired - now ≤ timer.interval.toNat := by
  constructor
  · rw [← Tick.ofTime_add, Nat.add_sub_cancel' (Nat.le_of_lt hearly), h.deadline_eq]
  · have hreached := h.reached
    rw [dueTime_eq]
    omega

/-- **Before its true deadline it does not fire**, and says truly how long it has to wait. -/
theorem OnSchedule.poll_of_lt (hle : time ≤ now) (hearly : now < timer.dueTime start fired) :
    timer.poll (Tick.ofTime now) = (false, timer) ∧ timer.Waits start fired now := by
  obtain ⟨hdeadline, hleft⟩ := h.left hle hearly
  have hshort : timer.dueTime start fired - now < 0x80000000 :=
    Nat.lt_of_le_of_lt (Nat.le_trans hleft h.interval_le) (by decide)
  have hword := Tick.toNat_ofNat hshort
  have hsome : UInt32.ofNat (timer.dueTime start fired - now) ≠ 0 := by
    intro hnone
    rw [hnone, UInt32.toNat_zero] at hword
    omega
  have hremaining := remaining_of_left hdeadline (Tick.ofNat_le hshort)
  constructor
  · rw [poll_of_left hdeadline (Tick.ofNat_le hshort), if_neg hsome]
  · constructor <;> rw [hremaining, hword] <;> omega

/-- One poll keeps a timer on its schedule. -/
theorem OnSchedule.poll (hle : time ≤ now)
    (hnear : now < timer.dueTime start fired + 0x80000000) :
    ((timer.poll (Tick.ofTime now)).1 = true ↔ timer.dueTime start fired ≤ now) ∧
      (timer.poll (Tick.ofTime now)).2.OnSchedule start
        (fired + (timer.poll (Tick.ofTime now)).1.toNat) now := by
  by_cases hdue : timer.dueTime start fired ≤ now
  · rw [h.poll_of_le hdue hnear]
    exact ⟨iff_of_true rfl hdue, h.interval_pos, h.interval_le, rfl, hdue⟩
  · rw [(h.poll_of_lt hle (Nat.lt_of_not_le hdue)).1]
    exact ⟨iff_of_false Bool.false_ne_true hdue, h.mono hle⟩

/-- Asked again and again at one time, it fires for every interval that it has missed. -/
theorem OnSchedule.pollAt_replicate {missed : Nat}
    (hnear : time < timer.dueTime start fired + 0x80000000)
    (hmissed : fired + missed ≤ timer.periods start time) :
    (timer.pollAt (List.replicate missed time)).1 = List.replicate missed true ∧
      (timer.after (List.replicate missed time)).OnSchedule start (fired + missed) time := by
  induction missed generalizing timer fired with
  | zero => exact ⟨rfl, h⟩
  | succ missed ih =>
    have hdue : timer.dueTime start fired ≤ time := h.dueTime_le_iff.mpr (by omega)
    have hpoll := h.poll_of_le hdue hnear
    have hnext := (h.poll (Nat.le_refl time) hnear).2
    have hlater := timer.dueTime_succ start fired
    rw [hpoll] at hnext
    obtain ⟨hanswers, hschedule⟩ := ih hnext (by
      show time < timer.dueTime start (fired + 1) + 0x80000000
      omega) (by
      show fired + 1 + missed ≤ timer.periods start time
      omega)
    rw [after] at hschedule ⊢
    rw [List.replicate_succ, pollAt, hpoll]
    refine ⟨congrArg (true :: ·) hanswers, ?_⟩
    rwa [Nat.add_right_comm] at hschedule

/-- Asked until it does not fire, it has fired once for each interval that has passed. -/
theorem OnSchedule.catches_up (hnear : time < timer.dueTime start fired + 0x80000000) :
    ∃ missed, fired + missed = timer.periods start time ∧
      (timer.pollAt (List.replicate (missed + 1) time)).1 = List.replicate missed true ++ [false] ∧
      (timer.after (List.replicate (missed + 1) time)).Waits start (timer.periods start time)
        time := by
  obtain ⟨missed, hmissed⟩ := Nat.exists_eq_add_of_le h.fired_le
  obtain ⟨hanswers, hcaught⟩ := h.pollAt_replicate hnear (Nat.le_of_eq hmissed.symm)
  rw [← hmissed] at hcaught
  have hearly : time < (timer.after (List.replicate missed time)).dueTime start
      (timer.periods start time) := by
    have hnot := mt hcaught.dueTime_le_iff.mp
    rw [periods_after] at hnot
    exact Nat.lt_of_not_le (hnot (Nat.lt_irrefl _))
  obtain ⟨hlast, hwaits⟩ := hcaught.poll_of_lt (Nat.le_refl time) hearly
  refine ⟨missed, hmissed.symm, ?_, ?_⟩
  · rw [List.replicate_succ', pollAt_append, hanswers, pollAt_singleton, hlast]
  · rw [List.replicate_succ', after_append, after, pollAt_singleton, hlast]
    exact hwaits

end

/-- Prompt polls at times that never go back keep a timer on its schedule. -/
theorem OnSchedule.after {timer : Timer} {start now : Nat} {times : List Nat}
    (h : timer.OnSchedule start 0 start)
    (hsorted : (start :: (times ++ [now])).Pairwise (· ≤ ·)) (hprompt : timer.Prompt start times) :
    (timer.after times).OnSchedule start (timer.fires times) now := by
  induction times using List.reverseRecOn generalizing now with
  | nil => exact h.mono (List.rel_of_pairwise_cons hsorted List.mem_cons_self)
  | append_singleton times time ih =>
    obtain ⟨hearlier, hnear⟩ := prompt_concat hprompt
    rw [List.append_assoc, List.singleton_append, ← List.cons_append] at hsorted
    obtain ⟨hbefore, hlast, hacross⟩ := List.pairwise_append.mp hsorted
    have hschedule := ih (List.pairwise_append.mpr
      ⟨hbefore, List.pairwise_singleton _ _, fun a ha b hb =>
        hacross a ha b (List.mem_singleton.mp hb ▸ List.mem_cons_self)⟩) hearlier
    rw [← dueTime_after timer times] at hnear
    have hpolled := (hschedule.poll (Nat.le_refl time) hnear).2
    rw [after_append, fires_append, fires_singleton]
    exact hpolled.mono (List.rel_of_pairwise_cons hlast List.mem_cons_self)

/-- What can be said in true time of a timer that was started at one time, has been asked at
others, and is now asked again. -/
structure TrueTo (timer : Timer) (start : Nat) (times : List Nat) (now : Nat) : Prop where
  /-- It holds the tick of the true deadline. -/
  deadline_eq : (timer.after times).deadline =
    Tick.ofTime (timer.dueTime start (timer.fires times))
  /-- It fires exactly if that deadline has come. -/
  fires_iff : ((timer.after times).poll (Tick.ofTime now)).1 = true ↔
    timer.dueTime start (timer.fires times) ≤ now
  fires_le : timer.fires (times ++ [now]) ≤ timer.periods start now
  /-- Asked now until it does not fire, it has fired once for each interval that has passed, and
  then it has to wait for the next of the true deadlines. -/
  catches_up : ∃ missed,
    ((timer.after times).pollAt (List.replicate (missed + 1) now)).1 =
      List.replicate missed true ++ [false] ∧
    timer.fires (times ++ List.replicate (missed + 1) now) = timer.periods start now ∧
    (timer.after (times ++ List.replicate (missed + 1) now)).Waits start
      (timer.periods start now) now

/-- **A timer fires at its true deadlines.**  It is started with any interval that it can have,
at any true time, and asked at times that never go back, but never half a turn of the clock or
more after the deadline that is pending then.  Then each poll fires exactly if the true deadline
has come, which is one interval more after the start than the timer has fired; so it never fires
more often than whole intervals have passed.  Asked again and again at one time it makes up for
all it has missed, one interval with each poll, and then tells the true time to its next
deadline. -/
theorem start_trueTo {interval : UInt32} (hpos : 0 < interval) (hfit : interval ≤ 0x7FFFFFFF)
    (start : Nat) {times : List Nat} {now : Nat}
    (hsorted : (start :: (times ++ [now])).Pairwise (· ≤ ·)) :
    ∃ timer, Timer.start interval (Tick.ofTime start) = .ok timer ∧
      (timer.Prompt start (times ++ [now]) → timer.TrueTo start times now) := by
  obtain ⟨timer, hstart⟩ : ∃ timer, Timer.start interval (Tick.ofTime start) = .ok timer :=
    ⟨_, start_eq_ok_iff.mpr ⟨hpos, hfit, rfl⟩⟩
  refine ⟨timer, hstart, ?_⟩
  intro hprompt
  obtain ⟨hearlier, hnear⟩ := prompt_concat hprompt
  have hschedule := (onSchedule_start hstart).after hsorted hearlier
  rw [← dueTime_after timer times] at hnear
  obtain ⟨hfires, hpolled⟩ := hschedule.poll (Nat.le_refl now) hnear
  obtain ⟨missed, hmissed, hanswers, hwaits⟩ := hschedule.catches_up hnear
  rw [periods_after] at hmissed hwaits
  constructor
  case deadline_eq => rw [hschedule.deadline_eq, dueTime_after]
  case fires_iff => rw [hfires, dueTime_after]
  case fires_le =>
    have hle := hpolled.fired_le
    rw [fires_append, fires_singleton]
    rwa [periods, interval_poll, interval_after] at hle
  case catches_up =>
    refine ⟨missed, hanswers, ?_, ?_⟩
    · rw [fires_append, fires, fires, hanswers, List.count_append, List.count_replicate_self,
        ← hmissed]
      rfl
    · rwa [after_append]

/-- A second before the clock wraps a timer of one second is started; it is asked before the
wrap, soon after it, and then not for a long time. -/
theorem start_trueTo_wrapping :
    (0 : UInt32) < 1000 ∧ (1000 : UInt32) ≤ 0x7FFFFFFF ∧
      (4294966300 :: ([4294966800, 4294967350] ++ [4294971000])).Pairwise (· ≤ ·) ∧
      ∃ timer, Timer.start 1000 (Tick.ofTime 4294966300) = .ok timer ∧
        timer.Prompt 4294966300 ([4294966800, 4294967350] ++ [4294971000]) ∧
        timer.TrueTo 4294966300 [4294966800, 4294967350] 4294971000 ∧
        timer.fires [4294966800, 4294967350] = 1 ∧ timer.periods 4294966300 4294971000 = 4 := by
  have hsorted : (4294966300 :: ([4294966800, 4294967350] ++ [4294971000])).Pairwise (· ≤ ·) := by
    decide
  obtain ⟨timer, hstart, htrue⟩ := start_trueTo (by decide : (0 : UInt32) < 1000) (by decide)
    4294966300 hsorted
  have hprompt : timer.Prompt 4294966300 ([4294966800, 4294967350] ++ [4294971000]) ∧
      timer.fires [4294966800, 4294967350] = 1 ∧ timer.periods 4294966300 4294971000 = 4 := by
    cases hstart
    decide
  exact ⟨by decide, by decide, hsorted, timer, hstart, hprompt.1, htrue hprompt.1, hprompt.2⟩

end Timer

end HomeEnergy
