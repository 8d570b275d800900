import HomeEnergy.Fault
import HomeEnergy.Clock.Tick

/-!
# The report timer

A timer with a fixed period.  Its deadline moves by exactly one interval each time
it fires, whenever that is noticed, so that late polls never add up to a drift.

* `start_eq_ok_iff` — which intervals a timer can have;
* `interval_poll` — a poll keeps the period;
* `poll_of_left`, `remaining_of_left` — what is left of the period decides both answers.
-/

namespace HomeEnergy

/-- A periodic timer: the period in milliseconds and the tick at which it is next due. -/
structure Timer where
  interval : UInt32
  deadline : Tick
  deriving Repr, DecidableEq

namespace Timer

/-- A timer that is first due one interval from now.  The interval is positive and
fits the signed distance between two ticks. -/
def start (interval : UInt32) (now : Tick) : Except Fault Timer := do
  require (0 < interval) (some "interval_ms must be > 0")
  require (interval ≤ 0x7FFFFFFF) none
  return { interval, deadline := now.after interval }

/-- Whether the timer is due, and the timer after it has been asked. -/
def poll (timer : Timer) (now : Tick) : Bool × Timer :=
  if 0 ≤ now.since timer.deadline then
    (true, { timer with deadline := timer.deadline.after timer.interval })
  else (false, timer)

/-- Milliseconds to the deadline, zero if it has been reached. -/
def remaining (timer : Timer) (now : Tick) : UInt32 :=
  let left := timer.deadline.since now
  if 0 ≤ left then left.toUInt32 else 0

/-- A timer starts exactly if its interval is positive and fits a signed distance. -/
theorem start_eq_ok_iff {interval : UInt32} {now : Tick} {timer : Timer} :
    start interval now = .ok timer ↔
      0 < interval ∧ interval ≤ 0x7FFFFFFF ∧ timer = ⟨interval, now.after interval⟩ := by
  by_cases hpos : 0 < interval
  · by_cases hfit : interval ≤ 0x7FFFFFFF
    · simp [start, require, hpos, hfit, bind, Except.bind, pure, Except.pure, eq_comm]
    · simp [start, require, hpos, hfit, bind, Except.bind]
  · simp [start, require, hpos, bind, Except.bind]

/-- A poll keeps the period. -/
@[simp] theorem interval_poll (timer : Timer) (now : Tick) :
    (timer.poll now).2.interval = timer.interval := by
  unfold poll
  split <;> rfl

section

variable {timer : Timer} {now : Tick} {left : UInt32}
  (hdeadline : timer.deadline = now.after left) (hleft : left ≤ 0x7FFFFFFF)

include hdeadline hleft

/-- A timer fires at its deadline and not before. -/
theorem poll_of_left :
    timer.poll now = if left = 0
      then (true, { timer with deadline := timer.deadline.after timer.interval })
      else (false, timer) := by
  unfold poll
  rw [hdeadline, Tick.since_self_after]
  by_cases h : left = 0
  · rw [if_pos h, if_pos ((Tick.neg_toInt32_nonneg_iff hleft).mpr h)]
  · rw [if_neg h, if_neg (mt (Tick.neg_toInt32_nonneg_iff hleft).mp h)]

theorem remaining_of_left : timer.remaining now = left := by
  unfold remaining
  rw [hdeadline, Tick.since_after]
  exact if_pos (Tick.toInt32_nonneg hleft)

end

end Timer

end HomeEnergy
