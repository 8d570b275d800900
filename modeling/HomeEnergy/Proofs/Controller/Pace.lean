import HomeEnergy.Proofs.Controller.SettingUp
import HomeEnergy.Proofs.Controller.Timing
import HomeEnergy.Proofs.Controller.Worlds

/-!
# The pace of the reports

A controller that has been set up on time is on time before every round, and what is
left of the interval runs down to the next report: each round takes away a whole idle
delay, or all that is left, unless it reads a line.

* `onTime_after` — the deadline of every round is a whole number of intervals after the
  start;
* `OnTimeAt.countdown` — how many rounds it takes to the next report;
* `reports_never_drift` — **reports come at exactly these ticks**, and after exactly as
  many rounds.
-/

namespace HomeEnergy

open Exchange

namespace Controller

/-- The round has made a report. -/
def Round.reports {σ : Type} (r : Round σ) : Bool :=
  match r.result with
  | .ok it => it.report.isSome
  | .error _ => false

/-- The round has read a line. -/
def Round.reads {σ : Type} (r : Round σ) : Bool :=
  match r.result with
  | .ok it => it.command.isSome
  | .error _ => false

/-- The tick so many intervals after the start. -/
def beat (start : Tick) (interval : UInt32) (k : Nat) : Tick :=
  ⟨UInt32.ofNat (start.ms.toNat + k * interval.toNat)⟩

theorem beat_succ (start : Tick) (interval : UInt32) (k : Nat) :
    beat start interval (k + 1) = (beat start interval k).after interval := by
  have hsum : start.ms.toNat + (k + 1) * interval.toNat =
      start.ms.toNat + k * interval.toNat + interval.toNat := by
    rw [Nat.add_mul, Nat.one_mul, Nat.add_assoc]
  rw [beat, hsum, UInt32.ofNat_add, UInt32.ofNat_toNat]
  rfl

theorem beat_one (start : Tick) (interval : UInt32) :
    beat start interval 1 = start.after interval := by
  rw [beat_succ, beat, Nat.zero_mul, Nat.add_zero, UInt32.ofNat_toNat]

section

variable {σ : Type} (ports : Ports (StateM σ)) (c : Controller) (s : σ)

/-- How many of the first rounds have made a report. -/
def reportsBefore (i : Nat) : Nat :=
  (List.range i).countP fun j => (nthRound ports c s j).reports

/-- How many rounds of a stretch have read a line. -/
def linesRead (first count : Nat) : Nat :=
  (List.range' first count).countP fun j => (nthRound ports c s j).reads

variable {ports} (clock : ports.SleepClock) (interval delay : UInt32)

/-- The controller and the world are on time before a round. -/
def OnTimeAt (due : Tick) (left : UInt32) (i : Nat) : Prop :=
  OnTime clock interval delay due left (after ports c s i).1 (after ports c s i).2

variable {c s clock interval delay} {due : Tick} {left : UInt32} {i : Nat}

/-- What is left of the interval goes on from round to round. -/
theorem OnTimeAt.succ (hinterval : interval ≤ 0x7FFFFFFF) (hdelay : 0 < delay)
    (hports : ports.NeverFails) (h : OnTimeAt c s clock interval delay due left i) :
    (left = 0 ∧ (nthRound ports c s i).reports = true ∧
      OnTimeAt c s clock interval delay (due.after interval) interval (i + 1)) ∨
    (left ≠ 0 ∧ (nthRound ports c s i).reports = false ∧ (nthRound ports c s i).reads = true ∧
      OnTimeAt c s clock interval delay due left (i + 1)) ∨
    (left ≠ 0 ∧ (nthRound ports c s i).reports = false ∧ (nthRound ports c s i).reads = false ∧
      OnTimeAt c s clock interval delay due (left - min delay left) (i + 1)) := by
  have hnext := after_succ ports c s i
  obtain ⟨it, ms, due', left', hit, -, hspends, hlater⟩ := h.step hinterval hdelay hports
  have hresult : (nthRound ports c s i).result = .ok it := hit
  unfold OnTimeAt
  rw [hnext]
  simp only [Round.reports, Round.reads, hresult]
  cases hspends with
  | reports hleft hreport => exact .inl ⟨hleft, Option.isSome_iff_ne_none.mpr hreport, hlater⟩
  | reads hleft hreport hcommand =>
    refine .inr (.inl ⟨hleft, ?_, Option.isSome_iff_ne_none.mpr hcommand, hlater⟩)
    rw [hreport]
    rfl
  | sleeps hleft hreport hcommand =>
    refine .inr (.inr ⟨hleft, ?_, ?_, hlater⟩)
    · rw [hreport]
      rfl
    · rw [hcommand]
      rfl

theorem reportsBefore_succ (i : Nat) :
    reportsBefore ports c s (i + 1) =
      reportsBefore ports c s i + if (nthRound ports c s i).reports then 1 else 0 := by
  rw [reportsBefore, List.range_succ, List.countP_append, List.countP_singleton]
  rfl

/-- **The deadline of every round is a whole number of intervals after the start**, one
more than there have been reports. -/
theorem onTime_after (hinterval : interval ≤ 0x7FFFFFFF) (hdelay : 0 < delay)
    (hports : ports.NeverFails) {start : Tick}
    (h : OnTime clock interval delay (beat start interval 1) interval c s) (i : Nat) :
    ∃ left, OnTimeAt c s clock interval delay
      (beat start interval (reportsBefore ports c s i + 1)) left i := by
  induction i with
  | zero => exact ⟨interval, h⟩
  | succ i ih =>
    obtain ⟨left, hi⟩ := ih
    rw [reportsBefore_succ]
    rcases hi.succ hinterval hdelay hports with ⟨-, hreports, hlater⟩ | ⟨-, hreports, -, hlater⟩ |
      ⟨-, hreports, -, hlater⟩
    · rw [hreports, if_pos rfl, beat_succ]
      exact ⟨interval, hlater⟩
    · rw [hreports]
      exact ⟨left, hlater⟩
    · rw [hreports]
      exact ⟨left - min delay left, hlater⟩

theorem linesRead_succ (first count : Nat) :
    linesRead ports c s first (count + 1) =
      linesRead ports c s (first + 1) count +
        if (nthRound ports c s first).reads then 1 else 0 := by
  rw [linesRead, List.range'_succ, List.countP_cons]
  rfl

/-- One step towards nothing takes away one of the steps that are needed. -/
theorem steps_succ {n d : Nat} (hn : 0 < n) (hd : 0 < d) :
    (n + d - 1) / d = (n - min d n + d - 1) / d + 1 := by
  by_cases h : d ≤ n
  · have hsum : n + d - 1 = n - min d n + d - 1 + d := by omega
    rw [hsum, Nat.add_div_right _ hd]
  · have hsum : n + d - 1 = n - 1 + d := by omega
    have hrest : n - min d n + d - 1 < d := by omega
    have hfirst : n - 1 < d := by omega
    rw [hsum, Nat.add_div_right _ hd, Nat.div_eq_of_lt hrest, Nat.div_eq_of_lt hfirst]

variable (ports c s) in
/-- Lines do not come for ever without a report: there is always a round still to come that
reports or reads no line. -/
def LinesPause : Prop :=
  ∀ i, ∃ j, i ≤ j ∧ ((nthRound ports c s j).reports = true ∨ (nthRound ports c s j).reads = false)

/-- A stretch of rounds without a report, up to one that reports. -/
structure Stretch (ports : Ports (StateM σ)) (c : Controller) (s : σ) (first count : Nat) :
    Prop where
  reports : (nthRound ports c s (first + count)).reports = true
  before {j : Nat} (hj : first ≤ j) (hlt : j < first + count) :
    (nthRound ports c s j).reports = false

theorem Stretch.succ {first count : Nat} (h : Stretch ports c s (first + 1) count)
    (hfirst : (nthRound ports c s first).reports = false) :
    Stretch ports c s first (count + 1) where
  reports := by
    have hsum : first + (count + 1) = first + 1 + count := by omega
    rw [hsum]
    exact h.reports
  before {j} hj hlt := by
    by_cases hfirst : j = first
    · rwa [hfirst]
    · exact h.before (by omega) (by omega)

variable (ports c s delay) in
/-- The next report comes after as many rounds as it takes to sleep away what is left,
and one for each line read on the way. -/
def Countdown (left : UInt32) (i : Nat) : Prop :=
  ∃ count, Stretch ports c s i count ∧
    count = (left.toNat + delay.toNat - 1) / delay.toNat + linesRead ports c s i count

theorem countdown_zero (hdelay : 0 < delay) (hreports : (nthRound ports c s i).reports = true) :
    Countdown ports c s delay 0 i := by
  have hd : 0 < delay.toNat := hdelay
  have hzero : (UInt32.toNat 0 + delay.toNat - 1) / delay.toNat = 0 := by
    rw [UInt32.toNat_zero]
    exact Nat.div_eq_of_lt (by omega)
  refine ⟨0, ⟨hreports, fun hj hlt => by omega⟩, ?_⟩
  rw [hzero]
  rfl

theorem Countdown.of_reads (h : Countdown ports c s delay left (i + 1))
    (hreports : (nthRound ports c s i).reports = false)
    (hreads : (nthRound ports c s i).reads = true) : Countdown ports c s delay left i := by
  obtain ⟨count, hstretch, hcount⟩ := h
  refine ⟨count + 1, hstretch.succ hreports, ?_⟩
  rw [linesRead_succ, hreads, if_pos rfl]
  omega

theorem Countdown.of_sleeps (hdelay : 0 < delay) (hleft : left ≠ 0)
    (h : Countdown ports c s delay (left - min delay left) (i + 1))
    (hreports : (nthRound ports c s i).reports = false)
    (hreads : (nthRound ports c s i).reads = false) : Countdown ports c s delay left i := by
  have hd : 0 < delay.toNat := hdelay
  obtain ⟨count, hstretch, hcount⟩ := h
  refine ⟨count + 1, hstretch.succ hreports, ?_⟩
  rw [Tick.toNat_sub_min] at hcount
  rw [linesRead_succ, hreads, steps_succ (Tick.toNat_pos hleft) hd]
  simp only [Bool.false_eq_true, if_false]
  omega

/-- As long as lines pause now and then, time runs down to the next report. -/
theorem OnTimeAt.countdown (hinterval : interval ≤ 0x7FFFFFFF) (hports : ports.NeverFails)
    (hdelay : 0 < delay) (hlines : LinesPause ports c s)
    (h : OnTimeAt c s clock interval delay due left i) : Countdown ports c s delay left i := by
  have hd : 0 < delay.toNat := hdelay
  -- What is left gets less with every sleep, and `m` lines at most come before the next one.
  induction hn : left.toNat using Nat.strongRecOn generalizing left i with
  | ind n ih =>
    have hsleep (hleft : left ≠ 0) {i : Nat}
        (hlater : OnTimeAt c s clock interval delay due (left - min delay left) (i + 1)) :
        Countdown ports c s delay (left - min delay left) (i + 1) := by
      have hpos := Tick.toNat_pos hleft
      refine ih _ ?_ hlater rfl
      rw [Tick.toNat_sub_min]
      omega
    obtain ⟨j, hij, hj⟩ := hlines i
    obtain ⟨m, rfl⟩ := Nat.exists_eq_add_of_le hij
    clear hij
    induction m generalizing i with
    | zero =>
      rcases h.succ hinterval hdelay hports with ⟨rfl, hreports, -⟩ | ⟨-, hreports, hreads, -⟩ |
        ⟨hleft, hreports, hreads, hlater⟩
      · exact countdown_zero hdelay hreports
      · rw [Nat.add_zero, hreports, hreads] at hj
        cases hj with
        | inl h => cases h
        | inr h => cases h
      · exact (hsleep hleft hlater).of_sleeps hdelay hleft hreports hreads
    | succ m ihm =>
      rcases h.succ hinterval hdelay hports with ⟨rfl, hreports, -⟩ | ⟨-, hreports, hreads, hlater⟩ |
        ⟨hleft, hreports, hreads, hlater⟩
      · exact countdown_zero hdelay hreports
      · have hsum : i + (m + 1) = i + 1 + m := by omega
        rw [hsum] at hj
        exact (ihm hlater hj).of_reads hreports hreads
      · exact (hsleep hleft hlater).of_sleeps hdelay hleft hreports hreads

variable (ports c s clock) in
/-- A round that keeps the pace of a start: it reports only at the tick that is due, and
sleeps only if it neither reports nor reads a line, for the idle delay or what is left of
the interval. -/
structure Keeps (settings : Settings) (start : Tick) (i : Nat) (it : Iteration) : Prop where
  result_eq : (nthRound ports c s i).result = .ok it
  clock_eq (h : it.report ≠ none) :
    clock.clock (after ports c s i).2 =
      beat start settings.reportInterval (reportsBefore ports c s i + 1)
  sleeps_of_busy (h : it.report ≠ none ∨ it.command ≠ none) :
    it.idled = 0 ∧ sleeps (nthRound ports c s i).exchanges = []
  sleeps_of_quiet (hreport : it.report = none) (hcommand : it.command = none) :
    ∃ left, beat start settings.reportInterval (reportsBefore ports c s i + 1) =
        (clock.clock (after ports c s i).2).after left ∧
      left ≤ settings.reportInterval ∧ 0 < min settings.idleDelay left ∧
      it.idled = min settings.idleDelay left ∧
      sleeps (nthRound ports c s i).exchanges = [min settings.idleDelay left]

theorem OnTimeAt.keeps {settings : Settings} {start : Tick}
    (hinterval : settings.reportInterval ≤ 0x7FFFFFFF) (hdelay : 0 < settings.idleDelay)
    (hports : ports.NeverFails)
    (h : OnTimeAt c s clock settings.reportInterval settings.idleDelay
      (beat start settings.reportInterval (reportsBefore ports c s i + 1)) left i) :
    ∃ it, Keeps ports c s clock settings start i it := by
  obtain ⟨it, ms, due', left', hit, hms, hspends, -⟩ := h.step hinterval hdelay hports
  have hresult : (nthRound ports c s i).result = .ok it := hit
  have hsleeps : sleeps (nthRound ports c s i).exchanges = ms := hms
  cases hspends with
  | reports hleft hreport hidled =>
    refine ⟨it, hresult, ?_, fun _ => ⟨hidled, hsleeps⟩, fun hnone => absurd hnone hreport⟩
    intro _
    rw [h.due_eq, hleft, Tick.after_zero]
  | reads hleft hreport hcommand hidled =>
    exact ⟨it, hresult, fun hsome => absurd hreport hsome, fun _ => ⟨hidled, hsleeps⟩,
      fun _ hnone => absurd hnone hcommand⟩
  | sleeps hleft hreport hcommand hidled =>
    refine ⟨it, hresult, fun hsome => absurd hreport hsome, ?_, ?_⟩
    · intro hbusy
      exact absurd hbusy (by simp [hreport, hcommand])
    · intro _ _
      exact ⟨left, h.due_eq, h.left_le, Tick.min_pos hdelay hleft, hidled, hsleeps⟩

variable (clock) in
/-- A setting up in a world that does not fail succeeds, at one moment. -/
theorem setUp_onTime {house : House} {settings : Settings}
    (hpositive : 0 < settings.reportInterval)
    (hinterval : settings.reportInterval ≤ 0x7FFFFFFF) (hports : ports.NeverFails)
    (hhouse : house.Sound) (s₀ : σ) :
    ∃ c s trace,
      (setUp ports.recorded house settings).run.run ⟨s₀, []⟩ = (.ok c, ⟨s, trace⟩) ∧
      OnTime clock settings.reportInterval settings.idleDelay
        (beat (clock.clock s₀) settings.reportInterval 1) settings.reportInterval c s := by
  obtain ⟨xs, result, s, hpath, hsets, hrun⟩ := @setUp_leaves σ ports house settings s₀
  have hfailures := hpath.failures_eq_nil hports
  cases hsets with
  | refused hdraws =>
    rw [hdraws.failures_eq] at hfailures
    cases hfailures
  | @unstarted ys start f hdraws htimer =>
    have hstarts : Timer.start settings.reportInterval start = .ok _ :=
      Timer.start_eq_ok_iff.mpr ⟨hpositive, hinterval, rfl⟩
    rw [hstarts] at htimer
    cases htimer
  | @ready ys start timer hdraws htimer =>
    have hready : SetsUp house settings _ _ := .ready hdraws htimer
    obtain ⟨hstarts, -, hclock⟩ := hready.starts clock hpath
    obtain ⟨-, -, rfl⟩ := Timer.start_eq_ok_iff.mp hstarts
    refine ⟨_, s, _, hrun [], hhouse, rfl, rfl, ?_, ?_, UInt32.le_refl _⟩
    · rw [beat_one, ← hclock]
    · rw [beat_one, hclock]

/-- **Reports never drift.**  On a clock that moves only while the controller sleeps, and
with no port failing, each round reports exactly when its deadline has come, which is a
whole number of intervals after the setting up; it sleeps exactly to the deadline or for
the idle delay if it has nothing else to do, and not at all otherwise.  From one report
to the next, or from the setting up to the first, it takes as many rounds as there are
idle delays in the interval, rounded up, one for the report, and one for each line read.
The house is any sound one, as every newly built house is. -/
theorem reports_never_drift (clock : ports.SleepClock) {house : House} {settings : Settings}
    (hpositive : 0 < settings.reportInterval)
    (hinterval : settings.reportInterval ≤ 0x7FFFFFFF) (hdelay : 0 < settings.idleDelay)
    (hports : ports.NeverFails) (hhouse : house.Sound) (s₀ : σ) :
    ∃ c s trace,
      (setUp ports.recorded house settings).run.run ⟨s₀, []⟩ = (.ok c, ⟨s, trace⟩) ∧
      (∀ i, ∃ it, Keeps ports c s clock settings (clock.clock s₀) i it) ∧
      (LinesPause ports c s →
        ∀ i, (i = 0 ∨ ∃ j, i = j + 1 ∧ (nthRound ports c s j).reports = true) →
          ∃ count, Stretch ports c s i count ∧
            count + 1 =
              (settings.reportInterval.toNat + settings.idleDelay.toNat - 1) /
                settings.idleDelay.toNat + 1 + linesRead ports c s i count) := by
  obtain ⟨c, s, trace, hset, hstart⟩ :=
    setUp_onTime clock hpositive hinterval hports hhouse s₀
  refine ⟨c, s, trace, hset, ?_, ?_⟩
  · intro i
    obtain ⟨left, hi⟩ := onTime_after hinterval hdelay hports hstart i
    exact hi.keeps hinterval hdelay hports
  · intro hlines i hi
    have hfull : ∃ due,
        OnTimeAt c s clock settings.reportInterval settings.idleDelay due
          settings.reportInterval i := by
      rcases hi with rfl | ⟨j, rfl, hreports⟩
      · exact ⟨_, hstart⟩
      · obtain ⟨left, hj⟩ := onTime_after hinterval hdelay hports hstart j
        rcases hj.succ hinterval hdelay hports with ⟨-, -, hlater⟩ | ⟨-, hnone, -⟩ | ⟨-, hnone, -⟩
        · exact ⟨_, hlater⟩
        · rw [hreports] at hnone
          cases hnone
        · rw [hreports] at hnone
          cases hnone
    obtain ⟨due, hdue⟩ := hfull
    obtain ⟨count, hstretch, hcount⟩ := hdue.countdown hinterval hports hdelay hlines
    exact ⟨count, hstretch, by omega⟩

theorem Iterates.lines_ne_nil {c c' : Controller} {xs : List Exchange} {it : Iteration}
    (h : Iterates c xs (.ok it) c') (hcommand : it.command ≠ none) : lines xs ≠ [] := by
  cases h with
  | @completes ys zs us vs _ _ _ _ _ _ _ _ _ hopens hreport hobeys hidle =>
    cases hobeys with
    | nothing => exact absurd rfl hcommand
    | @obeys line done h =>
      have hmem : line ∈ lines (ys ++ zs ++ (.receive (.ok (some line)) ::
          done.writes.map .drive) ++ vs) := by
        rw [lines, List.mem_filterMap]
        exact ⟨.receive (.ok (some line)), by simp, rfl⟩
      exact List.ne_nil_of_mem hmem

theorem lines_ne_nil_of_reads {c : Controller} {s : σ}
    (h : (round ports c s).reads = true) : lines (round ports c s).exchanges ≠ [] := by
  have hcourse := iterates_round ports c s
  rw [Round.reads] at h
  cases hresult : (round ports c s).result with
  | error halt =>
    rw [hresult] at h
    cases h
  | ok it =>
    rw [hresult] at h hcourse
    exact hcourse.lines_ne_nil (Option.isSome_iff_ne_none.mp h)

/-- In a calm world, the lines come to an end. -/
theorem linesPause_calm (c : Controller) (w : Calm) : LinesPause Calm.ports c w := by
  intro i
  induction hn : (after Calm.ports c w i).2.queue.length using Nat.strongRecOn
    generalizing i with
  | ind n ih =>
    cases hreads : (nthRound Calm.ports c w i).reads with
    | false => exact ⟨i, Nat.le_refl i, .inr hreads⟩
    | true =>
      have hqueue := congrArg List.length (Calm.queue_of_path
        (path_round Calm.ports (after Calm.ports c w i).1 (after Calm.ports c w i).2))
      have hlines := List.length_pos_iff.mpr (lines_ne_nil_of_reads hreads)
      have hnext : (after Calm.ports c w (i + 1)).2.queue.length < n := by
        rw [after_succ]
        rw [List.length_append] at hqueue
        show (round Calm.ports _ _).world.queue.length < n
        omega
      obtain ⟨j, hij, hj⟩ := ih _ hnext (i + 1) rfl
      exact ⟨j, by omega, hj⟩

/-- The pace of a calm evening. -/
theorem reports_never_drift_evening :
    ∃ c s trace,
      (setUp Calm.ports.recorded Calm.cottage Calm.pace).run.run ⟨Calm.evening, []⟩ =
        (.ok c, ⟨s, trace⟩) ∧
      (∀ i, ∃ it, Keeps Calm.ports c s Calm.sleepClock Calm.pace ⟨0xFFFFFFF0⟩ i it) ∧
      ∀ i, (i = 0 ∨ ∃ j, i = j + 1 ∧ (nthRound Calm.ports c s j).reports = true) →
        ∃ count, Stretch Calm.ports c s i count ∧
          count + 1 = 2 + 1 + linesRead Calm.ports c s i count := by
  have hbattery : Battery.build 50 3 10 = .ok Calm.cottage.battery := rfl
  obtain ⟨c, s, trace, hset, hkeeps, hcount⟩ :=
    @reports_never_drift Calm Calm.ports Calm.sleepClock Calm.cottage Calm.pace (by decide)
      (by decide) (by decide) Calm.neverFails (House.sound_of_build hbattery { loadWhenOn := 1 })
      Calm.evening
  exact ⟨c, s, trace, hset, hkeeps, hcount (linesPause_calm c s)⟩

end

end Controller

end HomeEnergy
