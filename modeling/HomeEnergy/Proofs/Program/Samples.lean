import HomeEnergy.Proofs.Config.Guards
import HomeEnergy.Proofs.Program.Keeper

/-!
# The samples of a run

The program exports the reports that its observer has kept, and has sent the line of each
report before it was complete.  So the two agree, up to one line at the end of a run that has
failed.

* `Program.Exports` — what has been kept and sent by the end of some rounds;
* `Program.LeavesFull`, `Program.LeavesClosed` — the ends of a run that is left;
* `Program.loop_exports` — **what the program exports is what it has sent.**
-/

namespace HomeEnergy

open Exchange Wire Controller

namespace Program

/-- What the loop has kept and sent by the end of some rounds. -/
structure Exports {σ : Type} (rounds : List (Round σ)) (samples : Array Balance)
    (sentLines : List String) : Prop where
  /-- The samples are the reports of the rounds that have completed, in order. -/
  samples_eq : samples.toList = reportsOf rounds
  /-- The lines report the net flows of the samples.  There is one line more exactly if the
  last round was cut short after it had sent its own. -/
  totals_eq : ∃ extra : Option Int32,
    sentLines.map Telemetry.total? =
      (samples.toList.map (·.totalLoad) ++ extra.toList).map some ∧
    (extra.isSome = true ↔ ∃ last, rounds.getLast? = some last ∧ last.CutAfterSending)

/-- The end of a run that is left with enough reports: its last round has made the last one,
and as many lines have been sent. -/
structure LeavesFull {σ : Type} (maxReports : UInt64) (last : Round σ) (samples : Array Balance)
    (sentLines : List String) : Prop where
  reports : last.report?.isSome = true
  size_eq : samples.size = maxReports.toNat
  sent_length : sentLines.length = maxReports.toNat

/-- The end of a run that is left with its link closed, with this to be received when it began:
in the last round there was nothing to receive, and before that every line was dispatched once,
in order. -/
structure LeavesClosed {σ : Type} (c : Controller) (due : List Message)
    (rounds : List (Round σ)) (last : Round σ) (received : List Line) : Prop where
  found : .receive (.ok none) ∈ last.exchanges
  due_eq : due = received.map .ok
  dispatched : ∃ seen done,
    (rounds ++ [last]).map (Sighting.of? ·.exchanges) = seen.map some ∧
    seen.filterMap (·.line) = received ∧
    c.house.attendAll (c.agendas seen) = .ok done ∧ last.controller.house = done.house

/-- If the last round has completed, there are as many lines as samples. -/
theorem Exports.sent_length {σ : Type} {rounds : List (Round σ)} {last : Round σ}
    {samples : Array Balance} {sentLines : List String} {it : Iteration}
    (h : Exports (rounds ++ [last]) samples sentLines) (hok : last.result = .ok it) :
    sentLines.length = samples.size := by
  rcases h.totals_eq with ⟨extra, htotals, hextra⟩
  have hnone : extra = none := by
    rw [← Option.not_isSome_iff_eq_none, hextra, List.getLast?_concat]
    rintro ⟨_, hlast, ⟨e, hfailed⟩, _⟩
    cases hlast
    rw [hok] at hfailed
    cases hfailed
  have hlength := congrArg List.length htotals
  rwa [hnone, Option.toList_none, List.append_nil, List.length_map, List.length_map,
    List.length_map, Array.length_toList] at hlength

theorem map_total?_line (totals : List Int32) :
    (totals.map Telemetry.line).map Telemetry.total? = totals.map some := by
  rw [List.map_map]
  exact List.map_congr_left fun total _ => Telemetry.total?_line total

section

variable {σ : Type} {ports : Ports (StateM σ)} {maxReports : UInt64} {linkClosed : StateM σ Bool}
  {c c' : Controller} {s : σ} {w' : σ × Array Balance}
  {rounds : List (Round (σ × Array Balance))}
  (h : GoesOn (ports.paired (Array Balance)) (keeper maxReports linkClosed) c (s, #[])
    rounds c' w')

include h

/-- While the loop goes on, it has sent a line for each sample. -/
theorem exports_of_goesOn : Exports rounds w'.2 (sent (exchangesOf rounds)) := by
  have hsamples : w'.2.toList = reportsOf rounds := toList_of_goesOn h
  rcases h.completed with ⟨its, hits⟩
  refine ⟨hsamples, none, ?_, iff_of_false Bool.false_ne_true ?_⟩
  · rw [h.succession.sent_eq hits, map_total?_line, hsamples, Option.toList_none, List.append_nil]
  · rintro ⟨last, hlast, ⟨e, hfailed⟩, _⟩
    have hmem : last.result ∈ rounds.map (·.result) :=
      List.mem_map_of_mem (List.mem_of_getLast? hlast)
    rw [hits, hfailed] at hmem
    rcases List.mem_map.mp hmem with ⟨_, _, hok⟩
    cases hok

/-- Whatever the last round of a loop was, it has left no more than one line without a
sample. -/
theorem exports_last (hc : c.house.Sound) :
    let last := round (ports.paired (Array Balance)) c' w'
    Exports (rounds ++ [last]) (observed (keeper maxReports linkClosed) last).2
      (sent (exchangesOf (rounds ++ [last]))) := by
  intro last
  have hsamples : (observed (keeper maxReports linkClosed) last).2.toList =
      reportsOf (rounds ++ [last]) := by
    rw [toList_observed, samples_round, toList_of_goesOn h, reportsOf_concat]
    rfl
  have hsound := (h.succession.unbroken hc).2
  rcases (iterates_round (ports.paired (Array Balance)) c' w').sent_round hsound with
    ⟨extra, hsent, hextra⟩
  rcases h.completed with ⟨its, hits⟩
  refine ⟨hsamples, extra, ?_, ?_⟩
  · have hlines : sent (exchangesOf (rounds ++ [last])) =
        ((reportsOf (rounds ++ [last])).map (·.totalLoad) ++ extra.toList).map
          Telemetry.line := by
      rw [exchangesOf_concat, sent_append, h.succession.sent_eq hits, hsent, reportsOf_concat]
      simp only [List.map_append, List.append_assoc]
      rfl
    rw [hlines, map_total?_line, hsamples]
  · rw [hextra, List.getLast?_concat]
    constructor
    · intro hcut
      exact ⟨last, rfl, hcut⟩
    · rintro ⟨_, hlast, hcut⟩
      cases hlast
      exact hcut

/-- A loop that is not limited is left when its link has been closed: by the poll of the last
round, after every line that was due has been dispatched. -/
theorem leavesClosed_of_goesOn (hunlimited : ¬ 0 < maxReports) (wire : ports.Wired linkClosed)
    {link : Link} (horderly : link.Orderly) (hstart : link.channel.closed = false)
    (hlink : link.Plays [] (wire.link s))
    (hleft : endingAfter (keeper maxReports linkClosed)
      (round (ports.paired (Array Balance)) c' w') = some .left) :
    let last := round (ports.paired (Array Balance)) c' w'
    (wire.link w'.1).channel.closed = false ∧
      LeavesClosed c link.due rounds last (lines (exchangesOf (rounds ++ [last]))) := by
  intro last
  have hbefore := hlink.append (plays_of_goesOn wire h)
  have hround : (wire.link w'.1).Plays (answers last.exchanges)
      (wire.link (observed (keeper maxReports linkClosed) last).1) := plays_round wire c' w'
  rw [List.nil_append] at hbefore
  have hopen : (wire.link w'.1).channel.closed = false :=
    open_of_goesOn hunlimited wire h (hlink.closed_eq_false hstart List.not_mem_nil)
  have hclosed :
      (wire.link (observed (keeper maxReports linkClosed) last).1).channel.closed = true := by
    rcases left_unlimited hunlimited hleft with ⟨hfound, hworld⟩
    rw [hworld, ← wire.closed_eq]
    exact hfound
  have hquiet : failures (exchangesOf (rounds ++ [last])) = [] := by
    have hlast := @failures_round _ (ports.paired (Array Balance)) (keeper maxReports linkClosed)
      c' w'
    rw [hleft] at hlast
    rw [exchangesOf_concat, failures_append, h.failures_eq]
    exact hlast
  refine ⟨hopen, ?_, ?_, ?_⟩
  · -- only a poll that finds nothing closes the link
    by_contra hnever
    have hanswers : .ok none ∉ answers last.exchanges := by
      intro hmem
      rcases List.mem_filterMap.mp hmem with ⟨x, hx, hanswer⟩
      cases x <;> cases hanswer
      exact hnever hx
    rw [hround.closed_eq_false hopen hanswers] at hclosed
    cases hclosed
  · have hall := hbefore.append hround
    rw [← answers_append] at hall
    refine Link.Plays.due_eq ?_ horderly hquiet hclosed
    rw [exchangesOf_concat]
    exact hall
  · rcases h.completed with ⟨its, hits⟩
    rcases left_of_endingAfter hleft with ⟨it, hit, _⟩
    have hresults : (rounds ++ [last]).map (·.result) = (its ++ [it]).map .ok := by
      rw [List.map_append, List.map_append, hits]
      exact congrArg _ (congrArg ([·]) hit)
    have hall := h.succession.concat (iterates_round (ports.paired (Array Balance)) c' w')
    rcases hall.replay _ hresults with ⟨seen, done, hseen, hattend, _, hhouse, _, _, hlines⟩
    exact ⟨seen, done, hseen, hlines.symm, hattend, hhouse⟩

end

section

variable {σ : Type}

/-- The loop of the program, for at most `k` turns, and the shutdown after it: how the loop
ended, the controller, the samples, and the world with all that was exchanged. -/
def loop (ports : Ports (StateM σ)) (maxReports : UInt64) (linkClosed : StateM σ Bool) (k : Nat)
    (c : Controller) (recorded : Recorded σ) :
    ((Option Ending × Controller) × Array Balance) × Recorded σ :=
  runAndShutDown ports (observe maxReports (Ports.unrecorded linkClosed)) k c #[] recorded

/-- A shutdown leaves all outputs without power. -/
theorem writeAll_offWrites (c : Controller) (earlier : List Exchange) (a : Actuators) :
    a.writeAll (writes (earlier ++ c.offWrites)) =
      { lampHigh := false, frame := [.dark], duty := 0 } := by
  rw [offWrites, writes_append, writes_drives, Actuators.writeAll_append]
  rfl

/-- The loop ends with a failure or is left, if nothing breaks. -/
theorem ending_of_unbroken {maxReports : UInt64} {linkClosed : StateM σ Bool}
    {r : Round (σ × Array Balance)} {ending : Ending}
    (h : endingAfter (keeper maxReports linkClosed) r = some ending) (hr : Unbroken r.result) :
    ending = .left ∨ ∃ e, ending = .failed e := by
  unfold endingAfter at h
  split at h
  case h_1 halt hresult =>
    cases halt with
    | failed e => exact .inr ⟨e, (Option.some.inj h).symm⟩
    | broken f => exact absurd hresult (hr f)
  case h_2 it hresult =>
    split at h
    case h_1 => cases h
    case h_2 => exact .inl (Option.some.inj h).symm
    case h_3 text hverdict =>
      -- the observer of the program does not break
      by_cases hlimited : 0 < maxReports
      · rw [run_keeper_limited _ _ _ _ hlimited] at hverdict
        split at hverdict <;> cases hverdict
      · rw [run_keeper_unlimited _ _ _ _ hlimited] at hverdict
        split at hverdict <;> cases hverdict

/-- What was sent and received in some rounds is all that was, if nothing was before them and
only writes were made after them. -/
theorem sent_and_lines_of_rounds {before trace : List Exchange} {rounds : List (Round σ)}
    (hsent : sent before = []) (hlines : lines before = []) {ws : List Output}
    (htrace : trace = before ++ exchangesOf rounds ++ ws.map .drive) :
    sent trace = sent (exchangesOf rounds) ∧ lines trace = lines (exchangesOf rounds) := by
  rw [htrace]
  simp [hsent, hlines]

/-- **What the program exports is what it has sent.**  In any world, the loop of a configuration
that could be assembled and set up is a sequence of rounds.  The samples are the reports of the
rounds that have completed, and the lines sent report their net flows; one line more has been
sent exactly if the last round failed after it.  If the loop ends, all outputs are off, and it
ends either with a failure or because it is left: with a limit, at the report that reaches it;
without one, when the link has been found closed and all its lines have been dispatched. -/
theorem loop_exports {config : Config} {parts : Config.Assembly} {ports : Ports (StateM σ)}
    (hparts : config.assemble = .ok parts) {s₀ s : σ} {c : Controller} {before : List Exchange}
    (hset : setUpIn ports parts.house config.loop s₀ = (.ok c, ⟨s, before⟩))
    (maxReports : UInt64) (linkClosed : StateM σ Bool) (k : Nat) :
    ∃ rounds c₁ w₁,
      GoesOn (ports.paired (Array Balance)) (keeper maxReports linkClosed) c (s, #[])
        rounds c₁ w₁ ∧
      let last := round (ports.paired (Array Balance)) c₁ w₁
      let run := loop ports maxReports linkClosed k c ⟨s, before⟩
      let ending := run.1.1.1
      let samples := run.1.2
      let trace := run.2.trace
      (rounds.length = k ∧ ending = none ∧
        (∃ ws : List Output, trace = before ++ exchangesOf rounds ++ ws.map .drive) ∧
        Exports rounds samples (sent trace) ∧
        (0 < maxReports → samples.size < maxReports.toNat)) ∨
      (rounds.length < k ∧
        (∃ ws : List Output, trace = before ++ exchangesOf (rounds ++ [last]) ++ ws.map .drive) ∧
        Exports (rounds ++ [last]) samples (sent trace) ∧
        (∀ a : Actuators,
          a.writeAll (writes trace) = { lampHigh := false, frame := [.dark], duty := 0 }) ∧
        ((∃ e, ending = some (.failed e)) ∨ ending = some .left ∧
          (0 < maxReports → LeavesFull maxReports last samples (sent trace)) ∧
          (¬ 0 < maxReports → (linkClosed.run last.world.1).1 = true ∧
            ∀ wire : ports.Wired linkClosed,
              (wire.link s₀).Orderly → (wire.link s₀).channel.closed = false →
              (wire.link w₁.1).channel.closed = false ∧
              LeavesClosed c (wire.link s₀).due rounds last (lines trace)))) := by
  have hsound : c.house.Sound := by
    rw [house_of_setUp (congrArg Prod.fst hset)]
    exact Config.sound_of_assemble hparts
  rcases setsUp_of_setUpIn hset with ⟨hsets, hpath⟩
  rcases hsets.quiet with ⟨hsent, hlines, _, hanswers⟩
  have hcourse := @runAndShutDown_course σ (Array Balance) ports _ _
    (merge_observe maxReports linkClosed) k c s #[] before
  rcases hcourse with ⟨rounds, c₁, w₁, hrounds, hcourse⟩
  refine ⟨rounds, c₁, w₁, hrounds, ?_⟩
  have hsize (hlimited : 0 < maxReports) : w₁.2.size < maxReports.toNat :=
    size_of_goesOn hlimited hrounds (UInt64.lt_iff_toNat_lt.mp hlimited)
  rcases hcourse with ⟨hlength, s', hrun⟩ | ⟨hlength, ending, xs, c', s', hending, hcloses, hrun⟩
  · rcases @sent_and_lines_of_rounds _ _ _ rounds hsent hlines _ rfl with ⟨hsentAll, _⟩
    rw [loop, hrun]
    refine .inl ⟨hlength, rfl, ⟨_, rfl⟩, ?_, hsize⟩
    dsimp only [offWrites]
    rw [hsentAll]
    exact exports_of_goesOn hrounds
  · rcases hcloses.append_drives with ⟨ws, rfl⟩
    have htrace : before ++ exchangesOf rounds ++
          ((round (ports.paired (Array Balance)) c₁ w₁).exchanges ++ ws.map drive) ++
            c'.offWrites =
        before ++ exchangesOf (rounds ++ [round (ports.paired (Array Balance)) c₁ w₁]) ++
          (ws ++ c'.house.shutDown.writes).map drive := by
      simp [offWrites]
    have hunbroken : Unbroken (round (ports.paired (Array Balance)) c₁ w₁).result :=
      (sustains_iterates (iterates_round _ c₁ w₁) (hrounds.succession.unbroken hsound).2).2
    rcases sent_and_lines_of_rounds hsent hlines htrace with ⟨hsentAll, hlinesAll⟩
    have hexports := exports_last hrounds hsound
    rw [loop, hrun]
    dsimp only
    rw [hsentAll, hlinesAll]
    refine .inr ⟨hlength, ⟨_, htrace⟩, hexports, writeAll_offWrites _ _, ?_⟩
    rcases ending_of_unbroken hending hunbroken with rfl | ⟨e, rfl⟩
    · refine .inr ⟨rfl, ?_, ?_⟩
      · intro hlimited
        rcases left_of_endingAfter hending with ⟨it, hit, _⟩
        rw [← samples_round c₁ w₁] at hsize
        rcases left_limited hlimited hending (hsize hlimited) with ⟨hreport, hfull⟩
        exact ⟨hreport, hfull, (hexports.sent_length hit).trans hfull⟩
      · intro hunlimited
        refine ⟨(left_unlimited hunlimited hending).1, ?_⟩
        intro wire horderly hstart
        have hlink := wire.plays_path hpath
        rw [hanswers] at hlink
        exact leavesClosed_of_goesOn hrounds hunlimited wire horderly hstart hlink hending
    · exact .inl ⟨e, rfl⟩

end

/-- A configuration with the house and the pace of a calm evening. -/
def eveningConfig : Config where
  loop := Calm.pace
  battery := { initialCharge := 10 }

/-- An evening on the bench: two lines have come, and their sender has hung up. -/
def benchEvening : Bench where
  channel := {
    queue := [.ok [0x6C, 0x65, 0x64, 0x20, 0x6F, 0x6E], .ok [0x6F, 0x6E]]
    hungUp := true }

/-- The same evening with a panel that refuses the second frame after its first two calls. -/
def tornEvening : Bench := { benchEvening with bus.patience := some 19 }

/-- The controller on these evenings, just set up. -/
def benchController : Controller where
  house := Calm.cottage
  screen := firstScreen Calm.pace
  timer := ⟨100, ⟨100⟩⟩
  idleDelay := 60

/-- A bench just after the controller has been set up, with what was exchanged. -/
def benchStart (bench : Bench) : Recorded Bench :=
  (setUpIn Bench.ports Calm.cottage Calm.pace bench).2

/-- Some turns of the loop after that. -/
def benchLoop (maxReports : UInt64) (bench : Bench) :
    ((Option Ending × Controller) × Array Balance) × Recorded Bench :=
  loop Bench.ports maxReports (return (← get).channel.closed) 9 benchController
    ⟨(benchStart bench).world, (benchStart bench).trace⟩

/-- Two reports are enough; or there is no limit, and both lines are dispatched; or the second
report is cut short, and one line more has been sent than there are samples. -/
theorem loop_exports_evening :
    (∃ parts, eveningConfig.assemble = .ok parts ∧ parts.house = Calm.cottage) ∧
    (∀ bench ∈ [benchEvening, tornEvening],
      (setUpIn Bench.ports Calm.cottage Calm.pace bench).1 = .ok benchController) ∧
    ((benchLoop 2 benchEvening).1.1.1 = some .left ∧
      (sent (benchLoop 2 benchEvening).2.trace).length = 2) ∧
    ((benchLoop 0 benchEvening).1.1.1 = some .left ∧
      benchEvening.channel.queue = (lines (benchLoop 0 benchEvening).2.trace).map .ok) ∧
    (benchLoop 2 tornEvening).1.1.1 = some (.failed (.panel (.bus Panel.Bus.breakage))) ∧
    (benchLoop 2 tornEvening).1.2.size = 1 ∧ ∃ extra : Int32,
      (sent (benchLoop 2 tornEvening).2.trace).map Telemetry.total? =
        ((benchLoop 2 tornEvening).1.2.toList.map (·.totalLoad) ++ [extra]).map some := by
  have hviolations : eveningConfig.violations = [] := by decide +kernel
  have hevening : (setUpIn Bench.ports Calm.cottage Calm.pace benchEvening).1 =
      .ok benchController := by decide +kernel
  have htorn : (setUpIn Bench.ports Calm.cottage Calm.pace tornEvening).1 =
      .ok benchController := by decide +kernel
  have hfull : (benchLoop 2 benchEvening).1.1.1 = some .left := by decide +kernel
  have hclosed : (benchLoop 0 benchEvening).1.1.1 = some .left := by decide +kernel
  have hcut : (benchLoop 2 tornEvening).1.1.1 =
      some (.failed (.panel (.bus Panel.Bus.breakage))) := by decide +kernel
  have hsamples : (benchLoop 2 tornEvening).1.2.size = 1 := by decide +kernel
  have hsent : (sent (benchLoop 2 tornEvening).2.trace).length = 2 := by decide +kernel
  rcases Config.assemble_builds_iff.mpr
    fun v _ => Config.meets_of_violations_eq_nil hviolations v with ⟨⟨house, pump, wind⟩, hparts⟩
  have hhouse : eveningConfig.buildHouse = .ok Calm.cottage := rfl
  obtain rfl : Calm.cottage = house :=
    Except.ok.inj (hhouse.symm.trans (Config.buildHouse_of_assemble hparts))
  have hset {bench : Bench}
      (h : (setUpIn Bench.ports Calm.cottage Calm.pace bench).1 = .ok benchController) :
      setUpIn Bench.ports Calm.cottage eveningConfig.loop bench =
        (.ok benchController, ⟨(benchStart bench).world, (benchStart bench).trace⟩) :=
    Prod.ext h rfl
  refine ⟨⟨_, hparts, rfl⟩, ?_, ⟨hfull, ?_⟩, ⟨hclosed, ?_⟩, hcut, hsamples, ?_⟩
  · intro bench hbench
    rcases List.mem_cons.mp hbench with rfl | hbench
    · exact hevening
    · rw [List.mem_singleton.mp hbench]
      exact htorn
  all_goals unfold benchLoop at *
  · rcases loop_exports hparts (hset hevening) 2 (return (← get).channel.closed) 9 with
      ⟨_, _, _, _, ⟨_, hrunning, _⟩ | ⟨_, _, _, _, ⟨_, hfailed⟩ | ⟨_, hleaves, _⟩⟩⟩
    · rw [hfull] at hrunning
      cases hrunning
    · rw [hfull] at hfailed
      cases hfailed
    · exact (hleaves (by decide)).sent_length
  · rcases loop_exports hparts (hset hevening) 0 (return (← get).channel.closed) 9 with
      ⟨_, _, _, _, ⟨_, hrunning, _⟩ | ⟨_, _, _, _, ⟨_, hfailed⟩ | ⟨_, _, hleaves⟩⟩⟩
    · rw [hclosed] at hrunning
      cases hrunning
    · rw [hclosed] at hfailed
      cases hfailed
    · have horderly : (Bench.wired.link benchEvening).Orderly := ⟨fun _ => ⟨rfl, rfl⟩, nofun⟩
      have hdue : (Bench.wired.link benchEvening).due = benchEvening.channel.queue := rfl
      rcases (hleaves (by decide)).2 Bench.wired horderly rfl with ⟨_, _, hall, _⟩
      rw [← hdue, hall]
  · rcases loop_exports hparts (hset htorn) 2 (return (← get).channel.closed) 9 with
      ⟨_, _, _, _, ⟨_, hrunning, _⟩ | ⟨_, _, hexports, _⟩⟩
    · rw [hcut] at hrunning
      cases hrunning
    · rcases hexports.totals_eq with ⟨extra, htotals, _⟩
      cases extra with
      | some extra => exact ⟨extra, htotals⟩
      | none =>
        have hlength := congrArg List.length htotals
        rw [List.length_map, hsent, Option.toList_none, List.append_nil, List.length_map,
          List.length_map, Array.length_toList, hsamples] at hlength
        cases hlength

end Program

end HomeEnergy
