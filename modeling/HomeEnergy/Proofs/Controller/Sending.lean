import HomeEnergy.Proofs.Controller.Accounts
import HomeEnergy.Proofs.Controller.FailSafe
import HomeEnergy.Proofs.Controller.Wiring

/-!
# Reports and the lines sent for them

A round sends the line of its report before the report is complete.  So a round that fails
after that has sent a line and made no report; no other round has done so.

* `Round.CutAfterSending` — a round that has sent a line and then failed;
* `Iterates.sent_round` — **a round has sent the line of its report, and one without a report
  exactly if it was cut short after sending it;**
* `Succession.sent_eq` — the lines of completed rounds are those of their reports.
-/

namespace HomeEnergy

open Exchange Wire

namespace Controller

section

variable {σ : Type}

/-- The report of a round, if its iteration has completed and made one. -/
def Round.report? (r : Round σ) : Option Balance := r.result.toOption.bind (·.report)

/-- The reports of rounds, in order. -/
def reportsOf (rounds : List (Round σ)) : List Balance := rounds.filterMap (·.report?)

theorem reportsOf_cons (r : Round σ) (rounds : List (Round σ)) :
    reportsOf (r :: rounds) = r.report?.toList ++ reportsOf rounds := by
  rw [reportsOf, List.filterMap_cons, reportsOf]
  cases r.report? <;> rfl

theorem reportsOf_concat (rounds : List (Round σ)) (r : Round σ) :
    reportsOf (rounds ++ [r]) = reportsOf rounds ++ r.report?.toList := by
  rw [reportsOf, List.filterMap_append]
  exact congrArg _ ((reportsOf_cons r []).trans (List.append_nil _))

/-- The round has sent the line of a report and failed after that: the panel has refused a
call of the frame, or no line could be read when the frame was complete. -/
def Round.CutAfterSending (r : Round σ) : Prop :=
  (∃ e, r.result = .error (.failed e)) ∧
    (r.failsAt .draw = true ∨ r.failsAt .receive = true ∧ r.shows = true)

/-- A line is sent only in a report, complete or not. -/
theorem CutShort.sent_eq {c c' : Controller} {xs : List Exchange} {e : ControlError}
    (h : CutShort c xs e c') : ∃ total : Option Int32, sent xs = total.toList.map Telemetry.line := by
  cases h with
  | unsent => exact ⟨none, sent_sending_error _ _ _ _ _ _⟩
  | @unshown _ _ _ _ balanced _ _ _ _ _ _ =>
    refine ⟨some balanced.answer.totalLoad, ?_⟩
    simp [sent?]
  | unread =>
    refine ⟨none, ?_⟩
    simp [sent?]
  | @unreadAfterReport _ _ _ _ balanced _ _ =>
    refine ⟨some balanced.answer.totalLoad, ?_⟩
    simp [sent?]

variable {c : Controller} {r : Round σ}

/-- A round has sent the line of its report, or that of a report it could not complete. -/
theorem Iterates.sent_round (hc : c.house.Sound)
    (h : Iterates c r.exchanges r.result r.controller) :
    ∃ extra : Option Int32,
      sent r.exchanges = (r.report?.toList.map (·.totalLoad) ++ extra.toList).map Telemetry.line ∧
      (extra.isSome = true ↔ r.CutAfterSending) := by
  obtain ⟨result, exchanges, controller, world⟩ := r
  cases result with
  | ok it =>
    rcases h.attends with ⟨_, _, hattends⟩
    refine ⟨none, ?_, iff_of_false Bool.false_ne_true ?_⟩
    · rw [hattends.sent_eq, Option.toList_none, List.append_nil]
      show _ = List.map _ (List.map _ it.report.toList)
      cases it.report <;> rfl
    · rintro ⟨⟨_, hresult⟩, _⟩
      cases hresult
  | error halt =>
    cases halt with
    | broken f => exact absurd rfl ((sustains_iterates h hc).2 f)
    | failed e =>
      rcases h.cutShort.sent_eq with ⟨total, hsent⟩
      rcases h.cutShort.accounted rfl with ⟨seen, done, haccounted⟩
      refine ⟨total, hsent, ?_⟩
      have hlength := haccounted.sent_length
      rw [hsent, List.length_map] at hlength
      rw [Round.CutAfterSending, and_iff_right ⟨e, rfl⟩, ← Bool.and_eq_true, ← Bool.or_eq_true]
      -- of the two ways to be cut short after the line at most one is taken
      generalize Round.failsAt _ .draw = undrawn at hlength ⊢
      generalize (Round.failsAt _ .receive && Round.shows _) = unread at hlength ⊢
      cases total <;> cases undrawn <;> cases unread <;> first | rfl | cases hlength

end

section

variable {σ : Type} {ports : Ports (StateM σ)} {look : Iteration → StateM σ Verdict}
  {c c' : Controller} {s s' : σ} {r : Round σ} {rounds : List (Round σ)}

/-- A run goes on only after a round that has completed, if the observer says so. -/
theorem goesOn_of_endingAfter (h : endingAfter look r = none) :
    ∃ it, r.result = .ok it ∧ ((look it).run r.world).1 = .goOn := by
  unfold endingAfter at h
  split at h
  case h_1 => cases h
  case h_2 it hresult =>
    split at h
    case h_1 hverdict => exact ⟨it, hresult, hverdict⟩
    all_goals cases h

/-- A run is left only after a round that has completed, if the observer leaves. -/
theorem left_of_endingAfter (h : endingAfter look r = some .left) :
    ∃ it, r.result = .ok it ∧ ((look it).run r.world).1 = .leave := by
  unfold endingAfter at h
  split at h
  case h_1 halt _ => cases halt <;> cases h
  case h_2 it hresult =>
    split at h
    case h_2 hverdict => exact ⟨it, hresult, hverdict⟩
    all_goals cases h

theorem observed_of_ok {it : Iteration} (h : r.result = .ok it) :
    observed look r = ((look it).run r.world).2 := by
  rw [observed, h]

/-- All rounds after which a run went on have completed. -/
theorem GoesOn.completed (h : GoesOn ports look c s rounds c' s') :
    ∃ its : List Iteration, rounds.map (·.result) = its.map .ok := by
  induction h with
  | nil => exact ⟨[], rfl⟩
  | cons hround hlater ih =>
    rcases goesOn_of_endingAfter hround with ⟨it, hit, _⟩
    rcases ih with ⟨its, hits⟩
    refine ⟨it :: its, ?_⟩
    rw [List.map_cons, List.map_cons, hit, hits]

theorem report?_of_ok {it : Iteration} (h : r.result = .ok it) : r.report? = it.report := by
  rw [Round.report?, h]
  rfl

theorem reportsOf_of_ok {its : List Iteration} (hok : rounds.map (·.result) = its.map .ok) :
    reportsOf rounds = its.filterMap (·.report) := by
  have hreports := congrArg (List.filterMap fun result => result.toOption.bind (·.report)) hok
  rw [List.filterMap_map, List.filterMap_map] at hreports
  exact hreports

/-- The lines sent by completed rounds are those of their reports. -/
theorem Succession.sent_eq (h : Succession c rounds c') {its : List Iteration}
    (hok : rounds.map (·.result) = its.map .ok) :
    sent (exchangesOf rounds) = ((reportsOf rounds).map (·.totalLoad)).map Telemetry.line := by
  rcases h.replay its hok with ⟨_, _, _, _, _, _, _, hsent, _⟩
  rw [hsent, reportsOf_of_ok hok, List.map_map]
  rfl

/-- At its end a round is followed by writes only. -/
theorem Closes.append_drives {ending : Ending} {xs : List Exchange}
    (h : Closes r ending xs c') : ∃ ws : List Output, xs = r.exchanges ++ ws.map .drive := by
  cases h with
  | left => exact ⟨[], (List.append_nil _).symm⟩
  | shutDown _ => exact ⟨_, rfl⟩

/-- Nothing is sent or received while a controller is set up. -/
theorem SetsUp.quiet {house : House} {settings : Settings} {xs : List Exchange}
    (h : SetsUp house settings xs (.ok c)) :
    sent xs = [] ∧ lines xs = [] ∧ failures xs = [] ∧ answers xs = [] := by
  cases h with
  | ready hdraws =>
    cases hdraws
    simp [sent?, lines, line?, handed?, failures, failure?, answers, answer?]

end

end Controller

end HomeEnergy
