import HomeEnergy.Proofs.Controller.Course
import HomeEnergy.Proofs.House.Soundness

/-!
# The outcome of an iteration

An iteration ends early for two reasons only: a call to a port has failed, or an operation
of the house is a fault.

* `Iterates.failures_eq` — an iteration fails with the one call that failed in it, and
  with none if it completes;
* `sustains_iterates` — **an iteration with a sound house is never broken**, and leaves
  the house sound even where it fails.
-/

namespace HomeEnergy

open Exchange

/-- The failure for which an iteration ended early. -/
def Halt.failure? : Halt → Option ControlError
  | failed e => some e
  | broken _ => none

namespace Controller

/-- The failures that some work with this result has met. -/
def failuresOf {α : Type} : Except Halt α → List ControlError
  | .ok _ => []
  | .error halt => halt.failure?.toList

section

variable {α : Type} {c c' : Controller} {xs : List Exchange}

/-- An operation of the house calls no port that could fail. -/
theorem Operates.failures_eq {operation : House → Except Fault (Done α)}
    {result : Except Halt α} (h : Operates operation c xs result c') :
    failures xs = failuresOf result := by
  cases h with
  | breaks h => rfl
  | does h => exact failures_drives _

/-- Work fails as it does by itself, and in nothing if it is left out. -/
theorem When.failures_eq {wanted : Bool} {work : Course α}
    (hwork : ∀ {xs result}, work c xs result c' → failures xs = failuresOf result)
    {result : Except Halt (Option α)} (h : When wanted work c xs result c') :
    failures xs = failuresOf result := by
  cases h with
  | skips h => rfl
  | halts h hhalts => exact hwork hhalts
  | does h hdoes => exact hwork hdoes

/-- Neither the samples, nor the presses, nor the clock can fail. -/
theorem Opens.failures_eq {result : Except Halt (Presses × Bool)}
    (h : Opens c xs result c') : failures xs = failuresOf result := by
  cases h with
  | pumpBreaks _ hpump => exact hpump.failures_eq Operates.failures_eq
  | @windBreaks _ _ _ ys zs _ _ _ _ _ hpump hwind =>
    have hys : failures ys = [] := hpump.failures_eq Operates.failures_eq
    have hzs := hwind.failures_eq Operates.failures_eq
    show failures (ys ++ zs) = _
    rw [failures_append, hys, hzs]
    rfl
  | @opens _ _ _ ys zs _ _ _ _ t _ hpump hwind =>
    have hys : failures ys = [] := hpump.failures_eq Operates.failures_eq
    have hzs : failures zs = [] := hwind.failures_eq Operates.failures_eq
    show failures (ys ++ zs ++ [.now t]) = _
    rw [failures_append, failures_append, hys, hzs]
    rfl

/-- The panel refuses nothing, or the last call made to it. -/
theorem Draws.failures_eq {calls : List Panel.Call} {outcome : Except PanelError Unit}
    (h : Draws calls xs outcome) :
    failures xs = match outcome with
      | .ok () => []
      | .error e => [.panel e] := by
  have haccepted (cs : List Panel.Call) : failures (cs.map (.draw · (.ok ()))) = [] := by
    simp [failures, failure?]
  cases h with
  | all => exact haccepted calls
  | @some before _ call e h =>
    rw [failures_append, haccepted before]
    rfl

/-- A report fails with its line or with its frame, and not with both. -/
theorem Reports.failures_eq {result : Except Halt Balance} (h : Reports c xs result c') :
    failures xs = failuresOf result := by
  cases h with
  | breaks h => rfl
  | unsent h =>
    rw [failures_append, failures_drives]
    rfl
  | @unshown _ ys _ h hdraws =>
    have hys := hdraws.failures_eq
    rw [failures_append, failures_drives]
    exact hys
  | @shows _ ys h hdraws =>
    have hys := hdraws.failures_eq
    rw [failures_append, failures_drives]
    exact hys

/-- Only reading a line can fail; a line that is no command does not. -/
theorem Obeys.failures_eq {result : Except Halt (Option (Except Wire.CommandError Wire.Target))}
    (h : Obeys c xs result c') : failures xs = failuresOf result := by
  cases h with
  | unread => rfl
  | nothing => rfl
  | breaks h => rfl
  | @obeys _ done h => exact failures_drives done.writes

theorem Idles.failures_eq {result : Except Halt UInt32} (h : Idles c xs result c') :
    failures xs = failuresOf result := by
  cases h with
  | sleeps => rfl
  | stays => rfl

/-- **An iteration fails with the one call that failed in it**, and with none otherwise. -/
theorem Iterates.failures_eq {result : Except Halt Iteration} (h : Iterates c xs result c') :
    failures xs = failuresOf result := by
  cases h with
  | unopened hopens => exact hopens.failures_eq
  | @unreported ys zs _ _ _ _ _ hopens hreport =>
    have hys : failures ys = [] := hopens.failures_eq
    have hzs := hreport.failures_eq Reports.failures_eq
    rw [failures_append, hys, hzs]
    rfl
  | @unobeyed ys zs us _ _ _ _ _ _ _ hopens hreport hcommand =>
    have hys : failures ys = [] := hopens.failures_eq
    have hzs : failures zs = [] := hreport.failures_eq Reports.failures_eq
    have hus := hcommand.failures_eq
    rw [failures_append, failures_append, hys, hzs, hus]
    rfl
  | @completes ys zs us vs _ _ _ _ _ _ _ _ _ hopens hreport hcommand hidle =>
    have hys : failures ys = [] := hopens.failures_eq
    have hzs : failures zs = [] := hreport.failures_eq Reports.failures_eq
    have hus : failures us = [] := hcommand.failures_eq
    have hvs : failures vs = [] := hidle.failures_eq Idles.failures_eq
    rw [failures_append, failures_append, failures_append, hys, hzs, hus, hvs]
    rfl

end

/-- The work has not met a fault of the house. -/
def Unbroken {α : Type} (result : Except Halt α) : Prop := ∀ f, result ≠ .error (.broken f)

/-- Work that is never broken on a sound house, and leaves it sound. -/
def Sustains {α : Type} (work : Course α) : Prop :=
  ∀ {c xs result c'}, work c xs result c' → c.house.Sound → c'.house.Sound ∧ Unbroken result

section

variable {α β : Type} {c c' : Controller} {xs : List Exchange}

theorem unbroken_ok (a : α) : Unbroken (.ok a) := fun _ => nofun

theorem unbroken_failed (e : ControlError) : Unbroken (.error (.failed e) : Except Halt α) :=
  fun _ => nofun

/-- Whether work is broken shows in how it ended, not in what it would have given. -/
theorem Unbroken.error {halt : Halt} (h : Unbroken (.error halt : Except Halt α)) :
    Unbroken (.error halt : Except Halt β) := by
  intro f hf
  cases hf
  exact h f rfl

/-- An operation that is known to succeed and to leave the house sound does so. -/
theorem Operates.sound {operation : House → Except Fault (Done α)} {result : Except Halt α}
    (h : Operates operation c xs result c')
    (hoperation : ∃ done, operation c.house = .ok done ∧ done.house.Sound) :
    c'.house.Sound ∧ Unbroken result := by
  obtain ⟨done, hdone, hsound⟩ := hoperation
  cases h with
  | breaks h =>
    rw [hdone] at h
    cases h
  | does h =>
    obtain rfl := Except.ok.inj (hdone.symm.trans h)
    exact ⟨hsound, unbroken_ok _⟩

/-- What is left out leaves the house sound, too. -/
theorem sustains_when {wanted : Bool} {work : Course α} (hwork : Sustains work) :
    Sustains (When wanted work) := by
  intro c xs result c' h hc
  cases h with
  | skips h => exact ⟨hc, unbroken_ok _⟩
  | halts h hhalts =>
    obtain ⟨hsound, hunbroken⟩ := hwork hhalts hc
    exact ⟨hsound, hunbroken.error⟩
  | does h hdoes => exact ⟨(hwork hdoes hc).1, unbroken_ok _⟩

theorem sustains_pressHeatPump : Sustains (Operates House.pressHeatPump) :=
  fun h hc => h.sound hc.pressHeatPump

theorem sustains_pressWind : Sustains (Operates House.pressWind) :=
  fun h hc => h.sound hc.pressWind

/-- A press can step a level or the wind, and both stay in their ranges. -/
theorem sustains_opens : Sustains Opens := by
  intro c xs result c' h hc
  cases h with
  | pumpBreaks hpresses hpump =>
    obtain ⟨hsound, hunbroken⟩ := sustains_when sustains_pressHeatPump hpump hc
    exact ⟨hsound, hunbroken.error⟩
  | windBreaks hpresses hpump hwind =>
    have hmid := (sustains_when sustains_pressHeatPump hpump hc).1
    obtain ⟨hsound, hunbroken⟩ := sustains_when sustains_pressWind hwind hmid
    exact ⟨hsound, hunbroken.error⟩
  | opens hpresses hpump hwind =>
    have hmid := (sustains_when sustains_pressHeatPump hpump hc).1
    have hsound := (sustains_when sustains_pressWind hwind hmid).1
    exact ⟨hsound, unbroken_ok _⟩

/-- A balance keeps the house sound, also if nobody gets to see it. -/
theorem sustains_reports : Sustains Reports := by
  intro c xs result c' h hc
  obtain ⟨balanced, hbalance, hsound⟩ := hc.balance
  cases h with
  | breaks h =>
    rw [hbalance] at h
    cases h
  | unsent h =>
    obtain rfl := Except.ok.inj (hbalance.symm.trans h)
    exact ⟨hsound, unbroken_failed _⟩
  | unshown h =>
    obtain rfl := Except.ok.inj (hbalance.symm.trans h)
    exact ⟨hsound, unbroken_failed _⟩
  | shows h =>
    obtain rfl := Except.ok.inj (hbalance.symm.trans h)
    exact ⟨hsound, unbroken_ok _⟩

/-- No line that is received can break a sound house. -/
theorem sustains_obeys : Sustains Obeys := by
  intro c xs result c' h hc
  cases h with
  | unread => exact ⟨hc, unbroken_failed _⟩
  | nothing => exact ⟨hc, unbroken_ok _⟩
  | @breaks line f h =>
    obtain ⟨done, hdone, -⟩ := hc.dispatch line
    rw [hdone] at h
    cases h
  | @obeys line done h =>
    obtain ⟨obeyed, hobeyed, hsound⟩ := hc.dispatch line
    obtain rfl := Except.ok.inj (hobeyed.symm.trans h)
    exact ⟨hsound, unbroken_ok _⟩

theorem sustains_idles : Sustains Idles := by
  intro c xs result c' h hc
  cases h with
  | sleeps => exact ⟨hc, unbroken_ok _⟩
  | stays => exact ⟨hc, unbroken_ok _⟩

/-- **An iteration with a sound house is never broken**, and leaves it sound. -/
theorem sustains_iterates : Sustains Iterates := by
  intro c xs result c' h hc
  cases h with
  | unopened hopens =>
    obtain ⟨hsound, hunbroken⟩ := sustains_opens hopens hc
    exact ⟨hsound, hunbroken.error⟩
  | unreported hopens hreport =>
    have hopened := (sustains_opens hopens hc).1
    obtain ⟨hsound, hunbroken⟩ := sustains_when sustains_reports hreport hopened
    exact ⟨hsound, hunbroken.error⟩
  | unobeyed hopens hreport hcommand =>
    have hopened := (sustains_opens hopens hc).1
    have hreported := (sustains_when sustains_reports hreport hopened).1
    obtain ⟨hsound, hunbroken⟩ := sustains_obeys hcommand hreported
    exact ⟨hsound, hunbroken.error⟩
  | completes hopens hreport hcommand hidle =>
    have hopened := (sustains_opens hopens hc).1
    have hreported := (sustains_when sustains_reports hreport hopened).1
    have hobeyed := (sustains_obeys hcommand hreported).1
    have hsound := (sustains_when sustains_idles hidle hobeyed).1
    exact ⟨hsound, unbroken_ok _⟩

/-- With a sound house, an iteration in which no call fails completes. -/
theorem Iterates.eq_ok {result : Except Halt Iteration} (h : Iterates c xs result c')
    (hc : c.house.Sound) (hxs : failures xs = []) : ∃ it, result = .ok it := by
  cases result with
  | ok it => exact ⟨it, rfl⟩
  | error halt =>
    cases halt with
    | failed e =>
      have hfailures := h.failures_eq
      rw [hxs] at hfailures
      cases hfailures
    | broken f => exact absurd rfl ((sustains_iterates h hc).2 f)

end

end Controller

end HomeEnergy
