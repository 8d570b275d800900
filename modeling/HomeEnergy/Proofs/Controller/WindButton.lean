import HomeEnergy.Proofs.Button.FlakyPin
import HomeEnergy.Proofs.Controller.CutShort
import HomeEnergy.Proofs.Controller.FailSafe
import HomeEnergy.Proofs.Controller.SettingUp
import HomeEnergy.Proofs.Controller.Worlds
import HomeEnergy.Proofs.House.Outputs

/-!
# The wind button

A press of a button is reported at the sample with which it begins, and the other button has no
part in it.  In the loop, the wind button is sampled once in each iteration, before anything that
can fail, and nothing but its presses moves the wind: it goes round the six winds by one for each
press, whatever lines and reports come in between and however many iterations fail.

* `Buttons.reported_wind`, `Buttons.reported_heatPump` — each button is watched by itself;
* `FallingEdge.reported_eq_true_iff` — where presses are reported;
* `Controller.Iterates.gusts` — what one iteration does to the wind, failed or not;
* `Controller.Succession.wind_eq` — what any number of iterations do to it;
* `Controller.presses_move_wind` — **each press counts exactly once, and only presses count.**
-/

namespace HomeEnergy

/-! ## Samples of the buttons -/

namespace FallingEdge

/-- Which of some samples are reported as presses. -/
def reported (edge : FallingEdge) : List Bool → List Bool
  | [] => []
  | high :: later => (edge.sample high).1 :: (edge.sample high).2.reported later

/-- **A press is reported at a low sample that comes after a high one.** -/
theorem reported_eq_true_iff (edge : FallingEdge) (levels : List Bool) (i : Nat) :
    (edge.reported levels)[i]? = some true ↔
      levels[i]? = some false ∧ (edge.lastHigh :: levels)[i]? = some true := by
  induction levels generalizing edge i with
  | nil => exact ⟨nofun, nofun⟩
  | cons high later ih =>
    cases i with
    | zero =>
      rw [reported, sample]
      cases high <;> simp
    | succ i => exact ih (edge.sample high).2 i

end FallingEdge

namespace Buttons

/-- What is reported of both buttons for each of some samples of them. -/
def reported (buttons : Buttons) : List (Bool × Bool) → List Presses
  | [] => []
  | (heatPumpHigh, windHigh) :: later =>
    (buttons.sample heatPumpHigh windHigh).1 ::
      (buttons.sample heatPumpHigh windHigh).2.reported later

variable (buttons : Buttons) (samples : List (Bool × Bool))

/-- The heat pump button is watched by itself. -/
theorem reported_heatPump :
    (buttons.reported samples).map (·.heatPump) =
      buttons.heatPump.reported (samples.map (·.1)) := by
  induction samples generalizing buttons with
  | nil => rfl
  | cons sample later ih => exact congrArg (List.cons _) (ih _)

/-- The wind button is watched by itself. -/
theorem reported_wind :
    (buttons.reported samples).map (·.wind) = buttons.wind.reported (samples.map (·.2)) := by
  induction samples generalizing buttons with
  | nil => rfl
  | cons sample later ih => exact congrArg (List.cons _) (ih _)

end Buttons

/-- A press of a button begins with its `i`-th sample: this one is low, and it is the first or
comes after a high one. -/
def PressBegins (levels : List Bool) (i : Nat) : Prop :=
  levels[i]? = some false ∧ (i = 0 ∨ levels[i - 1]? = some true)

/-- A new detector reports where a press begins. -/
theorem FallingEdge.reported_new_iff (levels : List Bool) (i : Nat) :
    (({} : FallingEdge).reported levels)[i]? = some true ↔ PressBegins levels i := by
  rw [reported_eq_true_iff, PressBegins]
  cases i with
  | zero => exact and_congr_right fun _ => ⟨fun _ => .inl rfl, fun _ => rfl⟩
  | succ i => exact and_congr_right fun _ => ⟨.inr, fun h => h.resolve_left (Nat.succ_ne_zero i)⟩

/-! ## The wind -/

/-- The wind goes round. -/
theorem Turbine.Sound.wind_strengthen {turbine next : Turbine} (h : turbine.Sound)
    (hnext : turbine.strengthen = .ok next) :
    next.wind.toInt = (turbine.wind.toInt + 1) % 6 := by
  have hzero : (0 : Int32).toInt = 0 := rfl
  have hmax : maxWind.toInt = 5 := rfl
  have hnonneg := h.wind_nonneg
  have hle := h.wind_le
  unfold Turbine.strengthen at hnext
  by_cases hstrong : maxWind ≤ turbine.wind
  · rw [if_pos hstrong] at hnext
    cases hnext
    rw [Int32.le_iff_toInt_le] at hstrong
    show (0 : Int32).toInt = _
    omega
  · rw [if_neg hstrong] at hnext
    obtain ⟨wind, hwind, hpure⟩ := bind_eq_ok_iff.mp hnext
    cases hpure
    rw [Int32.le_iff_toInt_le] at hstrong
    rw [Word.checked_eq_ok_iff.mp hwind]
    omega

/-- A sound wind is one of the six. -/
theorem Turbine.Sound.wind_emod {turbine : Turbine} (h : turbine.Sound) :
    turbine.wind.toInt % 6 = turbine.wind.toInt := by
  have hnonneg := h.wind_nonneg
  have hle := h.wind_le
  omega

namespace House

variable {house : House}

theorem turbine_dispatch {line : Wire.Line} {done : Done (Except Wire.CommandError Wire.Target)}
    (h : house.dispatch line = .ok done) : done.house.turbine = house.turbine := by
  have hperform : Operation.perform (.dispatch line) house = .ok (done.map .dispatched) :=
    bind_eq_ok_iff.mpr ⟨done, h, rfl⟩
  exact (Operation.course_of_perform hperform).turbine_eq nofun

theorem turbine_balance {done : Done Balance} (h : house.balance = .ok done) :
    done.house.turbine = house.turbine := by
  rw [(balanceCourse h).house_eq]

theorem turbine_pressHeatPump {done : Done Unit} (h : house.pressHeatPump = .ok done) :
    done.house.turbine = house.turbine := by
  obtain ⟨write, -, h⟩ := bind_eq_ok_iff.mp h
  cases h
  rfl

/-- A press moves the wind on by one. -/
theorem Sound.wind_pressWind (hhouse : house.Sound) {done : Done Unit}
    (h : house.pressWind = .ok done) :
    done.house.turbine.wind.toInt = (house.turbine.wind.toInt + 1) % 6 := by
  obtain ⟨turbine, hturbine, h⟩ := bind_eq_ok_iff.mp h
  obtain ⟨write, -, h⟩ := bind_eq_ok_iff.mp h
  cases h
  exact hhouse.turbine.wind_strengthen hturbine

end House

namespace Exchange

/-- The levels seen at the wind button, in order. -/
def windLevels (trace : List Exchange) : List Bool := trace.filterMap windLevel?

section

variable (xs ys : List Exchange) (ws : List Output)

@[simp] theorem windLevels_append : windLevels (xs ++ ys) = windLevels xs ++ windLevels ys :=
  List.filterMap_append

@[simp] theorem windLevels_drives : windLevels (ws.map drive) = [] := by
  simp [windLevels, windLevel?]

end

end Exchange

namespace Controller

open Exchange

section

variable {α : Type} {c c' : Controller} {xs : List Exchange}

/-- Work that has no part in the wind: it does not sample its button, forgets nothing that was
sampled, and leaves the turbine alone. -/
def Windless (work : Course α) : Prop :=
  ∀ {c xs result c'}, work c xs result c' →
    windLevels xs = [] ∧ c'.buttons = c.buttons ∧ c'.house.turbine = c.house.turbine

theorem windless_operates {operation : House → Except Fault (Done α)}
    (h : ∀ {house done}, operation house = .ok done → done.house.turbine = house.turbine) :
    Windless (Operates operation) := by
  intro c xs result c' hwork
  cases hwork with
  | breaks => exact ⟨rfl, rfl, rfl⟩
  | does hdone => exact ⟨windLevels_drives _, rfl, h hdone⟩

theorem windless_when {wanted : Bool} {work : Course α} (hwork : Windless work) :
    Windless (When wanted work) := by
  intro c xs result c' h
  cases h with
  | skips => exact ⟨rfl, rfl, rfl⟩
  | halts _ hhalts => exact hwork hhalts
  | does _ hdoes => exact hwork hdoes

theorem Draws.windLevels_eq {calls : List Panel.Call} {outcome : Except PanelError Unit}
    (h : Draws calls xs outcome) : windLevels xs = [] := by
  cases h with
  | all => simp [windLevels, windLevel?]
  | some => simp [windLevels, windLevel?]

/-- A report of any kind has no part in the wind. -/
theorem windless_reports : Windless Reports := by
  intro c xs result c' h
  cases h with
  | breaks => exact ⟨rfl, rfl, rfl⟩
  | unsent hbalance =>
    refine ⟨?_, rfl, House.turbine_balance hbalance⟩
    rw [windLevels_append, windLevels_drives]
    rfl
  | unshown hbalance hdraws =>
    refine ⟨?_, rfl, House.turbine_balance hbalance⟩
    rw [windLevels_append, windLevels_drives]
    exact hdraws.windLevels_eq
  | shows hbalance hdraws =>
    refine ⟨?_, rfl, House.turbine_balance hbalance⟩
    rw [windLevels_append, windLevels_drives]
    exact hdraws.windLevels_eq

/-- Nor has a command, whatever it is. -/
theorem windless_obeys : Windless Obeys := by
  intro c xs result c' h
  cases h with
  | obeys hdispatch => exact ⟨windLevels_drives _, rfl, House.turbine_dispatch hdispatch⟩
  | _ => exact ⟨rfl, rfl, rfl⟩

theorem windless_idles : Windless Idles := by
  intro c xs result c' h
  cases h <;> exact ⟨rfl, rfl, rfl⟩

/-- What an iteration has to do with the wind: one sample of the button, which is remembered and
moves the wind on if it completes a falling edge. -/
structure Gusts (c : Controller) (xs : List Exchange) (c' : Controller) (high : Bool) : Prop where
  levels_eq : windLevels xs = [high]
  button_eq : c'.buttons.wind = (c.buttons.wind.sample high).2
  wind_eq : c'.house.turbine.wind.toInt =
    (c.house.turbine.wind.toInt + (c.buttons.wind.sample high).1.toNat) % 6

/-- What has no part in the wind may come after it. -/
theorem Gusts.append {high : Bool} {c₁ : Controller} {ys : List Exchange} (h : Gusts c xs c₁ high)
    (hlater : windLevels ys = [] ∧ c'.buttons = c₁.buttons ∧
      c'.house.turbine = c₁.house.turbine) : Gusts c (xs ++ ys) c' high := by
  obtain ⟨hlevels, hbuttons, hturbine⟩ := hlater
  refine ⟨?_, ?_, ?_⟩
  · rw [windLevels_append, h.levels_eq, hlevels, List.append_nil]
  · rw [hbuttons, h.button_eq]
  · rw [hturbine, h.wind_eq]

/-- The presses of an iteration move the wind of a sound house if the wind button is pressed. -/
theorem Opens.gusts {presses : Presses} {due : Bool} (h : Opens c xs (.ok (presses, due)) c')
    (hc : c.house.Sound) : ∃ high, Gusts c xs c' high := by
  cases h with
  | @opens heatPumpHigh windHigh presses ys zs _ _ c₁ c₂ t hpresses hpump hwind =>
    have hpressed : presses.wind = (c.buttons.wind.sample windHigh).1 := by
      rw [hpresses]
      rfl
    obtain ⟨hys, hbuttons, hturbine⟩ :=
      windless_when (windless_operates House.turbine_pressHeatPump) hpump
    have hc₁ := (sustains_when sustains_pressHeatPump hpump hc).1
    have hlevels (hzs : windLevels zs = []) :
        windLevels (.heatPumpHigh heatPumpHigh :: .windHigh windHigh :: (ys ++ zs ++ [.now t])) =
          [windHigh] := by
      show windHigh :: windLevels (ys ++ zs ++ [.now t]) = _
      rw [windLevels_append, windLevels_append, hys, hzs]
      rfl
    refine ⟨windHigh, ?_⟩
    cases hwind with
    | skips hnot =>
      refine ⟨hlevels rfl, congrArg Buttons.wind hbuttons, ?_⟩
      rw [← hpressed, hnot]
      show c₁.house.turbine.wind.toInt = (c.house.turbine.wind.toInt + 0) % 6
      rw [Int.add_zero, hc.turbine.wind_emod, hturbine]
      rfl
    | does hpress hwork =>
      cases hwork with
      | does hdone =>
        refine ⟨hlevels (windLevels_drives _), congrArg Buttons.wind hbuttons, ?_⟩
        rw [← hpressed, hpress]
        refine (hc₁.wind_pressWind hdone).trans ?_
        rw [hturbine]
        rfl

/-- **What an iteration with a sound house does to the wind**, whether it completes or fails. -/
theorem Iterates.gusts {result : Except Halt Iteration} (h : Iterates c xs result c')
    (hc : c.house.Sound) : ∃ high, Gusts c xs c' high := by
  cases h with
  | @unopened _ halt _ hopens =>
    cases halt with
    | failed e => exact absurd hopens Opens.not_failed
    | broken f => exact absurd rfl ((sustains_opens hopens hc).2 f)
  | unreported hopens hreport =>
    obtain ⟨high, hopened⟩ := hopens.gusts hc
    exact ⟨high, hopened.append (windless_when windless_reports hreport)⟩
  | unobeyed hopens hreport hcommand =>
    obtain ⟨high, hopened⟩ := hopens.gusts hc
    have hreported := hopened.append (windless_when windless_reports hreport)
    exact ⟨high, hreported.append (windless_obeys hcommand)⟩
  | completes hopens hreport hcommand hidle =>
    obtain ⟨high, hopened⟩ := hopens.gusts hc
    have hreported := hopened.append (windless_when windless_reports hreport)
    have hobeyed := hreported.append (windless_obeys hcommand)
    exact ⟨high, hobeyed.append (windless_when windless_idles hidle)⟩

end

section

variable {σ : Type} {c c' : Controller} {rounds : List (Round σ)}

/-- **What any number of iterations do to the wind.**  Each takes one sample of its button, and the
wind has moved on by one for each press among these. -/
theorem Succession.wind_eq (h : Succession c rounds c') (hc : c.house.Sound) :
    (windLevels (exchangesOf rounds)).length = rounds.length ∧
    c'.house.turbine.wind.toInt =
      (c.house.turbine.wind.toInt +
        c.buttons.wind.firings (windLevels (exchangesOf rounds))) % 6 := by
  induction h with
  | nil c =>
    have hnone : ((c.buttons.wind.firings [] : Nat) : Int) = 0 := rfl
    refine ⟨rfl, ?_⟩
    rw [exchangesOf_nil, windLevels, List.filterMap_nil, hnone, Int.add_zero,
      hc.turbine.wind_emod]
  | @cons c c' r later hround hlater ih =>
    obtain ⟨high, hgusts⟩ := hround.gusts hc
    obtain ⟨hlength, hwind⟩ := ih (sustains_iterates hround hc).1
    have hlevels : windLevels (exchangesOf (r :: later)) =
        high :: windLevels (exchangesOf later) := by
      rw [exchangesOf_cons, windLevels_append, hgusts.levels_eq]
      rfl
    refine ⟨?_, ?_⟩
    · rw [hlevels, List.length_cons, hlength, List.length_cons]
    · rw [hwind, hgusts.wind_eq, hgusts.button_eq, hlevels, FallingEdge.firings]
      push_cast
      omega

variable {ports : Ports (StateM σ)} {observe : Iteration → StateM σ Verdict}

/-- The end of a run has no part in the wind, not even if it is a shutdown. -/
theorem Closes.windLevels_eq {r : Round σ} {ending : Ending} {xs : List Exchange}
    (h : Closes r ending xs c') :
    windLevels xs = windLevels r.exchanges ∧ c'.house.turbine = r.controller.house.turbine := by
  cases h with
  | left => exact ⟨rfl, rfl⟩
  | shutDown =>
    refine ⟨?_, rfl⟩
    rw [windLevels_append, windLevels_drives, List.append_nil]

/-- What a run does to the wind, however it ends. -/
theorem runBeside_wind_eq (n : Nat) (s : σ) (hc : c.house.Sound) :
    ∃ ending c' s' trace, runBeside ports observe n c ⟨s, []⟩ = ((ending, c'), ⟨s', trace⟩) ∧
      c'.house.turbine.wind.toInt =
        (c.house.turbine.wind.toInt + c.buttons.wind.firings (windLevels trace)) % 6 := by
  obtain ⟨rounds, c₁, s₁, hrounds, hrest⟩ := @runBeside_course σ ports observe n c s
  rcases hrest with ⟨-, hrun⟩ | ⟨-, ending, xs, c', s', -, hcloses, -, hrun⟩
  · exact ⟨none, c₁, s₁, _, hrun [], (hrounds.succession.wind_eq hc).2⟩
  · have hall := hrounds.succession.concat (iterates_round ports c₁ s₁)
    obtain ⟨hlevels, hturbine⟩ := hcloses.windLevels_eq
    refine ⟨some ending, c', s', _, hrun [], ?_⟩
    rw [List.nil_append, windLevels_append, hlevels, ← windLevels_append, ← exchangesOf_concat,
      hturbine]
    exact (hall.wind_eq hc).2

/-- A controller that has been set up has taken no sample yet. -/
theorem buttons_of_setUp {house : House} {settings : Settings} {s : σ}
    (h : (setUpIn ports house settings s).1 = .ok c) : c.buttons = {} := by
  rcases hset : setUpIn ports house settings s with ⟨result, s', before⟩
  rw [hset] at h
  cases h
  cases (setsUp_of_setUpIn hset).1 with
  | ready => rfl

/-- **Each press counts exactly once, and only presses count.**  Whatever is sampled of the two
buttons, a press of one is reported exactly where it begins, without regard to the other.  And in a
new house the wind is at any time the number of presses that its button has seen, counted round the
six winds: after any number of iterations, one sample each, with any lines, reports and failures
among them, and after any run under any observer, with the shutdown at its end. -/
theorem presses_move_wind {maxCharge maxRate charge : Int32} {battery : Battery}
    (hbuild : Battery.build maxCharge maxRate charge = .ok battery) {lamp : Lamp}
    {settings : Settings} {s₀ s : σ} {before : List Exchange}
    (hset : setUpIn ports { lamp, battery } settings s₀ = (.ok c, ⟨s, before⟩)) :
    (∀ samples i,
      (((Buttons.reported {} samples).map (·.heatPump))[i]? = some true ↔
        PressBegins (samples.map (·.1)) i) ∧
      (((Buttons.reported {} samples).map (·.wind))[i]? = some true ↔
        PressBegins (samples.map (·.2)) i)) ∧
    (∀ n,
      (windLevels (exchangesOf (history ports c s n))).length = n ∧
      (after ports c s n).1.house.turbine.wind.toInt =
        ((runs id (windLevels (exchangesOf (history ports c s n)))).length : Int) % 6) ∧
    ∀ (observe : Iteration → StateM σ Verdict) n, ∃ ending c' s' trace,
      runBeside ports observe n c ⟨s, []⟩ = ((ending, c'), ⟨s', trace⟩) ∧
      c'.house.turbine.wind.toInt = ((runs id (windLevels trace)).length : Int) % 6 := by
  have hready : (setUpIn ports { lamp, battery } settings s₀).1 = .ok c := by rw [hset]
  have hhouse := house_of_setUp hready
  have hbuttons : c.buttons.wind = {} := by rw [buttons_of_setUp hready]
  have hcalm : c.house.turbine.wind.toInt = 0 := by
    rw [hhouse]
    rfl
  have hsound : c.house.Sound := by
    rw [hhouse]
    exact House.sound_of_build hbuild lamp
  refine ⟨?_, ?_, ?_⟩
  · intro samples i
    rw [Buttons.reported_heatPump, Buttons.reported_wind]
    exact ⟨FallingEdge.reported_new_iff _ i, FallingEdge.reported_new_iff _ i⟩
  · intro n
    obtain ⟨hlength, hwind⟩ := (succession_history ports c s n).wind_eq hsound
    rw [hcalm, hbuttons, FallingEdge.firings_eq, Int.zero_add] at hwind
    exact ⟨hlength.trans (length_history ports c s n), hwind⟩
  · intro observe n
    obtain ⟨ending, c', s', trace, hrun, hwind⟩ :=
      @runBeside_wind_eq σ c ports observe n s hsound
    rw [hcalm, hbuttons, FallingEdge.firings_eq, Int.zero_add] at hwind
    exact ⟨ending, c', s', trace, hrun, hwind⟩

/-- A calm world but for the link, which takes no line. -/
def deafPorts : Ports (StateM Calm) :=
  { Calm.ports with transmit := fun _ => return .error ⟨"line dropped"⟩ }

/-- An evening on which the wind button is down at first and pressed six times more, the third time
for two samples, while `turbine 5` and `led on` wait. -/
def gustyEvening : Calm where
  clock := ⟨0xFFFFFFF0⟩
  windLevels := [false, true, false, true, false, false, true, true, false, true, false, true,
    false, true, false]
  queue := [[0x74, 0x75, 0x72, 0x62, 0x69, 0x6E, 0x65, 0x20, 0x35],
    [0x6C, 0x65, 0x64, 0x20, 0x6F, 0x6E]]

set_option maxRecDepth 10000 in
/-- With seven presses in fifteen iterations, of which four fail, the wind has gone round to one. -/
theorem presses_move_wind_gusty :
    ∃ before,
      Battery.build 50 3 10 = .ok Calm.cottage.battery ∧
      setUpIn deafPorts Calm.cottage Calm.pace gustyEvening =
        (.ok eveningController, ⟨gustyEvening, before⟩) ∧
      windLevels (exchangesOf (history deafPorts eveningController gustyEvening 15)) =
        gustyEvening.windLevels ∧
      (history deafPorts eveningController gustyEvening 15).countP (!·.result.isOk) = 4 ∧
      (after deafPorts eveningController gustyEvening 15).1.house.turbine.wind.toInt = 1 := by
  have hbuild : Battery.build 50 3 10 = .ok Calm.cottage.battery := rfl
  obtain ⟨before, hset⟩ : ∃ before, setUpIn deafPorts Calm.cottage Calm.pace gustyEvening =
      (.ok eveningController, ⟨gustyEvening, before⟩) := ⟨_, rfl⟩
  have hsampled : windLevels (exchangesOf
      (history deafPorts eveningController gustyEvening 15)) = gustyEvening.windLevels := by
    decide +kernel
  have hfailed : (history deafPorts eveningController gustyEvening 15).countP
      (!·.result.isOk) = 4 := by
    decide +kernel
  have hwind := ((presses_move_wind hbuild hset).2.1 15).2
  rw [hsampled] at hwind
  exact ⟨before, hbuild, hset, hsampled, hfailed, hwind.trans (by decide)⟩

end

end Controller

end HomeEnergy
