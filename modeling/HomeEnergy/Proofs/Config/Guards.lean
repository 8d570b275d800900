import HomeEnergy.Config.Preset
import HomeEnergy.Proofs.Controller.FailSafe
import HomeEnergy.Proofs.Controller.SettingUp
import HomeEnergy.Proofs.Controller.Worlds

/-!
# What the validator guards

The battery, the buttons and the report timer have requirements of their own, and break if
they are built from anything else.  A configuration is checked before anything is built from
it, by constraints written a second time.  The two agree at every boundary.

* `Config.Meets` — the constraints, said in the integers;
* `Config.mem_violations_iff` — the validator lists what is not met;
* `Config.buildHouse_breaks_iff`, `Config.assemble_breaks_iff`,
  `Controller.setUp_breaks_iff` — what each constructor refuses;
* `Config.violations_guard` — **the validator lists exactly what the constructors refuse, and
  what it accepts runs.**
-/

namespace HomeEnergy

namespace Violation

/-- The setting at fault is one of the battery's. -/
def InBattery (v : Violation) : Prop := "battery.".toList <+: v.field.toList

instance (v : Violation) : Decidable v.InBattery := inferInstanceAs (Decidable (_ <+: _))

/-- The setting at fault is the chance of a press. -/
def IsPressChance (v : Violation) : Prop := v = windPressChance ∨ v = heatPumpPressChance

theorem inBattery_iff {v : Violation} :
    v.InBattery ↔ v = maxCharge ∨ v = maxRate ∨ v = initialCharge := by
  cases v <;> decide

end Violation

namespace Config

variable {c : Config}

/-- What the constraints ask of a configuration. -/
def Meets (c : Config) : Violation → Prop
  | .reportInterval =>
    1 ≤ c.loop.reportInterval.toNat ∧ c.loop.reportInterval.toNat ≤ 2147483647
  | .marquee => c.loop.marquee ≠ "" ∧ ∀ ch ∈ c.loop.marquee.toList, ch.toNat < 128
  | .lampLoad => 0 ≤ c.lamp.loadWhenOn.toInt ∧ c.lamp.loadWhenOn.toInt ≤ 5
  | .maxCharge => 0 < c.battery.maxCharge.toInt
  | .maxRate => 0 < c.battery.maxRate.toInt
  | .initialCharge =>
    0 ≤ c.battery.initialCharge.toInt ∧
      c.battery.initialCharge.toInt ≤ c.battery.maxCharge.toInt
  | .windPressChance => isChance c.simulation.windPressChance = true
  | .heatPumpPressChance => isChance c.simulation.heatPumpPressChance = true

theorem isReadable_iff {text : String} :
    isReadable text = true ↔ text ≠ "" ∧ ∀ ch ∈ text.toList, ch.toNat < 128 := by
  simp [isReadable, List.all_eq_true, UInt32.lt_iff_toNat_lt]

/-- A constraint is broken exactly if it is not met. -/
theorem breaks_iff (v : Violation) : c.breaks v = true ↔ ¬ c.Meets v := by
  have hzero : (0 : Int32).toInt = 0 := rfl
  have hfive : maxLampLoad.toInt = 5 := rfl
  have hnone : (0 : UInt32).toNat = 0 := rfl
  have hmost : (0x7FFFFFFF : UInt32).toNat = 2147483647 := rfl
  cases v with
  | reportInterval =>
    simp only [breaks, Meets, decide_eq_true_eq, ← UInt32.toNat_inj, UInt32.lt_iff_toNat_lt, hnone, hmost]
    omega
  | marquee =>
    simp only [breaks, Meets, ← isReadable_iff, Bool.not_eq_true', Bool.not_eq_true]
  | lampLoad =>
    simp only [breaks, Meets, decide_eq_true_eq, Int32.le_iff_toInt_le, hzero, hfive]
  | maxCharge =>
    simp only [breaks, Meets, decide_eq_true_eq, Int32.le_iff_toInt_le, hzero, Int.not_lt]
  | maxRate =>
    simp only [breaks, Meets, decide_eq_true_eq, Int32.le_iff_toInt_le, hzero, Int.not_lt]
  | initialCharge =>
    simp only [breaks, Meets, decide_eq_true_eq, Int32.lt_iff_toInt_lt, hzero]
    omega
  | windPressChance =>
    simp only [breaks, Meets, Bool.not_eq_true', Bool.not_eq_true]
  | heatPumpPressChance =>
    simp only [breaks, Meets, Bool.not_eq_true', Bool.not_eq_true]

theorem mem_constraints (v : Violation) : v ∈ constraints := by
  cases v <;> decide

/-- **The validator lists what is not met**, and nothing else. -/
theorem mem_violations_iff {v : Violation} : v ∈ c.violations ↔ ¬ c.Meets v := by
  rw [violations, List.mem_filter, breaks_iff]
  exact and_iff_right (mem_constraints v)

/-- No field is listed twice. -/
theorem nodup_fields (c : Config) : (c.violations.map Violation.field).Nodup := by
  have hall : (constraints.map Violation.field).Nodup := by decide
  exact hall.sublist (List.filter_sublist.map _)

theorem meets_of_violations_eq_nil (h : c.violations = []) (v : Violation) : c.Meets v := by
  by_cases hmeets : c.Meets v
  · exact hmeets
  · have hmem := mem_violations_iff.mpr hmeets
    rw [h] at hmem
    cases hmem

/-- What has no result exactly if its requirements are not met. -/
theorem exists_error_iff {α : Type} {result : Except Fault α} {met : Prop}
    (h : (∃ a, result = .ok a) ↔ met) : (∃ f, result = .error f) ↔ ¬ met := by
  rw [← h]
  cases result with
  | ok a => simp
  | error f => simp

/-- A button can be built exactly with a chance. -/
theorem button_builds_iff {chance : Float} {seed : UInt64} :
    (∃ button, SimulatedButton.build chance seed = .ok button) ↔ isChance chance = true := by
  by_cases h : isChance chance = true <;>
    simp [SimulatedButton.build, require, h, bind, Except.bind, pure, Except.pure]

/-- A house can be built exactly if the battery's constraints are met. -/
theorem buildHouse_builds_iff :
    (∃ house, c.buildHouse = .ok house) ↔ ∀ v : Violation, v.InBattery → c.Meets v := by
  have hzero : (0 : Int32).toInt = 0 := rfl
  constructor
  · rintro ⟨house, hhouse⟩ v hv
    rcases bind_eq_ok_iff.mp hhouse with ⟨battery, hbattery, _⟩
    rcases Battery.build_eq_ok_iff.mp hbattery with ⟨hcapacity, hrate, ⟨hleast, hmost⟩, _⟩
    rcases Violation.inBattery_iff.mp hv with rfl | rfl | rfl
    · exact Int32.lt_iff_toInt_lt.mp hcapacity
    · exact Int32.lt_iff_toInt_lt.mp hrate
    · exact ⟨Int32.le_iff_toInt_le.mp hleast, Int32.le_iff_toInt_le.mp hmost⟩
  · intro h
    have hcapacity := h .maxCharge (by decide)
    have hrate := h .maxRate (by decide)
    have hcharge := h .initialCharge (by decide)
    have hbattery := Battery.build_eq_ok_iff.mpr ⟨Int32.lt_iff_toInt_lt.mpr hcapacity,
      Int32.lt_iff_toInt_lt.mpr hrate,
      ⟨Int32.le_iff_toInt_le.mpr hcharge.1, Int32.le_iff_toInt_le.mpr hcharge.2⟩, rfl⟩
    exact ⟨_, bind_eq_ok_iff.mpr ⟨_, hbattery, rfl⟩⟩

/-- A house and its buttons can be built exactly if the constraints on the battery and on the
two chances are met. -/
theorem assemble_builds_iff :
    (∃ parts, c.assemble = .ok parts) ↔
      ∀ v : Violation, v.InBattery ∨ v.IsPressChance → c.Meets v := by
  constructor
  · rintro ⟨parts, hparts⟩ v hv
    rcases bind_eq_ok_iff.mp hparts with ⟨house, hhouse, hparts⟩
    rcases bind_eq_ok_iff.mp hparts with ⟨pump, hpump, hparts⟩
    rcases bind_eq_ok_iff.mp hparts with ⟨wind, hwind, _⟩
    rcases hv with hv | rfl | rfl
    · exact buildHouse_builds_iff.mp ⟨house, hhouse⟩ v hv
    · exact button_builds_iff.mp ⟨wind, hwind⟩
    · exact button_builds_iff.mp ⟨pump, hpump⟩
  · intro h
    have hbattery : ∀ v : Violation, v.InBattery → c.Meets v := fun v hv => h v (.inl hv)
    rcases buildHouse_builds_iff.mpr hbattery with ⟨house, hhouse⟩
    have hchance := h .heatPumpPressChance (.inr (.inr rfl))
    rcases button_builds_iff.mpr hchance with ⟨pump, hpump⟩
    have hchance := h .windPressChance (.inr (.inl rfl))
    rcases button_builds_iff.mpr hchance with ⟨wind, hwind⟩
    exact ⟨_, bind_eq_ok_iff.mpr ⟨house, hhouse,
      bind_eq_ok_iff.mpr ⟨pump, hpump, bind_eq_ok_iff.mpr ⟨wind, hwind, rfl⟩⟩⟩⟩

/-- The report timer can be started exactly if the constraint on its interval is met. -/
theorem timer_starts_iff {now : Tick} :
    (∃ timer, Timer.start c.loop.reportInterval now = .ok timer) ↔ c.Meets .reportInterval := by
  constructor
  · rintro ⟨timer, htimer⟩
    rcases Timer.start_eq_ok_iff.mp htimer with ⟨hleast, hmost, _⟩
    exact ⟨UInt32.lt_iff_toNat_lt.mp hleast, UInt32.le_iff_toNat_le.mp hmost⟩
  · rintro ⟨hleast, hmost⟩
    exact ⟨_, Timer.start_eq_ok_iff.mpr
      ⟨UInt32.lt_iff_toNat_lt.mpr hleast, UInt32.le_iff_toNat_le.mpr hmost, rfl⟩⟩

/-- Some of the settings with a property are listed exactly if not all of them meet their
constraint. -/
theorem exists_violation_iff {p : Violation → Prop} :
    (∃ v ∈ c.violations, p v) ↔ ¬ ∀ v : Violation, p v → c.Meets v := by
  constructor
  · rintro ⟨v, hmem, hv⟩ hall
    exact mem_violations_iff.mp hmem (hall v hv)
  · intro h
    rcases Classical.not_forall.mp h with ⟨v, hv⟩
    rcases Classical.not_imp.mp hv with ⟨hv, hmeets⟩
    exact ⟨v, mem_violations_iff.mpr hmeets, hv⟩

/-- **Building the house breaks exactly if the validator lists a field of the battery.** -/
theorem buildHouse_breaks_iff :
    (∃ f, c.buildHouse = .error f) ↔ ∃ v ∈ c.violations, v.InBattery := by
  rw [exists_error_iff buildHouse_builds_iff, exists_violation_iff]

/-- **Building the house and its buttons breaks exactly if the validator lists a field of the
battery or one of the two chances.** -/
theorem assemble_breaks_iff :
    (∃ f, c.assemble = .error f) ↔
      ∃ v ∈ c.violations, v.InBattery ∨ v.IsPressChance := by
  rw [exists_error_iff assemble_builds_iff, exists_violation_iff]

/-- The house of an assembly is the house of the configuration. -/
theorem buildHouse_of_assemble {parts : Assembly} (h : c.assemble = .ok parts) :
    c.buildHouse = .ok parts.house := by
  rcases bind_eq_ok_iff.mp h with ⟨house, hhouse, h⟩
  rcases bind_eq_ok_iff.mp h with ⟨pump, _, h⟩
  rcases bind_eq_ok_iff.mp h with ⟨wind, _, h⟩
  cases h
  exact hhouse

/-- The house that could be assembled is sound. -/
theorem sound_of_assemble {parts : Assembly} (h : c.assemble = .ok parts) :
    parts.house.Sound := by
  rcases bind_eq_ok_iff.mp (buildHouse_of_assemble h) with ⟨battery, hbattery, hhouse⟩
  rw [← Except.ok.inj hhouse]
  exact House.sound_of_build hbattery _

end Config

/-- The panel of the world refuses no call. -/
def Ports.PanelAccepts {σ : Type} (ports : Ports (StateM σ)) : Prop :=
  ∀ s call e s', ¬ ports.Takes s (.draw call (.error e)) s'

theorem Ports.NeverFails.panelAccepts {σ : Type} {ports : Ports (StateM σ)}
    (h : ports.NeverFails) : ports.PanelAccepts := by
  intro s call e s' htakes
  cases h s _ s' htakes

namespace Controller

variable {σ : Type} {ports : Ports (StateM σ)}

/-- Where the panel refuses no call, none of a sequence of calls is refused. -/
theorem Draws.of_panelAccepts (hports : ports.PanelAccepts) {s s' : σ} {xs : List Exchange}
    (hpath : ports.Path s xs s') {calls : List Panel.Call} {outcome : Except PanelError Unit}
    (h : Draws calls xs outcome) : outcome = .ok () := by
  cases h with
  | all => rfl
  | some _ =>
    rcases hpath.of_append with ⟨s₁, _, hlast⟩
    cases hlast with
    | cons head _ => exact absurd head (hports _ _ _ _)

/-- Where the panel refuses no call, setting up gives a controller or breaks, and it breaks
exactly if the validator lists the report interval. -/
theorem setUp_breaks_iff (hports : ports.PanelAccepts) (c : Config) (house : House) (s : σ) :
    ((∃ f, (setUpIn ports house c.loop s).1 = .error (.broken f)) ↔
      .reportInterval ∈ c.violations) ∧
    ((∃ controller, (setUpIn ports house c.loop s).1 = .ok controller) ↔
      .reportInterval ∉ c.violations) := by
  have hstarts (start : Tick) := @Config.timer_starts_iff c start
  rw [Config.mem_violations_iff]
  rcases hset : setUpIn ports house c.loop s with ⟨result, s', before⟩
  rcases setsUp_of_setUpIn hset with ⟨hsets, hpath⟩
  cases hsets with
  | refused hdraws => cases hdraws.of_panelAccepts hports hpath
  | @unstarted xs start f _ htimer =>
    have hbroken := (Config.exists_error_iff (hstarts start)).mp ⟨f, htimer⟩
    exact ⟨iff_of_true ⟨f, rfl⟩ hbroken, iff_of_false nofun (not_not_intro hbroken)⟩
  | @ready xs start timer _ htimer =>
    have hmet := (hstarts start).mp ⟨timer, htimer⟩
    exact ⟨iff_of_false nofun (not_not_intro hmet), iff_of_true ⟨_, rfl⟩ (not_not_intro hmet)⟩

end Controller

open Controller

/-- **The validator agrees with what it guards.**  It lists every constraint that is not met,
and none twice.  Building the house breaks exactly if a field of the battery is listed, the
assembly exactly if one of those or a chance is, and setting up the controller, on a panel that
refuses nothing, exactly if the report interval is.  So a configuration with nothing listed can
be assembled and set up in any such world, and the controller never breaks after that. -/
theorem Config.violations_guard (c : Config) :
    (∀ v, v ∈ c.violations ↔ ¬ c.Meets v) ∧
    (c.violations.map Violation.field).Nodup ∧
    ((∃ f, c.buildHouse = .error f) ↔ ∃ v ∈ c.violations, v.InBattery) ∧
    ((∃ f, c.assemble = .error f) ↔ ∃ v ∈ c.violations, v.InBattery ∨ v.IsPressChance) ∧
    (∀ (σ : Type) (ports : Ports (StateM σ)), ports.PanelAccepts → ∀ house s,
      ((∃ f, (setUpIn ports house c.loop s).1 = .error (.broken f)) ↔
        .reportInterval ∈ c.violations) ∧
      ((∃ controller, (setUpIn ports house c.loop s).1 = .ok controller) ↔
        .reportInterval ∉ c.violations)) ∧
    (c.violations = [] → ∃ parts, c.assemble = .ok parts ∧
      ∀ (σ : Type) (ports : Ports (StateM σ)), ports.PanelAccepts → ∀ s, ∃ controller,
        (setUpIn ports parts.house c.loop s).1 = .ok controller ∧
        ∀ s' n, ∀ r ∈ history ports controller s' n, Unbroken r.result) := by
  refine ⟨fun _ => mem_violations_iff, nodup_fields c, buildHouse_breaks_iff,
    assemble_breaks_iff, ?_, ?_⟩
  · intro σ ports hports house s
    exact setUp_breaks_iff hports c house s
  · intro h
    rcases assemble_builds_iff.mpr fun v _ => meets_of_violations_eq_nil h v with ⟨parts, hparts⟩
    refine ⟨parts, hparts, ?_⟩
    intro σ ports hports s
    have hlisted : .reportInterval ∉ c.violations := h ▸ List.not_mem_nil
    rcases (setUp_breaks_iff hports c parts.house s).2.mpr hlisted with ⟨controller, hset⟩
    have hsound : controller.house.Sound := by
      rw [house_of_setUp hset]
      exact sound_of_assemble hparts
    refine ⟨controller, hset, ?_⟩
    intro s' n
    exact ((succession_history ports controller s' n).unbroken hsound).1

/-- A configuration that breaks the constraint on the report interval from above, and has the
charge of an empty battery below zero. -/
def Config.slow : Config where
  loop := { reportInterval := 0x80000000 }
  battery := { maxCharge := -5, initialCharge := -7 }

/-- The demo configuration runs in a calm world.  The other one breaks in each constructor that
the validator speaks for. -/
theorem Config.violations_guard_slow :
    Calm.ports.PanelAccepts ∧ demo.violations = [] ∧
    (∃ parts controller, demo.assemble = .ok parts ∧
      (setUpIn Calm.ports parts.house demo.loop Calm.evening).1 = .ok controller ∧
      ∀ s n, ∀ r ∈ history Calm.ports controller s n, Unbroken r.result) ∧
    slow.violations = [.reportInterval, .maxCharge, .initialCharge] ∧
    (∃ f, slow.assemble = .error f) ∧
    ∃ f, (setUpIn Calm.ports Calm.cottage slow.loop Calm.evening).1 = .error (.broken f) := by
  have hdemo : demo.violations = [] := by decide +kernel
  have hslow : slow.violations = [.reportInterval, .maxCharge, .initialCharge] := by
    decide +kernel
  have hcalm := Calm.neverFails.panelAccepts
  rcases (violations_guard demo).2.2.2.2.2 hdemo with ⟨parts, hparts, hruns⟩
  rcases hruns Calm Calm.ports hcalm Calm.evening with ⟨controller, hset, hunbroken⟩
  rcases violations_guard slow with ⟨_, _, _, hassemble, hsetUp, _⟩
  refine ⟨hcalm, hdemo, ⟨parts, controller, hparts, hset, hunbroken⟩, hslow, ?_, ?_⟩
  · exact hassemble.mpr ⟨.maxCharge, by rw [hslow]; decide, .inl (by decide)⟩
  · exact (hsetUp Calm Calm.ports hcalm Calm.cottage Calm.evening).1.mpr (by rw [hslow]; decide)

end HomeEnergy
