import HomeEnergy.Config.Preset
import HomeEnergy.Proofs.House.Outputs
import HomeEnergy.Proofs.House.Steering
import HomeEnergy.Proofs.Panel.Layout

/-!
# The status row of a valid configuration

The row of a report has room for four numbers of nine characters together, signs included.  In
a valid configuration the loads of the house and of the turbine have one digit, but nothing
bounds the greatest rate of the battery, and its load and the net flow grow with it.

* `readable_iff` — which reports are shown in full and with their blanks;
* `House.Sound.balance_ranges` — how far the flows of a report can go;
* `Config.statusRow_readable` — **every report of a valid configuration is shown so exactly
  if the battery's greatest rate has one digit**.
-/

namespace HomeEnergy

/-! ## Readable rows -/

namespace Panel

namespace StatusLine

/-- How many characters the four numbers of a report have together. -/
def width (b : Balance) : Nat :=
  (power b.houseLoad).length + (power b.turbineLoad).length + (power b.batteryLoad).length +
    (power b.totalLoad).length

variable {b : Balance}

theorem two_le_length_power (n : Int32) : 2 ≤ (power n).length := by
  rw [power, Text.Decimal.length_ofIntSigned]
  exact Nat.succ_le_succ Nat.length_toDigits_pos

/-- Three numbers of one digit leave room for one of two. -/
theorem width_le (hhouse : b.houseLoad.toInt.natAbs < 10)
    (hturbine : b.turbineLoad.toInt.natAbs < 10) (hbattery : b.batteryLoad.toInt.natAbs < 10)
    (htotal : b.totalLoad.toInt.natAbs < 100) : width b ≤ 9 := by
  have hhouse := (length_power_le_iff Nat.one_pos).mpr hhouse
  have hturbine := (length_power_le_iff Nat.one_pos).mpr hturbine
  have hbattery := (length_power_le_iff Nat.one_pos).mpr hbattery
  have htotal := (length_power_le_iff Nat.two_pos).mpr htotal
  unfold width
  omega

/-- Two numbers of two digits leave no room for the others. -/
theorem lt_width (hbattery : 10 ≤ b.batteryLoad.toInt.natAbs)
    (htotal : 10 ≤ b.totalLoad.toInt.natAbs) : 9 < width b := by
  have hhouse := two_le_length_power b.houseLoad
  have hturbine := two_le_length_power b.turbineLoad
  have hbattery := mt (length_power_le_iff Nat.one_pos).mp (Nat.not_lt.mpr hbattery)
  have htotal := mt (length_power_le_iff Nat.one_pos).mp (Nat.not_lt.mpr htotal)
  unfold width
  omega

/-- Beside the numbers there are four signs for what they are, and three blanks. -/
theorem length_spaced (b : Balance) (glyphs : GlyphSet) :
    (spaced b glyphs).length = width b + 7 := by
  simp [spaced, loads, total, width, List.intercalate]
  omega

end StatusLine

/-- The row shows all four fields in full, with a blank between each two, and then only
blanks. -/
def Readable (b : Balance) (glyphs : GlyphSet) : Prop :=
  ∃ blanks, statusLine b glyphs = StatusLine.spaced b glyphs ++ List.replicate blanks ' '

/-- A row is readable if its numbers leave room for all that stands around them. -/
theorem readable_iff {b : Balance} {glyphs : GlyphSet} :
    Readable b glyphs ↔ StatusLine.width b ≤ 9 := by
  have hspaced := StatusLine.length_spaced b glyphs
  have hcolumns : columns = 16 := rfl
  constructor
  · rintro ⟨blanks, hrow⟩
    have hlength := congrArg List.length hrow
    rw [length_statusLine, List.length_append, List.length_replicate] at hlength
    omega
  · intro hwidth
    have hfits : (StatusLine.spaced b glyphs).length ≤ columns := by omega
    exact ⟨_, statusLine_of_spaced hfits⟩

end Panel

/-! ## How far the flows of a report go -/

/-- A step takes at most the greatest rate. -/
theorem Battery.Sound.natAbs_rate_le {battery battery' : Battery} {flow rate : Int32}
    (h : battery.Sound) (hstep : battery.step flow = .ok (rate, battery')) :
    (rate.toInt.natAbs : Int) ≤ battery.maxRate.toInt := by
  have hpos := h.maxRate_pos
  obtain ⟨hmoves, hrests⟩ := h.step_toInt hstep
  by_cases hcan : battery.CanSteer flow
  · have hrate := (hmoves hcan).1
    unfold closingRate at hrate
    omega
  · have hzero : rate.toInt = 0 := by
      rw [(hrests hcan).1]
      rfl
    omega

/-- The flows of a balance, if the lamp draws no more than a valid configuration lets it. -/
structure Balance.Ranges (b : Balance) (maxRate : Int32) : Prop where
  houseLoad_nonneg : 0 ≤ b.houseLoad.toInt
  houseLoad_le : b.houseLoad.toInt ≤ 9
  turbineLoad_ge : -5 ≤ b.turbineLoad.toInt
  turbineLoad_le : b.turbineLoad.toInt ≤ 0
  batteryLoad_le : (b.batteryLoad.toInt.natAbs : Int) ≤ maxRate.toInt
  totalLoad_eq : b.totalLoad.toInt =
    b.houseLoad.toInt + b.turbineLoad.toInt + b.batteryLoad.toInt

namespace House

variable {house : House}

theorem Sound.balance_ranges (h : house.Sound) (hnonneg : 0 ≤ house.lamp.loadWhenOn.toInt)
    (hle : house.lamp.loadWhenOn.toInt ≤ 5) {done : Done Balance}
    (hdone : house.balance = .ok done) : done.answer.Ranges house.battery.maxRate := by
  have hcourse := balanceCourse hdone
  obtain ⟨hlevelNonneg, hlevelLe, -, -, -⟩ := h.heatPump
  obtain ⟨hwindNonneg, hwindLe⟩ := h.turbine
  have hzero : (0 : Int32).toInt = 0 := rfl
  have hlamp : 0 ≤ house.lamp.load.toInt ∧ house.lamp.load.toInt ≤ 5 := by
    unfold Lamp.load
    split
    · exact ⟨hnonneg, hle⟩
    · omega
  have hpump : house.heatPump.load = house.heatPump.level := rfl
  have hhouse := congrArg Int32.toInt hcourse.houseLoad_eq
  rw [Word.toInt_satAdd, Word.toInt_satAdd, hzero, hpump] at hhouse
  have hturbine := Word.checked_eq_ok_iff.mp hcourse.turbineLoad_eq
  have hbefore : done.answer.beforeBattery.toInt = _ := Word.toInt_satAdd _ _
  have hrate := h.battery.natAbs_rate_le hcourse.step_eq
  have htotal := (Balance.steers_of_step h.battery hcourse.step_eq hcourse.totalLoad_eq).total_eq
  exact ⟨by omega, by omega, by omega, by omega, hrate, by omega⟩

/-- Every balance among the answers was made by a sound house with the same parameters. -/
theorem Sound.balance_of_mem_answer (h : house.Sound) {operations : List Operation}
    {done : Done (List Response)}
    (hdone : house.inTurn (operations.map Operation.perform) = .ok done) {b : Balance}
    (hmem : .balanced b ∈ done.answer) :
    ∃ (house' : House) (balanced : Done Balance), house'.Sound ∧
      house'.parameters = house.parameters ∧ house'.balance = .ok balanced ∧
      balanced.answer = b := by
  induction operations using List.reverseRecOn generalizing done with
  | nil =>
    cases hdone
    exact absurd hmem List.not_mem_nil
  | append_singleton operations last ih =>
    rw [List.map_append, List.map_singleton] at hdone
    obtain ⟨first, final, hfirst, hfinal, rfl⟩ := inTurn_concat.mp hdone
    rcases List.mem_append.mp hmem with hmem | hmem
    · exact ih hfirst hmem
    · obtain ⟨run, hrun, hsound, hparameters⟩ := h.inTurn operations
      rw [hfirst] at hrun
      cases hrun
      have hanswer := List.mem_singleton.mp hmem
      -- only a balance answers with one
      cases Operation.course_of_perform hfinal with
      | @balance balanced hbalanced =>
        cases hanswer
        exact ⟨first.house, balanced, hsound, hparameters, hbalanced, rfl⟩
      | _ => cases hanswer

/-- Nothing that is done to a house of one-digit rate spoils the row of a report. -/
theorem Sound.readable_of_mem_answer (h : house.Sound)
    (hnonneg : 0 ≤ house.lamp.loadWhenOn.toInt) (hle : house.lamp.loadWhenOn.toInt ≤ 5)
    (hrate : house.battery.maxRate.toInt ≤ 9) {operations : List Operation}
    {done : Done (List Response)}
    (hdone : house.inTurn (operations.map Operation.perform) = .ok done) {b : Balance}
    (hmem : .balanced b ∈ done.answer) (glyphs : Panel.GlyphSet) : Panel.Readable b glyphs := by
  obtain ⟨house', balanced, hsound, hparameters, hbalanced, rfl⟩ :=
    h.balance_of_mem_answer hdone hmem
  have hlamp : house'.lamp.loadWhenOn = house.lamp.loadWhenOn :=
    congrArg Parameters.loadWhenOn hparameters
  have hmaxRate : house'.battery.maxRate = house.battery.maxRate :=
    congrArg Parameters.maxRate hparameters
  have hranges := hsound.balance_ranges (hlamp ▸ hnonneg) (hlamp ▸ hle) hbalanced
  rw [hmaxRate] at hranges
  obtain ⟨_, _, _, _, _, _⟩ := hranges
  rw [Panel.readable_iff]
  apply Panel.StatusLine.width_le <;> omega

/-- Only the battery may make a flow. -/
structure AtRest (house : House) : Prop where
  lamp_off : house.lamp.isOn = false
  pump_off : house.heatPump.level = 0
  calm : house.turbine.wind = 0

theorem atRest_new (loadWhenOn : Int32) (battery : Battery) :
    AtRest { lamp := { loadWhenOn }, battery } :=
  ⟨rfl, rfl, rfl⟩

/-- The battery alone reaches any target within its greatest rate that it can steer to. -/
theorem AtRest.balance_eq (hrest : house.AtRest) (h : house.Sound)
    (hcan : house.battery.CanSteer 0)
    (hrate : (house.battery.netTarget.toInt.natAbs : Int) ≤ house.battery.maxRate.toInt) :
    ∃ done, house.balance = .ok done ∧
      done.answer.batteryLoad = house.battery.netTarget ∧
      done.answer.totalLoad = house.battery.netTarget := by
  obtain ⟨done, hdone, hsteers⟩ := h.balance_steers
  have hcourse := balanceCourse hdone
  have hhouse : done.answer.houseLoad = 0 := by
    rw [hcourse.houseLoad_eq, Lamp.load, HeatPump.load, hrest.lamp_off, hrest.pump_off]
    rfl
  have hturbine : done.answer.turbineLoad = 0 := by
    have hload := hcourse.turbineLoad_eq
    rw [Turbine.load, hrest.calm] at hload
    exact Int32.toInt_inj.mp (Word.checked_eq_ok_iff.mp hload)
  have hbefore : done.answer.beforeBattery = 0 := by
    rw [Balance.beforeBattery, hhouse, hturbine]
    rfl
  have hzero : (0 : Int32).toInt = 0 := rfl
  have hsum := hsteers.total_eq
  have hcloses := hsteers.closes (hbefore ▸ hcan)
  rw [hbefore, hzero] at hsum hcloses
  refine ⟨done, hdone, ?_, ?_⟩ <;> apply Int32.toInt_inj.mp <;> omega

/-- A line that makes the battery aim ten units away spoils the row of the next report, if the
battery can go there in one step. -/
theorem AtRest.exists_not_readable (hrest : house.AtRest) (h : house.Sound) {line : Wire.Line}
    {netTarget : Int32} (hline : house.dispatch line =
      .ok { answer := .ok .battery, writes := [], house := house.aimingAt netTarget })
    (hten : netTarget.toInt.natAbs = 10)
    (hcan : (house.aimingAt netTarget).battery.CanSteer 0)
    (hrate : 9 < house.battery.maxRate.toInt) :
    ∃ done b, house.inTurn ([.dispatch line, .balance].map Operation.perform) = .ok done ∧
      .balanced b ∈ done.answer ∧ ∀ glyphs, ¬ Panel.Readable b glyphs := by
  have hreach : ((house.aimingAt netTarget).battery.netTarget.toInt.natAbs : Int) ≤
      (house.aimingAt netTarget).battery.maxRate.toInt := by
    show (netTarget.toInt.natAbs : Int) ≤ house.battery.maxRate.toInt
    omega
  have haiming : (house.aimingAt netTarget).AtRest := { hrest with }
  obtain ⟨balanced, hbalanced, hload, htotal⟩ :=
    haiming.balance_eq (h.aimingAt netTarget) hcan hreach
  have hfirst : Operation.perform (.dispatch line) house = .ok {
      answer := .dispatched (.ok .battery), writes := [], house := house.aimingAt netTarget } :=
    bind_eq_ok_iff.mpr ⟨_, hline, rfl⟩
  have hsecond : Operation.perform .balance (house.aimingAt netTarget) =
      .ok (balanced.map .balanced) :=
    bind_eq_ok_iff.mpr ⟨_, hbalanced, rfl⟩
  refine ⟨_, balanced.answer, inTurn_cons hfirst (inTurn_cons hsecond rfl), ?_, ?_⟩
  · exact List.mem_cons_of_mem _ List.mem_cons_self
  · intro glyphs hreadable
    have hwide : 9 < Panel.StatusLine.width balanced.answer := by
      apply Panel.StatusLine.lt_width
      · rw [hload]
        exact Nat.le_of_eq hten.symm
      · rw [htotal]
        exact Nat.le_of_eq hten.symm
    exact absurd (Panel.readable_iff.mp hreadable) (Nat.not_le.mpr hwide)

end House

/-! ## Valid configurations -/

namespace Config

variable {c : Config}

/-- What the constraints say of the lamp and of the battery. -/
structure Bounded (c : Config) : Prop where
  load_nonneg : 0 ≤ c.lamp.loadWhenOn.toInt
  load_le : c.lamp.loadWhenOn.toInt ≤ 5
  maxCharge_pos : 0 < c.battery.maxCharge.toInt
  maxRate_pos : 0 < c.battery.maxRate.toInt
  charge_nonneg : 0 ≤ c.battery.initialCharge.toInt
  charge_le : c.battery.initialCharge.toInt ≤ c.battery.maxCharge.toInt

theorem bounded_of_violations_eq_nil (h : c.violations = []) : c.Bounded := by
  have hkeeps : ∀ v ∈ constraints, ¬ c.breaks v := List.filter_eq_nil_iff.mp h
  have hlamp := hkeeps .lampLoad (by decide)
  have hcapacity := hkeeps .maxCharge (by decide)
  have hrate := hkeeps .maxRate (by decide)
  have hcharge := hkeeps .initialCharge (by decide)
  have hzero : (0 : Int32).toInt = 0 := rfl
  have hmax : maxLampLoad.toInt = 5 := rfl
  simp only [breaks, decide_eq_true_eq, Int32.le_iff_toInt_le, Int32.lt_iff_toInt_lt, hzero,
    hmax] at hlamp hcapacity hrate hcharge
  constructor <;> omega

/-- A configuration within its bounds builds a house with everything off. -/
theorem Bounded.buildHouse (h : c.Bounded) :
    ∃ battery,
      Battery.build c.battery.maxCharge c.battery.maxRate c.battery.initialCharge = .ok battery ∧
      c.buildHouse = .ok { lamp := { loadWhenOn := c.lamp.loadWhenOn }, battery } := by
  have hbuild := Battery.build_eq_ok (Int32.lt_iff_toInt_lt.mpr h.maxCharge_pos)
    (Int32.lt_iff_toInt_lt.mpr h.maxRate_pos)
    ⟨Int32.le_iff_toInt_le.mpr h.charge_nonneg, Int32.le_iff_toInt_le.mpr h.charge_le⟩
  exact ⟨_, hbuild, bind_eq_ok_iff.mpr ⟨_, hbuild, rfl⟩⟩

/-- Asks the battery to import ten units. -/
def askImport : Wire.Line := Text.Utf8.encode "battery 10".toList

/-- Asks the battery to export ten units. -/
def askExport : Wire.Line := Text.Utf8.encode "battery -10".toList

theorem dispatch_askImport (house : House) : house.dispatch askImport =
    .ok { answer := .ok .battery, writes := [], house := house.aimingAt 10 } :=
  have hline : Wire.Command.parse askImport = .ok ⟨.battery, Text.Utf8.encode "10".toList⟩ := by
    decide
  House.dispatch_eq_aimingAt hline (by decide)

theorem dispatch_askExport (house : House) : house.dispatch askExport =
    .ok { answer := .ok .battery, writes := [], house := house.aimingAt (-10) } :=
  have hline : Wire.Command.parse askExport = .ok ⟨.battery, Text.Utf8.encode "-10".toList⟩ := by
    decide
  House.dispatch_eq_aimingAt hline (by decide)

/-- **Which valid configurations keep the status row readable.**  The house of a valid
configuration can be built.  If the battery's greatest rate has one digit, every report is
shown in full and with its blanks, whatever lines, presses, reports and shutdowns come before
it and in whatever slots the glyphs are.  If the rate has two digits or more, one line is
enough and the next report is not. -/
theorem statusRow_readable (h : c.violations = []) :
    ∃ house, c.buildHouse = .ok house ∧
      (c.battery.maxRate ≤ 9 → ∀ operations : List Operation, ∃ done,
        house.inTurn (operations.map Operation.perform) = .ok done ∧
        ∀ b, .balanced b ∈ done.answer → ∀ glyphs, Panel.Readable b glyphs) ∧
      (9 < c.battery.maxRate → ∃ line done b,
        house.inTurn ([.dispatch line, .balance].map Operation.perform) = .ok done ∧
        .balanced b ∈ done.answer ∧ ∀ glyphs, ¬ Panel.Readable b glyphs) := by
  have hbounded := bounded_of_violations_eq_nil h
  obtain ⟨battery, hbattery, hbuild⟩ := hbounded.buildHouse
  have hsound := House.sound_of_build hbattery { loadWhenOn := c.lamp.loadWhenOn }
  obtain ⟨-, -, -, rfl⟩ := Battery.build_eq_ok_iff.mp hbattery
  have hnine : (9 : Int32).toInt = 9 := rfl
  refine ⟨_, hbuild, ?_, ?_⟩
  · intro hrate operations
    rw [Int32.le_iff_toInt_le, hnine] at hrate
    obtain ⟨done, hdone, -, -⟩ := hsound.inTurn operations
    refine ⟨done, hdone, ?_⟩
    intro b hmem glyphs
    exact hsound.readable_of_mem_answer hbounded.load_nonneg hbounded.load_le hrate hdone hmem
      glyphs
  · intro hrate
    rw [Int32.lt_iff_toInt_lt, hnine] at hrate
    have hrest := House.atRest_new c.lamp.loadWhenOn
    have hup : (0 : Int32).toInt < (10 : Int32).toInt := by decide
    have hdown : (-10 : Int32).toInt < (0 : Int32).toInt := by decide
    -- a battery that is full can still export
    by_cases hroom : c.battery.initialCharge.toInt < c.battery.maxCharge.toInt
    · exact ⟨askImport, (hrest _).exists_not_readable hsound (dispatch_askImport _)
        (by decide) (.inl ⟨hup, hroom⟩) hrate⟩
    · have hcharged : 0 < c.battery.initialCharge.toInt := by
        have hcapacity := hbounded.maxCharge_pos
        omega
      exact ⟨askExport, (hrest _).exists_not_readable hsound (dispatch_askExport _)
        (by decide) (.inr ⟨hdown, hcharged⟩) hrate⟩

/-- A battery that is quick enough to take ten units in a step breaks no constraint. -/
def quick : Config where
  battery := { maxRate := 10 }

/-- The defaults keep the row readable, the quick battery does not. -/
theorem statusRow_readable_presets :
    demo.violations = [] ∧ quick.violations = [] ∧
      (∃ house, demo.buildHouse = .ok house ∧ ∀ operations : List Operation, ∃ done,
        house.inTurn (operations.map Operation.perform) = .ok done ∧
        ∀ b, .balanced b ∈ done.answer → ∀ glyphs, Panel.Readable b glyphs) ∧
      ∃ house, quick.buildHouse = .ok house ∧ ∃ line done b,
        house.inTurn ([.dispatch line, .balance].map Operation.perform) = .ok done ∧
        .balanced b ∈ done.answer ∧ ∀ glyphs, ¬ Panel.Readable b glyphs := by
  have hdemo : demo.violations = [] := by decide +kernel
  have hquick : quick.violations = [] := by decide +kernel
  obtain ⟨house, hhouse, hreadable, -⟩ := statusRow_readable hdemo
  obtain ⟨house', hhouse', -, hspoilt⟩ := statusRow_readable hquick
  exact ⟨hdemo, hquick, ⟨house, hhouse, hreadable (by decide)⟩,
    house', hhouse', hspoilt (by decide)⟩

/-- A quick battery that is asked to import: the report is valid and its row has lost the
blanks. -/
theorem quick_not_readable :
    quick.violations = [] ∧ ∃ house done b, quick.buildHouse = .ok house ∧
      house.inTurn ([.dispatch askImport, .balance].map Operation.perform) = .ok done ∧
      .balanced b ∈ done.answer ∧
      Panel.statusLine b ⟨'H', 'W', "012345".toList⟩ = "H+0W+01+10=+10  ".toList ∧
      ¬ Panel.Readable b ⟨'H', 'W', "012345".toList⟩ := by
  have hquick : quick.violations = [] := by decide +kernel
  refine ⟨hquick, _, _, ⟨0, 0, 10, 10, 10, 1⟩, rfl, rfl, ?_, by decide, ?_⟩
  · exact List.mem_cons_of_mem _ List.mem_cons_self
  · rw [Panel.readable_iff]
    decide

end Config

end HomeEnergy
