import HomeEnergy.House

/-!
# Sound houses

A house is sound if its heat pump, turbine and battery are within their ranges.  A house
built from a battery that could be built is sound, and nothing that buttons, commands
and reports do to a sound house is a fault or makes it unsound.

* `HeatPump.Sound`, `Turbine.Sound`, `Battery.Sound` — the ranges;
* `House.Sound.pressHeatPump`, `House.Sound.pressWind`, `House.Sound.balance`,
  `House.Sound.dispatch` — **every operation on a sound house succeeds and leaves it sound.**
-/

namespace HomeEnergy

namespace HeatPump

/-- The level is one of the five, and the pump goes back to one above off. -/
structure Sound (pump : HeatPump) : Prop where
  level_nonneg : 0 ≤ pump.level.toInt
  level_le : pump.level.toInt ≤ 4
  resume_pos : 0 < pump.resumeLevel.toInt
  resume_le : pump.resumeLevel.toInt ≤ 4
  resume_eq (h : 0 < pump.level.toInt) : pump.resumeLevel = pump.level

variable {pump : HeatPump}

theorem sound_new : Sound {} :=
  ⟨by decide, by decide, by decide, by decide, fun h => absurd h (by decide)⟩

/-- Whatever the number, the pump goes to a level it has. -/
theorem sound_setLevel (hpos : 0 < pump.resumeLevel.toInt) (hle : pump.resumeLevel.toInt ≤ 4)
    (level : Int32) : (pump.setLevel level).Sound := by
  have hzero : (0 : Int32).toInt = 0 := rfl
  have hmax : maxLevel.toInt = 4 := rfl
  unfold setLevel
  simp only [Int32.le_iff_toInt_le, Int32.lt_iff_toInt_lt, hzero, hmax]
  by_cases hlevel : 0 ≤ level.toInt ∧ level.toInt ≤ 4
  · rw [if_pos hlevel]
    by_cases hon : 0 < level.toInt
    · rw [if_pos hon]
      exact ⟨hlevel.1, hlevel.2, hon, hlevel.2, fun _ => rfl⟩
    · rw [if_neg hon]
      exact ⟨hlevel.1, hlevel.2, hpos, hle, fun h => absurd h hon⟩
  · have hoff : ¬ 0 < (0 : Int32).toInt := by omega
    rw [if_neg hlevel, if_neg hoff]
    refine ⟨?_, ?_, hpos, hle, fun h => absurd h hoff⟩
    · show 0 ≤ (0 : Int32).toInt
      omega
    · show (0 : Int32).toInt ≤ 4
      omega

/-- Off is a level, and so is the one to which the pump goes back. -/
theorem Sound.toggle (h : pump.Sound) : pump.toggle.Sound := by
  unfold HeatPump.toggle
  split
  case isTrue hon =>
    have hlevel : 0 < pump.level.toInt := Int32.lt_iff_toInt_lt.mp hon
    exact @sound_setLevel { pump with resumeLevel := pump.level } hlevel h.level_le 0
  case isFalse => exact sound_setLevel h.resume_pos h.resume_le _

theorem Sound.command (h : pump.Sound) (action : List UInt8) :
    ∃ pump', pump.command action = .ok pump' ∧ pump'.Sound := by
  unfold HeatPump.command
  cases Wire.actionValue? action with
  | some level => exact ⟨_, rfl, sound_setLevel h.resume_pos h.resume_le level⟩
  | none =>
    have hnext : Word.Fits (pump.level.toInt + 1) := by
      have hnonneg := h.level_nonneg
      have hle := h.level_le
      unfold Word.Fits
      omega
    obtain ⟨next, hnext, -⟩ := Word.checked_ok hnext
    refine ⟨pump.setLevel next, ?_, sound_setLevel h.resume_pos h.resume_le next⟩
    rw [hnext]
    rfl

/-- Every level of a sound pump has its colour. -/
theorem Sound.sync (h : pump.Sound) : ∃ write, pump.sync = .ok write := by
  have hlevel : ¬ pump.level < 0 := by
    have hnonneg := h.level_nonneg
    have hzero : (0 : Int32).toInt = 0 := rfl
    rw [Int32.lt_iff_toInt_lt]
    omega
  have hindex : pump.level.toInt.toNat < palette.length := by
    have hle := h.level_le
    have hlength : palette.length = 5 := rfl
    omega
  refine ⟨.pixels [palette[pump.level.toInt.toNat]], ?_⟩
  rw [HeatPump.sync, colour, if_neg hlevel, List.getElem?_eq_getElem hindex]
  rfl

end HeatPump

namespace Turbine

/-- The wind is one of the six. -/
structure Sound (turbine : Turbine) : Prop where
  wind_nonneg : 0 ≤ turbine.wind.toInt
  wind_le : turbine.wind.toInt ≤ 5

variable {turbine : Turbine}

theorem sound_new : Sound {} := ⟨by decide, by decide⟩

/-- The strongest wind drops to none, so the wind is never counted past its range. -/
theorem Sound.strengthen (h : turbine.Sound) :
    ∃ turbine', turbine.strengthen = .ok turbine' ∧ turbine'.Sound := by
  have hnonneg := h.wind_nonneg
  have hmax : maxWind.toInt = 5 := rfl
  unfold Turbine.strengthen
  by_cases hstrong : maxWind ≤ turbine.wind
  · rw [if_pos hstrong]
    exact ⟨⟨0⟩, rfl, by decide, by decide⟩
  · rw [if_neg hstrong]
    rw [Int32.le_iff_toInt_le, hmax] at hstrong
    have hfits : Word.Fits (turbine.wind.toInt + 1) := by
      unfold Word.Fits
      omega
    obtain ⟨wind, hwind, hvalue⟩ := Word.checked_ok hfits
    refine ⟨⟨wind⟩, ?_, ?_, ?_⟩
    · rw [hwind]
      rfl
    · show 0 ≤ wind.toInt
      omega
    · show wind.toInt ≤ 5
      omega

/-- The load of a wind is its opposite, and that is a word. -/
theorem Sound.load (h : turbine.Sound) :
    ∃ load, turbine.load = .ok load ∧ load.toInt = -turbine.wind.toInt := by
  have hnonneg := h.wind_nonneg
  have hle := h.wind_le
  refine Word.checked_ok ?_
  unfold Word.Fits
  omega

/-- The duty of the strongest wind is far from the end of its word. -/
theorem Sound.duty (h : turbine.Sound) :
    ∃ duty, turbine.duty = .ok duty ∧
      (duty.toNat : Int) =
        if 0 < turbine.wind.toInt then 200 + 25 * turbine.wind.toInt else 0 := by
  have hzero : (0 : Int32).toInt = 0 := rfl
  have hle := h.wind_le
  unfold Turbine.duty
  simp only [Int32.lt_iff_toInt_lt, hzero]
  by_cases hwind : 0 < turbine.wind.toInt
  · have hsize : UInt16.size = 65536 := rfl
    have hmod : turbine.wind.toInt.toNat % UInt16.size = turbine.wind.toInt.toNat := by
      apply Nat.mod_eq_of_lt
      omega
    have hstepsLt : dutyStep * turbine.wind.toInt.toNat < UInt16.size := by
      rw [dutyStep]
      omega
    obtain ⟨steps, hsteps, hstepsValue⟩ := Word.checkedNat16_ok hstepsLt
    rw [dutyStep] at hstepsValue
    have hdutyLt : baseDuty + steps.toNat < UInt16.size := by
      rw [baseDuty]
      omega
    obtain ⟨duty, hduty, hdutyValue⟩ := Word.checkedNat16_ok hdutyLt
    rw [baseDuty] at hdutyValue
    refine ⟨duty, ?_, ?_⟩
    · rw [if_pos hwind, hmod, hsteps]
      exact hduty
    · rw [if_pos hwind]
      omega
  · rw [if_neg hwind, if_neg hwind]
    exact ⟨0, rfl, rfl⟩

theorem Sound.sync (h : turbine.Sound) : ∃ write, turbine.sync = .ok write := by
  obtain ⟨duty, hduty, -⟩ := h.duty
  refine ⟨.duty duty, ?_⟩
  rw [Turbine.sync, hduty]
  rfl

end Turbine

namespace Battery

/-- The parameters are positive, and charge and rate are within them. -/
structure Sound (battery : Battery) : Prop where
  maxCharge_pos : 0 < battery.maxCharge.toInt
  maxRate_pos : 0 < battery.maxRate.toInt
  charge_nonneg : 0 ≤ battery.charge.toInt
  charge_le : battery.charge.toInt ≤ battery.maxCharge.toInt
  lastRate_ge : -battery.maxRate.toInt ≤ battery.lastRate.toInt
  lastRate_le : battery.lastRate.toInt ≤ battery.maxRate.toInt

variable {battery : Battery}

/-- A battery can be built exactly from positive parameters and a charge within them. -/
theorem build_eq_ok_iff {maxCharge maxRate charge : Int32} :
    build maxCharge maxRate charge = .ok battery ↔
      0 < maxCharge ∧ 0 < maxRate ∧ (0 ≤ charge ∧ charge ≤ maxCharge) ∧
        battery = { maxCharge, maxRate, charge } := by
  by_cases hcapacity : 0 < maxCharge
  · by_cases hrate : 0 < maxRate
    · by_cases hcharge : 0 ≤ charge ∧ charge ≤ maxCharge
      · simp [build, require, hcapacity, hrate, hcharge, bind, Except.bind, pure, Except.pure,
          eq_comm]
      · simp [build, require, hcapacity, hrate, hcharge, bind, Except.bind]
    · simp [build, require, hcapacity, hrate, bind, Except.bind]
  · simp [build, require, hcapacity, bind, Except.bind]

/-- A battery that could be built is sound. -/
theorem sound_of_build {maxCharge maxRate charge : Int32}
    (h : build maxCharge maxRate charge = .ok battery) : battery.Sound := by
  obtain ⟨hcapacity, hrate, hcharge, rfl⟩ := build_eq_ok_iff.mp h
  have hzero : (0 : Int32).toInt = 0 := rfl
  simp only [Int32.lt_iff_toInt_lt, Int32.le_iff_toInt_le, hzero] at hcapacity hrate hcharge
  refine ⟨hcapacity, hrate, hcharge.1, hcharge.2, ?_, ?_⟩
  · show -maxRate.toInt ≤ (0 : Int32).toInt
    omega
  · show (0 : Int32).toInt ≤ maxRate.toInt
    omega

/-- The wanted rate is the missing flow, as far as the greatest rate allows. -/
theorem Sound.wantedRate (h : battery.Sound) (otherLoad : Int32) :
    ∃ rate, battery.wantedRate otherLoad = .ok rate ∧
      rate.toInt = max (-battery.maxRate.toInt)
        (min (Word.satSub battery.netTarget otherLoad).toInt battery.maxRate.toInt) := by
  have hpos := h.maxRate_pos
  have hword := Word.fits_toInt battery.maxRate
  have hfits : Word.Fits (-battery.maxRate.toInt) := by
    unfold Word.Fits at *
    omega
  obtain ⟨least, hleast, hleastValue⟩ := Word.checked_ok hfits
  have hrange : least.toInt ≤ battery.maxRate.toInt := by omega
  obtain ⟨rate, hrate, hrateValue⟩ :=
    Word.clamp_ok hrange (Word.satSub battery.netTarget otherLoad)
  refine ⟨rate, ?_, ?_⟩
  · rw [Battery.wantedRate, hleast]
    exact hrate
  · rw [hrateValue, hleastValue]

/-- A step is clamped to the rates and to the capacity, so it keeps within both. -/
theorem Sound.step (h : battery.Sound) (otherLoad : Int32) :
    ∃ rate battery', battery.step otherLoad = .ok (rate, battery') ∧ battery'.Sound := by
  have hzero : (0 : Int32).toInt = 0 := rfl
  have hcapacity := h.maxCharge_pos
  have hrates := h.maxRate_pos
  have hrange : (0 : Int32).toInt ≤ battery.maxCharge.toInt := Int.le_of_lt hcapacity
  obtain ⟨rate, hrate, hrateValue⟩ := h.wantedRate otherLoad
  obtain ⟨charge, hcharge, hchargeValue⟩ := Word.clamp_ok hrange (Word.satAdd battery.charge rate)
  unfold Battery.step
  rw [hrate]
  simp only [bind, Except.bind, hcharge]
  split
  · refine ⟨rate, { battery with charge, lastRate := rate }, rfl, hcapacity, hrates, ?_, ?_, ?_, ?_⟩
    · show 0 ≤ charge.toInt
      omega
    · show charge.toInt ≤ battery.maxCharge.toInt
      omega
    · show -battery.maxRate.toInt ≤ rate.toInt
      omega
    · show rate.toInt ≤ battery.maxRate.toInt
      omega
  · refine ⟨0, { battery with lastRate := 0 }, rfl, hcapacity, hrates, h.charge_nonneg,
      h.charge_le, ?_, ?_⟩
    · show -battery.maxRate.toInt ≤ (0 : Int32).toInt
      omega
    · show (0 : Int32).toInt ≤ battery.maxRate.toInt
      omega

theorem Sound.command (h : battery.Sound) (action : List UInt8) :
    (battery.command action).Sound := by
  unfold Battery.command
  split
  · exact { h with }
  · exact h

/-- A sound battery is not divided by a capacity of zero. -/
theorem Sound.glyphIndex (h : battery.Sound) : ∃ k, battery.glyphIndex = .ok k := by
  have hcapacity : battery.maxCharge ≠ 0 := by
    intro hzero
    have hpos := h.maxCharge_pos
    rw [hzero] at hpos
    exact absurd hpos (by decide)
  exact ⟨_, if_neg hcapacity⟩

end Battery

namespace House

/-- The heat pump, the turbine and the battery are sound.  Of the lamp nothing is asked. -/
structure Sound (house : House) : Prop where
  heatPump : house.heatPump.Sound
  turbine : house.turbine.Sound
  battery : house.battery.Sound

variable {house : House}

/-- A house with a new lamp and a battery that could be built is sound. -/
theorem sound_of_build {maxCharge maxRate charge : Int32} {battery : Battery}
    (h : Battery.build maxCharge maxRate charge = .ok battery) (lamp : Lamp) :
    Sound { lamp, battery } where
  heatPump := HeatPump.sound_new
  turbine := Turbine.sound_new
  battery := Battery.sound_of_build h

/-- A press on the heat pump button succeeds, and its colour is found. -/
theorem Sound.pressHeatPump (h : house.Sound) :
    ∃ done, house.pressHeatPump = .ok done ∧ done.house.Sound := by
  have hpump := h.heatPump.toggle
  obtain ⟨write, hwrite⟩ := hpump.sync
  refine ⟨⟨(), [write], { house with heatPump := house.heatPump.toggle }⟩, ?_,
    hpump, h.turbine, h.battery⟩
  rw [House.pressHeatPump, hwrite]
  rfl

/-- A press on the wind button succeeds, and its duty is a word. -/
theorem Sound.pressWind (h : house.Sound) :
    ∃ done, house.pressWind = .ok done ∧ done.house.Sound := by
  obtain ⟨turbine, hturbine, hsound⟩ := h.turbine.strengthen
  obtain ⟨write, hwrite⟩ := hsound.sync
  refine ⟨⟨(), [write], { house with turbine }⟩, ?_, h.heatPump, hsound, h.battery⟩
  simp only [House.pressWind, hturbine, hwrite, bind, Except.bind]
  rfl

/-- A balance succeeds: no load, rate or glyph of it leaves its range. -/
theorem Sound.balance (h : house.Sound) :
    ∃ done, house.balance = .ok done ∧ done.house.Sound := by
  obtain ⟨pumpWrite, hpump⟩ := h.heatPump.sync
  obtain ⟨turbineLoad, hload, -⟩ := h.turbine.load
  obtain ⟨turbineWrite, hturbine⟩ := h.turbine.sync
  obtain ⟨rate, battery, hstep, hsound⟩ := h.battery.step
    (Word.satAdd (Word.satAdd (Word.satAdd 0 house.lamp.load) house.heatPump.load) turbineLoad)
  obtain ⟨glyph, hglyph⟩ := hsound.glyphIndex
  simp only [House.balance, hpump, hload, hturbine, hstep, hglyph, bind, Except.bind]
  exact ⟨_, rfl, h.heatPump, h.turbine, hsound⟩

/-- A line succeeds whatever stands in it; if it is no command, nothing happens. -/
theorem Sound.dispatch (h : house.Sound) (line : Wire.Line) :
    ∃ done, house.dispatch line = .ok done ∧ done.house.Sound := by
  unfold House.dispatch
  cases Wire.Command.parse line with
  | error e => exact ⟨_, rfl, h⟩
  | ok cmd =>
    obtain ⟨target, action⟩ := cmd
    cases target with
    | led => exact ⟨_, rfl, h.heatPump, h.turbine, h.battery⟩
    | battery => exact ⟨_, rfl, h.heatPump, h.turbine, h.battery.command action⟩
    | turbine => exact ⟨_, rfl, h.heatPump, h.turbine, h.battery⟩
    | heatPump =>
      obtain ⟨heatPump, hpump, hsound⟩ := h.heatPump.command action
      refine ⟨⟨.ok .heatPump, [], { house with heatPump }⟩, ?_, hsound, h.turbine, h.battery⟩
      simp only [House.obey, House.appliance, Appliance.command, hpump, bind, Except.bind]
      rfl

end House

end HomeEnergy
