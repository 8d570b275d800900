import HomeEnergy.Proofs.House.Operations

/-!
# Steering

The battery sees the flow of everything else and moves it towards its target, as far as its
greatest rate allows.  The words saturate and are clamped on the way; in the integers nothing
of this is seen, since the battery never moves the flow past its target.

* `Battery.Sound.step_toInt` — a step of the battery, in the integers;
* `House.Sound.balance_steers` — what a balance of a sound house reports;
* `inTurn_balance_steers` — **whatever was done to a house, its next balance reports a flow
  that lies between what the battery saw and what it aims at**, as near to the latter as the
  greatest rate allows.
-/

namespace HomeEnergy

namespace Battery

/-- The rate that would bring a flow to the target, as far as the greatest rate allows. -/
def closingRate (battery : Battery) (flow : Int32) : Int :=
  max (-battery.maxRate.toInt)
    (min (battery.netTarget.toInt - flow.toInt) battery.maxRate.toInt)

/-- The battery can move a flow towards its target: it has room to raise it, or charge to
lower it. -/
def CanSteer (battery : Battery) (flow : Int32) : Prop :=
  (flow.toInt < battery.netTarget.toInt ∧ battery.charge.toInt < battery.maxCharge.toInt) ∨
    (battery.netTarget.toInt < flow.toInt ∧ 0 < battery.charge.toInt)

variable {battery battery' : Battery} {flow rate : Int32}

/-- The missing flow may be cut off at the end of its word, but never below the greatest
rate. -/
theorem Sound.wantedRate_toInt (h : battery.Sound) (hrate : battery.wantedRate flow = .ok rate) :
    rate.toInt = battery.closingRate flow := by
  obtain ⟨wanted, hwanted, hvalue⟩ := h.wantedRate flow
  rw [hwanted] at hrate
  cases hrate
  have hpos := h.maxRate_pos
  have hword := Word.fits_toInt battery.maxRate
  rw [hvalue, Word.toInt_satSub, closingRate]
  unfold Word.Fits at hword
  omega

/-- The sign of the rate says on which side of the target the flow is. -/
theorem Sound.canSteer_iff (h : battery.Sound) (hrate : rate.toInt = battery.closingRate flow) :
    (battery.charge < battery.maxCharge ∧ 0 < rate) ∨ (0 < battery.charge ∧ rate < 0) ↔
      battery.CanSteer flow := by
  have hpos := h.maxRate_pos
  have hzero : (0 : Int32).toInt = 0 := rfl
  unfold CanSteer
  simp only [Int32.lt_iff_toInt_lt, hzero, hrate]
  unfold closingRate
  omega

/-- **A step in the integers.**  A battery that can steer takes the closing rate, and its
charge follows between empty and full.  Any other battery rests. -/
theorem Sound.step_toInt (h : battery.Sound) (hstep : battery.step flow = .ok (rate, battery')) :
    (battery.CanSteer flow → rate.toInt = battery.closingRate flow ∧
      battery'.charge.toInt = max 0 (min (battery.charge.toInt + battery.closingRate flow)
        battery.maxCharge.toInt)) ∧
    (¬ battery.CanSteer flow → rate = 0 ∧ battery'.charge = battery.charge) := by
  obtain ⟨wanted, hwanted, hstep⟩ := bind_eq_ok_iff.mp hstep
  have hvalue := h.wantedRate_toInt hwanted
  have hsteers := h.canSteer_iff hvalue
  split at hstep
  case isTrue hmoves =>
    obtain ⟨charge, hcharge, hstep⟩ := bind_eq_ok_iff.mp hstep
    cases hstep
    have hcapacity := Word.fits_toInt battery.maxCharge
    have hnonneg := h.charge_nonneg
    have hsum := (Word.clamp_eq_ok_iff.mp hcharge).2
    have hzero : (0 : Int32).toInt = 0 := rfl
    rw [Word.toInt_satAdd, hvalue, hzero] at hsum
    unfold Word.Fits at hcapacity
    refine ⟨fun _ => ⟨hvalue, ?_⟩, fun hnot => absurd (hsteers.mp hmoves) hnot⟩
    show charge.toInt = _
    omega
  case isFalse hrests =>
    cases hstep
    exact ⟨fun hcan => absurd (hsteers.mpr hcan) hrests, fun _ => ⟨rfl, rfl⟩⟩

end Battery

/-- What a balance says of the battery that made its step in it, by the flow that the battery
saw, the target it aims at and its greatest rate. -/
structure Balance.Steers (b : Balance) (battery : Battery) : Prop where
  /-- The sum is exact: it stays within its word. -/
  total_eq : b.totalLoad.toInt = b.beforeBattery.toInt + b.batteryLoad.toInt
  min_le_total : min b.beforeBattery.toInt battery.netTarget.toInt ≤ b.totalLoad.toInt
  total_le_max : b.totalLoad.toInt ≤ max b.beforeBattery.toInt battery.netTarget.toInt
  /-- The distance to the target shrinks by the greatest rate, or to nothing. -/
  closes (h : battery.CanSteer b.beforeBattery) :
    ((b.totalLoad.toInt - battery.netTarget.toInt).natAbs : Int) =
      max 0 ((b.beforeBattery.toInt - battery.netTarget.toInt).natAbs - battery.maxRate.toInt)
  rests (h : ¬ battery.CanSteer b.beforeBattery) :
    b.batteryLoad = 0 ∧ b.totalLoad = b.beforeBattery

/-- A step that adds the closing rate, or nothing, steers. -/
theorem Balance.steers_of_step {b : Balance} {battery battery' : Battery} (h : battery.Sound)
    (hstep : battery.step b.beforeBattery = .ok (b.batteryLoad, battery'))
    (htotal : b.totalLoad = Word.satAdd b.beforeBattery b.batteryLoad) : b.Steers battery := by
  have hpos := h.maxRate_pos
  have hflow := Word.fits_toInt b.beforeBattery
  have htarget := Word.fits_toInt battery.netTarget
  have hsum := congrArg Int32.toInt htotal
  rw [Word.toInt_satAdd] at hsum
  unfold Word.Fits at hflow htarget
  obtain ⟨hmoves, hrests⟩ := h.step_toInt hstep
  by_cases hcan : battery.CanSteer b.beforeBattery
  · have hrate := (hmoves hcan).1
    unfold Battery.closingRate at hrate
    -- between the flow and the target no sum leaves the word
    have hexact : b.totalLoad.toInt = b.beforeBattery.toInt + b.batteryLoad.toInt := by omega
    refine ⟨hexact, by omega, by omega, fun _ => by omega, fun hnot => absurd hcan hnot⟩
  · have hnothing := (hrests hcan).1
    have hzero : b.batteryLoad.toInt = 0 := by rw [hnothing]; rfl
    have hsame : b.totalLoad.toInt = b.beforeBattery.toInt := by omega
    refine ⟨by omega, by omega, by omega, fun hyes => absurd hyes hcan, fun _ => ⟨hnothing, ?_⟩⟩
    exact Int32.toInt_inj.mp hsame

namespace House

/-- The house whose battery aims at another flow. -/
def aimingAt (house : House) (netTarget : Int32) : House :=
  { house with battery := { house.battery with netTarget } }

variable {house : House}

theorem Sound.aimingAt (h : house.Sound) (netTarget : Int32) : (house.aimingAt netTarget).Sound :=
  ⟨h.heatPump, h.turbine, { h.battery with }⟩

/-- A line that gives the battery a number only makes it aim there. -/
theorem dispatch_eq_aimingAt {line : Wire.Line} {action : List UInt8} {netTarget : Int32}
    (hline : Wire.Command.parse line = .ok ⟨.battery, action⟩)
    (hvalue : Wire.actionValue? action = some netTarget) :
    house.dispatch line =
      .ok { answer := .ok .battery, writes := [], house := house.aimingAt netTarget } := by
  have hcommand : house.battery.command action = { house.battery with netTarget } := by
    rw [Battery.command, hvalue]
  rw [dispatch, hline, House.aimingAt, ← hcommand]
  rfl

/-- A balance of a sound house succeeds, and steers. -/
theorem Sound.balance_steers (h : house.Sound) :
    ∃ done, house.balance = .ok done ∧ done.answer.Steers house.battery := by
  obtain ⟨done, hdone, -⟩ := h.balance
  have hcourse := balanceCourse hdone
  exact ⟨done, hdone, Balance.steers_of_step h.battery hcourse.step_eq hcourse.totalLoad_eq⟩

/-- **The battery steers the reported flow, and the sum never saturates.**  Build a house with
a lamp of any load, do anything to it, and let its battery aim at any flow: the next balance
succeeds, and its total is the flow before the battery and the battery's load, exactly.  The
total lies between that flow and the target; the distance to the target shrinks by the
greatest rate or to nothing if the battery can steer, and otherwise the battery rests. -/
theorem inTurn_balance_steers {maxCharge maxRate charge : Int32} {battery : Battery}
    (hbuild : Battery.build maxCharge maxRate charge = .ok battery) (loadWhenOn : Int32)
    (operations : List Operation) :
    ∃ done, House.inTurn { lamp := { loadWhenOn }, battery }
        (operations.map Operation.perform) = .ok done ∧
      done.house.parameters = { loadWhenOn, maxCharge, maxRate } ∧
      ∀ netTarget, ∃ balanced, (done.house.aimingAt netTarget).balance = .ok balanced ∧
        balanced.answer.Steers (done.house.aimingAt netTarget).battery := by
  have hnew := sound_of_build hbuild { loadWhenOn }
  obtain ⟨-, -, -, rfl⟩ := Battery.build_eq_ok_iff.mp hbuild
  obtain ⟨done, hdone, hsound, hparameters⟩ := hnew.inTurn operations
  exact ⟨done, hdone, hparameters, fun netTarget => (hsound.aimingAt netTarget).balance_steers⟩

/-- The greatest battery, a unit short of full. -/
def greatestBattery : Battery where
  maxCharge := 0x7FFFFFFF
  maxRate := 0x7FFFFFFF
  charge := 0x7FFFFFFE

/-- A lamp of the greatest load is on, and the battery is to export the most there can be: it
takes the flow from one end of the words down to nothing, and no further. -/
theorem inTurn_balance_steers_greatest :
    Battery.build 0x7FFFFFFF 0x7FFFFFFF 0x7FFFFFFE = .ok greatestBattery ∧
      ∃ done balanced,
        House.inTurn { lamp := { loadWhenOn := 0x7FFFFFFF }, battery := greatestBattery }
          ([.dispatch (Text.Utf8.encode "led on".toList)].map Operation.perform) = .ok done ∧
        (done.house.aimingAt (-0x80000000)).balance = .ok balanced ∧
        balanced.answer.Steers (done.house.aimingAt (-0x80000000)).battery ∧
        balanced.answer.beforeBattery = 0x7FFFFFFF ∧ balanced.answer.totalLoad = 0 := by
  have hbuild : Battery.build 0x7FFFFFFF 0x7FFFFFFF 0x7FFFFFFE = .ok greatestBattery := rfl
  obtain ⟨done, hdone, -, hsteers⟩ := inTurn_balance_steers hbuild 0x7FFFFFFF
    [.dispatch (Text.Utf8.encode "led on".toList)]
  obtain ⟨balanced, hbalanced, hsteered⟩ := hsteers (-0x80000000)
  have hbright : done.house = {
      lamp := { loadWhenOn := 0x7FFFFFFF, isOn := true }, battery := greatestBattery } := by
    cases hdone
    rfl
  have hloads : balanced.answer.beforeBattery = 0x7FFFFFFF ∧ balanced.answer.totalLoad = 0 := by
    rw [hbright] at hbalanced
    cases hbalanced
    exact ⟨rfl, rfl⟩
  exact ⟨hbuild, done, balanced, hdone, hbalanced, hsteered, hloads⟩

end House

end HomeEnergy
