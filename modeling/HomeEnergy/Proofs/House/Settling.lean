import HomeEnergy.Proofs.House.Charging
import Mathlib.Algebra.Order.Floor.Div

/-!
# Settling

A house that is balanced again and again, and otherwise left alone, sees the same flow each time.
Its battery moves at one rate until it is full or empty, and from then on nothing changes.

* `IdealBattery.stepTimes_eq` — the charge after any number of steps beside one flow;
* `IdealBattery.takes_stepTimes_iff` — how many of these steps have an effect;
* `inTurn_settles` — **whatever was done to a house, it comes to rest after a number of balances
  that can be told beforehand.**
-/

namespace HomeEnergy

namespace IdealBattery

variable {ideal : IdealBattery} {flow : Int} {n : Nat}

/-- The battery after a number of steps beside a flow that stays the same. -/
def stepTimes (ideal : IdealBattery) (flow : Int) : Nat → IdealBattery
  | 0 => ideal
  | n + 1 => ((ideal.stepTimes flow n).step flow).2

/-- How many steps beside a flow that stays the same change the charge: the room that is left, or
the charge, in steps at the rate for this flow, rounded up. -/
def stepsToRest (ideal : IdealBattery) (flow : Int) : Nat :=
  let rate := ideal.rateFor flow
  if 0 < rate then (ideal.maxCharge - ideal.charge).toNat ⌈/⌉ rate.natAbs
  else if rate < 0 then ideal.charge.toNat ⌈/⌉ rate.natAbs
  else 0

/-- The charge is within the battery, which has a rate. -/
structure Fit (ideal : IdealBattery) : Prop where
  maxRate_pos : 0 < ideal.maxRate
  charge_nonneg : 0 ≤ ideal.charge
  charge_le : ideal.charge ≤ ideal.maxCharge

/-- The charge after a number of steps at the rate for a flow, as far as the battery goes. -/
def chargeAfter (ideal : IdealBattery) (flow : Int) (n : Nat) : Int :=
  min ideal.maxCharge (max 0 (ideal.charge + n * ideal.rateFor flow))

/-- The way made by some steps at one rate has the sign of the rate. -/
theorem steps_mul_rate (n : Nat) (rate : Int) :
    (0 ≤ rate → 0 ≤ n * rate) ∧ (rate ≤ 0 → n * rate ≤ 0) :=
  ⟨fun h => Int.mul_nonneg (Int.natCast_nonneg n) h,
    fun h => Int.mul_nonpos_of_nonneg_of_nonpos (Int.natCast_nonneg n) h⟩

/-- **The charge after any number of steps**: it goes straight to its end and stays there. -/
theorem stepTimes_eq (h : ideal.Fit) (flow : Int) (n : Nat) :
    ideal.stepTimes flow n = { ideal with charge := ideal.chargeAfter flow n } := by
  have hnonneg := h.charge_nonneg
  have hle := h.charge_le
  induction n with
  | zero =>
    have hcharge : ideal.chargeAfter flow 0 = ideal.charge := by
      rw [chargeAfter, Int.natCast_zero, Int.zero_mul]
      omega
    rw [stepTimes, hcharge]
  | succ n ih =>
    let current : IdealBattery := { ideal with charge := ideal.chargeAfter flow n }
    have hrate : current.rateFor flow = ideal.rateFor flow := rfl
    have hcharge : current.charge = ideal.chargeAfter flow n := rfl
    have hcapacity : current.maxCharge = ideal.maxCharge := rfl
    obtain ⟨hforth, hback⟩ := steps_mul_rate n (ideal.rateFor flow)
    have hway : ((n + 1 : Nat) : Int) * ideal.rateFor flow =
        n * ideal.rateFor flow + ideal.rateFor flow := by
      rw [Int.natCast_add, Int.add_mul, Int.natCast_one, Int.one_mul]
    have hnow : current.charge =
        min ideal.maxCharge (max 0 (ideal.charge + n * ideal.rateFor flow)) := hcharge
    have hnext : ideal.chargeAfter flow (n + 1) = min ideal.maxCharge
        (max 0 (ideal.charge + (n * ideal.rateFor flow + ideal.rateFor flow))) := by
      rw [chargeAfter, hway]
    rw [stepTimes, ih]
    show (current.step flow).2 = _
    by_cases htakes : current.Takes (current.rateFor flow)
    · rw [step_of_takes htakes]
      unfold Takes at htakes
      have hafter : min current.maxCharge (max 0 (current.charge + current.rateFor flow)) =
          ideal.chargeAfter flow (n + 1) := by
        omega
      show { ideal with charge := _ } = _
      rw [hafter]
    · rw [step_of_not_takes htakes]
      unfold Takes at htakes
      have hafter : ideal.chargeAfter flow n = ideal.chargeAfter flow (n + 1) := by
        omega
      show { ideal with charge := ideal.chargeAfter flow n } = _
      rw [hafter]

/-- Fewer steps than this one divided by that one, rounded up, do not make all of the way. -/
theorem lt_ceilDiv_iff {way step : Nat} (h : 0 < step) : n < way ⌈/⌉ step ↔ step * n < way :=
  (gc_mul_ceilDiv h).lt_iff_lt

/-- **Exactly so many steps have an effect**: the rate is taken as long as the number of steps
that change the charge has not been made. -/
theorem takes_stepTimes_iff (h : ideal.Fit) (flow : Int) (n : Nat) :
    (ideal.stepTimes flow n).Takes (ideal.rateFor flow) ↔ n < ideal.stepsToRest flow := by
  have hnonneg := h.charge_nonneg
  have hle := h.charge_le
  obtain ⟨hforth, hback⟩ := steps_mul_rate n (ideal.rateFor flow)
  rw [stepTimes_eq h, stepsToRest]
  simp only [Takes, chargeAfter]
  by_cases hpos : 0 < ideal.rateFor flow
  · have hway : ((ideal.rateFor flow).natAbs * n : Int) = n * ideal.rateFor flow := by
      rw [Int.natAbs_of_nonneg hpos.le, Int.mul_comm]
    rw [if_pos hpos, lt_ceilDiv_iff (by omega), ← Int.ofNat_lt, Int.natCast_mul, hway]
    omega
  · rw [if_neg hpos]
    by_cases hneg : ideal.rateFor flow < 0
    · have hway : ((ideal.rateFor flow).natAbs * n : Int) = -(n * ideal.rateFor flow) := by
        rw [Int.ofNat_natAbs_of_nonpos hneg.le, Int.neg_mul, Int.mul_comm]
      rw [if_pos hneg, lt_ceilDiv_iff (by omega), ← Int.ofNat_lt, Int.natCast_mul, hway]
      omega
    · rw [if_neg hneg]
      omega

/-- No step leaves the battery's ends, or changes what it is built with. -/
theorem Fit.stepTimes (h : ideal.Fit) (flow : Int) (n : Nat) : (ideal.stepTimes flow n).Fit := by
  have hnonneg := h.charge_nonneg
  have hle := h.charge_le
  rw [stepTimes_eq h]
  refine ⟨h.maxRate_pos, ?_, ?_⟩ <;> dsimp only [chargeAfter] <;> omega

theorem rateFor_stepTimes (h : ideal.Fit) (flow : Int) (n : Nat) :
    (ideal.stepTimes flow n).rateFor flow = ideal.rateFor flow := by
  rw [stepTimes_eq h]
  rfl

/-- Until it rests the battery takes the rate. -/
theorem step_of_lt (h : ideal.Fit) (hn : n < ideal.stepsToRest flow) :
    (ideal.stepTimes flow n).step flow = (ideal.rateFor flow, ideal.stepTimes flow (n + 1)) := by
  have hrate := rateFor_stepTimes h flow n
  have htakes := (takes_stepTimes_iff h flow n).mpr hn
  rw [← hrate] at htakes
  rw [stepTimes, step_of_takes htakes, hrate]

/-- From then on it does nothing. -/
theorem step_of_le (h : ideal.Fit) (hn : ideal.stepsToRest flow ≤ n) :
    (ideal.stepTimes flow n).step flow = (0, ideal.stepTimes flow n) := by
  apply step_of_not_takes
  rw [rateFor_stepTimes h, takes_stepTimes_iff h]
  exact Nat.not_lt.mpr hn

/-- All steps after it has come to rest find the same battery. -/
theorem stepTimes_of_le (h : ideal.Fit) (hn : ideal.stepsToRest flow ≤ n) :
    ideal.stepTimes flow n = ideal.stepTimes flow (ideal.stepsToRest flow) := by
  induction n, hn using Nat.le_induction with
  | base => rfl
  | succ n hn ih => rw [stepTimes, step_of_le h hn, ih]

/-- Each step until then moves the charge, to the side of the rate. -/
theorem charge_stepTimes_succ (h : ideal.Fit) (hn : n < ideal.stepsToRest flow) :
    (0 < ideal.rateFor flow →
      (ideal.stepTimes flow n).charge < (ideal.stepTimes flow (n + 1)).charge) ∧
    (ideal.rateFor flow < 0 →
      (ideal.stepTimes flow (n + 1)).charge < (ideal.stepTimes flow n).charge) := by
  have hfit := h.stepTimes flow n
  have hfaithful := step_faithful hfit.maxRate_pos hfit.charge_nonneg hfit.charge_le flow
  rw [strideFor, step_of_lt h hn] at hfaithful
  exact ⟨hfaithful.rises_iff.mp, hfaithful.falls_iff.mp⟩

/-- At rest the battery is full if it was charged and empty if it was discharged. -/
theorem charge_stepsToRest (h : ideal.Fit) (flow : Int) :
    (0 < ideal.rateFor flow →
      (ideal.stepTimes flow (ideal.stepsToRest flow)).charge = ideal.maxCharge) ∧
    (ideal.rateFor flow < 0 →
      (ideal.stepTimes flow (ideal.stepsToRest flow)).charge = 0) := by
  have hfit := h.stepTimes flow (ideal.stepsToRest flow)
  have hnonneg := hfit.charge_nonneg
  have hle := hfit.charge_le
  have hrests := mt (takes_stepTimes_iff h flow (ideal.stepsToRest flow)).mp (Nat.lt_irrefl _)
  have hcapacity : (ideal.stepTimes flow (ideal.stepsToRest flow)).maxCharge =
      ideal.maxCharge := by
    rw [stepTimes_eq h]
  unfold Takes at hrests
  omega

end IdealBattery

/-! ## The battery of a house -/

namespace Battery

variable {battery battery' : Battery}

theorem Fit.ideal (h : battery.Fit) : battery.ideal.Fit :=
  ⟨h.maxRate_pos, h.charge_nonneg, h.charge_le⟩

/-- Of two batteries with the same numbers only the last rate can differ. -/
theorem eq_of_ideal_eq (h : battery.ideal = battery'.ideal) :
    battery = { battery' with lastRate := battery.lastRate } := by
  obtain ⟨maxCharge, maxRate, charge, netTarget, lastRate⟩ := battery
  obtain ⟨maxCharge', maxRate', charge', netTarget', lastRate'⟩ := battery'
  simp only [Battery.ideal, IdealBattery.mk.injEq, Int32.toInt_inj] at h
  obtain ⟨rfl, rfl, rfl, rfl⟩ := h
  rfl

end Battery

namespace House

variable {house current : House} {flow : Int32} {n : Nat} {done : Done Balance}

/-- The flow of everything but the battery. -/
def otherFlow (house : House) : Except Fault Int32 := do
  let turbineLoad ← house.turbine.load
  return Word.satAdd (Word.satAdd (Word.satAdd 0 house.lamp.load) house.heatPump.load) turbineLoad

/-- It is what the battery sees in a balance. -/
theorem BalanceCourse.otherFlow_eq (h : house.BalanceCourse done) :
    house.otherFlow = .ok done.answer.beforeBattery := by
  rw [otherFlow, h.turbineLoad_eq, Balance.beforeBattery, h.houseLoad_eq]
  rfl

/-- The charge that is reported is the one after the step. -/
theorem stateOfCharge_of_balance (h : house.balance = .ok done) :
    done.answer.stateOfCharge = done.house.battery.charge := by
  obtain ⟨pumpWrite, -, h⟩ := bind_eq_ok_iff.mp h
  obtain ⟨turbineLoad, -, h⟩ := bind_eq_ok_iff.mp h
  obtain ⟨turbineWrite, -, h⟩ := bind_eq_ok_iff.mp h
  obtain ⟨⟨rate, battery⟩, -, h⟩ := bind_eq_ok_iff.mp h
  obtain ⟨glyph, -, h⟩ := bind_eq_ok_iff.mp h
  cases h
  rfl

/-- No balance reads the last rate. -/
theorem balance_lastRate (house : House) (lastRate : Int32) :
    { house with battery := { house.battery with lastRate } }.balance = house.balance :=
  rfl

/-- A house after some balances and nothing else: only its battery has changed, and it is where
the ideal battery is after as many steps. -/
structure Balanced (house : House) (flow : Int32) (n : Nat) (current : House) : Prop where
  sound : current.Sound
  frame : current = { house with battery := current.battery }
  ideal_eq : current.battery.ideal = house.battery.ideal.stepTimes flow.toInt n

theorem Sound.balanced (h : house.Sound) (flow : Int32) : house.Balanced flow 0 house :=
  ⟨h, rfl, rfl⟩

/-- **One more balance is one more step of the ideal battery.** -/
theorem Balanced.balance (h : house.Balanced flow n current) (hflow : house.otherFlow = .ok flow) :
    ∃ next, current.balance = .ok next ∧ house.Balanced flow (n + 1) next.house ∧
      next.answer.beforeBattery = flow ∧
      (next.answer.batteryLoad.toInt, next.house.battery.ideal) =
        (house.battery.ideal.stepTimes flow.toInt n).step flow.toInt := by
  obtain ⟨next, hnext, hsound⟩ := h.sound.balance
  have hcourse := balanceCourse hnext
  have hsame : current.otherFlow = house.otherFlow := by
    rw [h.frame]
    rfl
  have hbefore : next.answer.beforeBattery = flow := by
    have hseen := hcourse.otherFlow_eq
    rw [hsame, hflow] at hseen
    cases hseen
    rfl
  obtain ⟨rate, battery', hstep, -, -, hideal⟩ := h.sound.battery.fit.step_ideal flow
  have hmade := hcourse.step_eq
  rw [hbefore, hstep] at hmade
  cases hmade
  rw [h.ideal_eq] at hideal
  refine ⟨next, hnext, ⟨hsound, ?_, ?_⟩, hbefore, hideal⟩
  · rw [hcourse.house_eq, h.frame]
  · rw [IdealBattery.stepTimes, ← hideal]

/-- Any number of balances and nothing else. -/
theorem Sound.inTurn_balance (h : house.Sound) (hflow : house.otherFlow = .ok flow) (n : Nat) :
    ∃ balanced, house.inTurn (List.replicate n House.balance) = .ok balanced ∧
      house.Balanced flow n balanced.house := by
  induction n with
  | zero => exact ⟨⟨[], [], house⟩, rfl, h.balanced flow⟩
  | succ n ih =>
    obtain ⟨balanced, hbalanced, hthere⟩ := ih
    obtain ⟨next, hnext, hafter, -⟩ := hthere.balance hflow
    have hlonger := inTurn_concat.mpr ⟨balanced, next, hbalanced, hnext, rfl⟩
    rw [← List.replicate_succ'] at hlonger
    exact ⟨_, hlonger, hafter⟩

/-- After its last effective step every balance of the house is the same. -/
theorem Balanced.balance_eq (h : house.Balanced flow n current) {current' : House}
    (h' : house.Balanced flow (house.battery.ideal.stepsToRest flow.toInt) current')
    (hfit : house.battery.Fit) (hn : house.battery.ideal.stepsToRest flow.toInt ≤ n) :
    current.balance = current'.balance := by
  have hideal : current.battery.ideal = current'.battery.ideal := by
    rw [h.ideal_eq, h'.ideal_eq, IdealBattery.stepTimes_of_le hfit.ideal hn]
  rw [h.frame, h'.frame, Battery.eq_of_ideal_eq hideal]
  exact balance_lastRate { house with battery := current'.battery } current.battery.lastRate

/-- How a house that is left alone settles: what its balance after `n` others does to the house
`before` it, if `flow` is the flow of everything but the battery.  The rate, and how many balances
take it, are those of the battery the house had before all of them. -/
structure SettlesAt (house : House) (flow : Int32) (rest : Done Balance) (n : Nat)
    (before : House) (next : Done Balance) : Prop where
  flow_eq : next.answer.beforeBattery = flow
  charge_eq : next.answer.stateOfCharge = next.house.battery.charge
  moves (h : n < house.battery.ideal.stepsToRest flow.toInt) :
    next.answer.batteryLoad.toInt = house.battery.ideal.rateFor flow.toInt
  rises (h : n < house.battery.ideal.stepsToRest flow.toInt)
    (hrate : 0 < house.battery.ideal.rateFor flow.toInt) :
    before.battery.charge < next.answer.stateOfCharge
  falls (h : n < house.battery.ideal.stepsToRest flow.toInt)
    (hrate : house.battery.ideal.rateFor flow.toInt < 0) :
    next.answer.stateOfCharge < before.battery.charge
  fills (h : n + 1 = house.battery.ideal.stepsToRest flow.toInt)
    (hrate : 0 < house.battery.ideal.rateFor flow.toInt) :
    next.answer.stateOfCharge = house.battery.maxCharge
  empties (h : n + 1 = house.battery.ideal.stepsToRest flow.toInt)
    (hrate : house.battery.ideal.rateFor flow.toInt < 0) :
    next.answer.stateOfCharge = 0
  rests (h : house.battery.ideal.stepsToRest flow.toInt ≤ n) : next = rest

/-- The balance of a house after `n` others goes as the steps of the ideal battery do. -/
theorem Balanced.settlesAt (h : house.Balanced flow n current) (hflow : house.otherFlow = .ok flow)
    (hfit : house.battery.Fit) {resting : House} {rest next : Done Balance}
    (hresting : house.Balanced flow (house.battery.ideal.stepsToRest flow.toInt) resting)
    (hrest : resting.balance = .ok rest) (hnext : current.balance = .ok next) :
    house.SettlesAt flow rest n current next := by
  obtain ⟨next', hnext', -, hseen, hstep⟩ := h.balance hflow
  rw [hnext] at hnext'
  cases hnext'
  have hcharge := stateOfCharge_of_balance hnext
  have hrate : next.answer.batteryLoad.toInt =
      ((house.battery.ideal.stepTimes flow.toInt n).step flow.toInt).1 :=
    congrArg Prod.fst hstep
  have hideal : next.house.battery.ideal = house.battery.ideal.stepTimes flow.toInt (n + 1) :=
    congrArg Prod.snd hstep
  have hbefore : current.battery.charge.toInt =
      (house.battery.ideal.stepTimes flow.toInt n).charge :=
    congrArg IdealBattery.charge h.ideal_eq
  have hafter : next.answer.stateOfCharge.toInt =
      (house.battery.ideal.stepTimes flow.toInt (n + 1)).charge := by
    rw [hcharge]
    exact congrArg IdealBattery.charge hideal
  have hends := IdealBattery.charge_stepsToRest hfit.ideal flow.toInt
  constructor
  case flow_eq => exact hseen
  case charge_eq => exact hcharge
  case moves =>
    intro hn
    rw [hrate, IdealBattery.step_of_lt hfit.ideal hn]
  case rises =>
    intro hn hpos
    rw [Int32.lt_iff_toInt_lt, hbefore, hafter]
    exact (IdealBattery.charge_stepTimes_succ hfit.ideal hn).1 hpos
  case falls =>
    intro hn hneg
    rw [Int32.lt_iff_toInt_lt, hbefore, hafter]
    exact (IdealBattery.charge_stepTimes_succ hfit.ideal hn).2 hneg
  case fills =>
    intro hn hpos
    apply Int32.toInt_inj.mp
    rw [hafter, hn, hends.1 hpos]
    rfl
  case empties =>
    intro hn hneg
    apply Int32.toInt_inj.mp
    rw [hafter, hn, hends.2 hneg]
    rfl
  case rests =>
    intro hn
    have hsame := h.balance_eq hresting hfit hn
    rw [hnext, hrest] at hsame
    cases hsame
    rfl

/-- **A sound house that is left alone settles.** -/
theorem Sound.settles (h : house.Sound) :
    ∃ flow rest, house.otherFlow = .ok flow ∧
      rest.answer.batteryLoad = 0 ∧ rest.answer.totalLoad = flow ∧
      ∀ n, ∃ balanced next, house.inTurn (List.replicate n House.balance) = .ok balanced ∧
        balanced.house.balance = .ok next ∧
        house.SettlesAt flow rest n balanced.house next := by
  obtain ⟨first, hfirst, -⟩ := h.balance
  have hflow := (balanceCourse hfirst).otherFlow_eq
  have hfit := h.battery.fit
  obtain ⟨settled, -, hsettled⟩ := h.inTurn_balance hflow
    (house.battery.ideal.stepsToRest first.answer.beforeBattery.toInt)
  obtain ⟨rest, hrest, hsteers⟩ := hsettled.sound.balance_steers
  obtain ⟨rest', hrest', -, hseen, hstep⟩ := hsettled.balance hflow
  rw [hrest] at hrest'
  cases hrest'
  rw [IdealBattery.step_of_le hfit.ideal (Nat.le_refl _)] at hstep
  have hnothing : rest.answer.batteryLoad.toInt = 0 := congrArg Prod.fst hstep
  refine ⟨first.answer.beforeBattery, rest, hflow, Int32.toInt_inj.mp hnothing, ?_, ?_⟩
  · apply Int32.toInt_inj.mp
    rw [hsteers.total_eq, hseen, hnothing, Int.add_zero]
  · intro n
    obtain ⟨balanced, hbalanced, hthere⟩ := h.inTurn_balance hflow n
    obtain ⟨next, hnext, -⟩ := hthere.balance hflow
    exact ⟨balanced, next, hbalanced, hnext, hthere.settlesAt hflow hfit hsettled hrest hnext⟩

/-- **An undisturbed house settles after a number of balances that can be told beforehand.**
Build a house, do anything to it, and then balance it again and again.  Every balance sees the same
flow beside the battery, and the rate that this flow asks for is taken by so many balances as it
takes, rounded up, to fill or empty the battery at this rate.  In each of them the charge moves to
the side of the rate; after the last it is exactly at its end.  All later balances are one and the
same: the battery rests and the total is the flow beside it. -/
theorem inTurn_settles {maxCharge maxRate charge : Int32} {battery : Battery}
    (hbuild : Battery.build maxCharge maxRate charge = .ok battery) (loadWhenOn : Int32)
    (operations : List Operation) :
    ∃ done, House.inTurn { lamp := { loadWhenOn }, battery }
        (operations.map Operation.perform) = .ok done ∧
      done.house.parameters = { loadWhenOn, maxCharge, maxRate } ∧
      ∃ flow rest, done.house.otherFlow = .ok flow ∧
        rest.answer.batteryLoad = 0 ∧ rest.answer.totalLoad = flow ∧
        ∀ n, ∃ balanced next,
          done.house.inTurn (List.replicate n House.balance) = .ok balanced ∧
          balanced.house.balance = .ok next ∧
          done.house.SettlesAt flow rest n balanced.house next := by
  have hnew := sound_of_build hbuild { loadWhenOn }
  obtain ⟨-, -, -, rfl⟩ := Battery.build_eq_ok_iff.mp hbuild
  obtain ⟨done, hdone, hsound, hparameters⟩ := hnew.inTurn operations
  exact ⟨done, hdone, hparameters, hsound.settles⟩

/-- An empty battery of ordinary size. -/
def emptyBattery : Battery where
  maxCharge := 50
  maxRate := 3
  charge := 0

/-- It is asked to import more than its rate and to fill up takes it seventeen balances, the last
of which finds room for less than the rate it reports. -/
theorem inTurn_settles_filling :
    Battery.build 50 3 0 = .ok emptyBattery ∧
      ∃ done, House.inTurn { lamp := { loadWhenOn := 3 }, battery := emptyBattery }
          ([.dispatch (Text.Utf8.encode "battery 5".toList)].map Operation.perform) = .ok done ∧
        done.house.battery.ideal.stepsToRest 0 = 17 ∧
        ∃ rest : Done Balance, rest.answer.batteryLoad = 0 ∧ rest.answer.totalLoad = 0 ∧
          ∀ n, ∃ balanced next,
            done.house.inTurn (List.replicate n House.balance) = .ok balanced ∧
            balanced.house.balance = .ok next ∧
            done.house.SettlesAt 0 rest n balanced.house next := by
  have hbuild : Battery.build 50 3 0 = .ok emptyBattery := rfl
  obtain ⟨done, hdone, -, flow, rest, hflow, hidle, htotal, hsettles⟩ :=
    inTurn_settles hbuild 3 [.dispatch (Text.Utf8.encode "battery 5".toList)]
  have hasked : done.house = {
      lamp := { loadWhenOn := 3 }, battery := { emptyBattery with netTarget := 5 } } := by
    cases hdone
    rfl
  have hzero : flow = 0 := by
    rw [hasked] at hflow
    cases hflow
    rfl
  have hsteps : done.house.battery.ideal.stepsToRest 0 = 17 := by
    rw [hasked]
    decide
  subst hzero
  exact ⟨hbuild, done, hdone, hsteps, rest, hidle, htotal, hsettles⟩

end House

end HomeEnergy
