import HomeEnergy.Proofs.House.Steering
import Mathlib.Algebra.Order.BigOperators.Group.List
import Mathlib.Algebra.Ring.Int.Defs

/-!
# Charging in the integers

A battery computes with words that saturate and are clamped.  Beside it stands one whose numbers
are integers without bounds: both make the same steps.  The rate that a step reports is not
always what the charge changes by, since it is reported in full also by the step in which the
battery becomes full or empty.

* `Fit.step_ideal` — a step of a battery is one of the ideal battery;
* `IdealBattery.step_faithful` — how far the reported rate is from the change of the charge;
* `step_ideal_and_uses_faithful` — **the steps of a battery are exact, and over any use the
  reported rates make up for all that was stored and drawn.**
-/

namespace HomeEnergy

/-- A battery whose numbers are integers: nothing saturates and nothing overflows. -/
structure IdealBattery where
  maxCharge : Int
  maxRate : Int
  charge : Int
  netTarget : Int

namespace IdealBattery

/-- The missing flow, as far as the greatest rate allows. -/
def rateFor (ideal : IdealBattery) (flow : Int) : Int :=
  min ideal.maxRate (max (-ideal.maxRate) (ideal.netTarget - flow))

/-- A rate has an effect: there is room for it, or charge. -/
def Takes (ideal : IdealBattery) (rate : Int) : Prop :=
  (0 < rate ∧ ideal.charge < ideal.maxCharge) ∨ (rate < 0 ∧ 0 < ideal.charge)

instance (ideal : IdealBattery) (rate : Int) : Decidable (ideal.Takes rate) :=
  inferInstanceAs (Decidable (_ ∨ _))

/-- One step beside this flow of everything else; the rate and the battery after it. -/
def step (ideal : IdealBattery) (flow : Int) : Int × IdealBattery :=
  let rate := ideal.rateFor flow
  if ideal.Takes rate then
    (rate, { ideal with charge := min ideal.maxCharge (max 0 (ideal.charge + rate)) })
  else (0, ideal)

theorem step_of_takes {ideal : IdealBattery} {flow : Int} (h : ideal.Takes (ideal.rateFor flow)) :
    ideal.step flow = (ideal.rateFor flow,
      { ideal with charge := min ideal.maxCharge (max 0 (ideal.charge + ideal.rateFor flow)) }) :=
  if_pos h

theorem step_of_not_takes {ideal : IdealBattery} {flow : Int}
    (h : ¬ ideal.Takes (ideal.rateFor flow)) : ideal.step flow = (0, ideal) :=
  if_neg h

end IdealBattery

namespace Battery

/-- The same battery with integers for its words. -/
def ideal (battery : Battery) : IdealBattery where
  maxCharge := battery.maxCharge.toInt
  maxRate := battery.maxRate.toInt
  charge := battery.charge.toInt
  netTarget := battery.netTarget.toInt

/-- The parameters are positive and the charge is within them.  Of the target and the last rate
nothing is asked. -/
structure Fit (battery : Battery) : Prop where
  maxCharge_pos : 0 < battery.maxCharge.toInt
  maxRate_pos : 0 < battery.maxRate.toInt
  charge_nonneg : 0 ≤ battery.charge.toInt
  charge_le : battery.charge.toInt ≤ battery.maxCharge.toInt

variable {battery : Battery} {flow : Int32}

theorem Sound.fit (h : battery.Sound) : battery.Fit :=
  ⟨h.maxCharge_pos, h.maxRate_pos, h.charge_nonneg, h.charge_le⟩

/-- But for its last rate, which no step reads, a battery that is fit is sound. -/
theorem Fit.sound (h : battery.Fit) : Sound { battery with lastRate := 0 } := by
  have hzero : (0 : Int32).toInt = 0 := rfl
  have hpos := h.maxRate_pos
  refine ⟨h.maxCharge_pos, h.maxRate_pos, h.charge_nonneg, h.charge_le, ?_, ?_⟩
  · show -battery.maxRate.toInt ≤ (0 : Int32).toInt
    omega
  · show (0 : Int32).toInt ≤ battery.maxRate.toInt
    omega

/-- The rate that brings a flow to the target is the one of the ideal battery. -/
theorem Fit.closingRate_eq (h : battery.Fit) (flow : Int32) :
    battery.closingRate flow = battery.ideal.rateFor flow.toInt := by
  have hpos := h.maxRate_pos
  simp only [closingRate, IdealBattery.rateFor, ideal]
  omega

/-- It has an effect exactly if the battery can steer. -/
theorem Fit.takes_iff (h : battery.Fit) (flow : Int32) :
    battery.ideal.Takes (battery.ideal.rateFor flow.toInt) ↔ battery.CanSteer flow := by
  have hpos := h.maxRate_pos
  simp only [IdealBattery.Takes, IdealBattery.rateFor, CanSteer, ideal]
  omega

/-- A battery keeps the rate that it reports. -/
theorem step_lastRate {rate : Int32} {battery' : Battery}
    (h : battery.step flow = .ok (rate, battery')) : battery'.lastRate = rate := by
  obtain ⟨wanted, -, h⟩ := bind_eq_ok_iff.mp h
  split at h
  · obtain ⟨charge, -, h⟩ := bind_eq_ok_iff.mp h
    cases h
    rfl
  · cases h
    rfl

/-- **A step of a battery is one of the ideal battery**, and leaves it fit. -/
theorem Fit.step_ideal (h : battery.Fit) (flow : Int32) :
    ∃ rate battery', battery.step flow = .ok (rate, battery') ∧ battery'.Fit ∧
      battery'.lastRate = rate ∧ (rate.toInt, battery'.ideal) = battery.ideal.step flow.toInt := by
  obtain ⟨rate, battery', hstep, hsound⟩ := h.sound.step flow
  obtain ⟨hmoves, hrests⟩ := h.sound.step_toInt hstep
  have hframe := step_frame hstep
  refine ⟨rate, battery', hstep, hsound.fit, step_lastRate hstep, ?_⟩
  by_cases hcan : battery.CanSteer flow
  · have hrate : rate.toInt = battery.closingRate flow := (hmoves hcan).1
    have hcharge : battery'.charge.toInt = max 0
        (min (battery.charge.toInt + battery.closingRate flow) battery.maxCharge.toInt) :=
      (hmoves hcan).2
    have hcapacity := h.maxCharge_pos
    have hafter : battery'.charge.toInt = min battery.maxCharge.toInt
        (max 0 (battery.charge.toInt + battery.ideal.rateFor flow.toInt)) := by
      rw [← h.closingRate_eq flow]
      omega
    have hclosing := hrate.trans (h.closingRate_eq flow)
    rw [IdealBattery.step_of_takes ((h.takes_iff flow).mpr hcan), hframe, ideal, hclosing, hafter]
    rfl
  · obtain ⟨hrate, hcharge⟩ := hrests hcan
    rw [IdealBattery.step_of_not_takes (mt (h.takes_iff flow).mp hcan), hrate, hframe, hcharge]
    rfl

end Battery

/-! ## What is reported and what is taken -/

/-- A step that was made: the rate that it reported, and the charge before and after it. -/
structure Stride where
  rate : Int
  before : Int
  after : Int

namespace Stride

/-- What the charge rose by. -/
def stored (stride : Stride) : Int := max 0 (stride.after - stride.before)

/-- What the charge fell by. -/
def drawn (stride : Stride) : Int := max 0 (stride.before - stride.after)

/-- The rate reported, if it was one of charging. -/
def charging (stride : Stride) : Int := max 0 stride.rate

/-- The rate reported, if it was one of discharging. -/
def discharging (stride : Stride) : Int := max 0 (-stride.rate)

/-- How near the reported rate is to the change of the charge, in a battery of this capacity
and this greatest rate. -/
structure Faithful (stride : Stride) (maxCharge maxRate : Int) : Prop where
  rises_iff : 0 < stride.rate ↔ stride.before < stride.after
  falls_iff : stride.rate < 0 ↔ stride.after < stride.before
  change_le : (stride.after - stride.before).natAbs ≤ stride.rate.natAbs
  excess_lt : (stride.rate.natAbs - (stride.after - stride.before).natAbs : Int) < maxRate
  /-- Where the two differ, the battery has become exactly empty or exactly full. -/
  ends_of_ne (h : stride.rate ≠ stride.after - stride.before) :
    stride.after = 0 ∨ stride.after = maxCharge

theorem Faithful.stored_le {stride : Stride} {maxCharge maxRate : Int}
    (h : stride.Faithful maxCharge maxRate) : stride.stored ≤ stride.charging := by
  have hrises := h.rises_iff
  have hchange := h.change_le
  simp only [stored, charging]
  omega

theorem Faithful.drawn_le {stride : Stride} {maxCharge maxRate : Int}
    (h : stride.Faithful maxCharge maxRate) : stride.drawn ≤ stride.discharging := by
  have hfalls := h.falls_iff
  have hchange := h.change_le
  simp only [drawn, discharging]
  omega

end Stride

/-- A step of the ideal battery as a stride. -/
def IdealBattery.strideFor (ideal : IdealBattery) (flow : Int) : Stride where
  rate := (ideal.step flow).1
  before := ideal.charge
  after := (ideal.step flow).2.charge

/-- **The rate is faithful to the change of the charge**: it has its sign, and is too great by
less than the greatest rate, and only where the charge comes to one of its ends. -/
theorem IdealBattery.step_faithful {ideal : IdealBattery} (hrate : 0 < ideal.maxRate)
    (hnonneg : 0 ≤ ideal.charge) (hle : ideal.charge ≤ ideal.maxCharge) (flow : Int) :
    (ideal.strideFor flow).Faithful ideal.maxCharge ideal.maxRate := by
  have hlow : -ideal.maxRate ≤ ideal.rateFor flow := by
    unfold rateFor
    omega
  have hhigh : ideal.rateFor flow ≤ ideal.maxRate := by
    unfold rateFor
    omega
  by_cases htakes : ideal.Takes (ideal.rateFor flow)
  · rw [strideFor, step_of_takes htakes]
    unfold Takes at htakes
    constructor <;> dsimp only <;> omega
  · rw [strideFor, step_of_not_takes htakes]
    constructor <;> dsimp only <;> omega

namespace Battery

/-- What can be done to a battery. -/
inductive Use
  | step (flow : Int32)
  | command (action : List UInt8)
  deriving Repr, DecidableEq

/-- Uses a battery in these ways, one after the other: the strides it makes, and the battery
after all of them. -/
def useAll (battery : Battery) : List Use → Except Fault (List Stride × Battery)
  | [] => return ([], battery)
  | .step flow :: later => do
    let (rate, next) ← battery.step flow
    let (strides, last) ← next.useAll later
    let stride : Stride := ⟨rate.toInt, battery.charge.toInt, next.charge.toInt⟩
    return (stride :: strides, last)
  | .command action :: later => (battery.command action).useAll later

theorem Fit.command {battery : Battery} (h : battery.Fit) (action : List UInt8) :
    (battery.command action).Fit := by
  rw [command_frame]
  exact ⟨h.maxCharge_pos, h.maxRate_pos, h.charge_nonneg, h.charge_le⟩

/-- A list of strides under a battery of these parameters: each is faithful, and together they
lead from one charge to another. -/
structure Ledger (maxCharge maxRate : Int) (before : Int) (strides : List Stride) (after : Int) :
    Prop where
  faithful : ∀ stride ∈ strides, stride.Faithful maxCharge maxRate
  charge_eq : after = before + (strides.map Stride.stored).sum - (strides.map Stride.drawn).sum

theorem ledger_nil (maxCharge maxRate charge : Int) : Ledger maxCharge maxRate charge [] charge :=
  { faithful := fun _ hstride => absurd hstride List.not_mem_nil
    charge_eq := by simp }

theorem Ledger.cons {maxCharge maxRate after : Int} {stride : Stride} {strides : List Stride}
    (hfirst : stride.Faithful maxCharge maxRate)
    (hrest : Ledger maxCharge maxRate stride.after strides after) :
    Ledger maxCharge maxRate stride.before (stride :: strides) after := by
  constructor
  · intro s hs
    rcases List.mem_cons.mp hs with rfl | hs
    · exact hfirst
    · exact hrest.faithful s hs
  · have hcharge := hrest.charge_eq
    rw [List.map_cons, List.map_cons, List.sum_cons, List.sum_cons]
    simp only [Stride.stored, Stride.drawn] at hcharge ⊢
    omega

/-- All that was drawn from the charge was reported. -/
theorem Ledger.drawn_le {maxCharge maxRate before after : Int} {strides : List Stride}
    (h : Ledger maxCharge maxRate before strides after) :
    (strides.map Stride.drawn).sum ≤ (strides.map Stride.discharging).sum :=
  List.sum_le_sum fun stride hstride => (h.faithful stride hstride).drawn_le

/-- All that was stored in the charge was reported. -/
theorem Ledger.stored_le {maxCharge maxRate before after : Int} {strides : List Stride}
    (h : Ledger maxCharge maxRate before strides after) :
    (strides.map Stride.stored).sum ≤ (strides.map Stride.charging).sum :=
  List.sum_le_sum fun stride hstride => (h.faithful stride hstride).stored_le

/-- Any use of a battery that is fit succeeds, and its strides lead from its charge to the one
that is left. -/
theorem Fit.useAll {battery : Battery} (h : battery.Fit) (uses : List Use) :
    ∃ strides last, battery.useAll uses = .ok (strides, last) ∧
      Ledger battery.maxCharge.toInt battery.maxRate.toInt battery.charge.toInt strides
        last.charge.toInt := by
  induction uses generalizing battery with
  | nil => exact ⟨[], battery, rfl, ledger_nil _ _ _⟩
  | cons use later ih =>
    cases use with
    | step flow =>
      obtain ⟨rate, next, hstep, hfit, -, hideal⟩ := h.step_ideal flow
      obtain ⟨strides, last, hlater, hledger⟩ := ih hfit
      have hfaithful : (battery.ideal.strideFor flow.toInt).Faithful battery.maxCharge.toInt
          battery.maxRate.toInt :=
        IdealBattery.step_faithful h.maxRate_pos h.charge_nonneg h.charge_le flow.toInt
      have hframe := step_frame hstep
      refine ⟨⟨rate.toInt, battery.charge.toInt, next.charge.toInt⟩ :: strides, last, ?_, ?_⟩
      · rw [Battery.useAll, hstep]
        simp only [bind, Except.bind, hlater]
        rfl
      · rw [IdealBattery.strideFor, ← hideal] at hfaithful
        rw [hframe] at hledger
        exact Ledger.cons hfaithful hledger
    | command action =>
      obtain ⟨strides, last, hlater, hledger⟩ := ih (h.command action)
      rw [command_frame] at hledger
      exact ⟨strides, last, hlater, hledger⟩

/-- **The steps of a battery are exact, and its reports make up for its charge.**  Whatever its
target, its last rate and the flow beside it, a battery with positive parameters and a charge
within them makes the step of the ideal battery: no saturation can be seen.  And however it is
used, each rate it reports has the sign of the change of its charge, is too great by less than
the greatest rate, and differs from the change only in a step that ends exactly empty or exactly
full.  So the rates reported are no less, in sum, than what was drawn and what was stored. -/
theorem step_ideal_and_uses_faithful {battery : Battery} (h : battery.Fit) :
    (∀ flow, ∃ rate battery', battery.step flow = .ok (rate, battery') ∧
      battery'.lastRate = rate ∧
      (rate.toInt, battery'.ideal) = battery.ideal.step flow.toInt) ∧
    ∀ uses, ∃ strides last, battery.useAll uses = .ok (strides, last) ∧
      (∀ stride ∈ strides,
        stride.Faithful battery.maxCharge.toInt battery.maxRate.toInt) ∧
      (strides.map Stride.drawn).sum ≤ (strides.map Stride.discharging).sum ∧
      (strides.map Stride.stored).sum ≤ (strides.map Stride.charging).sum ∧
      last.charge.toInt = battery.charge.toInt + (strides.map Stride.stored).sum -
        (strides.map Stride.drawn).sum := by
  constructor
  · intro flow
    obtain ⟨rate, battery', hstep, -, hlast, hideal⟩ := h.step_ideal flow
    exact ⟨rate, battery', hstep, hlast, hideal⟩
  · intro uses
    obtain ⟨strides, last, huses, hledger⟩ := h.useAll uses
    exact ⟨strides, last, huses, hledger.faithful, hledger.drawn_le, hledger.stored_le,
      hledger.charge_eq⟩

/-- The greatest battery, a unit short of full, whose last rate is none that it can have. -/
def nearlyFull : Battery where
  maxCharge := 0x7FFFFFFF
  maxRate := 0x7FFFFFFF
  charge := 0x7FFFFFFE
  lastRate := -0x80000000

/-- It is to import all it can, is given a target that is no number, and is to export all it
can. -/
def greatestUses : List Use :=
  let asked (text : String) : Use := .command (Text.Utf8.encode text.toList)
  [asked "2147483647", .step (-0x80000000), asked "much", .step 0x7FFFFFFE,
    asked "-2147483648", .step 0x7FFFFFFF, .step 0x7FFFFFFF, .step (-0x80000000)]

/-- It reports the greatest rate for the one unit that was missing. -/
theorem step_ideal_and_uses_faithful_greatest :
    nearlyFull.Fit ∧
      (∃ rate battery', nearlyFull.step (-0x80000000) = .ok (rate, battery') ∧
        (rate.toInt, battery'.ideal) = nearlyFull.ideal.step (-0x80000000) ∧
        rate = 0x7FFFFFFF) ∧
      ∃ strides last, nearlyFull.useAll greatestUses = .ok (strides, last) ∧
        (∀ stride ∈ strides, stride.Faithful 0x7FFFFFFF 0x7FFFFFFF) ∧
        (strides.map Stride.drawn).sum ≤ (strides.map Stride.discharging).sum ∧
        (strides.map Stride.stored).sum ≤ (strides.map Stride.charging).sum ∧
        strides.map (·.rate) = [0x7FFFFFFF, 0, -0x7FFFFFFF, 0, 0] := by
  have hfit : nearlyFull.Fit := ⟨by decide, by decide, by decide, by decide⟩
  obtain ⟨hsteps, huses⟩ := step_ideal_and_uses_faithful hfit
  obtain ⟨rate, battery', hstep, -, hideal⟩ := hsteps (-0x80000000)
  obtain ⟨strides, last, hused, hfaithful, hdrawn, hstored, -⟩ := huses greatestUses
  have hrate : rate = 0x7FFFFFFF := by
    cases hstep
    rfl
  have hrates : strides.map (·.rate) = [0x7FFFFFFF, 0, -0x7FFFFFFF, 0, 0] := by
    cases hused
    rfl
  exact ⟨hfit, ⟨rate, battery', hstep, hideal, hrate⟩, strides, last, hused, hfaithful, hdrawn,
    hstored, hrates⟩

end Battery

end HomeEnergy
