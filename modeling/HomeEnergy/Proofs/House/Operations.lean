import HomeEnergy.Proofs.House.Soundness

/-!
# Operations in turn

All that is ever done to a house: lines are dispatched to it, its power is balanced, its
buttons are pressed, it is shut down.  These operations may come in any order and number.

* `inTurn_keeps` — what each operation keeps, any number of them keeps;
* `inTurn_operations_sound` — **no sequence of operations meets a fault**, and none takes a
  house out of its ranges or changes what it was built with.
-/

namespace HomeEnergy

/-- What an operation leaves, with its answer read in another way. -/
def Done.map {α β : Type} (f : α → β) (done : Done α) : Done β :=
  { done with answer := f done.answer }

/-- Something that can be done to a house. -/
inductive Operation
  | dispatch (line : Wire.Line)
  | balance
  | pressWind
  | pressHeatPump
  | shutDown
  deriving Repr, DecidableEq

/-- What an operation answers. -/
inductive Response
  | dispatched (outcome : Except Wire.CommandError Wire.Target)
  | balanced (balance : Balance)
  | done

/-- Does it to a house. -/
def Operation.perform : Operation → House → Except Fault (Done Response)
  | .dispatch line, house => return (← house.dispatch line).map .dispatched
  | .balance, house => return (← house.balance).map .balanced
  | .pressWind, house => return (← house.pressWind).map fun _ => .done
  | .pressHeatPump, house => return (← house.pressHeatPump).map fun _ => .done
  | .shutDown, house => return house.shutDown.map fun _ => .done

/-- What a house is built with. -/
structure Parameters where
  loadWhenOn : Int32
  maxCharge : Int32
  maxRate : Int32
  deriving Repr, DecidableEq

namespace House

/-- Performs operations one after the other: all they answer, all they write, and the house
after the last of them. -/
def inTurn {α : Type} (house : House) :
    List (House → Except Fault (Done α)) → Except Fault (Done (List α))
  | [] => return { answer := [], writes := [], house }
  | operation :: later => do
    let first ← operation house
    let rest ← first.house.inTurn later
    return {
      answer := first.answer :: rest.answer
      writes := first.writes ++ rest.writes
      house := rest.house }

/-- What the house was built with. -/
def parameters (house : House) : Parameters where
  loadWhenOn := house.lamp.loadWhenOn
  maxCharge := house.battery.maxCharge
  maxRate := house.battery.maxRate

section

variable {α : Type} {house : House}

theorem inTurn_cons {operation : House → Except Fault (Done α)}
    {later : List (House → Except Fault (Done α))} {first : Done α} {rest : Done (List α)}
    (hfirst : operation house = .ok first) (hrest : first.house.inTurn later = .ok rest) :
    house.inTurn (operation :: later) = .ok {
      answer := first.answer :: rest.answer
      writes := first.writes ++ rest.writes
      house := rest.house } := by
  simp only [inTurn, hfirst, hrest, bind, Except.bind]
  rfl

/-- The last of some operations acts on the house that the others left. -/
theorem inTurn_concat {operations : List (House → Except Fault (Done α))}
    {last : House → Except Fault (Done α)} {done : Done (List α)} :
    house.inTurn (operations ++ [last]) = .ok done ↔
      ∃ first final, house.inTurn operations = .ok first ∧ last first.house = .ok final ∧
        done = {
          answer := first.answer ++ [final.answer]
          writes := first.writes ++ final.writes
          house := final.house } := by
  induction operations generalizing house done with
  | nil =>
    constructor
    · intro h
      obtain ⟨final, hfinal, h⟩ := bind_eq_ok_iff.mp h
      cases h
      exact ⟨⟨[], [], house⟩, final, rfl, hfinal, by simp⟩
    · rintro ⟨first, final, hfirst, hfinal, rfl⟩
      cases hfirst
      exact bind_eq_ok_iff.mpr ⟨final, hfinal, by simp [inTurn, pure, Except.pure, bind, Except.bind]⟩
  | cons operation later ih =>
    constructor
    · intro h
      obtain ⟨start, hstart, h⟩ := bind_eq_ok_iff.mp h
      obtain ⟨rest, hrest, h⟩ := bind_eq_ok_iff.mp h
      cases h
      obtain ⟨first, final, hfirst, hfinal, rfl⟩ := ih.mp hrest
      exact ⟨_, final, inTurn_cons hstart hfirst, hfinal, by simp⟩
    · rintro ⟨first, final, hfirst, hfinal, rfl⟩
      obtain ⟨start, hstart, hfirst⟩ := bind_eq_ok_iff.mp hfirst
      obtain ⟨rest, hrest, hfirst⟩ := bind_eq_ok_iff.mp hfirst
      cases hfirst
      have hlater := ih.mpr ⟨rest, final, hrest, hfinal, rfl⟩
      rw [List.cons_append, inTurn_cons hstart hlater]
      simp

/-- What every operation keeps, without a fault, any number of them keeps. -/
theorem inTurn_keeps {Kept : House → Prop} {operations : List (House → Except Fault (Done α))}
    (hstep : ∀ operation ∈ operations, ∀ house, Kept house →
      ∃ done, operation house = .ok done ∧ Kept done.house)
    (h : Kept house) : ∃ done, house.inTurn operations = .ok done ∧ Kept done.house := by
  induction operations generalizing house with
  | nil => exact ⟨⟨[], [], house⟩, rfl, h⟩
  | cons operation later ih =>
    obtain ⟨first, hfirst, hkept⟩ := hstep operation List.mem_cons_self house h
    have hlater := fun next hnext => hstep next (List.mem_cons_of_mem operation hnext)
    obtain ⟨rest, hrest, hlast⟩ := ih hlater hkept
    exact ⟨_, inTurn_cons hfirst hrest, hlast⟩

end

end House

/-! ## What no operation changes -/

namespace Battery

variable {battery : Battery}

/-- The preconditions of a battery are enough to build it. -/
theorem build_eq_ok {maxCharge maxRate charge : Int32} (hcapacity : 0 < maxCharge)
    (hrate : 0 < maxRate) (hcharge : 0 ≤ charge ∧ charge ≤ maxCharge) :
    build maxCharge maxRate charge = .ok { maxCharge, maxRate, charge } :=
  build_eq_ok_iff.mpr ⟨hcapacity, hrate, hcharge, rfl⟩

/-- A step changes the charge and the last rate only. -/
theorem step_frame {otherLoad rate : Int32} {battery' : Battery}
    (h : battery.step otherLoad = .ok (rate, battery')) :
    battery' = { battery with charge := battery'.charge, lastRate := battery'.lastRate } := by
  obtain ⟨wanted, -, h⟩ := bind_eq_ok_iff.mp h
  split at h
  · obtain ⟨charge, -, h⟩ := bind_eq_ok_iff.mp h
    cases h
    rfl
  · cases h
    rfl

/-- A command changes the target only. -/
theorem command_frame (battery : Battery) (action : List UInt8) :
    battery.command action =
      { battery with netTarget := (battery.command action).netTarget } := by
  unfold command
  split <;> rfl

/-- The glyph of a charge is one of the six. -/
theorem glyphIndex_lt {glyph : Nat} (h : battery.glyphIndex = .ok glyph) :
    glyph < glyphCount := by
  unfold glyphIndex at h
  split at h
  · cases h
  · have hcount : glyphCount = 6 := rfl
    cases h
    omega

end Battery

/-- The level that a pump goes back to is not touched by a shutdown. -/
theorem HeatPump.Sound.shutDown {pump : HeatPump} (h : pump.Sound) : pump.shutDown.2.Sound := by
  have hoff : (0 : Int32).toInt = 0 := rfl
  refine ⟨?_, ?_, h.resume_pos, h.resume_le, fun hon => absurd hon ?_⟩
  · exact Int.le_of_eq hoff.symm
  · show (0 : Int32).toInt ≤ 4
    omega
  · show ¬ 0 < (0 : Int32).toInt
    omega

namespace House

variable {house : House}

theorem parameters_dispatch {line : Wire.Line}
    {done : Done (Except Wire.CommandError Wire.Target)} (h : house.dispatch line = .ok done) :
    done.house.parameters = house.parameters := by
  unfold dispatch at h
  cases hparse : Wire.Command.parse line with
  | error e =>
    rw [hparse] at h
    cases h
    rfl
  | ok cmd =>
    rw [hparse] at h
    obtain ⟨house', hobey, h⟩ := bind_eq_ok_iff.mp h
    cases h
    obtain ⟨appliance, hcommand, hinstall⟩ := bind_eq_ok_iff.mp hobey
    cases hinstall
    obtain ⟨target, action⟩ := cmd
    cases target with
    | led =>
      cases hcommand
      rfl
    | battery =>
      cases hcommand
      show Parameters.mk _ (house.battery.command action).maxCharge
        (house.battery.command action).maxRate = _
      rw [Battery.command_frame]
      rfl
    | turbine =>
      cases hcommand
      rfl
    | heatPump =>
      obtain ⟨heatPump, -, hcommand⟩ := bind_eq_ok_iff.mp hcommand
      cases hcommand
      rfl

/-- What a balance that meets no fault has found and done: the answer is put together from the
loads of the appliances, only the battery has made a step, and the three outputs have been
brought up to their appliances. -/
structure BalanceCourse (house : House) (done : Done Balance) : Prop where
  house_eq : done.house = { house with battery := done.house.battery }
  houseLoad_eq : done.answer.houseLoad =
    Word.satAdd (Word.satAdd 0 house.lamp.load) house.heatPump.load
  turbineLoad_eq : house.turbine.load = .ok done.answer.turbineLoad
  step_eq : house.battery.step done.answer.beforeBattery =
    .ok (done.answer.batteryLoad, done.house.battery)
  totalLoad_eq : done.answer.totalLoad =
    Word.satAdd done.answer.beforeBattery done.answer.batteryLoad
  writes_eq : ∃ pumpWrite turbineWrite, house.heatPump.sync = .ok pumpWrite ∧
    house.turbine.sync = .ok turbineWrite ∧
    done.writes = [house.lamp.sync, pumpWrite, turbineWrite]

theorem balanceCourse {done : Done Balance} (h : house.balance = .ok done) :
    house.BalanceCourse done := by
  obtain ⟨pumpWrite, hpump, h⟩ := bind_eq_ok_iff.mp h
  obtain ⟨turbineLoad, hload, h⟩ := bind_eq_ok_iff.mp h
  obtain ⟨turbineWrite, hturbine, h⟩ := bind_eq_ok_iff.mp h
  obtain ⟨⟨rate, battery⟩, hstep, h⟩ := bind_eq_ok_iff.mp h
  obtain ⟨glyph, -, h⟩ := bind_eq_ok_iff.mp h
  cases h
  exact ⟨rfl, rfl, hload, hstep, rfl, pumpWrite, turbineWrite, hpump, hturbine, rfl⟩

theorem parameters_balance {done : Done Balance} (h : house.balance = .ok done) :
    done.house.parameters = house.parameters := by
  have hcourse := balanceCourse h
  rw [hcourse.house_eq]
  show Parameters.mk _ done.house.battery.maxCharge done.house.battery.maxRate = _
  rw [Battery.step_frame hcourse.step_eq]
  rfl

theorem parameters_pressWind {done : Done Unit} (h : house.pressWind = .ok done) :
    done.house.parameters = house.parameters := by
  obtain ⟨turbine, -, h⟩ := bind_eq_ok_iff.mp h
  obtain ⟨write, -, h⟩ := bind_eq_ok_iff.mp h
  cases h
  rfl

theorem parameters_pressHeatPump {done : Done Unit} (h : house.pressHeatPump = .ok done) :
    done.house.parameters = house.parameters := by
  obtain ⟨write, -, h⟩ := bind_eq_ok_iff.mp h
  cases h
  rfl

theorem Sound.shutDown (h : house.Sound) : house.shutDown.house.Sound :=
  ⟨h.heatPump.shutDown, h.turbine, h.battery⟩

/-- **Every operation on a sound house succeeds**, leaves it sound, and changes nothing it
was built with. -/
theorem Sound.perform (h : house.Sound) (operation : Operation) :
    ∃ done, operation.perform house = .ok done ∧ done.house.Sound ∧
      done.house.parameters = house.parameters := by
  cases operation with
  | dispatch line =>
    obtain ⟨done, hdone, hsound⟩ := h.dispatch line
    exact ⟨done.map .dispatched, bind_eq_ok_iff.mpr ⟨done, hdone, rfl⟩, hsound,
      parameters_dispatch hdone⟩
  | balance =>
    obtain ⟨done, hdone, hsound⟩ := h.balance
    exact ⟨done.map .balanced, bind_eq_ok_iff.mpr ⟨done, hdone, rfl⟩, hsound,
      parameters_balance hdone⟩
  | pressWind =>
    obtain ⟨done, hdone, hsound⟩ := h.pressWind
    exact ⟨_, bind_eq_ok_iff.mpr ⟨done, hdone, rfl⟩, hsound, parameters_pressWind hdone⟩
  | pressHeatPump =>
    obtain ⟨done, hdone, hsound⟩ := h.pressHeatPump
    exact ⟨_, bind_eq_ok_iff.mpr ⟨done, hdone, rfl⟩, hsound, parameters_pressHeatPump hdone⟩
  | shutDown => exact ⟨_, rfl, h.shutDown, rfl⟩

/-- Any number of operations on a sound house succeeds, and leaves it sound and what it was
built with as it was. -/
theorem Sound.inTurn (h : house.Sound) (operations : List Operation) :
    ∃ done, house.inTurn (operations.map Operation.perform) = .ok done ∧ done.house.Sound ∧
      done.house.parameters = house.parameters := by
  have hkeeps : ∀ operation ∈ operations.map Operation.perform,
      ∀ house' : House, house'.Sound ∧ house'.parameters = house.parameters →
        ∃ done, operation house' = .ok done ∧ done.house.Sound ∧
          done.house.parameters = house.parameters := by
    intro _ hmem house' ⟨hsound, hparameters⟩
    obtain ⟨operation, -, rfl⟩ := List.mem_map.mp hmem
    obtain ⟨done, hdone, hsound, hsame⟩ := hsound.perform operation
    exact ⟨done, hdone, hsound, hsame.trans hparameters⟩
  exact inTurn_keeps hkeeps ⟨h, rfl⟩

/-- **No sequence of operations meets a fault.**  A house with a lamp of any load and a
battery within its preconditions can be built; whatever is then done to it, in any order and
number, succeeds, and leaves its heat pump, its turbine and its battery within their ranges,
the glyph of its charge among the six, and what it was built with as it was. -/
theorem inTurn_operations_sound {maxCharge maxRate charge : Int32} (hcapacity : 0 < maxCharge)
    (hrate : 0 < maxRate) (hcharge : 0 ≤ charge ∧ charge ≤ maxCharge) (loadWhenOn : Int32)
    (operations : List Operation) :
    ∃ battery done glyph,
      Battery.build maxCharge maxRate charge = .ok battery ∧
      House.inTurn { lamp := { loadWhenOn }, battery }
        (operations.map Operation.perform) = .ok done ∧
      done.house.Sound ∧
      done.house.parameters = { loadWhenOn, maxCharge, maxRate } ∧
      done.house.battery.glyphIndex = .ok glyph ∧ glyph < 6 := by
  have hbuild := Battery.build_eq_ok hcapacity hrate hcharge
  have hnew := sound_of_build hbuild { loadWhenOn }
  have hkeeps : ∀ operation ∈ operations.map Operation.perform,
      ∀ house : House, house.Sound ∧ house.parameters = { loadWhenOn, maxCharge, maxRate } →
        ∃ done, operation house = .ok done ∧ done.house.Sound ∧
          done.house.parameters = { loadWhenOn, maxCharge, maxRate } := by
    intro _ hmem house ⟨hsound, hparameters⟩
    obtain ⟨operation, -, rfl⟩ := List.mem_map.mp hmem
    obtain ⟨done, hdone, hsound, hsame⟩ := hsound.perform operation
    exact ⟨done, hdone, hsound, hsame.trans hparameters⟩
  obtain ⟨done, hdone, hsound, hparameters⟩ := inTurn_keeps hkeeps ⟨hnew, rfl⟩
  obtain ⟨glyph, hglyph⟩ := hsound.battery.glyphIndex
  exact ⟨_, done, glyph, hbuild, hdone, hsound, hparameters, hglyph,
    Battery.glyphIndex_lt hglyph⟩

/-- Operations that go to the ends of the words: a battery asked for the greatest flow while
a lamp of the greatest load is on, then for the least, and a pump stepped up past its top. -/
def utmostOperations : List Operation :=
  let asked (text : String) : Operation := .dispatch (Text.Utf8.encode text.toList)
  [asked "battery 2147483647", asked "led on", .pressWind, .balance,
    asked "battery -2147483648", .balance, asked "heatpump 4", asked "heatpump more",
    .pressHeatPump, .balance, .shutDown, asked "oven on"]

/-- The greatest battery, a unit short of full, and the greatest lamp stand them. -/
theorem inTurn_operations_sound_utmost :
    (0 : Int32) < 0x7FFFFFFF ∧ ((0 : Int32) ≤ 0x7FFFFFFE ∧ (0x7FFFFFFE : Int32) ≤ 0x7FFFFFFF) ∧
      ∃ battery done glyph,
        Battery.build 0x7FFFFFFF 0x7FFFFFFF 0x7FFFFFFE = .ok battery ∧
        House.inTurn { lamp := { loadWhenOn := 0x7FFFFFFF }, battery }
          (utmostOperations.map Operation.perform) = .ok done ∧
        done.house.Sound ∧
        done.house.parameters = ⟨0x7FFFFFFF, 0x7FFFFFFF, 0x7FFFFFFF⟩ ∧
        done.house.battery.glyphIndex = .ok glyph ∧ glyph < 6 := by
  have hpos : (0 : Int32) < 0x7FFFFFFF := by decide
  have hcharge : (0 : Int32) ≤ 0x7FFFFFFE ∧ (0x7FFFFFFE : Int32) ≤ 0x7FFFFFFF := by decide
  exact ⟨hpos, hcharge,
    inTurn_operations_sound hpos hpos hcharge 0x7FFFFFFF utmostOperations⟩

end House

end HomeEnergy
