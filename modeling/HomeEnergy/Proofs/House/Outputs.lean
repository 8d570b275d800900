import HomeEnergy.Proofs.House.Commands
import Mathlib.Data.List.Induction

/-!
# What the outputs show

Each output lags behind the house in its own way.  The lamp's pin is written at balances and
shutdowns only, the pixel also when the heat pump's button is pressed; the turbine's duty never
lags, but a shutdown takes it away while the wind goes on.  Commands write nothing.

* `Operation.Course` — what an operation does that meets no fault;
* `Operation.Writes` — what an operation writes, by the house that it leaves;
* `ShowsLatest.concat` — what an output was last told, after one more operation;
* `inTurn_outputs_show` — **what the three outputs show after any operations on a new house.**
-/

namespace HomeEnergy

namespace Operation

/-- The lamp's pin is written. -/
def writesLamp : Operation → Bool
  | .balance | .shutDown => true
  | _ => false

/-- The heat pump's pixel is written. -/
def writesPixel : Operation → Bool
  | .balance | .pressHeatPump | .shutDown => true
  | _ => false

/-- The turbine's output is given its duty. -/
def givesDuty : Operation → Bool
  | .balance | .pressWind => true
  | _ => false

/-- After the operations `before` this one was done, and since then none of a kind. -/
def LastDone (kind : Operation → Bool) (operations before : List Operation)
    (operation : Operation) : Prop :=
  ∃ since, operations = before ++ operation :: since ∧ ∀ later ∈ since, kind later = false

theorem lastDone_concat {kind : Operation → Bool} {operations before : List Operation}
    {next operation : Operation} :
    LastDone kind (operations ++ [next]) before operation ↔
      (before = operations ∧ operation = next) ∨
        (kind next = false ∧ LastDone kind operations before operation) := by
  constructor
  · rintro ⟨since, hsplit, hsince⟩
    rcases List.eq_nil_or_concat since with rfl | ⟨since, last, rfl⟩
    · obtain ⟨hbefore, hlast⟩ := List.append_inj' hsplit rfl
      cases hlast
      exact .inl ⟨hbefore.symm, rfl⟩
    · have hsplit : operations ++ [next] = (before ++ operation :: since) ++ [last] := by
        simpa using hsplit
      obtain ⟨hbefore, hlast⟩ := List.append_inj' hsplit rfl
      cases hlast
      exact .inr ⟨hsince next (by simp), since, hbefore, fun later h => hsince later (by simp [h])⟩
  · rintro (⟨rfl, rfl⟩ | ⟨hnext, since, rfl, hsince⟩)
    · exact ⟨[], rfl, fun _ h => (List.not_mem_nil h).elim⟩
    · refine ⟨since ++ [next], by simp, fun later hlater => ?_⟩
      rcases List.mem_append.mp hlater with hlater | hlater
      · exact hsince later hlater
      · rw [List.mem_singleton.mp hlater]
        exact hnext

/-- What an operation writes, by the house that it leaves. -/
inductive Writes (house : House) : Operation → List Output → Prop
  | dispatch (line : Wire.Line) : Writes house (.dispatch line) []
  | balance {colour : Colour} {duty : UInt16}
      (hcolour : HeatPump.colour house.heatPump.level = .ok colour)
      (hduty : house.turbine.duty = .ok duty) :
      Writes house .balance [.lamp house.lamp.isOn, .pixels [colour], .duty duty]
  | pressWind {duty : UInt16} (hduty : house.turbine.duty = .ok duty) :
      Writes house .pressWind [.duty duty]
  | pressHeatPump {colour : Colour}
      (hcolour : HeatPump.colour house.heatPump.level = .ok colour) :
      Writes house .pressHeatPump [.pixels [colour]]
  | shutDown (hlamp : house.lamp.isOn = false) (hlevel : house.heatPump.level = 0) :
      Writes house .shutDown [.duty 0, .pixels [.dark], .lamp false]

/-- What an operation does that meets no fault: its answer, what it writes and the house that
it leaves. -/
inductive Course (house : House) : Operation → Done Response → Prop
  | dispatch (line : Wire.Line) (heatPump : HeatPump) :
      Course house (.dispatch line) {
        answer := .dispatched ((Wire.Command.parse line).map (·.target))
        writes := []
        house := house.commanded [line] heatPump }
  | balance {balanced : Done Balance} (hbalanced : house.balance = .ok balanced) :
      Course house .balance (balanced.map .balanced)
  | pressWind {turbine : Turbine} {duty : UInt16}
      (hturbine : house.turbine.strengthen = .ok turbine) (hduty : turbine.duty = .ok duty) :
      Course house .pressWind {
        answer := .done, writes := [.duty duty], house := { house with turbine } }
  | pressHeatPump {colour : Colour}
      (hcolour : HeatPump.colour house.heatPump.toggle.level = .ok colour) :
      Course house .pressHeatPump {
        answer := .done
        writes := [.pixels [colour]]
        house := { house with heatPump := house.heatPump.toggle } }
  | shutDown : Course house .shutDown (house.shutDown.map fun _ => .done)

variable {house : House} {operation : Operation} {done : Done Response}

theorem course_of_perform (h : operation.perform house = .ok done) :
    Course house operation done := by
  cases operation with
  | dispatch line =>
    obtain ⟨dispatched, hdispatched, h⟩ := bind_eq_ok_iff.mp h
    rw [House.dispatch_eq] at hdispatched
    obtain ⟨heatPump, -, hdispatched⟩ := bind_eq_ok_iff.mp hdispatched
    cases hdispatched
    cases h
    exact .dispatch line heatPump
  | balance =>
    obtain ⟨balanced, hbalanced, h⟩ := bind_eq_ok_iff.mp h
    cases h
    exact .balance hbalanced
  | pressWind =>
    obtain ⟨pressed, hpressed, h⟩ := bind_eq_ok_iff.mp h
    obtain ⟨turbine, hturbine, hpressed⟩ := bind_eq_ok_iff.mp hpressed
    obtain ⟨write, hwrite, hpressed⟩ := bind_eq_ok_iff.mp hpressed
    obtain ⟨duty, hduty, hwrite⟩ := bind_eq_ok_iff.mp hwrite
    cases hwrite
    cases hpressed
    cases h
    exact .pressWind hturbine hduty
  | pressHeatPump =>
    obtain ⟨pressed, hpressed, h⟩ := bind_eq_ok_iff.mp h
    obtain ⟨write, hwrite, hpressed⟩ := bind_eq_ok_iff.mp hpressed
    obtain ⟨colour, hcolour, hwrite⟩ := bind_eq_ok_iff.mp hwrite
    cases hwrite
    cases hpressed
    cases h
    exact .pressHeatPump hcolour
  | shutDown =>
    cases h
    exact .shutDown

theorem Course.writes (h : Course house operation done) :
    Writes done.house operation done.writes := by
  cases h with
  | dispatch line heatPump => exact .dispatch line
  | @balance balanced hbalanced =>
    have hcourse := House.balanceCourse hbalanced
    obtain ⟨pumpWrite, turbineWrite, hpump, hturbine, hwrites⟩ := hcourse.writes_eq
    obtain ⟨colour, hcolour, hpump⟩ := bind_eq_ok_iff.mp hpump
    obtain ⟨duty, hduty, hturbine⟩ := bind_eq_ok_iff.mp hturbine
    cases hpump
    cases hturbine
    show Writes balanced.house _ balanced.writes
    rw [hwrites, hcourse.house_eq]
    exact .balance hcolour hduty
  | pressWind hturbine hduty => exact .pressWind hduty
  | pressHeatPump hcolour => exact .pressHeatPump hcolour
  | shutDown => exact .shutDown rfl rfl

/-- Only the wind button moves the wind. -/
theorem Course.turbine_eq (h : Course house operation done) (hnot : operation ≠ .pressWind) :
    done.house.turbine = house.turbine := by
  cases h with
  | @balance balanced hbalanced =>
    show balanced.house.turbine = _
    rw [(House.balanceCourse hbalanced).house_eq]
  | pressWind => exact absurd rfl hnot
  | _ => rfl

end Operation

namespace House

/-- The frame is the one colour of the pump's level. -/
def ShowsLevel (house : House) (frame : List Colour) : Prop :=
  ∃ colour, HeatPump.colour house.heatPump.level = .ok colour ∧ frame = [colour]

end House

namespace Operation.Writes

variable {house : House} {operation : Operation} {writes : List Output}

theorem lampHigh_eq (h : Writes house operation writes) (a : Actuators) :
    (a.writeAll writes).lampHigh =
      if operation.writesLamp then house.lamp.isOn else a.lampHigh := by
  cases h with
  | shutDown hlamp hlevel => exact hlamp.symm
  | _ => rfl

theorem showsLevel (h : Writes house operation writes) (hkind : operation.writesPixel = true)
    (a : Actuators) : house.ShowsLevel (a.writeAll writes).frame := by
  cases h with
  | balance hcolour hduty => exact ⟨_, hcolour, rfl⟩
  | pressHeatPump hcolour => exact ⟨_, hcolour, rfl⟩
  | shutDown hlamp hlevel =>
    refine ⟨.dark, ?_, rfl⟩
    rw [hlevel]
    rfl
  | _ => cases hkind

theorem frame_eq (h : Writes house operation writes) (hkind : operation.writesPixel = false)
    (a : Actuators) : (a.writeAll writes).frame = a.frame := by
  cases h with
  | dispatch line => rfl
  | pressWind hduty => rfl
  | _ => cases hkind

theorem duty_eq_ok (h : Writes house operation writes) (hkind : operation.givesDuty = true)
    (a : Actuators) : house.turbine.duty = .ok (a.writeAll writes).duty := by
  cases h with
  | balance hcolour hduty => exact hduty
  | pressWind hduty => exact hduty
  | _ => cases hkind

theorem duty_eq (h : Writes house operation writes) (hkind : operation.givesDuty = false)
    (a : Actuators) :
    (a.writeAll writes).duty = if operation = .shutDown then 0 else a.duty := by
  cases h with
  | dispatch line => rfl
  | pressHeatPump hcolour => rfl
  | shutDown hlamp hlevel => rfl
  | _ => cases hkind

end Operation.Writes

namespace House

/-- A value that shows of the house what it was right after the latest operation of a kind;
before the first one it is the value at rest. -/
structure ShowsLatest {β : Type} (new : House) (kind : Operation → Bool)
    (shows : House → β → Prop) (rest : β) (operations : List Operation) (value : β) : Prop where
  latest {before : List Operation} {operation : Operation} (hkind : kind operation = true)
    (h : Operation.LastDone kind operations before operation) :
    ∃ moment, new.inTurn ((before ++ [operation]).map Operation.perform) = .ok moment ∧
      shows moment.house value
  never (h : ∀ operation ∈ operations, kind operation = false) : value = rest

theorem showsLatest_nil {β : Type} (new : House) (kind : Operation → Bool)
    (shows : House → β → Prop) (rest : β) : new.ShowsLatest kind shows rest [] rest where
  latest _ h := by
    obtain ⟨since, hsplit, -⟩ := h
    exact absurd hsplit (by simp)
  never _ := rfl

/-- An operation of the kind has the value show the house that it leaves, any other one
leaves the value alone. -/
theorem ShowsLatest.concat {β : Type} {new : House} {kind : Operation → Bool}
    {shows : House → β → Prop} {rest value value' : β} {operations : List Operation}
    {next : Operation} {done : Done (List Response)}
    (h : new.ShowsLatest kind shows rest operations value)
    (hdone : new.inTurn ((operations ++ [next]).map Operation.perform) = .ok done)
    (hwritten : kind next = true → shows done.house value')
    (hkept : kind next = false → value' = value) :
    new.ShowsLatest kind shows rest (operations ++ [next]) value' where
  latest hkind hlast := by
    rcases Operation.lastDone_concat.mp hlast with ⟨rfl, rfl⟩ | ⟨hnext, hlast⟩
    · exact ⟨done, hdone, hwritten hkind⟩
    · rw [hkept hnext]
      exact h.latest hkind hlast
  never hnever := by
    rw [hkept (hnever next (by simp))]
    exact h.never fun operation hmem => hnever operation (List.mem_append_left _ hmem)

/-- What the outputs show after some operations on a new house, and the house after them. -/
structure OutputsShow (new : House) (operations : List Operation) (house : House)
    (outputs : Actuators) : Prop where
  lamp : new.ShowsLatest Operation.writesLamp (fun house high => high = house.lamp.isOn) false
    operations outputs.lampHigh
  pixel : new.ShowsLatest Operation.writesPixel ShowsLevel [] operations outputs.frame
  /-- A shutdown takes the duty away until a balance or the wind button gives it back. -/
  duty_taken {before : List Operation}
    (h : Operation.LastDone Operation.givesDuty operations before .shutDown) : outputs.duty = 0
  duty_given (h : ∀ before, ¬ Operation.LastDone Operation.givesDuty operations before .shutDown) :
    house.turbine.duty = .ok outputs.duty

/-- One more operation on the house. -/
theorem OutputsShow.concat {new house : House} {operations : List Operation}
    {outputs : Actuators} {next : Operation} {final : Done Response}
    {done : Done (List Response)} (h : new.OutputsShow operations house outputs)
    (hfinal : next.perform house = .ok final)
    (hdone : new.inTurn ((operations ++ [next]).map Operation.perform) = .ok done)
    (hhouse : done.house = final.house) :
    new.OutputsShow (operations ++ [next]) final.house (outputs.writeAll final.writes) := by
  have hcourse := Operation.course_of_perform hfinal
  have hwrites := hcourse.writes
  rw [← hhouse] at hwrites ⊢
  have hlamp := hwrites.lampHigh_eq outputs
  refine ⟨?_, ?_, ?_, ?_⟩
  · refine h.lamp.concat hdone (fun hkind => ?_) (fun hkind => ?_)
    · rw [hlamp, if_pos hkind]
    · rw [hlamp, hkind]
      rfl
  · exact h.pixel.concat hdone (fun hkind => hwrites.showsLevel hkind outputs)
      (fun hkind => hwrites.frame_eq hkind outputs)
  · intro before hlast
    rcases Operation.lastDone_concat.mp hlast with ⟨-, rfl⟩ | ⟨hkind, hlast⟩
    · exact hwrites.duty_eq rfl outputs
    · rw [hwrites.duty_eq hkind, h.duty_taken hlast, ite_self]
  · intro hnot
    cases hkind : next.givesDuty with
    | true => exact hwrites.duty_eq_ok hkind outputs
    | false =>
      have hshut : next ≠ .shutDown := by
        rintro rfl
        exact hnot operations (Operation.lastDone_concat.mpr (.inl ⟨rfl, rfl⟩))
      have hwind : next ≠ .pressWind := by
        rintro rfl
        cases hkind
      have hbefore : ∀ before,
          ¬ Operation.LastDone Operation.givesDuty operations before .shutDown :=
        fun before hlast => hnot before (Operation.lastDone_concat.mpr (.inr ⟨hkind, hlast⟩))
      rw [hwrites.duty_eq hkind, if_neg hshut, hhouse, hcourse.turbine_eq hwind]
      exact h.duty_given hbefore

/-- The outputs after any operations, by induction on the latest of them. -/
theorem outputsShow_of_inTurn {new : House} (hcalm : new.turbine = {})
    (operations : List Operation) {done : Done (List Response)}
    (h : new.inTurn (operations.map Operation.perform) = .ok done) :
    new.OutputsShow operations done.house (Actuators.writeAll {} done.writes) := by
  induction operations using List.reverseRecOn generalizing done with
  | nil =>
    cases h
    refine ⟨showsLatest_nil _ _ _ _, showsLatest_nil _ _ _ _, fun _ => rfl, fun _ => ?_⟩
    rw [hcalm]
    rfl
  | append_singleton operations next ih =>
    have hdone := h
    rw [List.map_append, List.map_singleton, inTurn_concat] at h
    obtain ⟨first, final, hfirst, hfinal, rfl⟩ := h
    rw [Actuators.writeAll_append]
    exact (ih hfirst).concat hfinal hdone rfl

/-- Right after a balance nothing lags. -/
theorem OutputsShow.of_balance {new : House} {before : List Operation} {outputs : Actuators}
    {done : Done (List Response)}
    (h : new.OutputsShow (before ++ [Operation.balance]) done.house outputs)
    (hdone : new.inTurn ((before ++ [Operation.balance]).map Operation.perform) = .ok done) :
    outputs.lampHigh = done.house.lamp.isOn ∧ done.house.ShowsLevel outputs.frame ∧
      done.house.turbine.duty = .ok outputs.duty := by
  have hlast (kind : Operation → Bool) :
      Operation.LastDone kind (before ++ [Operation.balance]) before .balance :=
    Operation.lastDone_concat.mpr (.inl ⟨rfl, rfl⟩)
  obtain ⟨moment, hmoment, hlamp⟩ := h.lamp.latest rfl (hlast _)
  obtain ⟨moment', hmoment', hlevel⟩ := h.pixel.latest rfl (hlast _)
  cases hdone.symm.trans hmoment
  cases hdone.symm.trans hmoment'
  refine ⟨hlamp, hlevel, h.duty_given fun before' hshut => ?_⟩
  rcases Operation.lastDone_concat.mp hshut with ⟨-, hshut⟩ | ⟨hkind, -⟩
  · cases hshut
  · cases hkind

/-- **What the outputs show.**  Whatever was done to a new house, its lamp's pin shows whether
the lamp was on right after the latest balance or shutdown, and is low before the first; its
pixel shows the level right after the latest balance, press of the heat pump button or
shutdown, and nothing before the first; the duty is the one of the wind, except that a
shutdown takes it away until a balance or the wind button gives it back.  So right after a
balance all three show the house as it is. -/
theorem inTurn_outputs_show {maxCharge maxRate charge : Int32} {battery : Battery}
    (hbuild : Battery.build maxCharge maxRate charge = .ok battery) (loadWhenOn : Int32)
    (operations : List Operation) :
    ∃ done, House.inTurn { lamp := { loadWhenOn }, battery }
        (operations.map Operation.perform) = .ok done ∧
      let outputs := Actuators.writeAll {} done.writes
      OutputsShow { lamp := { loadWhenOn }, battery } operations done.house outputs ∧
      ∀ before, operations = before ++ [.balance] →
        outputs.lampHigh = done.house.lamp.isOn ∧ done.house.ShowsLevel outputs.frame ∧
          done.house.turbine.duty = .ok outputs.duty := by
  obtain ⟨done, hdone, -, -⟩ := (sound_of_build hbuild { loadWhenOn }).inTurn operations
  have hshow := outputsShow_of_inTurn rfl operations hdone
  refine ⟨done, hdone, hshow, ?_⟩
  rintro before rfl
  exact hshow.of_balance hdone

/-- Operations after which all three outputs lag: the lamp is turned on and the wind blows, but
neither is shown, and the pixel shows the level that the button went back to. -/
def laggingOperations : List Operation :=
  let asked (text : String) : Operation := .dispatch (Text.Utf8.encode text.toList)
  [asked "heatpump 3", .pressWind, .balance, .shutDown, asked "led on", .pressHeatPump,
    asked "heatpump 1"]

theorem inTurn_outputs_show_lagging :
    Battery.build 50 3 0 = .ok { maxCharge := 50, maxRate := 3, charge := 0 } ∧
      let new : House :=
        { lamp := { loadWhenOn := 1 }, battery := { maxCharge := 50, maxRate := 3, charge := 0 } }
      ∃ done, new.inTurn (laggingOperations.map Operation.perform) = .ok done ∧
        new.OutputsShow laggingOperations done.house (Actuators.writeAll {} done.writes) ∧
        Actuators.writeAll {} done.writes = { frame := [⟨64, 64, 0⟩] } ∧
        done.house.lamp.isOn = true ∧ done.house.heatPump.level = 1 ∧
        done.house.turbine.duty = .ok 225 := by
  have hbuild : Battery.build 50 3 0 = .ok { maxCharge := 50, maxRate := 3, charge := 0 } := rfl
  obtain ⟨done, hdone, hshow, -⟩ := inTurn_outputs_show hbuild 1 laggingOperations
  refine ⟨hbuild, done, hdone, hshow, ?_⟩
  cases hdone
  exact ⟨rfl, rfl, rfl, rfl⟩

end House

end HomeEnergy
