import HomeEnergy.Proofs.House.Operations

/-!
# The meaning of a stream of commands

Lines that are dispatched one after the other reach the appliances they address and nothing
else.  What the lamp and the battery make of them is decided by the last line that means
anything to them; the heat pump takes its commands one by one; the turbine ignores them.

* `foldl_command` — what a lamp and a battery make of some actions;
* `dispatchAll_eq` — a stream of lines, taken apart by the appliance addressed;
* `dispatchAll_meaning` — **what a stream of lines does**, and that lines to different
  appliances may change places.
-/

namespace HomeEnergy

namespace Wire.Command

/-- The action that a line asks of a target, if it is a command that addresses it. -/
def actionFor? (target : Target) (line : Line) : Option (List UInt8) :=
  match parse line with
  | .ok cmd => if cmd.target = target then some cmd.action else none
  | .error _ => none

/-- The actions that some lines ask of a target, in order. -/
def actionsFor (target : Target) (lines : List Line) : List (List UInt8) :=
  lines.filterMap (actionFor? target)

/-- The lines that address a target, in order. -/
def linesFor (target : Target) (lines : List Line) : List Line :=
  lines.filter fun line => (actionFor? target line).isSome

theorem actionsFor_append (target : Target) (lines lines' : List Line) :
    actionsFor target (lines ++ lines') = actionsFor target lines ++ actionsFor target lines' :=
  List.filterMap_append

theorem actionsFor_singleton (target : Target) (line : Line) :
    actionsFor target [line] = (actionFor? target line).toList := by
  rw [actionsFor, List.filterMap_cons]
  cases actionFor? target line <;> rfl

theorem actionFor?_of_error {line : Line} {e : CommandError} (h : parse line = .error e)
    (target : Target) : actionFor? target line = none := by
  rw [actionFor?, h]

theorem actionFor?_of_ok {line : Line} {cmd : Command} (h : parse line = .ok cmd)
    (target : Target) :
    actionFor? target line = if cmd.target = target then some cmd.action else none := by
  rw [actionFor?, h]

/-- The lines that address a target decide what is asked of it. -/
theorem actionsFor_linesFor (target : Target) (lines : List Line) :
    actionsFor target (linesFor target lines) = actionsFor target lines := by
  rw [actionsFor, actionsFor, linesFor, List.filterMap_filter]
  congr 1
  funext line
  cases actionFor? target line <;> rfl

end Wire.Command

open Wire Wire.Command

/-- A lamp obeys the last of its commands. -/
theorem Lamp.foldl_command (lamp : Lamp) (actions : List (List UInt8)) :
    actions.foldl Lamp.command lamp =
      { lamp with isOn := (actions.getLast?.map (· == onAction)).getD lamp.isOn } := by
  induction actions generalizing lamp with
  | nil => rfl
  | cons action actions ih =>
    rw [List.foldl_cons, ih, List.getLast?_cons]
    cases actions.getLast? <;> rfl

/-- A battery aims at the last number it was given. -/
theorem Battery.foldl_command (battery : Battery) (actions : List (List UInt8)) :
    actions.foldl Battery.command battery =
      { battery with
        netTarget := (actions.filterMap actionValue?).getLast?.getD battery.netTarget } := by
  induction actions generalizing battery with
  | nil => rfl
  | cons action actions ih =>
    rw [List.foldl_cons, ih, List.filterMap_cons, Battery.command]
    cases actionValue? action with
    | none => rfl
    | some value =>
      dsimp only
      rw [List.getLast?_cons]
      rfl

/-- A sound heat pump obeys any commands, and stays sound. -/
theorem HeatPump.Sound.foldlM_command {pump : HeatPump} (h : pump.Sound)
    (actions : List (List UInt8)) :
    ∃ pump', actions.foldlM HeatPump.command pump = .ok pump' ∧ pump'.Sound :=
  foldlM_keeps (fun _ action hsound => hsound.command action) h actions

namespace House

/-- Dispatches lines one after the other. -/
def dispatchAll (house : House) (lines : List Line) :
    Except Fault (Done (List (Except CommandError Target))) :=
  house.inTurn (lines.map fun line house => house.dispatch line)

/-- The house whose lamp and battery have obeyed the lines addressed to them, with this
heat pump. -/
def commanded (house : House) (lines : List Line) (heatPump : HeatPump) : House :=
  { house with
    lamp := (actionsFor .led lines).foldl Lamp.command house.lamp
    battery := (actionsFor .battery lines).foldl Battery.command house.battery
    heatPump }

@[simp]
theorem commanded_heatPump (house : House) (lines : List Line) (heatPump : HeatPump) :
    (house.commanded lines heatPump).heatPump = heatPump :=
  rfl

theorem commanded_commanded (house : House) (lines lines' : List Line) (first last : HeatPump) :
    (house.commanded lines first).commanded lines' last =
      house.commanded (lines ++ lines') last := by
  simp only [commanded, actionsFor_append, List.foldl_append]

/-- A line that is no command is refused for its reason, and nothing changes. -/
theorem dispatch_of_error {house : House} {line : Line} {e : CommandError}
    (h : parse line = .error e) :
    house.dispatch line = .ok { answer := .error e, writes := [], house } := by
  rw [dispatch, h]
  rfl

/-- A line reaches the appliance that it addresses. -/
theorem dispatch_eq (house : House) (line : Line) :
    house.dispatch line =
      (actionsFor .heatPump [line]).foldlM HeatPump.command house.heatPump >>= fun heatPump =>
        .ok {
          answer := (parse line).map (·.target)
          writes := []
          house := house.commanded [line] heatPump } := by
  cases hparse : parse line with
  | error e =>
    simp only [dispatch_of_error hparse, commanded, actionsFor_singleton,
      actionFor?_of_error hparse]
    rfl
  | ok cmd =>
    obtain ⟨target, action⟩ := cmd
    simp only [dispatch, hparse, commanded, actionsFor_singleton,
      actionFor?_of_ok hparse]
    cases target with
    | heatPump =>
      simp only [obey, appliance, Appliance.command, if_true, Option.toList, List.foldlM_cons]
      cases house.heatPump.command action <;> rfl
    | _ => rfl

/-- A stream of lines is taken apart by the appliance addressed. -/
theorem dispatchAll_eq (house : House) (lines : List Line) :
    house.dispatchAll lines =
      (actionsFor .heatPump lines).foldlM HeatPump.command house.heatPump >>= fun heatPump =>
        .ok {
          answer := lines.map fun line => (parse line).map (·.target)
          writes := []
          house := house.commanded lines heatPump } := by
  induction lines generalizing house with
  | nil => rfl
  | cons line lines ih =>
    have hcons : house.dispatchAll (line :: lines) = house.dispatch line >>= fun first =>
        first.house.dispatchAll lines >>= fun rest => .ok {
          answer := first.answer :: rest.answer
          writes := first.writes ++ rest.writes
          house := rest.house } := rfl
    -- the pump obeys the first line before the others, the other appliances whenever they like
    have hactions : actionsFor .heatPump (line :: lines) =
        actionsFor .heatPump [line] ++ actionsFor .heatPump lines :=
      actionsFor_append .heatPump [line] lines
    rw [hcons, dispatch_eq, hactions, List.foldlM_append]
    cases (actionsFor .heatPump [line]).foldlM HeatPump.command house.heatPump with
    | error f => rfl
    | ok first =>
      show ((house.commanded [line] first).dispatchAll lines >>= fun rest => .ok _) =
        (actionsFor .heatPump lines).foldlM HeatPump.command first >>= fun heatPump => .ok _
      simp only [ih, commanded_heatPump, commanded_commanded]
      cases (actionsFor .heatPump lines).foldlM HeatPump.command first <;> rfl

/-- Lines that reach each target in the same order leave the same house. -/
theorem dispatchAll_congr (house : House) {lines lines' : List Line}
    (h : ∀ target, linesFor target lines' = linesFor target lines) :
    Done.house <$> house.dispatchAll lines' = Done.house <$> house.dispatchAll lines := by
  have hactions (target : Target) : actionsFor target lines' = actionsFor target lines := by
    rw [← actionsFor_linesFor, h, actionsFor_linesFor]
  simp only [dispatchAll_eq, commanded, hactions]
  cases (actionsFor .heatPump lines).foldlM HeatPump.command house.heatPump <;> rfl

/-- **What a stream of lines does.**  A line that is no command is refused for its reason and
changes nothing.  No line writes to an output.  The lamp is on if the last action for it was
the one that turns it on, the battery aims at the last number among the actions for it, and
the heat pump obeys the actions for it one by one; nothing else changes.  In a sound house the
heat pump can obey them all.  Lines that reach each appliance in the same order leave the same
house, however lines to different ones are mixed. -/
theorem dispatchAll_meaning (house : House) (lines : List Line) :
    (∀ line e, parse line = .error e →
      house.dispatch line = .ok { answer := .error e, writes := [], house }) ∧
    house.dispatchAll lines =
      (actionsFor .heatPump lines).foldlM HeatPump.command house.heatPump >>= (fun heatPump =>
        .ok {
          answer := lines.map fun line => (parse line).map (·.target)
          writes := []
          house := { house with
            lamp := { house.lamp with
              isOn := ((actionsFor .led lines).getLast?.map (· == Lamp.onAction)).getD
                house.lamp.isOn }
            battery := { house.battery with
              netTarget := ((actionsFor .battery lines).filterMap actionValue?).getLast?.getD
                house.battery.netTarget }
            heatPump } }) ∧
    (house.Sound →
      ∃ heatPump, (actionsFor .heatPump lines).foldlM HeatPump.command house.heatPump =
        .ok heatPump ∧ heatPump.Sound) ∧
    ∀ lines', (∀ target, linesFor target lines' = linesFor target lines) →
      Done.house <$> house.dispatchAll lines' = Done.house <$> house.dispatchAll lines := by
  refine ⟨fun line e h => dispatch_of_error h, ?_, fun h => h.heatPump.foldlM_command _,
    fun lines' h => dispatchAll_congr house h⟩
  rw [dispatchAll_eq]
  simp only [commanded, Lamp.foldl_command, Battery.foldl_command]

end House

end HomeEnergy
