import HomeEnergy.Proofs.House.Operations
import HomeEnergy.Proofs.Text.Literals

/-!
# The levels of the heat pump

A command that spells an integer selects a level, and an integer that is no level selects none and
turns the pump off.  Any other command steps the pump up by one, from the highest level to off.
The two are told apart by whether the action can be read as a word, so that an integer beyond the
words steps up as well.

* `Sound.useAll` — whatever is done to a heat pump, it keeps to its levels;
* `useAll_obeys` — **what any command does to a heat pump with any past**;
* `long_literal_steps_up` — an integer that should turn the pump off, but does not.
-/

namespace HomeEnergy

namespace HeatPump

/-- What can be done to a heat pump. -/
inductive Use
  | command (action : List UInt8)
  | toggle
  | sync
  | shutDown
  deriving Repr, DecidableEq

/-- The heat pump after it. -/
def use (pump : HeatPump) : Use → Except Fault HeatPump
  | .command action => pump.command action
  | .toggle => return pump.toggle
  | .sync => do
    let _ ← pump.sync
    return pump
  | .shutDown => return pump.shutDown.2

/-- The heat pump after all of these, one after the other. -/
def useAll (pump : HeatPump) (uses : List Use) : Except Fault HeatPump :=
  uses.foldlM use pump

variable {pump : HeatPump}

/-- No use of a sound pump is a fault. -/
theorem Sound.use (h : pump.Sound) (use : Use) :
    ∃ next, pump.use use = .ok next ∧ next.Sound := by
  cases use with
  | command action => exact h.command action
  | toggle => exact ⟨pump.toggle, rfl, h.toggle⟩
  | sync =>
    obtain ⟨write, hwrite⟩ := h.sync
    exact ⟨pump, bind_eq_ok_iff.mpr ⟨write, hwrite, rfl⟩, h⟩
  | shutDown => exact ⟨pump.shutDown.2, rfl, h.shutDown⟩

/-- Whatever is done to a sound pump, it stays sound. -/
theorem Sound.useAll (h : pump.Sound) (uses : List Use) :
    ∃ next, pump.useAll uses = .ok next ∧ next.Sound :=
  foldlM_keeps (fun _ use hsound => hsound.use use) h uses

/-- The level that an integer selects: itself, or off if there is no such level. -/
def selected (n : Int) : Int := if 0 ≤ n ∧ n ≤ 4 then n else 0

theorem level_setLevel (pump : HeatPump) (level : Int32) :
    (pump.setLevel level).level.toInt = selected level.toInt := by
  have hzero : (0 : Int32).toInt = 0 := rfl
  have hmax : maxLevel.toInt = 4 := rfl
  unfold setLevel selected
  simp only [Int32.le_iff_toInt_le, hzero, hmax]
  by_cases hlevel : 0 ≤ level.toInt ∧ level.toInt ≤ 4
  · rw [if_pos hlevel, if_pos hlevel]
  · rw [if_neg hlevel, if_neg hlevel]
    exact hzero

/-- What has become of a pump that was given a command. -/
structure Obeys (pump : HeatPump) (action : List UInt8) (next : HeatPump) : Prop where
  /-- An integer that is the value of a word selects a level. -/
  selects {n : Int} (h : Wire.SpellsInteger action n) (hfits : Word.Fits n) :
    next.level.toInt = selected n
  /-- What spells no integer steps up. -/
  stepsUp (h : ∀ n, ¬ Wire.SpellsInteger action n) :
    next.level.toInt = if pump.level.toInt = 4 then 0 else pump.level.toInt + 1
  /-- So does an integer beyond the words. -/
  stepsUp_beyond {n : Int} (h : Wire.SpellsInteger action n) (hbeyond : ¬ Word.Fits n) :
    next.level.toInt = if pump.level.toInt = 4 then 0 else pump.level.toInt + 1

/-- A command that cannot be read as a word steps a sound pump up. -/
theorem Sound.command_of_none (h : pump.Sound) {action : List UInt8}
    (hnone : Wire.actionValue? action = none) :
    ∃ next, pump.command action = .ok next ∧
      next.level.toInt = if pump.level.toInt = 4 then 0 else pump.level.toInt + 1 := by
  have hnonneg := h.level_nonneg
  have hle := h.level_le
  have hfits : Word.Fits (pump.level.toInt + 1) := by
    unfold Word.Fits
    omega
  obtain ⟨above, habove, hvalue⟩ := Word.checked_ok hfits
  refine ⟨pump.setLevel above, ?_, ?_⟩
  · rw [HeatPump.command, hnone, habove]
    rfl
  · rw [level_setLevel, hvalue, selected]
    by_cases htop : pump.level.toInt = 4
    · rw [if_pos htop, if_neg (by omega)]
    · rw [if_neg htop, if_pos (by omega)]

/-- **Every command to a sound pump is obeyed.** -/
theorem Sound.obeys (h : pump.Sound) (action : List UInt8) :
    ∃ next, pump.command action = .ok next ∧ pump.Obeys action next := by
  cases hvalue : Wire.actionValue? action with
  | some level =>
    have hspells := Wire.actionValue?_eq_some_iff.mp hvalue
    refine ⟨pump.setLevel level, ?_, ?_, ?_, ?_⟩
    · rw [HeatPump.command, hvalue]
    · intro n hn _
      rw [hn.unique hspells]
      exact level_setLevel pump level
    · intro hnone
      exact absurd hspells (hnone level.toInt)
    · intro n hn hbeyond
      rw [hn.unique hspells] at hbeyond
      exact absurd (Word.fits_toInt level) hbeyond
  | none =>
    have hbeyond := Wire.actionValue?_eq_none_iff.mp hvalue
    obtain ⟨next, hnext, hlevel⟩ := h.command_of_none hvalue
    exact ⟨next, hnext, fun hn hfits => absurd hfits (hbeyond _ hn), fun _ => hlevel,
      fun _ _ => hlevel⟩

/-- **What a command does to the level, whatever the heat pump has been through.**  After any
commands, toggles, syncs and shutdowns the pump is at one of its levels, and a command of any bytes
succeeds.  If it spells an integer that is the value of a word, this integer is the new level, or
the pump is off if there is no such level.  If it spells no integer, or one beyond the words, the
pump steps up by one, from the highest level to off. -/
theorem useAll_obeys (uses : List Use) :
    ∃ pump, HeatPump.useAll {} uses = .ok pump ∧ pump.Sound ∧
      ∀ action, ∃ next, pump.command action = .ok next ∧ pump.Obeys action next := by
  obtain ⟨pump, hpump, hsound⟩ := sound_new.useAll uses
  exact ⟨pump, hpump, hsound, hsound.obeys⟩

/-- An integer of eleven digits, far above all levels. -/
def longLiteral : List UInt8 := Text.Utf8.encode "99999999999".toList

/-- **An integer beyond the words is not taken for a level that there is none of**: the pump is at
level 1 after it and not off. -/
theorem long_literal_steps_up :
    Wire.SpellsInteger longLiteral 99999999999 ∧
      ∃ pump, HeatPump.useAll {} [.command longLiteral] = .ok pump ∧ pump.level.toInt = 1 ∧
        pump.level.toInt ≠ selected 99999999999 := by
  have hspells : Wire.SpellsInteger longLiteral 99999999999 := by
    rw [Wire.spellsInteger_iff]
    exact ⟨"99999999999".toList, Text.Utf8.decode?_encode _, by decide⟩
  have hnone : Wire.actionValue? longLiteral = none := by
    rw [Wire.actionValue?_eq_none_iff]
    intro n hn
    rw [hn.unique hspells]
    decide
  have hcommand : HeatPump.useAll {} [.command longLiteral] = .ok (setLevel {} 1) := by
    show (HeatPump.command {} longLiteral >>= pure) = _
    rw [HeatPump.command, hnone]
    rfl
  exact ⟨hspells, _, hcommand, rfl, by decide⟩

end HeatPump

end HomeEnergy
