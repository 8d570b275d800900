import HomeEnergy.Proofs.House.Levels

/-!
# Going back to the level last in use

A heat pump that is switched on again by a toggle goes back to a level that it keeps in mind.
What it keeps in mind is written by every use that leaves the pump on, and by no use that leaves
it off, so that it is always the level that the pump was last on at, however it was turned off.

* `Sound.resumeLevel_use` — what a use does to the level kept in mind;
* `Sound.resumes` — after any uses, this level is the last one above off among those since;
* `toggle_resumes` — **what a toggle does to a heat pump with any past.**
-/

namespace HomeEnergy.HeatPump

/-- The levels that the heat pump is at after each of these uses. -/
def levels (pump : HeatPump) : List Use → Except Fault (List Int32)
  | [] => return []
  | use :: later => do
    let next ← pump.use use
    return next.level :: (← next.levels later)

/-- The last of some levels at which the pump is on. -/
def lastOn? (levels : List Int32) : Option Int32 := levels.reverse.find? (· ≠ 0)

/-- A level counts only until the pump is on again. -/
theorem getD_lastOn?_cons (level : Int32) (later : List Int32) (before : Int32) :
    (lastOn? (level :: later)).getD before =
      (lastOn? later).getD (if level = 0 then before else level) := by
  rw [lastOn?, lastOn?, List.reverse_cons, List.find?_append]
  cases later.reverse.find? (· ≠ 0) with
  | some last => rfl
  | none =>
    by_cases hoff : level = 0
    · simp [hoff]
    · simp [hoff]

variable {pump next : HeatPump}

/-- Whatever the number, the pump keeps its new level in mind if it is on then. -/
theorem resumeLevel_setLevel (pump : HeatPump) (level : Int32) :
    (pump.setLevel level).resumeLevel =
      if (pump.setLevel level).level = 0 then pump.resumeLevel
      else (pump.setLevel level).level := by
  unfold setLevel
  dsimp only
  by_cases hlevel : 0 ≤ level ∧ level ≤ maxLevel
  · rw [if_pos hlevel]
    by_cases hoff : level = 0
    · rw [if_pos hoff, hoff]
      rfl
    · rw [if_neg hoff, if_pos (Int32.lt_of_le_of_ne hlevel.1 (Ne.symm hoff))]
  · rw [if_neg hlevel]
    rfl

/-- The levels of a sound pump begin at off. -/
theorem Sound.level_pos (h : pump.Sound) (hon : pump.level ≠ 0) : 0 < pump.level := by
  have hzero : (0 : Int32).toInt = 0 := rfl
  have hnonneg := h.level_nonneg
  have hne : pump.level.toInt ≠ 0 := fun heq => hon (Int32.toInt_inj.mp heq)
  rw [Int32.lt_iff_toInt_lt]
  omega

/-- A sound pump that is on has its level in mind. -/
theorem Sound.resumeLevel_eq (h : pump.Sound) :
    pump.resumeLevel = if pump.level = 0 then pump.resumeLevel else pump.level := by
  by_cases hoff : pump.level = 0
  · rw [if_pos hoff]
  · rw [if_neg hoff]
    exact h.resume_eq (Int32.lt_iff_toInt_lt.mp (h.level_pos hoff))

/-- Toggled when on, the pump is off and keeps in mind the level that it was at. -/
theorem Sound.toggle_of_on (h : pump.Sound) (hon : pump.level ≠ 0) :
    pump.toggle = { level := 0, resumeLevel := pump.level } := by
  rw [HeatPump.toggle, if_pos (h.level_pos hon)]
  rfl

/-- Toggled when off, the pump is at the level that it had in mind. -/
theorem Sound.toggle_of_off (h : pump.Sound) (hoff : pump.level = 0) :
    pump.toggle = { level := pump.resumeLevel, resumeLevel := pump.resumeLevel } := by
  have hzero : (0 : Int32).toInt = 0 := rfl
  have hmax : maxLevel.toInt = 4 := rfl
  have hpos : 0 < pump.resumeLevel := Int32.lt_iff_toInt_lt.mpr h.resume_pos
  have hlevel : 0 ≤ pump.resumeLevel ∧ pump.resumeLevel ≤ maxLevel := by
    have hle := h.resume_le
    rw [Int32.le_iff_toInt_le, Int32.le_iff_toInt_le]
    have hresume := h.resume_pos
    omega
  have hnot : ¬ 0 < pump.level := by
    rw [hoff]
    decide
  rw [HeatPump.toggle, if_neg hnot, setLevel, if_pos hlevel, if_pos hpos]

/-- **A use that leaves the pump on is kept in mind, and one that leaves it off changes nothing
there.** -/
theorem Sound.resumeLevel_use (h : pump.Sound) {use : Use} (huse : pump.use use = .ok next) :
    next.resumeLevel = if next.level = 0 then pump.resumeLevel else next.level := by
  cases use with
  | command action =>
    have hcommand : pump.command action = .ok next := huse
    unfold HeatPump.command at hcommand
    split at hcommand
    next level _ =>
      cases hcommand
      exact resumeLevel_setLevel pump level
    next =>
      obtain ⟨above, -, hset⟩ := bind_eq_ok_iff.mp hcommand
      cases hset
      exact resumeLevel_setLevel pump above
  | toggle =>
    cases huse
    by_cases hoff : pump.level = 0
    · rw [h.toggle_of_off hoff]
      by_cases hzero : pump.resumeLevel = 0
      · rw [if_pos hzero]
      · rw [if_neg hzero]
    · rw [h.toggle_of_on hoff, if_pos rfl, h.resumeLevel_eq, if_neg hoff]
  | sync =>
    obtain ⟨write, -, hsame⟩ := bind_eq_ok_iff.mp huse
    cases hsame
    exact h.resumeLevel_eq
  | shutDown =>
    cases huse
    rfl

/-- **After any uses, the pump has in mind the level that it was last on at**, or still the one
that it had in mind before them. -/
theorem Sound.resumes (h : pump.Sound) (uses : List Use) :
    ∃ past last, pump.levels uses = .ok past ∧ pump.useAll uses = .ok last ∧ last.Sound ∧
      last.resumeLevel = (lastOn? past).getD pump.resumeLevel := by
  induction uses generalizing pump with
  | nil => exact ⟨[], pump, rfl, rfl, h, rfl⟩
  | cons use later ih =>
    obtain ⟨next, hnext, hsound⟩ := h.use use
    obtain ⟨past, last, hpast, hlast, hend, hresume⟩ := ih hsound
    refine ⟨next.level :: past, last, ?_, ?_, hend, ?_⟩
    · exact bind_eq_ok_iff.mpr ⟨next, hnext, bind_eq_ok_iff.mpr ⟨past, hpast, rfl⟩⟩
    · exact bind_eq_ok_iff.mpr ⟨next, hnext, hlast⟩
    · rw [hresume, getD_lastOn?_cons, h.resumeLevel_use hnext]

/-- **A toggle goes back to the level last in use.**  Take a new heat pump through any commands,
toggles, syncs and shutdowns, and list its levels.  If it is off then, a toggle brings it to the
last of these levels that is above off, or to the lowest such level if there is none, whichever
use has turned it off.  If it is on, a toggle turns it off and another one brings it back. -/
theorem toggle_resumes (uses : List Use) :
    ∃ past pump, HeatPump.levels {} uses = .ok past ∧ HeatPump.useAll {} uses = .ok pump ∧
      (pump.level = 0 → pump.toggle.level = (lastOn? past).getD 1) ∧
      (pump.level ≠ 0 → pump.toggle.level = 0 ∧ pump.toggle.toggle.level = pump.level) := by
  obtain ⟨past, pump, hpast, hpump, hsound, hresume⟩ := sound_new.resumes uses
  refine ⟨past, pump, hpast, hpump, ?_, ?_⟩
  · intro hoff
    rw [hsound.toggle_of_off hoff]
    exact hresume
  · intro hon
    have htoggle := hsound.toggle_of_on hon
    have hoff : pump.toggle.level = 0 := by rw [htoggle]
    refine ⟨hoff, ?_⟩
    rw [hsound.toggle.toggle_of_off hoff, htoggle]

/-- Switched off at level 3 by a shutdown, and kept off by a number that is no level. -/
example : HeatPump.levels {} [.command [0x33], .shutDown, .command [0x39], .toggle] =
    .ok [3, 0, 0, 3] := by
  decide

end HomeEnergy.HeatPump
