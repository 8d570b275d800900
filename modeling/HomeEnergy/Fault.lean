/-!
# Faults

A fault is a broken precondition: the operation that meets one has no result at
all, and the program stops where it stands.  Everything the house can meet by way
of commands and buttons is free of faults; the parameters it is built from, and a
battery whose parameters are changed afterwards, are not.
-/

namespace HomeEnergy

/-- Why an operation has no result. -/
inductive Fault
  /-- The result of an arithmetic operation does not fit its word. -/
  | overflow
  | divisionByZero
  /-- A value was to be brought into a range whose lower end lies above its upper end. -/
  | emptyRange
  /-- A table was read beyond its last entry. -/
  | outsideTable
  /-- A requirement on the arguments is not met; some requirements have a text. -/
  | requirement (text : Option String)
  /-- An observer gave up with this text. -/
  | raised (text : String)
  deriving Repr, DecidableEq

/-- The text that accompanies a fault, where it has one. -/
def Fault.message : Fault → Option String
  | .requirement text => text
  | .raised text => some text
  | _ => none

/-- Goes on only if the requirement holds. -/
def require (met : Bool) (text : Option String) : Except Fault Unit :=
  if met then .ok () else .error (.requirement text)

/-- One operation after another has a result exactly if both have one. -/
theorem bind_eq_ok_iff {ε α β : Type} {first : Except ε α} {next : α → Except ε β} {b : β} :
    (first >>= next) = .ok b ↔ ∃ a, first = .ok a ∧ next a = .ok b := by
  cases first with
  | error f => exact ⟨nofun, fun ⟨_, h, _⟩ => nomatch h⟩
  | ok a => exact ⟨fun h => ⟨a, rfl, h⟩, fun ⟨_, h, hnext⟩ => by cases h; exact hnext⟩

/-- What each step keeps, without a fault, any number of them keeps. -/
theorem foldlM_keeps {σ α : Type} {Kept : σ → Prop} {step : σ → α → Except Fault σ}
    (hstep : ∀ s a, Kept s → ∃ s', step s a = .ok s' ∧ Kept s') {s : σ} (h : Kept s)
    (steps : List α) : ∃ s', steps.foldlM step s = .ok s' ∧ Kept s' := by
  induction steps generalizing s with
  | nil => exact ⟨s, rfl, h⟩
  | cons a later ih =>
    obtain ⟨next, hnext, hkept⟩ := hstep s a h
    obtain ⟨last, hlast, hend⟩ := ih hkept
    refine ⟨last, ?_, hend⟩
    rw [List.foldlM_cons]
    exact bind_eq_ok_iff.mpr ⟨next, hnext, hlast⟩

end HomeEnergy
