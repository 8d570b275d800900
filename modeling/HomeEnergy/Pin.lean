/-!
# Pins that may fail

Adapters between the house and pins whose reads and writes can fail.  A failed read
counts as high, the level of a button at rest; a failed write leaves the pin as it was.

`levelAfter_eq` and `dutyAfter_eq` say what a pin is at after any number of writes: what the last
one asked for that went through.
-/

namespace HomeEnergy.Pin

/-- The level that a read counts as; `none` is a failed read. -/
def read : Option Bool → Bool
  | some high => high
  | none => true

/-- What a write leaves that may have failed. -/
def settle {α : Type} (before written : α) (failed : Bool) : α := if failed then before else written

/-- The level of a pin after a write that may have failed. -/
def write (before high failed : Bool) : Bool := settle before high failed

/-- The duty of a channel after a write that may have failed; no duty exceeds the
greatest of the channel. -/
def writeDuty (greatest before duty : UInt16) (failed : Bool) : UInt16 :=
  settle before (min duty greatest) failed

/-- A write to a pin: what it asks for, and whether it fails. -/
structure Write (α : Type) where
  asked : α
  fails : Bool

section

variable {α β : Type}

/-- What some writes asked for that went through, the oldest first. -/
def through (writes : List (Write α)) : List α := (writes.filter (!·.fails)).map (·.asked)

/-- **What some writes leave is what the last of them left that went through.** -/
theorem foldl_settle (value : α → β) (writes : List (Write α)) (before : β) :
    writes.foldl (fun now w => settle now (value w.asked) w.fails) before =
      ((through writes).getLast?.map value).getD before := by
  induction writes generalizing before with
  | nil => rfl
  | cons w writes ih =>
    obtain ⟨asked, fails⟩ := w
    rw [List.foldl_cons, ih]
    cases fails with
    | true => rfl
    | false =>
      have hthrough : through (⟨asked, false⟩ :: writes) = asked :: through writes := rfl
      rw [hthrough, List.getLast?_cons]
      cases (through writes).getLast? <;> rfl

end

/-- The level of a pin after some writes, of which any may fail. -/
def levelAfter (before : Bool) (writes : List (Write Bool)) : Bool :=
  writes.foldl (fun level w => write level w.asked w.fails) before

/-- The duty of a channel after some writes, of which any may fail. -/
def dutyAfter (greatest before : UInt16) (writes : List (Write UInt16)) : UInt16 :=
  writes.foldl (fun duty w => writeDuty greatest duty w.asked w.fails) before

/-- **A pin is at the level that was last written to it.**  Failed writes are as if they had not
been made. -/
theorem levelAfter_eq (before : Bool) (writes : List (Write Bool)) :
    levelAfter before writes = (through writes).getLast?.getD before := by
  have hlast := foldl_settle id writes before
  rwa [Option.map_id] at hlast

/-- **A channel is at the duty that was last written to it**, or at its greatest. -/
theorem dutyAfter_eq (greatest before : UInt16) (writes : List (Write UInt16)) :
    dutyAfter greatest before writes =
      ((through writes).getLast?.map (min · greatest)).getD before :=
  foldl_settle (min · greatest) writes before

/-- Whatever is written to a channel, its duty stays within its range. -/
theorem dutyAfter_le {greatest before : UInt16} (h : before ≤ greatest)
    (writes : List (Write UInt16)) : dutyAfter greatest before writes ≤ greatest := by
  rw [dutyAfter_eq]
  cases (through writes).getLast? with
  | none => exact h
  | some duty =>
    show min duty greatest ≤ greatest
    exact Std.min_le_right

/-- The write that fails is not seen, and the one before it stays. -/
example :
    dutyAfter 1023 0 [⟨325, false⟩, ⟨5000, false⟩, ⟨130, true⟩] = 1023 := by
  decide

end HomeEnergy.Pin
