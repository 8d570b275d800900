/-!
# Ticks

The clock counts milliseconds in an unsigned 32-bit word and wraps.  Two ticks can
still be compared across one wrap by the signed distance between them.

`since_after` says that the distance from a tick to the tick some time later is that
time, read as a signed word; `toInt32_nonneg_iff` and `neg_toInt32_nonneg_iff` say which of
the two is ahead, as long as they are less than half the clock apart.  Delays are words
without a sign; `toNat_min` and `toNat_sub_min` go over to numbers.
-/

namespace HomeEnergy

/-- A reading of the wrapping millisecond clock. -/
structure Tick where
  ms : UInt32
  deriving Repr, DecidableEq, Inhabited

namespace Tick

/-- The tick this many milliseconds later. -/
def after (t : Tick) (delay : UInt32) : Tick := ⟨t.ms + delay⟩

/-- The signed distance from `earlier` to `later`: positive when `later` is ahead. -/
def since (later earlier : Tick) : Int32 := (later.ms - earlier.ms).toInt32

/-- No time passes in a delay of zero. -/
@[simp] theorem after_zero (t : Tick) : t.after 0 = t := by
  rw [after, UInt32.add_zero]

/-- Two delays add up, also across a wrap. -/
theorem after_after (t : Tick) (a b : UInt32) : (t.after a).after b = t.after (a + b) := by
  rw [after, after, after, UInt32.add_assoc]

/-- The distance to a later tick is the delay, read as a signed word. -/
theorem since_after (t : Tick) (delay : UInt32) : (t.after delay).since t = delay.toInt32 := by
  have h : t.ms + delay - t.ms = delay := by
    rw [UInt32.add_comm, UInt32.add_sub_cancel]
  show (t.ms + delay - t.ms).toInt32 = delay.toInt32
  rw [h]

/-- Seen from the later tick the distance is the opposite word. -/
theorem since_self_after (t : Tick) (delay : UInt32) :
    t.since (t.after delay) = (-delay).toInt32 := by
  have h : t.ms - (t.ms + delay) = -delay := by
    rw [UInt32.sub_eq_iff_eq_add, UInt32.add_comm, UInt32.add_assoc, UInt32.add_right_neg,
      UInt32.add_zero]
  show (t.ms - (t.ms + delay)).toInt32 = (-delay).toInt32
  rw [h]

/-- A word read as signed: the lower half of the words keeps its value. -/
theorem toInt_toInt32 (w : UInt32) :
    w.toInt32.toInt =
      if w.toNat < 0x80000000 then (w.toNat : Int) else w.toNat - 0x100000000 := by
  have h := BitVec.toInt_eq_toNat_cond w.toBitVec
  rw [UInt32.toNat_toBitVec] at h
  show w.toBitVec.toInt = _
  rw [h]
  by_cases hw : w.toNat < 0x80000000
  · rw [if_pos hw, if_pos (by omega)]
  · rw [if_neg hw, if_neg (by omega)]
    rfl

/-- A delay lies ahead exactly if it is less than half the clock. -/
theorem toInt32_nonneg_iff {delay : UInt32} : 0 ≤ delay.toInt32 ↔ delay ≤ 0x7FFFFFFF := by
  have hzero : (0 : Int32).toInt = 0 := rfl
  have hhalf : UInt32.toNat 0x7FFFFFFF = 0x7FFFFFFF := rfl
  have hbound := delay.toNat_lt
  rw [Int32.le_iff_toInt_le, toInt_toInt32, hzero, UInt32.le_iff_toNat_le, hhalf]
  omega

theorem toInt32_nonneg {delay : UInt32} (h : delay ≤ 0x7FFFFFFF) : 0 ≤ delay.toInt32 :=
  toInt32_nonneg_iff.mpr h

/-- The same delay backwards lies behind, unless it is none. -/
theorem neg_toInt32_nonneg_iff {delay : UInt32} (h : delay ≤ 0x7FFFFFFF) :
    0 ≤ (-delay).toInt32 ↔ delay = 0 := by
  have hnat : delay.toNat ≤ 0x7FFFFFFF := h
  have hhalf : UInt32.toNat 0x7FFFFFFF = 0x7FFFFFFF := rfl
  have hnone : UInt32.toNat 0 = 0 := rfl
  have hsize : UInt32.size = 0x100000000 := rfl
  rw [toInt32_nonneg_iff, UInt32.le_iff_toNat_le, hhalf, UInt32.toNat_neg, hsize,
    ← UInt32.toNat_inj, hnone]
  omega

theorem toNat_min (a b : UInt32) : (min a b).toNat = min a.toNat b.toNat := by
  rw [Std.min_eq_if]
  by_cases h : a ≤ b
  · rw [if_pos h]
    exact (Nat.min_eq_left h).symm
  · have hlt : b.toNat < a.toNat := Nat.lt_of_not_le h
    rw [if_neg h]
    omega

theorem toNat_pos {delay : UInt32} (h : delay ≠ 0) : 0 < delay.toNat := by
  have hne := mt UInt32.toNat_inj.mp h
  rw [UInt32.toNat_zero] at hne
  omega

/-- The shorter of two delays is none only if one of them is. -/
theorem min_pos {delay left : UInt32} (hdelay : 0 < delay) (hleft : left ≠ 0) :
    0 < min delay left := by
  have hd : 0 < delay.toNat := hdelay
  have hl := toNat_pos hleft
  rw [UInt32.lt_iff_toNat_lt, toNat_min, UInt32.toNat_zero]
  omega

theorem toNat_sub_min (delay left : UInt32) :
    (left - min delay left).toNat = left.toNat - min delay.toNat left.toNat := by
  rw [UInt32.toNat_sub_of_le _ _ Std.min_le_right, toNat_min]

end Tick

end HomeEnergy
