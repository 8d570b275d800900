import HomeEnergy.Fault

/-!
# Arithmetic on signed 32-bit words

Power, charge and levels are signed 32-bit words.  A sum of powers **saturates**: it
is computed in the integers and brought back to the nearest word.  All other
arithmetic is **checked**: a result outside the word is a fault.

Each operation is described by the integers that its words stand for:

* `toInt_satAdd`, `toInt_satSub` — a sum or difference is the exact one, cut off at
  the two ends of the word;
* `checked_eq_ok_iff` — a checked result is the word of exactly this value;
* `clamp_eq_ok_iff` — clamping succeeds exactly into a range that is not empty;
* `checked_ok`, `clamp_ok`, `checkedNat16_ok` — when there is a result, and its value.
-/

namespace HomeEnergy.Word

/-- The word nearest to an integer. -/
def saturate (n : Int) : Int32 := Int32.ofInt (max (-0x80000000) (min n 0x7FFFFFFF))

/-- The sum, or the end of the word it passed. -/
def satAdd (a b : Int32) : Int32 := saturate (a.toInt + b.toInt)

/-- The difference, or the end of the word it passed. -/
def satSub (a b : Int32) : Int32 := saturate (a.toInt - b.toInt)

/-- The integer is the value of some word. -/
def Fits (n : Int) : Prop := -0x80000000 ≤ n ∧ n < 0x80000000

instance (n : Int) : Decidable (Fits n) := inferInstanceAs (Decidable (_ ∧ _))

/-- The word of this value; a fault if there is none. -/
def checked (n : Int) : Except Fault Int32 :=
  if Fits n then .ok (Int32.ofInt n) else .error .overflow

/-- The 16-bit word of this value; a fault if there is none. -/
def checkedNat16 (n : Nat) : Except Fault UInt16 :=
  if n < UInt16.size then .ok (UInt16.ofNat n) else .error .overflow

/-- The element of `lo … hi` nearest to `n`; a fault if the range is empty. -/
def clamp (lo hi n : Int32) : Except Fault Int32 :=
  if hi < lo then .error .emptyRange
  else .ok (if n < lo then lo else if hi < n then hi else n)

/-- Every word stands for an integer that fits. -/
theorem fits_toInt (w : Int32) : Fits w.toInt := ⟨w.le_toInt, w.toInt_lt⟩

theorem toInt_ofInt {n : Int} (h : Fits n) : (Int32.ofInt n).toInt = n :=
  Int32.toInt_ofInt_of_le h.1 h.2

theorem toInt_saturate (n : Int) :
    (saturate n).toInt = max (-0x80000000) (min n 0x7FFFFFFF) := by
  apply toInt_ofInt
  constructor <;> omega

theorem toInt_satAdd (a b : Int32) :
    (satAdd a b).toInt = max (-0x80000000) (min (a.toInt + b.toInt) 0x7FFFFFFF) :=
  toInt_saturate _

theorem toInt_satSub (a b : Int32) :
    (satSub a b).toInt = max (-0x80000000) (min (a.toInt - b.toInt) 0x7FFFFFFF) :=
  toInt_saturate _

/-- A checked result is the word of exactly this value. -/
theorem checked_eq_ok_iff {n : Int} {w : Int32} : checked n = .ok w ↔ w.toInt = n := by
  unfold checked
  constructor
  · intro h
    split at h
    next hn =>
      cases h
      exact toInt_ofInt hn
    next => cases h
  · intro h
    subst h
    rw [if_pos (fits_toInt w), Int32.ofInt_toInt]

/-- Clamping succeeds exactly into a range that is not empty, with the nearest element. -/
theorem clamp_eq_ok_iff {lo hi n w : Int32} :
    clamp lo hi n = .ok w ↔
      lo.toInt ≤ hi.toInt ∧ w.toInt = max lo.toInt (min n.toInt hi.toInt) := by
  have hword : ∀ {v : Int32}, v.toInt = w.toInt ↔ v = w := Int32.toInt_inj
  unfold clamp
  simp only [Int32.lt_iff_toInt_lt]
  split
  · constructor
    · intro h
      cases h
    · intro h
      omega
  · rw [Except.ok.injEq, ← hword]
    split
    · constructor <;> intro h <;> omega
    · split <;> constructor <;> intro h <;> omega

/-- What fits has a word. -/
theorem checked_ok {n : Int} (h : Fits n) : ∃ w, checked n = .ok w ∧ w.toInt = n := by
  have hword := toInt_ofInt h
  exact ⟨Int32.ofInt n, checked_eq_ok_iff.mpr hword, hword⟩

/-- A range that is not empty has a nearest element for every word. -/
theorem clamp_ok {lo hi : Int32} (h : lo.toInt ≤ hi.toInt) (n : Int32) :
    ∃ w, clamp lo hi n = .ok w ∧ w.toInt = max lo.toInt (min n.toInt hi.toInt) := by
  have hlo := fits_toInt lo
  have hhi := fits_toInt hi
  have hfits : Fits (max lo.toInt (min n.toInt hi.toInt)) := by
    unfold Fits at *
    omega
  have hword := toInt_ofInt hfits
  exact ⟨_, clamp_eq_ok_iff.mpr ⟨h, hword⟩, hword⟩

theorem checkedNat16_ok {n : Nat} (h : n < UInt16.size) :
    ∃ w, checkedNat16 n = .ok w ∧ w.toNat = n :=
  ⟨UInt16.ofNat n, if_pos h, UInt16.toNat_ofNat_of_lt h⟩

end HomeEnergy.Word
