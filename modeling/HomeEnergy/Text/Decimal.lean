import HomeEnergy.Text.Blank
import HomeEnergy.Word

/-!
# Decimal numerals

Writing integers, with the sign always shown or only where it is a minus, and
reading them: ASCII digits, any number of leading zeros, one optional sign.

Reading undoes writing: `nat?_ofNat`, `int?_ofInt`, `int?_ofIntSigned`, `word?_ofInt`.
There are no blanks in a numeral: `trim_ofInt`.
-/

namespace HomeEnergy.Text.Decimal

/-- The digits of a number, without leading zeros. -/
def ofNat (n : Nat) : List Char := Nat.toDigits 10 n

/-- An integer, with a sign only if it is negative. -/
def ofInt (n : Int) : List Char :=
  if n < 0 then '-' :: ofNat n.natAbs else ofNat n.natAbs

/-- An integer with its sign; zero counts as positive. -/
def ofIntSigned (n : Int) : List Char :=
  if n < 0 then '-' :: ofNat n.natAbs else '+' :: ofNat n.natAbs

/-- The number that a run of digits denotes. -/
def value (digits : List Char) : Nat := Nat.ofDigitChars 10 digits 0

/-- Reads one digit or more and nothing else. -/
def nat? (cs : List Char) : Option Nat :=
  if cs ≠ [] ∧ cs.all Char.isDigit then some (value cs) else none

/-- Reads digits after at most one sign. -/
def int? : List Char → Option Int
  | '-' :: cs => (nat? cs).map fun (n : Nat) => -(n : Int)
  | '+' :: cs => (nat? cs).map Int.ofNat
  | cs => (nat? cs).map Int.ofNat

/-- Reads an integer that is the value of a signed 32-bit word. -/
def word? (cs : List Char) : Option Int32 := do
  let n ← int? cs
  if Word.Fits n then some (Int32.ofInt n) else none

/-- Reads digits after an optional plus, below 2^64. -/
def count? (cs : List Char) : Option UInt64 := do
  let n ← nat? (match cs with | '+' :: ds => ds | ds => ds)
  if n < UInt64.size then some (UInt64.ofNat n) else none

theorem isDigit_of_mem_ofNat {n : Nat} {c : Char} (h : c ∈ ofNat n) : c.isDigit = true :=
  Nat.isDigit_of_mem_toDigits (by omega) (by omega) h

theorem nat?_ofNat (n : Nat) : nat? (ofNat n) = some n := by
  have hne : ofNat n ≠ [] := Nat.toDigits_ne_nil
  have hall : (ofNat n).all Char.isDigit = true :=
    List.all_eq_true.2 fun c hc => isDigit_of_mem_ofNat hc
  unfold nat?
  rw [if_pos ⟨hne, hall⟩]
  exact congrArg some (Nat.ofDigitChars_toDigits (by omega) (by omega))

/-- A numeral without a sign is read as digits. -/
theorem int?_ofNat (n : Nat) : int? (ofNat n) = some (n : Int) := by
  have hread := nat?_ofNat n
  have hdigit : ∀ c ∈ ofNat n, c.isDigit = true := fun c hc => isDigit_of_mem_ofNat hc
  match hcs : ofNat n with
  | [] => exact absurd hcs Nat.toDigits_ne_nil
  | c :: cs =>
    have hc := hdigit c (by rw [hcs]; exact List.mem_cons_self)
    rw [hcs] at hread
    unfold int?
    split
    next heq =>
      cases heq
      exact absurd hc (by decide)
    next heq =>
      cases heq
      exact absurd hc (by decide)
    next => rw [hread]; rfl

theorem int?_ofInt (n : Int) : int? (ofInt n) = some n := by
  unfold ofInt
  split
  · have hneg : -(n.natAbs : Int) = n := by omega
    simp only [int?, nat?_ofNat, Option.map_some, hneg]
  · rw [int?_ofNat]
    exact congrArg some (by omega)

theorem int?_ofIntSigned (n : Int) : int? (ofIntSigned n) = some n := by
  unfold ofIntSigned
  split
  · have hneg : -(n.natAbs : Int) = n := by omega
    simp only [int?, nat?_ofNat, Option.map_some, hneg]
  · have hpos : Int.ofNat n.natAbs = n := Int.natAbs_of_nonneg (by omega)
    simp only [int?, nat?_ofNat, Option.map_some, hpos]

theorem ofInt_ne_nil (n : Int) : ofInt n ≠ [] := by
  unfold ofInt
  split
  · exact List.cons_ne_nil _ _
  · exact Nat.toDigits_ne_nil

theorem isBlank_of_mem_ofInt {n : Int} {c : Char} (h : c ∈ ofInt n) : isBlank c = false := by
  unfold ofInt at h
  split at h
  · rcases List.mem_cons.mp h with rfl | h
    · decide
    · exact isBlank_of_isDigit (isDigit_of_mem_ofNat h)
  · exact isBlank_of_isDigit (isDigit_of_mem_ofNat h)

/-- There are no blanks around a numeral. -/
theorem trim_ofInt (n : Int) : trim (ofInt n) = ofInt n := by
  apply trim_eq_self
  · intro c hc
    exact isBlank_of_mem_ofInt (List.mem_of_mem_head? hc)
  · intro c hc
    exact isBlank_of_mem_ofInt (List.mem_of_getLast? hc)

/-- Every word is read back from its numeral. -/
theorem word?_ofInt (w : Int32) : word? (ofInt w.toInt) = some w := by
  unfold word?
  rw [int?_ofInt]
  show (if Word.Fits w.toInt then some (Int32.ofInt w.toInt) else none) = some w
  rw [if_pos (Word.fits_toInt w), Int32.ofInt_toInt]

end HomeEnergy.Text.Decimal
