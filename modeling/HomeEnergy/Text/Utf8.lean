/-!
# UTF-8

Bytes as text, in two readings.  The strict one refuses bytes that are not
well-formed UTF-8.  The repairing one always answers: it puts U+FFFD in place of
each longest run of bytes that begins a well-formed sequence without completing it,
and of each byte that can begin none.

The strict reading undoes encoding: `decode?_encode`.
-/

namespace HomeEnergy.Text.Utf8

/-- The text whose encoding these bytes are. -/
def decode? (bytes : List UInt8) : Option (List Char) :=
  bytes.toByteArray.utf8Decode?.map Array.toList

/-- The encoding of a text. -/
def encode (cs : List Char) : List UInt8 := cs.flatMap String.utf8EncodeChar

theorem decode?_encode (cs : List Char) : decode? (encode cs) = some cs := by
  show cs.utf8Encode.utf8Decode?.map Array.toList = some cs
  rw [List.utf8Decode?_utf8Encode]
  rfl

theorem encode_append (xs ys : List Char) : encode (xs ++ ys) = encode xs ++ encode ys :=
  List.flatMap_append

theorem encode_cons (c : Char) (cs : List Char) :
    encode (c :: cs) = String.utf8EncodeChar c ++ encode cs :=
  List.flatMap_cons

/-- A text of the ASCII range has a byte for each character. -/
theorem length_encode {cs : List Char} (h : ∀ c ∈ cs, c.val.toNat ≤ 127) :
    (encode cs).length = cs.length := by
  induction cs with
  | nil => rfl
  | cons c cs ih =>
    obtain ⟨hc, hcs⟩ := List.forall_mem_cons.mp h
    rw [encode_cons, List.length_append, ih hcs,
      String.utf8EncodeChar_eq_singleton (Char.utf8Size_eq_one_iff.mpr hc),
      List.length_singleton, List.length_cons, Nat.add_comm]

/-- Only the empty text has no bytes. -/
theorem encode_ne_nil {cs : List Char} (h : cs ≠ []) : encode cs ≠ [] := by
  intro hnil
  have hdecode := decode?_encode cs
  rw [hnil] at hdecode
  exact h (Option.some.inj (hdecode.symm.trans (decode?_encode [])))

/-- The bytes of a character beyond the ASCII range are all beyond it. -/
theorem le_toNat_of_mem_encodeChar {c : Char} (hc : ¬ c.val.toNat ≤ 127) :
    ∀ b ∈ String.utf8EncodeChar c, 0x80 ≤ b.toNat := by
  have hbyte (n : Nat) : (UInt8.ofNat n).toNat = n % 256 := rfl
  have hnone : ∀ b ∈ ([] : List UInt8), 0x80 ≤ b.toNat := nofun
  simp only [String.utf8EncodeChar, if_neg hc]
  split
  · simp only [List.forall_mem_cons, hbyte]
    exact ⟨by omega, by omega, hnone⟩
  · split
    · simp only [List.forall_mem_cons, hbyte]
      exact ⟨by omega, by omega, by omega, hnone⟩
    · simp only [List.forall_mem_cons, hbyte]
      exact ⟨by omega, by omega, by omega, by omega, hnone⟩

/-- A byte of the ASCII range is the whole of a character. -/
theorem toNat_of_mem_encodeChar {c : Char} {b : UInt8} (h : b ∈ String.utf8EncodeChar c)
    (hb : b.toNat < 0x80) : c.toNat = b.toNat := by
  by_cases hc : c.val.toNat ≤ 127
  · rw [String.utf8EncodeChar_eq_singleton (Char.utf8Size_eq_one_iff.mpr hc),
      List.mem_singleton] at h
    rw [h, UInt32.toNat_toUInt8]
    exact (Nat.mod_eq_of_lt (Nat.lt_of_le_of_lt hc (by decide))).symm
  · exact absurd (le_toNat_of_mem_encodeChar hc b h) (Nat.not_le.mpr hb)

/-- A byte of the ASCII range stands for a character of the text. -/
theorem exists_of_mem_encode {cs : List Char} {b : UInt8} (h : b ∈ encode cs)
    (hb : b.toNat < 0x80) : ∃ c ∈ cs, c.toNat = b.toNat := by
  obtain ⟨c, hc, hmem⟩ := List.mem_flatMap.mp h
  exact ⟨c, hc, toNat_of_mem_encodeChar hmem hb⟩

/-- The ranges in which the bytes after a first byte have to lie, in order; `none` for a
byte that begins no sequence. -/
def continuation? (first : UInt8) : Option (List (UInt8 × UInt8)) :=
  if first < 0x80 then some []
  else if first < 0xC2 then none
  else if first < 0xE0 then some [(0x80, 0xBF)]
  else if first = 0xE0 then some [(0xA0, 0xBF), (0x80, 0xBF)]
  else if first = 0xED then some [(0x80, 0x9F), (0x80, 0xBF)]
  else if first < 0xF0 then some [(0x80, 0xBF), (0x80, 0xBF)]
  else if first = 0xF0 then some [(0x90, 0xBF), (0x80, 0xBF), (0x80, 0xBF)]
  else if first < 0xF4 then some [(0x80, 0xBF), (0x80, 0xBF), (0x80, 0xBF)]
  else if first = 0xF4 then some [(0x80, 0x8F), (0x80, 0xBF), (0x80, 0xBF)]
  else none

/-- How many bytes in a row lie in the ranges given for them. -/
def agreeing : List (UInt8 × UInt8) → List UInt8 → Nat
  | (lo, hi) :: ranges, b :: bytes => if lo ≤ b ∧ b ≤ hi then agreeing ranges bytes + 1 else 0
  | _, _ => 0

/-- The character at the front, or U+FFFD for an unfinished or impossible sequence,
and how many of the bytes after the first belong to it. -/
def front (first : UInt8) (rest : List UInt8) : Char × Nat :=
  match continuation? first with
  | none => ('\uFFFD', 0)
  | some ranges =>
    let n := agreeing ranges rest
    if n = ranges.length then
      match decode? (first :: rest.take n) with
      | some [c] => (c, n)
      | _ => ('\uFFFD', n)
    else ('\uFFFD', n)

/-- Text for any bytes, with U+FFFD where they are not well-formed. -/
def repair : List UInt8 → List Char
  | [] => []
  | first :: rest => (front first rest).1 :: repair (rest.drop (front first rest).2)
  termination_by bytes => bytes.length
  decreasing_by simp only [List.length_drop, List.length_cons]; omega

end HomeEnergy.Text.Utf8
