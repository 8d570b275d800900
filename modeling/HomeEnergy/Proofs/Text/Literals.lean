import HomeEnergy.Wire.Command
import Mathlib.Data.List.TakeWhile

/-!
# The grammar of integer literals

An integer literal is a run of decimal digits, as long as one likes, with one sign before it or
none.  An action spells an integer if it is the UTF-8 encoding of such a literal with blanks around
it.  The grammar says what stands where; the readers of numerals and actions accept what it does,
as far as the integer is the value of a word, and nothing else.

* `Decimal.int?_eq_some_iff` — the literals are what is read as an integer;
* `Decimal.count?_eq_some_iff` — and those that are read as a count;
* `Decimal.Literal.printing` — the characters of a literal;
* `trim_layout`, `exists_trim` — text and the blanks around it;
* `Wire.actionValue?_eq_some_iff`, `Wire.actionValue?_eq_none_iff` — **which actions have a value,
  and which have none.**
-/

namespace HomeEnergy

namespace Text

/-! ## Literals -/

namespace Decimal

variable {cs : List Char}

/-- One decimal digit or more. -/
structure Digits (cs : List Char) : Prop where
  ne_nil : cs ≠ []
  isDigit : ∀ c ∈ cs, c.isDigit = true

/-- The literals of an integer. -/
inductive Literal : List Char → Int → Prop
  | plain {digits : List Char} (h : Digits digits) : Literal digits (value digits)
  | plus {digits : List Char} (h : Digits digits) : Literal ('+' :: digits) (value digits)
  | minus {digits : List Char} (h : Digits digits) : Literal ('-' :: digits) (-value digits)

theorem nat?_eq_some_iff {n : Nat} : nat? cs = some n ↔ Digits cs ∧ value cs = n := by
  unfold nat?
  by_cases h : cs ≠ [] ∧ cs.all Char.isDigit
  · have hdigits : Digits cs := ⟨h.1, List.all_eq_true.mp h.2⟩
    rw [if_pos h, Option.some.injEq]
    exact ⟨fun hvalue => ⟨hdigits, hvalue⟩, fun hread => hread.2⟩
  · rw [if_neg h]
    constructor
    · intro hnone
      cases hnone
    · rintro ⟨hdigits, -⟩
      exact absurd ⟨hdigits.ne_nil, List.all_eq_true.mpr hdigits.isDigit⟩ h

/-- An integer that is read from digits is made of their value. -/
theorem map_nat?_eq_some_iff {signed : Nat → Int} {n : Int} :
    (nat? cs).map signed = some n ↔ Digits cs ∧ signed (value cs) = n := by
  rw [Option.map_eq_some_iff]
  constructor
  · rintro ⟨k, hk, rfl⟩
    obtain ⟨hdigits, rfl⟩ := nat?_eq_some_iff.mp hk
    exact ⟨hdigits, rfl⟩
  · rintro ⟨hdigits, rfl⟩
    exact ⟨value cs, nat?_eq_some_iff.mpr ⟨hdigits, rfl⟩, rfl⟩

/-- **An integer is read exactly from its literals.** -/
theorem int?_eq_some_iff {n : Int} : int? cs = some n ↔ Literal cs n := by
  constructor
  · intro h
    unfold int? at h
    split at h
    next digits =>
      obtain ⟨hdigits, rfl⟩ := map_nat?_eq_some_iff.mp h
      exact .minus hdigits
    next digits =>
      obtain ⟨hdigits, rfl⟩ := map_nat?_eq_some_iff.mp h
      exact .plus hdigits
    next =>
      obtain ⟨hdigits, rfl⟩ := map_nat?_eq_some_iff.mp h
      exact .plain hdigits
  · intro h
    cases h with
    | minus hdigits => exact map_nat?_eq_some_iff.mpr ⟨hdigits, rfl⟩
    | plus hdigits => exact map_nat?_eq_some_iff.mpr ⟨hdigits, rfl⟩
    | plain hdigits =>
      -- a sign is no digit, so that the text is not read as one with a sign
      unfold int?
      split
      next => exact absurd (hdigits.isDigit '-' List.mem_cons_self) (by decide)
      next => exact absurd (hdigits.isDigit '+' List.mem_cons_self) (by decide)
      next => exact map_nat?_eq_some_iff.mpr ⟨hdigits, rfl⟩

/-- A word is read exactly from the literals of its integer. -/
theorem word?_eq_some_iff {w : Int32} : word? cs = some w ↔ int? cs = some w.toInt := by
  unfold word?
  cases hread : int? cs with
  | none => exact ⟨nofun, nofun⟩
  | some n =>
    show (if Word.Fits n then some (Int32.ofInt n) else none) = some w ↔ _
    rw [Option.some.injEq]
    by_cases hfits : Word.Fits n
    · rw [if_pos hfits, Option.some.injEq, ← Int32.toInt_inj, Word.toInt_ofInt hfits]
    · rw [if_neg hfits]
      constructor
      · intro h
        cases h
      · rintro rfl
        exact absurd (Word.fits_toInt w) hfits

/-- A literal consists of digits and signs. -/
theorem Literal.isDigit_or_sign {n : Int} (h : Literal cs n) :
    ∀ c ∈ cs, c.isDigit = true ∨ c = '+' ∨ c = '-' := by
  have hdigit : ∀ {digits : List Char}, Digits digits →
      ∀ c ∈ digits, c.isDigit = true ∨ c = '+' ∨ c = '-' :=
    fun hdigits c hc => .inl (hdigits.isDigit c hc)
  cases h with
  | plain hdigits => exact hdigit hdigits
  | plus hdigits => exact List.forall_mem_cons.mpr ⟨.inr (.inl rfl), hdigit hdigits⟩
  | minus hdigits => exact List.forall_mem_cons.mpr ⟨.inr (.inr rfl), hdigit hdigits⟩

/-- No blank stands in a literal. -/
theorem Literal.isBlank {n : Int} (h : Literal cs n) : ∀ c ∈ cs, isBlank c = false := by
  intro c hc
  rcases h.isDigit_or_sign c hc with hdigit | rfl | rfl
  · exact isBlank_of_isDigit hdigit
  · decide
  · decide

theorem Literal.ne_nil {n : Int} (h : Literal cs n) : cs ≠ [] := by
  cases h with
  | plain hdigits => exact hdigits.ne_nil
  | plus => exact List.cons_ne_nil _ _
  | minus => exact List.cons_ne_nil _ _

/-! ## Counts -/

/-- The literals of a count. -/
inductive Count : List Char → Nat → Prop
  | plain {digits : List Char} (h : Digits digits) : Count digits (value digits)
  | plus {digits : List Char} (h : Digits digits) : Count ('+' :: digits) (value digits)

/-- What stands behind the sign of a count. -/
theorem count_iff {n : Nat} :
    Count cs n ↔ nat? (match cs with | '+' :: ds => ds | ds => ds) = some n := by
  constructor
  · intro h
    cases h with
    | plus hdigits => exact nat?_eq_some_iff.mpr ⟨hdigits, rfl⟩
    | plain hdigits =>
      split
      next => exact absurd (hdigits.isDigit '+' List.mem_cons_self) (by decide)
      next => exact nat?_eq_some_iff.mpr ⟨hdigits, rfl⟩
  · intro h
    split at h
    next digits =>
      obtain ⟨hdigits, rfl⟩ := nat?_eq_some_iff.mp h
      exact .plus hdigits
    next =>
      obtain ⟨hdigits, rfl⟩ := nat?_eq_some_iff.mp h
      exact .plain hdigits

/-- **A count below 2^64 is read exactly from its literals.** -/
theorem count?_eq_some_iff {w : UInt64} : count? cs = some w ↔ Count cs w.toNat := by
  unfold count?
  rw [count_iff, Option.bind_eq_bind, Option.bind_eq_some_iff]
  constructor
  · rintro ⟨n, hread, hsize⟩
    split at hsize
    next hlt =>
      cases hsize
      rw [UInt64.toNat_ofNat_of_lt' hlt]
      exact hread
    next => cases hsize
  · intro hread
    refine ⟨w.toNat, hread, ?_⟩
    rw [if_pos w.toNat_lt_size, UInt64.ofNat_toNat]

end Decimal

/-! ## Printed characters -/

/-- The character is printed, and is no blank: `!` to `~`. -/
def Printing (c : Char) : Prop := 0x20 < c.val.toNat ∧ c.val.toNat < 0x7F

/-- A digit is printed. -/
theorem printing_of_isDigit {c : Char} (h : c.isDigit = true) : Printing c := by
  simp only [Char.isDigit, Bool.and_eq_true, decide_eq_true_eq, ge_iff_le,
    UInt32.le_iff_toNat_le] at h
  have hzero : '0'.val.toNat = 48 := rfl
  have hnine : '9'.val.toNat = 57 := rfl
  unfold Printing
  omega

/-- All of a literal is printed. -/
theorem Decimal.Literal.printing {cs : List Char} {n : Int} (h : Literal cs n) :
    ∀ c ∈ cs, Printing c := by
  intro c hc
  rcases h.isDigit_or_sign c hc with hdigit | rfl | rfl
  · exact printing_of_isDigit hdigit
  · exact ⟨by decide, by decide⟩
  · exact ⟨by decide, by decide⟩

/-! ## Blanks around text -/

/-- All of it is blank. -/
def Blank (cs : List Char) : Prop := ∀ c ∈ cs, isBlank c = true

theorem Blank.dropWhile {cs : List Char} (h : Blank cs) : cs.dropWhile isBlank = [] :=
  List.dropWhile_eq_nil_iff.mpr h

/-- Blanks before a text make no difference to what is left of it. -/
theorem Blank.trim_append_left {before : List Char} (h : Blank before) (cs : List Char) :
    trim (before ++ cs) = trim cs := by
  rw [trim, List.dropWhile_append_of_pos h, trim]

/-- Nor do blanks after it. -/
theorem Blank.trim_append_right {after : List Char} (h : Blank after) (cs : List Char) :
    trim (cs ++ after) = trim cs := by
  have hreverse : ∀ c ∈ after.reverse, isBlank c = true := fun c hc => h c (List.mem_reverse.mp hc)
  rw [trim, trim, List.dropWhile_append]
  split
  next hnil =>
    rw [h.dropWhile, List.isEmpty_iff.mp hnil]
  next =>
    rw [List.reverse_append, List.dropWhile_append_of_pos hreverse]

/-- Blanks before and after a text that has none are trimmed off. -/
theorem trim_layout {before body after : List Char} (hbefore : Blank before)
    (hafter : Blank after) (hbody : ∀ c ∈ body, isBlank c = false) :
    trim (before ++ body ++ after) = body := by
  rw [hafter.trim_append_right, hbefore.trim_append_left]
  apply trim_eq_self
  · intro c hc
    exact hbody c (List.mem_of_mem_head? hc)
  · intro c hc
    exact hbody c (List.mem_of_getLast? hc)

/-- What is trimmed off is blank. -/
theorem exists_trim (cs : List Char) :
    ∃ before after, cs = before ++ trim cs ++ after ∧ Blank before ∧ Blank after := by
  let rest := (cs.dropWhile isBlank).reverse
  refine ⟨cs.takeWhile isBlank, (rest.takeWhile isBlank).reverse, ?_, ?_, ?_⟩
  · have hrest : trim cs ++ (rest.takeWhile isBlank).reverse = cs.dropWhile isBlank := by
      rw [trim, ← List.reverse_append, List.takeWhile_append_dropWhile, List.reverse_reverse]
    rw [List.append_assoc, hrest, List.takeWhile_append_dropWhile]
  · intro c hc
    exact List.mem_takeWhile_imp hc
  · intro c hc
    exact List.mem_takeWhile_imp (List.mem_reverse.mp hc)

/-! ## Bytes as text -/

namespace Utf8

/-- Bytes are read as the one text that they encode. -/
theorem decode?_eq_some_iff {bytes : List UInt8} {cs : List Char} :
    decode? bytes = some cs ↔ bytes = encode cs := by
  constructor
  · intro h
    obtain ⟨chars, hchars, rfl⟩ := Option.map_eq_some_iff.mp h
    have hsome : bytes.toByteArray.utf8Decode?.isSome = true := by
      rw [hchars]
      rfl
    have hback := ByteArray.utf8Encode_get_utf8Decode? (h := hsome)
    rw [Option.get_of_eq_some hsome hchars] at hback
    exact List.toByteArray_inj.mp hback.symm
  · rintro rfl
    exact decode?_encode cs

end Utf8

end Text

namespace Wire

open Text

variable {action : List UInt8} {n : Int}

/-- The action is the encoding of a literal of this integer with blanks around it. -/
def SpellsInteger (action : List UInt8) (n : Int) : Prop :=
  ∃ before literal after, action = Utf8.encode (before ++ literal ++ after) ∧
    Blank before ∧ Decimal.Literal literal n ∧ Blank after

/-- Exactly these actions are read as an integer. -/
theorem spellsInteger_iff :
    SpellsInteger action n ↔
      ∃ text, Utf8.decode? action = some text ∧ Decimal.int? (trim text) = some n := by
  constructor
  · rintro ⟨before, literal, after, rfl, hbefore, hliteral, hafter⟩
    refine ⟨before ++ literal ++ after, Utf8.decode?_encode _, ?_⟩
    rw [trim_layout hbefore hafter hliteral.isBlank]
    exact Decimal.int?_eq_some_iff.mpr hliteral
  · rintro ⟨text, htext, hread⟩
    obtain ⟨before, after, hlayout, hbefore, hafter⟩ := exists_trim text
    refine ⟨before, trim text, after, ?_, hbefore, Decimal.int?_eq_some_iff.mp hread, hafter⟩
    rw [← hlayout]
    exact Utf8.decode?_eq_some_iff.mp htext

/-- No action spells two integers. -/
theorem SpellsInteger.unique {m : Int} (hn : SpellsInteger action n) (hm : SpellsInteger action m) :
    n = m := by
  obtain ⟨text, htext, hread⟩ := spellsInteger_iff.mp hn
  obtain ⟨text', htext', hread'⟩ := spellsInteger_iff.mp hm
  cases htext.symm.trans htext'
  exact Option.some.inj (hread.symm.trans hread')

/-- **An action has the value that it spells**, if this is the value of a word. -/
theorem actionValue?_eq_some_iff {w : Int32} :
    actionValue? action = some w ↔ SpellsInteger action w.toInt := by
  rw [spellsInteger_iff, actionValue?, Option.bind_eq_bind, Option.bind_eq_some_iff]
  simp only [Decimal.word?_eq_some_iff]

/-- **All other actions have none**: those that spell no integer, and those that spell one
beyond the words. -/
theorem actionValue?_eq_none_iff :
    actionValue? action = none ↔ ∀ n, SpellsInteger action n → ¬ Word.Fits n := by
  rw [Option.eq_none_iff_forall_ne_some]
  constructor
  · intro hnone n hn hfits
    apply hnone (Int32.ofInt n)
    rw [actionValue?_eq_some_iff, Word.toInt_ofInt hfits]
    exact hn
  · intro hnone w hw
    exact hnone w.toInt (actionValue?_eq_some_iff.mp hw) (Word.fits_toInt w)

end Wire

end HomeEnergy
