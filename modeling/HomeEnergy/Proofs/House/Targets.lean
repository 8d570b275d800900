import HomeEnergy.Proofs.House.Steering
import HomeEnergy.Proofs.Text.Literals
import HomeEnergy.Proofs.Wire.Parsing

/-!
# Asking the battery for a flow

The battery takes an action for the integer that it spells.  The characters of a literal are printed
ASCII, so that no literal falls apart into words of a line: one behind the keyword is the action,
whole, and every flow that is a word can be asked for by writing it down.

* `House.dispatch_literal` — a literal behind the keyword;
* `House.actionValue?_reads_literals` — **which actions are integers, and that the battery can be
  asked for each of them.**
-/

namespace HomeEnergy

open Text Wire

/-! ## Literals as words of a line -/

/-- The bytes that separate are those of characters that are not printed. -/
theorem Wire.Command.isSeparator_of_mem_encode {cs : List Char} (hcs : ∀ c ∈ cs, Printing c)
    {b : UInt8} (hb : b ∈ Utf8.encode cs) : isSeparator b = false := by
  apply eq_false_of_ne_true
  intro hseparator
  simp only [isSeparator, Bool.or_eq_true, beq_iff_eq, ← UInt8.toNat_inj,
    UInt8.reduceToNat] at hseparator
  obtain ⟨c, hc, hbyte⟩ := Utf8.exists_of_mem_encode hb (by omega)
  have hgt : 0x20 < c.toNat := (hcs c hc).1
  omega

namespace House

/-- The line that asks the battery for a flow. -/
def askBattery (literal : List Char) : Line := Utf8.encode ("battery ".toList ++ literal)

/-- A literal behind the keyword is the action. -/
theorem parse_askBattery {literal : List Char} {n : Int} (h : Decimal.Literal literal n) :
    Command.parse (askBattery literal) = .ok ⟨.battery, Utf8.encode literal⟩ := by
  have hline : askBattery literal =
      [] ++ Target.battery.spelling ++ [0x20] ++ Utf8.encode literal ++ [] := by
    rw [askBattery, Utf8.encode_append, List.append_nil]
    rfl
  rw [Command.parse_eq_ok_iff, Command.laid_pair_iff]
  refine ⟨[], [0x20], [], hline, nofun, Target.battery.spelling_word, ⟨List.cons_ne_nil _ _, ?_⟩,
    ⟨Utf8.encode_ne_nil h.ne_nil, ?_⟩, nofun⟩
  · intro b hb
    rw [List.mem_singleton.mp hb]
    rfl
  · intro b hb
    exact Command.isSeparator_of_mem_encode h.printing hb

/-- A line with a literal of a word makes the battery aim there, and does nothing else. -/
theorem dispatch_literal (house : House) {literal : List Char} {n : Int32}
    (h : Decimal.Literal literal n.toInt) :
    house.dispatch (askBattery literal) =
      .ok { answer := .ok .battery, writes := [], house := house.aimingAt n } := by
  apply dispatch_eq_aimingAt (parse_askBattery h)
  rw [actionValue?_eq_some_iff]
  refine ⟨[], literal, [], ?_, nofun, h, nofun⟩
  rw [List.nil_append, List.append_nil]

/-- **An action is read as an integer exactly if it spells one that is a word**: it is the encoding
of a literal, with blanks around it or none, and the value of the literal is within the range of
words.  The battery can be asked for each of these, by its decimal numeral behind the keyword. -/
theorem actionValue?_reads_literals :
    (∀ (action : List UInt8) (n : Int32), actionValue? action = some n ↔
      ∃ before literal after m,
        action = Utf8.encode (before ++ literal ++ after) ∧ Blank before ∧ Blank after ∧
        Decimal.Literal literal m ∧ (-0x80000000 ≤ m ∧ m ≤ 0x7FFFFFFF) ∧ n = Int32.ofInt m) ∧
    ∀ (house : House) (n : Int32),
      house.dispatch (askBattery (Decimal.ofInt n.toInt)) =
        .ok { answer := .ok .battery, writes := [], house := house.aimingAt n } := by
  constructor
  · intro action n
    rw [actionValue?_eq_some_iff]
    constructor
    · rintro ⟨before, literal, after, hlayout, hbefore, hliteral, hafter⟩
      obtain ⟨hge, hlt⟩ := Word.fits_toInt n
      exact ⟨before, literal, after, n.toInt, hlayout, hbefore, hafter, hliteral,
        ⟨by omega, by omega⟩, (Int32.ofInt_toInt n).symm⟩
    · rintro ⟨before, literal, after, m, hlayout, hbefore, hafter, hliteral, ⟨hge, hle⟩, rfl⟩
      have hfits : Word.Fits m := ⟨by omega, by omega⟩
      rw [Word.toInt_ofInt hfits]
      exact ⟨before, literal, after, hlayout, hbefore, hliteral, hafter⟩
  · intro house n
    exact house.dispatch_literal (Decimal.int?_eq_some_iff.mp (Decimal.int?_ofInt n.toInt))

/-- Blanks of any kind are passed over; a sign alone is no literal, and 2³¹ is no word. -/
example :
    (["\u00A0-0007\u2003\r", "+", "2147483648"].map fun text =>
      actionValue? (Utf8.encode text.toList)) = [some (-7), none, none] := by
  decide

end House

end HomeEnergy
