import HomeEnergy.House.Balance
import HomeEnergy.Proofs.Runs
import HomeEnergy.Proofs.Text.Literals

/-!
# Reading a summary

The summary of a balance is a line for people to read.  It holds five numerals, and whatever stands
between them has neither digits nor signs; so the numerals are found again without knowing any of
the words of the line.

* `Balance.laid_summary` — the numerals of a summary, in order;
* `Balance.readings_summary` — **the five values are read back from it;**
* `Balance.summary_eq_iff` — two balances with the same summary differ in the glyph at most.
-/

namespace HomeEnergy.Balance

open Text Decimal

/-- The character is no part of any numeral. -/
def aside (c : Char) : Bool := !(c.isDigit || c == '+' || c == '-')

/-- The words whose literals stand in a text, as far as there are any. -/
def readings (text : List Char) : List (Option Int32) := (runs aside text).map word?

theorem aside_of_mem_literal {literal : List Char} {n : Int} (h : Literal literal n) :
    ∀ c ∈ literal, aside c = false := by
  intro c hc
  rcases h.isDigit_or_sign c hc with hdigit | rfl | rfl
  · rw [aside, hdigit]
    rfl
  · rfl
  · rfl

/-- Words of a line among which there is no numeral. -/
def Words (words : String) : Prop := words ≠ "" ∧ words.toList.all aside = true

instance (words : String) : Decidable (Words words) := inferInstanceAs (Decidable (_ ∧ _))

/-- Words stand in the way of the literal before them. -/
theorem Words.aside_of_mem_head? {words : String} (h : Words words) (rest : List Char) :
    ∀ c ∈ (words.toList ++ rest).head?, aside c = true := by
  intro c hc
  have hne : words.toList ≠ [] := mt String.toList_eq_nil_iff.mp h.1
  rw [List.head?_append, Option.or_of_isSome (List.isSome_head?.mpr hne)] at hc
  exact List.all_eq_true.mp h.2 c (List.mem_of_mem_head? hc)

/-- A literal behind words is a run of its own. -/
theorem Words.laid_literal {words : String} (h : Words words) {literal rest : List Char} {n : Int}
    {found : List (List Char)} (hliteral : Literal literal n)
    (hend : ∀ c ∈ rest.head?, aside c = true) (hrest : Laid aside rest found) :
    Laid aside (words.toList ++ (literal ++ rest)) (literal :: found) :=
  .gap (List.all_eq_true.mp h.2)
    (.run hliteral.ne_nil (aside_of_mem_literal hliteral) hend hrest)

/-- The numerals of a balance, in the order of its summary. -/
def numerals (b : Balance) : List (List Char) :=
  [ofIntSigned b.houseLoad.toInt, ofIntSigned b.turbineLoad.toInt,
   ofIntSigned b.batteryLoad.toInt, ofInt b.stateOfCharge.toInt, ofIntSigned b.totalLoad.toInt]

/-- The values of these numerals. -/
def values (b : Balance) : List Int32 :=
  [b.houseLoad, b.turbineLoad, b.batteryLoad, b.stateOfCharge, b.totalLoad]

theorem map_word?_numerals (b : Balance) : b.numerals.map word? = b.values.map some := by
  have hsigned (w : Int32) : word? (ofIntSigned w.toInt) = some w :=
    word?_eq_some_iff.mpr (int?_ofIntSigned w.toInt)
  rw [numerals, List.map_cons, List.map_cons, List.map_cons, List.map_cons, List.map_singleton,
    hsigned, hsigned, hsigned, hsigned, word?_ofInt]
  rfl

theorem toList_summary (b : Balance) :
    b.summary.toList =
      "house=".toList ++ (ofIntSigned b.houseLoad.toInt ++
        (" turbine=".toList ++ (ofIntSigned b.turbineLoad.toInt ++
          (" battery=".toList ++ (ofIntSigned b.batteryLoad.toInt ++
            (" (soc=".toList ++ (ofInt b.stateOfCharge.toInt ++
              (") | total=".toList ++ ofIntSigned b.totalLoad.toInt)))))))) := by
  unfold summary
  rw [String.toList_ofList]
  simp only [List.append_assoc]

/-- **The numerals of a summary are those of the balance.** -/
theorem laid_summary (b : Balance) : Laid aside b.summary.toList b.numerals := by
  have hsigned (n : Int) : Literal (ofIntSigned n) n := int?_eq_some_iff.mp (int?_ofIntSigned n)
  have hplain (n : Int) : Literal (ofInt n) n := int?_eq_some_iff.mp (int?_ofInt n)
  have hturbine : Words " turbine=" := by decide
  have hbattery : Words " battery=" := by decide
  have hcharge : Words " (soc=" := by decide
  have htotal : Words ") | total=" := by decide
  rw [toList_summary, ← List.append_nil (ofIntSigned b.totalLoad.toInt)]
  -- behind each numeral stand the next words, and behind the last one nothing
  refine Words.laid_literal (by decide) (hsigned _) (hturbine.aside_of_mem_head? _) ?_
  refine hturbine.laid_literal (hsigned _) (hbattery.aside_of_mem_head? _) ?_
  refine hbattery.laid_literal (hsigned _) (hcharge.aside_of_mem_head? _) ?_
  refine hcharge.laid_literal (hplain _) (htotal.aside_of_mem_head? _) ?_
  exact htotal.laid_literal (hsigned _) nofun .nil

/-- **The values of a balance are read back from its summary.** -/
theorem readings_summary (b : Balance) : readings b.summary.toList = b.values.map some := by
  rw [readings, laid_iff.mp b.laid_summary, map_word?_numerals]

/-- **A summary tells everything of a balance but its glyph.** -/
theorem summary_eq_iff (b other : Balance) :
    other.summary = b.summary ↔ other = { b with batteryGlyph := other.batteryGlyph } := by
  constructor
  · intro h
    have hreadings := other.readings_summary
    rw [h, readings_summary] at hreadings
    have hvalues : b.values = other.values :=
      (List.map_inj_right fun _ _ => Option.some.inj).mp hreadings
    obtain ⟨house, turbine, battery, total, charge, glyph⟩ := b
    cases hvalues
    rfl
  · intro h
    rw [h]
    rfl

end HomeEnergy.Balance
