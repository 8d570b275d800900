import HomeEnergy.Csv
import HomeEnergy.Proofs.Text.Literals

/-!
# Exported samples are read back

An export is a list of records: the header, and a row for each sample.  What writes records as text
is known by one law only, `Joins`.  No value of an export needs quotes, so the law says all of its
text, and who cuts this at line feeds and commas and reads the numerals has the samples.

* `writeOut_eq` — the text that is written, whatever writes the records;
* `splitOn_render` — its lines;
* `readings_row` — the numbers of a row;
* `writeOut_lossless` — **an export loses nothing of the five columns**, and holds nothing else.
-/

namespace HomeEnergy.Csv

open Text

/-! ## Records and what writes them -/

/-- The five numbers that an export keeps of a sample. -/
def columns (b : Balance) : List Int :=
  [b.houseLoad.toInt, b.turbineLoad.toInt, b.batteryLoad.toInt, b.totalLoad.toInt,
    b.stateOfCharge.toInt]

/-- The records of an export: the header, and a row for each sample. -/
def records (samples : List Balance) : List (List (List Char)) :=
  header.map String.toList :: samples.zipIdx.map fun (b, index) => row index b

/-- The character needs no quotes around the value that it is in. -/
def Plain (c : Char) : Prop := c ≠ ',' ∧ c ≠ '"' ∧ c ≠ '\r' ∧ c ≠ '\n'

instance (c : Char) : Decidable (Plain c) := inferInstanceAs (Decidable (_ ∧ _))

/-- What writes records: those that are as long as the header, and that need no quotes, are joined
by commas and ended by a line feed.  Of other records nothing is said. -/
def Joins {ε : Type} (write : List (List Char) → Except ε (List Char)) : Prop :=
  ∀ fields, fields.length = header.length → (∀ field ∈ fields, ∀ c ∈ field, Plain c) →
    write fields = .ok (line fields)

/-- Writes an export, record by record. -/
def writeOut {ε : Type} (write : List (List Char) → Except ε (List Char))
    (samples : List Balance) : Except ε (List Char) :=
  return (← (records samples).mapM write).flatten

/-- A numeral needs no quotes. -/
theorem plain_ofInt {n : Int} {c : Char} (h : c ∈ Decimal.ofInt n) : Plain c := by
  have hliteral := Decimal.int?_eq_some_iff.mp (Decimal.int?_ofInt n)
  rcases hliteral.isDigit_or_sign c h with hdigit | rfl | rfl
  · refine ⟨?_, ?_, ?_, ?_⟩ <;> rintro rfl <;> exact absurd hdigit (by decide)
  · decide
  · decide

/-- The number of a row is a numeral as any other. -/
theorem row_eq (index : Nat) (b : Balance) :
    row index b = ((index : Int) :: columns b).map Decimal.ofInt := rfl

theorem plain_of_mem_row {index : Nat} {b : Balance} {field : List Char}
    (hfield : field ∈ row index b) : ∀ c ∈ field, Plain c := by
  rw [row_eq] at hfield
  obtain ⟨n, -, rfl⟩ := List.mem_map.mp hfield
  exact fun c hc => plain_ofInt hc

theorem plain_of_mem_header {field : List Char} (hfield : field ∈ header.map String.toList) :
    ∀ c ∈ field, Plain c := by
  have hall : (header.map String.toList).all (·.all fun c => decide (Plain c)) = true := by
    decide +kernel
  intro c hc
  exact of_decide_eq_true (List.all_eq_true.mp (List.all_eq_true.mp hall field hfield) c hc)

/-- **No value of an export needs quotes**, and all records are as long as the header. -/
theorem plain_of_mem_records {samples : List Balance} {fields : List (List Char)}
    (h : fields ∈ records samples) :
    fields.length = header.length ∧ ∀ field ∈ fields, ∀ c ∈ field, Plain c := by
  rcases List.mem_cons.mp h with rfl | h
  · exact ⟨List.length_map _, fun field hfield => plain_of_mem_header hfield⟩
  · obtain ⟨⟨b, index⟩, -, rfl⟩ := List.mem_map.mp h
    exact ⟨rfl, fun field hfield => plain_of_mem_row hfield⟩

/-! ## The text of an export -/

theorem lines_eq (first : Nat) (samples : List Balance) :
    lines first samples = (samples.zipIdx first).map fun (b, index) => line (row index b) := by
  induction samples generalizing first with
  | nil => rfl
  | cons b samples ih => rw [lines, ih, List.zipIdx_cons, List.map_cons]

theorem toList_render (samples : List Balance) :
    (render samples).toList = ((records samples).map line).flatten := by
  rw [render, String.toList_ofList, records, List.map_cons, List.flatten_cons, List.map_map,
    lines_eq]
  rfl

theorem mapM_of_forall {ε α β : Type} {step : α → Except ε β} {result : α → β} {xs : List α}
    (h : ∀ x ∈ xs, step x = .ok (result x)) : xs.mapM step = .ok (xs.map result) := by
  induction xs with
  | nil => rfl
  | cons x xs ih =>
    obtain ⟨hx, hxs⟩ := List.forall_mem_cons.mp h
    rw [List.mapM_cons, hx, ih hxs]
    rfl

/-- **The text that is written**, whatever writes the records. -/
theorem writeOut_eq {ε : Type} {write : List (List Char) → Except ε (List Char)}
    (h : Joins write) (samples : List Balance) :
    writeOut write samples = .ok (render samples).toList := by
  have hwrites : ∀ fields ∈ records samples, write fields = .ok (line fields) := by
    intro fields hfields
    obtain ⟨hlength, hplain⟩ := plain_of_mem_records hfields
    exact h fields hlength hplain
  rw [writeOut, mapM_of_forall hwrites, toList_render]
  rfl

/-! ## Its lines and their numbers -/

/-- A record without the line feed that ends it. -/
def content (fields : List (List Char)) : List Char := [','].intercalate fields

/-- Lines that are ended by line feeds are what lies between these; nothing follows the last. -/
theorem splitOn_flatten {texts : List (List Char)} (h : ∀ text ∈ texts, '\n' ∉ text) :
    ((texts.map (· ++ ['\n'])).flatten).splitOn '\n' = texts ++ [[]] := by
  induction texts with
  | nil => rfl
  | cons text texts ih =>
    obtain ⟨htext, htexts⟩ := List.forall_mem_cons.mp h
    have hnone : ∀ c ∈ text, (c == '\n') = false := by
      intro c hc
      rw [beq_eq_false_iff_ne]
      rintro rfl
      exact htext hc
    have hlater := ih htexts
    rw [List.splitOn_eq_splitOnP] at hlater ⊢
    rw [List.map_cons, List.flatten_cons, List.append_assoc, List.singleton_append,
      List.splitOnP_append_cons _ _ (by decide), List.splitOnP_eq_singleton hnone, hlater]
    rfl

/-- What stands in a record is a comma, or stands in one of its values. -/
theorem mem_content {fields : List (List Char)} {c : Char} (h : c ∈ content fields) :
    c = ',' ∨ ∃ field ∈ fields, c ∈ field := by
  induction fields with
  | nil => cases h
  | cons field fields ih =>
    cases fields with
    | nil =>
      rw [content, List.intercalate_singleton] at h
      exact .inr ⟨field, List.mem_cons_self, h⟩
    | cons next fields =>
      rw [content, List.intercalate_cons_cons, List.mem_append, List.mem_append,
        List.mem_singleton] at h
      rcases h with (hfirst | hcomma) | hlater
      · exact .inr ⟨field, List.mem_cons_self, hfirst⟩
      · exact .inl hcomma
      · rcases ih hlater with hcomma | ⟨other, hother, hc⟩
        · exact .inl hcomma
        · exact .inr ⟨other, List.mem_cons_of_mem field hother, hc⟩

/-- A record of an export is one line. -/
theorem lineFeed_not_mem_content {samples : List Balance} {fields : List (List Char)}
    (h : fields ∈ records samples) : '\n' ∉ content fields := by
  intro hmem
  rcases mem_content hmem with hcomma | ⟨field, hfield, hc⟩
  · exact absurd hcomma (by decide)
  · exact ((plain_of_mem_records h).2 field hfield _ hc).2.2.2 rfl

/-- **The lines of an export** are its records, and each of them is ended. -/
theorem splitOn_render (samples : List Balance) :
    (render samples).toList.splitOn '\n' = (records samples).map content ++ [[]] := by
  have hone : ∀ text ∈ (records samples).map content, '\n' ∉ text := by
    intro text htext
    obtain ⟨fields, hfields, rfl⟩ := List.mem_map.mp htext
    exact lineFeed_not_mem_content hfields
  rw [← splitOn_flatten hone, List.map_map, toList_render]
  rfl

/-- The integers that stand between the commas of a line, as far as there are any. -/
def readings (text : List Char) : List (Option Int) := (text.splitOn ',').map Decimal.int?

/-- **The numbers of a row** are read back from its line. -/
theorem readings_row (index : Nat) (b : Balance) :
    readings (content (row index b)) = ((index : Int) :: columns b).map some := by
  have hcomma : ∀ field ∈ row index b, ',' ∉ field := by
    intro field hfield hc
    exact (plain_of_mem_row hfield _ hc).1 rfl
  rw [readings, content, List.splitOn_intercalate ',' hcomma (List.cons_ne_nil _ _), row_eq,
    List.map_map]
  exact List.map_congr_left fun n _ => Decimal.int?_ofInt n

/-! ## What is lost, and what is not -/

/-- The lines of the rows. -/
def rowTexts (samples : List Balance) : List (List Char) :=
  samples.zipIdx.map fun (b, index) => content (row index b)

theorem splitOn_render_eq_cons (samples : List Balance) :
    (render samples).toList.splitOn '\n' =
      content (header.map String.toList) :: (rowTexts samples ++ [[]]) := by
  rw [splitOn_render, records, List.map_cons, List.map_map]
  rfl

/-- The columns are what the rows are read as, without their first numbers. -/
theorem map_readings_rowTexts (samples : List Balance) :
    (rowTexts samples).map (fun text => (readings text).tail) =
      (samples.map columns).map (·.map some) := by
  have hread : ∀ entry ∈ samples.zipIdx,
      (readings (content (row entry.2 entry.1))).tail = (columns entry.1).map some := by
    intro entry _
    rw [readings_row]
    rfl
  calc (rowTexts samples).map (fun text => (readings text).tail)
      = samples.zipIdx.map fun entry => (readings (content (row entry.2 entry.1))).tail := by
        rw [rowTexts, List.map_map]
        rfl
    _ = samples.zipIdx.map fun entry => (columns entry.1).map some := List.map_congr_left hread
    _ = ((samples.zipIdx.map Prod.fst).map columns).map (·.map some) := by
        rw [List.map_map, List.map_map]
        rfl
    _ = (samples.map columns).map (·.map some) := by rw [List.zipIdx_map_fst]

/-- Nothing but the columns is written. -/
theorem records_eq (samples : List Balance) :
    records samples = header.map String.toList ::
      (samples.map columns).zipIdx.map fun (values, index) =>
        ((index : Int) :: values).map Decimal.ofInt := by
  rw [records, List.zipIdx_map, List.map_map]
  rfl

/-- **Two exports are the same exactly if their columns are.** -/
theorem render_eq_iff (samples others : List Balance) :
    render others = render samples ↔ others.map columns = samples.map columns := by
  constructor
  · intro h
    have hlines : rowTexts others = rowTexts samples := by
      have hcut := splitOn_render_eq_cons others
      rw [h, splitOn_render_eq_cons] at hcut
      exact (List.append_cancel_right (List.cons.inj hcut).2).symm
    have hread := congrArg (List.map fun text => (readings text).tail) hlines
    rw [map_readings_rowTexts, map_readings_rowTexts] at hread
    have hsome : ∀ values values' : List Int,
        values.map some = values'.map some → values = values' :=
      fun _ _ hvalues => (List.map_inj_right fun _ _ => Option.some.inj).mp hvalues
    exact (List.map_inj_right hsome).mp hread
  · intro h
    rw [← String.toList_inj, toList_render, toList_render, records_eq, records_eq, h]

/-- **An export is lossless.**  Whatever writes its records by the law, all of an export is written.
Cut at the line feeds, its text is the header, one line for each sample, and nothing behind the
last line feed.  The line of a sample, cut at the commas, holds six numerals: its number and its
five columns.  So two lists of samples are exported as the same text exactly if they agree in
these columns. -/
theorem writeOut_lossless {ε : Type} {write : List (List Char) → Except ε (List Char)}
    (h : Joins write) (samples : List Balance) :
    writeOut write samples = .ok (render samples).toList ∧
    (∃ rows, (render samples).toList.splitOn '\n' =
        "report,house_load,turbine_load,battery_load,total_load,state_of_charge".toList ::
          (rows ++ [[]]) ∧
      rows.length = samples.length ∧
      ∀ (index : Nat) (b : Balance), samples[index]? = some b →
        ∃ text, rows[index]? = some text ∧
          readings text = [some (index : Int), some b.houseLoad.toInt, some b.turbineLoad.toInt,
            some b.batteryLoad.toInt, some b.totalLoad.toInt, some b.stateOfCharge.toInt]) ∧
    ∀ others, writeOut write others = writeOut write samples ↔
      others.map columns = samples.map columns := by
  have hheader : content (header.map String.toList) =
      "report,house_load,turbine_load,battery_load,total_load,state_of_charge".toList := by
    decide +kernel
  refine ⟨writeOut_eq h samples, ⟨rowTexts samples, ?_, ?_, ?_⟩, ?_⟩
  · rw [splitOn_render_eq_cons, hheader]
  · rw [rowTexts, List.length_map, List.length_zipIdx]
  · intro index b hb
    refine ⟨content (row index b), ?_, readings_row index b⟩
    rw [rowTexts, List.getElem?_map, List.getElem?_zipIdx, hb, Nat.zero_add]
    rfl
  · intro others
    rw [writeOut_eq h, writeOut_eq h, Except.ok.injEq, String.toList_inj, render_eq_iff]

/-- Writes a value in quotes if it needs them, and a quote in it twice. -/
def quoted (field : List Char) : List Char :=
  if field.all (fun c => decide (Plain c)) then field
  else '"' :: field.flatMap (fun c => if c = '"' then ['"', '"'] else [c]) ++ ['"']

/-- Writes records of one length, with quotes where they are needed. -/
def quoting (fields : List (List Char)) : Except String (List Char) :=
  if fields.length = header.length then .ok (line (fields.map quoted))
  else .error "unequal lengths"

theorem joins_quoting : Joins quoting := by
  intro fields hlength hplain
  have hbare : ∀ field ∈ fields, quoted field = id field := by
    intro field hfield
    have hall : field.all (fun c => decide (Plain c)) = true :=
      List.all_eq_true.mpr fun c hc => decide_eq_true (hplain field hfield c hc)
    exact if_pos hall
  rw [quoting, if_pos hlength, List.map_congr_left hbare, List.map_id]

/-- Samples at both ends of the words. -/
def extremes : List Balance :=
  [⟨0x7FFFFFFF, -5, -0x80000000, 0, 0x7FFFFFFF, 5⟩, ⟨0, 0, -1, -0x80000000, 0, 0⟩]

theorem writeOut_lossless_extremes :
    Joins quoting ∧
      writeOut quoting extremes = .ok (render extremes).toList ∧
      (∃ rows : List (List Char), rows.length = 2 ∧
        ∃ first second, rows[0]? = some first ∧ rows[1]? = some second ∧
          readings first = [some 0, some 2147483647, some (-5), some (-2147483648), some 0,
            some 2147483647] ∧
          readings second = [some 1, some 0, some 0, some (-1), some (-2147483648), some 0]) ∧
      writeOut quoting extremes.reverse ≠ writeOut quoting extremes := by
  obtain ⟨hwritten, ⟨rows, -, hlength, hrows⟩, hsame⟩ := writeOut_lossless joins_quoting extremes
  obtain ⟨first, hfirst, hread⟩ := hrows 0 _ rfl
  obtain ⟨second, hsecond, hread'⟩ := hrows 1 _ rfl
  refine ⟨joins_quoting, hwritten, ⟨rows, hlength, first, second, hfirst, hsecond, hread, hread'⟩,
    ?_⟩
  rw [Ne, hsame]
  decide

end HomeEnergy.Csv
