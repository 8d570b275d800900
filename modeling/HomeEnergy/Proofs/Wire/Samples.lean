import HomeEnergy.Proofs.Wire.Telemetry

/-!
# The grammar of telemetry lines

A telemetry line is the keyword and an integer literal, with a gap of blanks between them and maybe
blanks around.  The grammar says what stands where.  The reader takes every line that follows it,
as far as the integer is the value of a word.  It also takes a line without the gap: the literal may
run on from the keyword.

* `spells_iff` — a line that is laid out so, without the blanks around it;
* `Spells.unique` — no line is laid out in two ways;
* `total?_eq_some_iff`, `total?_eq_none_iff` — what is read, and what is refused;
* `total?_accepts` — **the reader accepts telemetry lines and, beside them, exactly those whose
  literal runs on from the keyword.**
-/

namespace HomeEnergy.Wire.Telemetry

open Text

/-- The line is the keyword and a literal of this integer, with this gap between them and blanks
around. -/
structure Spells (line gap : List Char) (n : Int) : Prop where
  layout : ∃ before numeral after, line = before ++ keyword ++ gap ++ numeral ++ after ∧
    Blank before ∧ Decimal.Literal numeral n ∧ Blank after
  gap_blank : Blank gap

variable {line gap gap' : List Char} {n n' : Int}

theorem after?_eq_some_iff {opening text rest : List Char} :
    after? opening text = some rest ↔ text = opening ++ rest := by
  constructor
  · intro h
    induction opening generalizing text with
    | nil =>
      cases h
      rfl
    | cons k opening ih =>
      cases text with
      | nil => cases h
      | cons c text =>
        rw [after?] at h
        split at h
        next hsame => rw [hsame, ih h, List.cons_append]
        next => cases h
  · rintro rfl
    exact after?_append opening rest

/-- Nothing around a line that begins with the keyword and ends with a literal is blank. -/
theorem trim_keyword {numeral : List Char} (h : Decimal.Literal numeral n) (gap : List Char) :
    trim (keyword ++ gap ++ numeral) = keyword ++ gap ++ numeral := by
  apply trim_eq_self
  · intro c hc
    cases hc
    decide
  · intro c hc
    rw [List.getLast?_append, List.getLast?_eq_some_getLast h.ne_nil] at hc
    cases hc
    exact h.isBlank _ (List.getLast_mem _)

/-- What is left of such a line without the blanks around it. -/
theorem spells_iff :
    Spells line gap n ↔
      Blank gap ∧ ∃ numeral, trim line = keyword ++ gap ++ numeral ∧ Decimal.Literal numeral n := by
  constructor
  · rintro ⟨⟨before, numeral, after, rfl, hbefore, hnumeral, hafter⟩, hgap⟩
    refine ⟨hgap, numeral, ?_, hnumeral⟩
    rw [hafter.trim_append_right, List.append_assoc, List.append_assoc, hbefore.trim_append_left,
      ← List.append_assoc, trim_keyword hnumeral]
  · rintro ⟨hgap, numeral, htrim, hnumeral⟩
    obtain ⟨before, after, hline, hbefore, hafter⟩ := exists_trim line
    rw [htrim] at hline
    refine ⟨⟨before, numeral, after, ?_, hbefore, hnumeral, hafter⟩, hgap⟩
    simpa only [List.append_assoc] using hline

/-- The blanks before a literal end where it begins. -/
theorem gap_eq_takeWhile {numeral : List Char} (hgap : Blank gap)
    (h : Decimal.Literal numeral n) : (gap ++ numeral).takeWhile isBlank = gap := by
  obtain ⟨c, rest, rfl⟩ := List.exists_cons_of_ne_nil h.ne_nil
  have hfirst : ¬ isBlank c = true := by
    rw [h.isBlank c List.mem_cons_self]
    exact Bool.false_ne_true
  rw [List.takeWhile_append_of_pos hgap, List.takeWhile_cons_of_neg hfirst, List.append_nil]

/-- No line is laid out in two ways. -/
theorem Spells.unique (h : Spells line gap n) (h' : Spells line gap' n') :
    gap = gap' ∧ n = n' := by
  obtain ⟨hgap, numeral, htrim, hnumeral⟩ := spells_iff.mp h
  obtain ⟨hgap', numeral', htrim', hnumeral'⟩ := spells_iff.mp h'
  have hrest : gap ++ numeral = gap' ++ numeral' := by
    have hline := htrim.symm.trans htrim'
    rw [List.append_assoc, List.append_assoc] at hline
    exact List.append_cancel_left hline
  have hsame : gap = gap' := by
    rw [← gap_eq_takeWhile hgap hnumeral, hrest, gap_eq_takeWhile hgap' hnumeral']
  subst hsame
  cases List.append_cancel_left hrest
  have hread := Decimal.int?_eq_some_iff.mpr hnumeral
  rw [Decimal.int?_eq_some_iff.mpr hnumeral'] at hread
  exact ⟨rfl, (Option.some.inj hread).symm⟩

/-- **What is read**: the lines that are laid out so, with a gap or without one. -/
theorem total?_eq_some_iff {line : String} {total : Int32} :
    total? line = some total ↔ ∃ gap, Spells line.toList gap total.toInt := by
  constructor
  · intro h
    obtain ⟨rest, hrest, hread⟩ := Option.bind_eq_some_iff.mp h
    have hliteral := Decimal.int?_eq_some_iff.mp (Decimal.word?_eq_some_iff.mp hread)
    obtain ⟨before, after, hline, hbefore, hafter⟩ := exists_trim line.toList
    obtain ⟨gap, later, hlayout, hgap, hlater⟩ := exists_trim rest
    rw [after?_eq_some_iff.mp hrest, hlayout] at hline
    refine ⟨gap, ⟨before, trim rest, later ++ after, ?_, hbefore, hliteral, ?_⟩, hgap⟩
    · simpa only [List.append_assoc] using hline
    · intro c hc
      exact (List.mem_append.mp hc).elim (hlater c) (hafter c)
  · rintro ⟨gap, h⟩
    obtain ⟨hgap, numeral, htrim, hnumeral⟩ := spells_iff.mp h
    have hnothing : Blank [] := nofun
    have hrest : trim (gap ++ numeral) = numeral := by
      have hlayout := trim_layout hgap hnothing hnumeral.isBlank
      rwa [List.append_nil] at hlayout
    rw [total?, htrim, List.append_assoc, after?_append, Option.bind_eq_bind, Option.bind_some,
      hrest]
    exact Decimal.word?_eq_some_iff.mpr (Decimal.int?_eq_some_iff.mpr hnumeral)

/-- **What is refused**: all that is not laid out so, and integers beyond the words. -/
theorem total?_eq_none_iff {line : String} :
    total? line = none ↔ ∀ gap n, Spells line.toList gap n → ¬ Word.Fits n := by
  rw [Option.eq_none_iff_forall_ne_some]
  constructor
  · intro hnone gap n hspells hfits
    apply hnone (Int32.ofInt n)
    rw [total?_eq_some_iff, Word.toInt_ofInt hfits]
    exact ⟨gap, hspells⟩
  · intro hnone total htotal
    obtain ⟨gap, hspells⟩ := total?_eq_some_iff.mp htotal
    exact hnone gap total.toInt hspells (Word.fits_toInt total)

/-- If the keyword runs on into something, this is a literal or the line is refused. -/
theorem total?_of_run_on {line : String} {c : Char} {rest : List Char}
    (htrim : trim line.toList = keyword ++ c :: rest) (hc : isBlank c = false) {total : Int32} :
    total? line = some total ↔ Decimal.Literal (c :: rest) total.toInt := by
  rw [total?_eq_some_iff]
  constructor
  · rintro ⟨gap, h⟩
    obtain ⟨hgap, numeral, hlayout, hnumeral⟩ := spells_iff.mp h
    rw [htrim, List.append_assoc] at hlayout
    have hrest : c :: rest = gap ++ numeral := List.append_cancel_left hlayout
    cases gap with
    | nil => rwa [hrest]
    | cons b gap =>
      cases hrest
      exact absurd (hgap c List.mem_cons_self) (by rw [hc]; exact Bool.false_ne_true)
  · intro hnumeral
    refine ⟨[], spells_iff.mpr ⟨nofun, c :: rest, ?_, hnumeral⟩⟩
    rw [htrim, List.append_nil]

/-- **The reader accepts telemetry lines, and lines without a gap.**  It reads an integer from a
line exactly if the line is the keyword and a literal of the integer, with blanks, many or none,
between the two and around, and the integer is the value of a word; all other lines are refused.
No line is laid out so in two ways.

So the reader is the one of the grammar, in which a gap has to be there, on all lines but those in
which the literal of a word runs on from the keyword.  Anything else that the keyword runs on into
is refused. -/
theorem total?_accepts (line : String) :
    (∀ total : Int32,
      total? line = some total ↔ ∃ gap, Spells line.toList gap total.toInt) ∧
    (total? line = none ↔ ∀ gap n, Spells line.toList gap n → ¬ Word.Fits n) ∧
    (∀ gap gap' n n', Spells line.toList gap n → Spells line.toList gap' n' →
      gap = gap' ∧ n = n') ∧
    ((∀ total : Int32,
      total? line = some total ↔ ∃ gap, gap ≠ [] ∧ Spells line.toList gap total.toInt) ↔
        ∀ n, Spells line.toList [] n → ¬ Word.Fits n) ∧
    ∀ c rest, trim line.toList = keyword ++ c :: rest → isBlank c = false →
      ∀ total : Int32, total? line = some total ↔ Decimal.Literal (c :: rest) total.toInt := by
  refine ⟨fun total => total?_eq_some_iff, total?_eq_none_iff, ?_, ?_, ?_⟩
  · intro gap gap' n n' h h'
    exact h.unique h'
  · constructor
    · intro hgrammar n hspells hfits
      rw [← Word.toInt_ofInt hfits] at hspells
      obtain ⟨gap, hgap, h⟩ := (hgrammar _).mp (total?_eq_some_iff.mpr ⟨[], hspells⟩)
      exact hgap (h.unique hspells).1
    · intro hnone total
      rw [total?_eq_some_iff]
      constructor
      · rintro ⟨gap, h⟩
        refine ⟨gap, ?_, h⟩
        rintro rfl
        exact hnone _ h (Word.fits_toInt total)
      · rintro ⟨gap, -, h⟩
        exact ⟨gap, h⟩
  · intro c rest htrim hc total
    exact total?_of_run_on htrim hc

/-- A line without the gap follows no grammar that asks for one, but it is read. -/
theorem run_on_sample_is_read :
    total? "powerSample5" = some 5 ∧ ¬ ∃ gap, gap ≠ [] ∧ Spells "powerSample5".toList gap 5 := by
  have hkeyword : trim "powerSample5".toList = keyword ++ [] ++ ['5'] := by decide
  have hfive : Decimal.Literal ['5'] 5 := Decimal.int?_eq_some_iff.mp (by decide)
  have hspells : Spells "powerSample5".toList [] 5 :=
    spells_iff.mpr ⟨nofun, ['5'], hkeyword, hfive⟩
  refine ⟨total?_eq_some_iff.mpr ⟨[], hspells⟩, ?_⟩
  rintro ⟨gap, hgap, h⟩
  exact hgap (h.unique hspells).1

end HomeEnergy.Wire.Telemetry
