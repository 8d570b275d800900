import HomeEnergy.Fault
import HomeEnergy.Proofs.Panel.Redraw

/-!
# The panel as a buffer

The cursor may stand behind the last column, where there is no cell.  Beside the panel stands one
that checks each access to its cells, its glyphs and the shades, and meets a fault where there is
nothing to access.  No calls lead there, in whatever order they come, and the two panels do the
same.

* `Lcd.obey` — the panel that checks each access;
* `Lcd.Placed` — the invariant, and `Lcd.Placed.obey_eq`, that each call keeps it;
* `getElem?_overwrite` — which cells a text replaces, and which it leaves;
* `obeyAll_buffers` — **whatever calls are made, the panel is a buffer of two rows of sixteen
  cells**, and text goes where it should.
-/

namespace HomeEnergy.Panel

/-! ## Checked access -/

section

variable {α : Type} {table : List α} {i : Nat}

/-- An entry of a table; a fault if there is none. -/
def readAt (table : List α) (i : Nat) : Except Fault α :=
  match table[i]? with
  | some a => .ok a
  | none => .error .outsideTable

/-- The table with another entry; a fault if there is none to replace. -/
def writeAt (table : List α) (i : Nat) (a : α) : Except Fault (List α) :=
  if i < table.length then .ok (table.set i a) else .error .outsideTable

theorem readAt_eq (h : i < table.length) : readAt table i = .ok table[i] := by
  rw [readAt, List.getElem?_eq_getElem h]

theorem writeAt_eq (h : i < table.length) (a : α) : writeAt table i a = .ok (table.set i a) :=
  if_pos h

end

namespace Lcd

/-- Writes text, each character into the cell at the cursor, until the end of the row. -/
def writeText (lcd : Lcd) : List Char → Except Fault Lcd
  | [] => .ok lcd
  | c :: text =>
    if columns ≤ lcd.col then .ok lcd
    else do
      let row ← writeAt (← readAt lcd.cells lcd.row) lcd.col c
      let cells ← writeAt lcd.cells lcd.row row
      { lcd with cells, col := lcd.col + 1 }.writeText text

/-- Which of the shades is the one of a glyph. -/
def shadeIndex (glyph : Bitmap) : Nat :=
  let darkest := shades.length - 1
  min ((glyph.foldr (litInRow · + ·) 0 * darkest + (pixels - 1)) / pixels) darkest

/-- How a character shows, by a look into the slots and the shades. -/
def readAppearance (lcd : Lcd) (c : Char) : Except Fault Char :=
  if slots ≤ c.toNat then .ok c
  else do
    match ← readAt lcd.glyphs c.toNat with
    | some glyph => readAt shades (shadeIndex glyph)
    | none => .ok ' '

/-- A row as it shows. -/
def readRow (lcd : Lcd) (row : Nat) : Except Fault (List Char) :=
  (lcd.cells.getD row []).mapM lcd.readAppearance

/-- Obeys a call, with the answer and the panel after it.  Text that was written is looked at in
its row. -/
def obey (lcd : Lcd) : Call → Except Fault (Except PanelError Unit × Lcd)
  | .moveTo col row =>
    return if columns ≤ col ∨ rows ≤ row then (.error (.outside col row), lcd)
      else (.ok (), { lcd with col, row })
  | .putText text => do
    let lcd ← lcd.writeText text
    let _ ← lcd.readRow lcd.row
    return (.ok (), lcd)
  | .loadGlyph slot glyph =>
    return match lcd.glyphs[slot]? with
      | some _ => (.ok (), { lcd with glyphs := lcd.glyphs.set slot (some glyph) })
      | none => (.error (.outside slot 0), lcd)
  | .clear => return (.ok (), { glyphs := lcd.glyphs })

/-- Obeys calls one after the other, whatever the answers: all of these, and the panel after the
last call. -/
def obeyAll (lcd : Lcd) : List Call → Except Fault (List (Except PanelError Unit) × Lcd)
  | [] => return ([], lcd)
  | call :: later => do
    let (answer, next) ← lcd.obey call
    let (answers, last) ← next.obeyAll later
    return (answer :: answers, last)

/-! ## No access fails -/

/-- All cells and slots are there, and the cursor stands in a row, at most behind its last cell. -/
structure Placed (lcd : Lcd) : Prop extends Sized lcd where
  col_le : lcd.col ≤ columns
  row_lt : lcd.row < rows

variable {lcd : Lcd}

theorem placed_new : Placed {} where
  rows_eq := rfl
  columns_eq hmem := by
    rw [List.eq_of_mem_replicate hmem]
    rfl
  slots_eq := rfl
  col_le := Nat.zero_le _
  row_lt := by decide

theorem Placed.putChar (h : lcd.Placed) (c : Char) : (lcd.putChar c).Placed := by
  refine { h.toSized.putChar c with col_le := ?_, row_lt := ?_ }
  · unfold Lcd.putChar
    split
    next hlt => exact hlt
    next => exact h.col_le
  · unfold Lcd.putChar
    split
    · exact h.row_lt
    · exact h.row_lt

/-- **Text is written into cells that there are.** -/
theorem Placed.writeText_eq (h : lcd.Placed) (text : List Char) :
    lcd.writeText text = .ok (text.foldl Lcd.putChar lcd) := by
  induction text generalizing lcd with
  | nil => rfl
  | cons c text ih =>
    rw [List.foldl_cons, ← ih (h.putChar c), writeText]
    unfold Lcd.putChar
    by_cases hlt : lcd.col < columns
    · have hrow : lcd.row < lcd.cells.length := Nat.lt_of_lt_of_eq h.row_lt h.rows_eq.symm
      have hcol : lcd.col < lcd.cells[lcd.row].length :=
        Nat.lt_of_lt_of_eq hlt (h.columns_eq (List.getElem_mem hrow)).symm
      have hcells : lcd.cells.modify lcd.row (·.set lcd.col c) =
          lcd.cells.set lcd.row (lcd.cells[lcd.row].set lcd.col c) := by
        rw [List.modify_eq_set, List.getElem?_eq_getElem hrow]
        rfl
      rw [if_pos hlt, if_neg (Nat.not_le.mpr hlt), readAt_eq hrow, hcells]
      simp only [bind, Except.bind, writeAt_eq hcol, writeAt_eq hrow]
    · rw [if_neg hlt, if_pos (Nat.not_lt.mp hlt)]
      cases text with
      | nil => rfl
      | cons c text => exact (if_pos (Nat.not_lt.mp hlt)).symm

/-- A look at a character ends at a glyph, at an empty slot or at the character itself. -/
theorem Sized.readAppearance_eq (h : lcd.Sized) (c : Char) :
    lcd.readAppearance c = .ok (lcd.appearance c) := by
  unfold readAppearance appearance
  by_cases hslot : c.toNat < slots
  · have hglyph : c.toNat < lcd.glyphs.length := Nat.lt_of_lt_of_eq hslot h.slots_eq.symm
    rw [if_neg (Nat.not_le.mpr hslot), if_pos hslot, readAt_eq hglyph,
      List.getD_eq_getElem?_getD, List.getElem?_eq_getElem hglyph]
    simp only [bind, Except.bind, Option.getD_some]
    cases lcd.glyphs[c.toNat] with
    | none => rfl
    | some glyph =>
      have hshade : shadeIndex glyph < shades.length :=
        Nat.lt_of_le_of_lt (Nat.min_le_right _ _) (by decide)
      show readAt shades (shadeIndex glyph) = .ok (shades.getD (shadeIndex glyph) ' ')
      rw [readAt_eq hshade, List.getD_eq_getElem?_getD, List.getElem?_eq_getElem hshade]
      rfl
  · rw [if_neg hslot, if_pos (Nat.not_lt.mp hslot)]

theorem Sized.readRow_eq (h : lcd.Sized) (row : Nat) :
    lcd.readRow row = .ok (lcd.rowText row) := by
  rw [readRow, rowText]
  induction lcd.cells.getD row [] with
  | nil => rfl
  | cons c cells ih =>
    rw [List.mapM_cons, h.readAppearance_eq, ih]
    rfl

/-- A row of the panel shows as many characters as it has cells. -/
theorem Sized.length_rowText (h : lcd.Sized) {row : Nat} (hrow : row < rows) :
    (lcd.rowText row).length = columns := by
  have hlt : row < lcd.cells.length := Nat.lt_of_lt_of_eq hrow h.rows_eq.symm
  rw [rowText, List.length_map, List.getD_eq_getElem?_getD, List.getElem?_eq_getElem hlt]
  exact h.columns_eq (List.getElem_mem hlt)

theorem Placed.call (h : lcd.Placed) {call : Call} {lcd' : Lcd} (hcall : lcd.call call = .ok lcd') :
    lcd'.Placed := by
  have hsized := h.toSized.call hcall
  cases call with
  | moveTo col row =>
    obtain ⟨⟨hcol, hrow⟩, rfl⟩ := call_moveTo_eq_ok_iff.mp hcall
    exact { hsized with col_le := Nat.le_of_lt hcol, row_lt := hrow }
  | putText text =>
    cases hcall
    refine { hsized with col_le := ?_, row_lt := ?_ }
    · have hle := h.col_le
      rw [h.toSized.foldl_putChar]
      show max lcd.col (min columns (lcd.col + text.length)) ≤ columns
      omega
    · rw [h.toSized.foldl_putChar]
      exact h.row_lt
  | loadGlyph slot glyph =>
    obtain ⟨-, rfl⟩ := call_loadGlyph_eq_ok_iff.mp hcall
    exact { hsized with col_le := h.col_le, row_lt := h.row_lt }
  | clear =>
    cases hcall
    exact { hsized with col_le := Nat.zero_le _, row_lt := Nat.zero_lt_two }

theorem draw_of_ok {call : Call} {lcd' : Lcd} (h : lcd.call call = .ok lcd') :
    Lcd.draw call lcd = (.ok (), lcd') := by
  rw [Lcd.draw, h]

theorem draw_of_error {call : Call} {e : PanelError} (h : lcd.call call = .error e) :
    Lcd.draw call lcd = (.error e, lcd) := by
  rw [Lcd.draw, h]

theorem Placed.draw (h : lcd.Placed) (call : Call) : (Lcd.draw call lcd).2.Placed := by
  unfold Lcd.draw
  cases hcall : lcd.call call with
  | ok lcd' => exact h.call hcall
  | error e => exact h

/-- **No access of a call fails**, and the call does what it does on the panel that checks none. -/
theorem Placed.obey_eq (h : lcd.Placed) (call : Call) : lcd.obey call = .ok (Lcd.draw call lcd) := by
  cases call with
  | moveTo col row =>
    by_cases hplace : col < columns ∧ row < rows
    · have hnot : ¬ (columns ≤ col ∨ rows ≤ row) := by omega
      rw [draw_of_ok (call_moveTo_eq_ok_iff.mpr ⟨hplace, rfl⟩)]
      exact congrArg Except.ok (if_neg hnot)
    · have houtside : columns ≤ col ∨ rows ≤ row := by omega
      have hrefused : lcd.call (.moveTo col row) = .error (.outside col row) := if_neg hplace
      rw [draw_of_error hrefused]
      exact congrArg Except.ok (if_pos houtside)
  | putText text =>
    have hplaced : (text.foldl Lcd.putChar lcd).Placed := h.draw (.putText text)
    rw [obey, h.writeText_eq]
    simp only [bind, Except.bind, hplaced.toSized.readRow_eq]
    rfl
  | loadGlyph slot glyph =>
    by_cases hslot : slot < slots
    · have hlt : slot < lcd.glyphs.length := Nat.lt_of_lt_of_eq hslot h.slots_eq.symm
      rw [draw_of_ok (call_loadGlyph_eq_ok_iff.mpr ⟨hslot, rfl⟩), obey,
        List.getElem?_eq_getElem hlt]
      rfl
    · have hle : lcd.glyphs.length ≤ slot := by
        rw [h.slots_eq]
        exact Nat.not_lt.mp hslot
      have hrefused : lcd.call (.loadGlyph slot glyph) = .error (.outside slot 0) := if_neg hslot
      rw [draw_of_error hrefused, obey, List.getElem?_eq_none hle]
      rfl
  | clear => rfl

theorem run_mapM_draw_cons {call : Call} {answer : Except PanelError Unit} {next : Lcd}
    (h : Lcd.draw call lcd = (answer, next)) (later : List Call) :
    ((call :: later).mapM Lcd.draw).run lcd =
      (answer :: ((later.mapM Lcd.draw).run next).1, ((later.mapM Lcd.draw).run next).2) := by
  have hrun : (Lcd.draw call).run lcd = pure (answer, next) := h
  rw [List.mapM_cons, StateT.run_bind, hrun, pure_bind]
  rfl

/-- No access fails along any calls. -/
theorem Placed.obeyAll_eq (h : lcd.Placed) (calls : List Call) :
    lcd.obeyAll calls = .ok ((calls.mapM Lcd.draw).run lcd) ∧
      ((calls.mapM Lcd.draw).run lcd).2.Placed := by
  induction calls generalizing lcd with
  | nil => exact ⟨rfl, h⟩
  | cons call later ih =>
    have hnext := h.draw call
    have hobey := h.obey_eq call
    cases hdraw : Lcd.draw call lcd with
    | mk answer next =>
      rw [hdraw] at hnext hobey
      obtain ⟨hlater, hplaced⟩ := ih hnext
      rw [run_mapM_draw_cons hdraw]
      refine ⟨?_, hplaced⟩
      rw [obeyAll, hobey]
      simp only [bind, Except.bind, hlater]
      rfl

/-! ## The cells that a text replaces -/

end Lcd

/-- **Which entries are overwritten**: those from the column on, as far as both the entries and the
text go. -/
theorem getElem?_overwrite {α : Type} (cells text : List α) (col i : Nat) :
    (overwrite cells col text)[i]? =
      if col ≤ i ∧ i < min cells.length (col + text.length) then text[i - col]? else cells[i]? := by
  by_cases hcol : cells.length ≤ col
  · have hnot : ¬ (col ≤ i ∧ i < min cells.length (col + text.length)) := by omega
    rw [overwrite_of_le hcol, if_neg hnot]
  · have hbefore : (cells.take col).length = col := List.length_take_of_le (by omega)
    have htext : (text.take (cells.length - col)).length = min (cells.length - col) text.length :=
      List.length_take
    rw [overwrite, List.append_assoc]
    by_cases hleft : i < col
    · have hnot : ¬ (col ≤ i ∧ i < min cells.length (col + text.length)) := by omega
      rw [if_neg hnot, List.getElem?_append_left (by omega), List.getElem?_take_of_lt hleft]
    · rw [List.getElem?_append_right (by omega), hbefore]
      by_cases hin : i < min cells.length (col + text.length)
      · rw [if_pos ⟨Nat.not_lt.mp hleft, hin⟩, List.getElem?_append_left (by omega),
          List.getElem?_take_of_lt (by omega)]
      · have hnot : ¬ (col ≤ i ∧ i < min cells.length (col + text.length)) := fun h => hin h.2
        rw [if_neg hnot, List.getElem?_append_right (by omega), List.getElem?_drop]
        by_cases hend : i < cells.length
        · congr 1
          omega
        · rw [List.getElem?_eq_none (Nat.not_lt.mp hend), List.getElem?_eq_none (by omega)]

namespace Lcd

/-- The character in a cell. -/
def cell? (lcd : Lcd) (row col : Nat) : Option Char := lcd.cells[row]?.bind (·[col]?)

variable {lcd : Lcd}

/-- **Text replaces the cells of its row from the cursor on**, and leaves all others. -/
theorem Placed.cell?_putText (h : lcd.Placed) (text : List Char) (row col : Nat) :
    (text.foldl Lcd.putChar lcd).cell? row col =
      if row = lcd.row ∧ lcd.col ≤ col ∧ col < min columns (lcd.col + text.length) then
        text[col - lcd.col]?
      else lcd.cell? row col := by
  rw [h.toSized.foldl_putChar, cell?, cell?]
  dsimp only
  by_cases hrow : row = lcd.row
  · subst hrow
    have hlt : lcd.row < lcd.cells.length := Nat.lt_of_lt_of_eq h.row_lt h.rows_eq.symm
    have hlength := h.columns_eq (List.getElem_mem hlt)
    rw [List.getElem?_modify_eq, List.getElem?_eq_getElem hlt]
    simp only [Option.map_eq_map, Option.map_some, Option.bind_some, getElem?_overwrite, hlength, true_and]
  · rw [List.getElem?_modify_ne _ _ (Ne.symm hrow), if_neg fun hin => hrow hin.1]

/-- There is a cell in each column of each row, and no other one. -/
theorem Sized.isSome_cell?_iff (h : lcd.Sized) (row col : Nat) :
    (lcd.cell? row col).isSome ↔ row < rows ∧ col < columns := by
  rw [cell?]
  by_cases hrow : row < rows
  · have hlt : row < lcd.cells.length := Nat.lt_of_lt_of_eq hrow h.rows_eq.symm
    rw [List.getElem?_eq_getElem hlt, Option.bind_some, isSome_getElem?,
      h.columns_eq (List.getElem_mem hlt)]
    exact ⟨fun hcol => ⟨hrow, hcol⟩, fun hplace => hplace.2⟩
  · have hle : lcd.cells.length ≤ row := by
      rw [h.rows_eq]
      exact Nat.not_lt.mp hrow
    rw [List.getElem?_eq_none hle]
    exact ⟨nofun, fun hplace => absurd hplace.1 hrow⟩

end Lcd

/-- The call names a place or a slot that there is, if it names one. -/
def Call.Within : Call → Prop
  | .moveTo col row => col < 16 ∧ row < 2
  | .loadGlyph slot _ => slot < 8
  | _ => True

namespace Lcd

/-- A call is refused for its place or slot alone, and then nothing changes. -/
theorem draw_cases (lcd : Lcd) (call : Call) :
    ((Lcd.draw call lcd).1 = .ok () ↔ call.Within) ∧
      ((Lcd.draw call lcd).1 ≠ .ok () → (Lcd.draw call lcd).2 = lcd) := by
  cases hcall : lcd.call call with
  | ok lcd' =>
    rw [draw_of_ok hcall]
    refine ⟨⟨fun _ => ?_, fun _ => rfl⟩, fun hnot => absurd rfl hnot⟩
    cases call with
    | moveTo col row => exact (call_moveTo_eq_ok_iff.mp hcall).1
    | loadGlyph slot glyph => exact (call_loadGlyph_eq_ok_iff.mp hcall).1
    | putText | clear => trivial
  | error e =>
    rw [draw_of_error hcall]
    refine ⟨⟨nofun, fun hwithin => ?_⟩, fun _ => rfl⟩
    cases call with
    | moveTo col row =>
      have haccepted : lcd.call (.moveTo col row) = .ok { lcd with col, row } :=
        call_moveTo_eq_ok_iff.mpr ⟨hwithin, rfl⟩
      cases hcall.symm.trans haccepted
    | loadGlyph slot glyph =>
      have haccepted : lcd.call (.loadGlyph slot glyph) =
          .ok { lcd with glyphs := lcd.glyphs.set slot (some glyph) } :=
        call_loadGlyph_eq_ok_iff.mpr ⟨hwithin, rfl⟩
      cases hcall.symm.trans haccepted
    | putText | clear => cases hcall

end Lcd

/-- **The panel is a buffer of two rows of sixteen cells.**  Make any calls on a new panel, one after
the other, going on after each refusal: no access to a cell, a glyph or a shade fails.  The cursor
stands in one of the rows, at most behind its last cell; each row shows sixteen characters; and
there are all cells and no others.

A further call is refused exactly if it names a place or a slot that there is not, and then it
changes nothing.  Text replaces the cells of its row from the cursor on by its first characters, as
far as they fit, and leaves all others.  Two texts one after the other do what they do as one. -/
theorem obeyAll_buffers (calls : List Call) :
    ∃ answers lcd, ({} : Lcd).obeyAll calls = .ok (answers, lcd) ∧
      (calls.mapM Lcd.draw).run {} = (answers, lcd) ∧
      (∀ row, lcd.readRow row = .ok (lcd.rowText row)) ∧
      (lcd.col ≤ 16 ∧ lcd.row < 2) ∧
      ((lcd.rowText 0).length = 16 ∧ (lcd.rowText 1).length = 16) ∧
      (∀ row col, (lcd.cell? row col).isSome ↔ row < 2 ∧ col < 16) ∧
      (∀ call, ∃ answer after, lcd.obey call = .ok (answer, after) ∧
        (answer = .ok () ↔ call.Within) ∧ (answer ≠ .ok () → after = lcd)) ∧
      (∀ text, ∃ after, lcd.obey (.putText text) = .ok (.ok (), after) ∧
        after.row = lcd.row ∧ after.col = min 16 (lcd.col + text.length) ∧
        after.glyphs = lcd.glyphs ∧
        ∀ row col, after.cell? row col =
          if row = lcd.row ∧ lcd.col ≤ col ∧ col < min 16 (lcd.col + text.length) then
            text[col - lcd.col]?
          else lcd.cell? row col) ∧
      ∀ text later, ∃ after,
        lcd.obeyAll [.putText text, .putText later] = .ok ([.ok (), .ok ()], after) ∧
        lcd.obeyAll [.putText (text ++ later)] = .ok ([.ok ()], after) := by
  obtain ⟨hobeys, hplaced⟩ := Lcd.placed_new.obeyAll_eq calls
  generalize (calls.mapM Lcd.draw).run {} = done at hobeys hplaced
  obtain ⟨answers, lcd⟩ := done
  replace hplaced : lcd.Placed := hplaced
  have hsized := hplaced.toSized
  refine ⟨answers, lcd, hobeys, rfl, hsized.readRow_eq, ⟨hplaced.col_le, hplaced.row_lt⟩,
    ⟨hsized.length_rowText (by decide), hsized.length_rowText (by decide)⟩,
    hsized.isSome_cell?_iff, ?_, ?_, ?_⟩
  · intro call
    exact ⟨_, _, hplaced.obey_eq call, lcd.draw_cases call⟩
  · intro text
    have hcol := hplaced.col_le
    refine ⟨_, hplaced.obey_eq (.putText text), ?_, ?_, ?_, hplaced.cell?_putText text⟩
    · rw [hsized.foldl_putChar]
    · rw [hsized.foldl_putChar]
      show max lcd.col (min columns (lcd.col + text.length)) = min columns (lcd.col + text.length)
      omega
    · rw [hsized.foldl_putChar]
  · intro text later
    refine ⟨later.foldl Lcd.putChar (text.foldl Lcd.putChar lcd), ?_, ?_⟩
    · exact (hplaced.obeyAll_eq [.putText text, .putText later]).1
    · rw [← List.foldl_append]
      exact (hplaced.obeyAll_eq [.putText (text ++ later)]).1

/-- Text that runs over the end of its row leaves the cursor behind it.  There it stays, through a
refused move and more text, and the other row stays blank. -/
example :
    (({} : Lcd).obeyAll [.moveTo 14 1, .putText ['a', 'b', 'c'], .moveTo 16 0, .putText ['d']]).map
        (fun (answers, lcd) => (answers, lcd.col, lcd.row, lcd.rowText 0, lcd.rowText 1)) =
      .ok ([.ok (), .ok (), .error (.outside 16 0), .ok ()], 16, 1, List.replicate 16 ' ',
        List.replicate 14 ' ' ++ ['a', 'b']) := by
  rfl

end HomeEnergy.Panel
