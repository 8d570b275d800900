import HomeEnergy.Panel.Lcd
import HomeEnergy.Panel.Screen
import Mathlib.Data.List.Basic

/-!
# The cells of the panel

Text goes from the cursor on into the cells of one row, and what does not fit into the row is
lost.  Everything else on the panel stays as it was.

* `foldl_putChar` — **what text does to the cells**, at any place and of any length;
* `Lcd.Sized.call` — no call changes the number of rows, columns or slots.
-/

namespace HomeEnergy.Panel

section

variable {α : Type} {cells text : List α} {col : Nat}

/-- A row of cells with text in them from a column on, as far as it fits; or the slots with
glyphs in them. -/
def overwrite (cells : List α) (col : Nat) (text : List α) : List α :=
  cells.take col ++ text.take (cells.length - col) ++ cells.drop (col + text.length)

@[simp] theorem overwrite_nil : overwrite cells col [] = cells := by
  simp [overwrite]

theorem overwrite_of_le (h : cells.length ≤ col) : overwrite cells col text = cells := by
  have hdrop : cells.length ≤ col + text.length := by omega
  simp [overwrite, List.take_of_length_le h, List.drop_eq_nil_of_le hdrop, Nat.sub_eq_zero_of_le h]

/-- One character of the text after the other. -/
theorem overwrite_set (h : col < cells.length) (c : α) :
    overwrite (cells.set col c) (col + 1) text = overwrite cells col (c :: text) := by
  have htake : (cells.set col c).take (col + 1) = cells.take col ++ [c] := by
    have hlength : (cells.take col).length = col := List.length_take_of_le (Nat.le_of_lt h)
    rw [List.take_set, List.take_add_one, List.getElem?_eq_getElem h, Option.toList_some,
      List.set_append_right _ _ (Nat.le_of_eq hlength), hlength, Nat.sub_self, List.set_cons_zero]
  have hdrop : (cells.set col c).drop (col + 1 + text.length) =
      cells.drop (col + (c :: text).length) := by
    have hend : col + (c :: text).length = col + 1 + text.length := by
      rw [List.length_cons]
      omega
    rw [hend, List.drop_set_of_lt (by omega)]
  have hroom : cells.length - col = cells.length - (col + 1) + 1 := by omega
  rw [overwrite, overwrite, htake, hdrop, hroom, List.take_succ_cons, List.length_set]
  simp

/-- Text of the width of a row leaves nothing of the row. -/
theorem overwrite_full (h : text.length = cells.length) : overwrite cells 0 text = text := by
  simp [overwrite, h.symm]

@[simp] theorem length_overwrite : (overwrite cells col text).length = cells.length := by
  simp [overwrite]
  omega

end

namespace Lcd

/-- The cells fill all rows and columns, and there are all slots. -/
structure Sized (lcd : Lcd) : Prop where
  rows_eq : lcd.cells.length = rows
  columns_eq {cells : List Char} (h : cells ∈ lcd.cells) : cells.length = columns
  slots_eq : lcd.glyphs.length = slots

variable {lcd : Lcd}

/-- A change that keeps the length of a row keeps all of them. -/
theorem Sized.modify (h : lcd.Sized) {change : List Char → List Char}
    (hchange : ∀ cells, (change cells).length = cells.length) {row : Nat} {cells : List Char}
    (hmem : cells ∈ lcd.cells.modify row change) : cells.length = columns := by
  obtain ⟨i, hi, rfl⟩ := List.getElem_of_mem hmem
  rw [List.length_modify] at hi
  have hrow := h.columns_eq (List.getElem_mem hi)
  rw [List.getElem_modify]
  split
  · rw [hchange, hrow]
  · exact hrow

theorem Sized.putChar (h : lcd.Sized) (c : Char) : (lcd.putChar c).Sized := by
  unfold Lcd.putChar
  split
  · refine ⟨?_, h.modify fun cells => List.length_set, h.slots_eq⟩
    rw [List.length_modify]
    exact h.rows_eq
  · exact h

/-- Two changes that agree on the rows there are do the same. -/
theorem Sized.modify_congr (h : lcd.Sized) {change change' : List Char → List Char}
    (hsame : ∀ cells, cells.length = columns → change cells = change' cells) (row : Nat) :
    lcd.cells.modify row change = lcd.cells.modify row change' := by
  refine List.ext_getElem (by simp) fun i hi _ => ?_
  rw [List.length_modify] at hi
  rw [List.getElem_modify, List.getElem_modify, hsame _ (h.columns_eq (List.getElem_mem hi))]

/-- **What text does.**  It goes into the cells of its row, from the cursor on and as far as it
fits, and the cursor stays behind it, at most behind the last column. -/
theorem Sized.foldl_putChar (h : lcd.Sized) (text : List Char) :
    text.foldl Lcd.putChar lcd =
      { lcd with
        cells := lcd.cells.modify lcd.row (overwrite · lcd.col text)
        col := max lcd.col (min columns (lcd.col + text.length)) } := by
  induction text generalizing lcd with
  | nil =>
    have hcells : lcd.cells.modify lcd.row (overwrite · lcd.col []) = lcd.cells := by
      simp only [overwrite_nil]
      exact List.modify_id _ _
    have hcol : max lcd.col (min columns (lcd.col + 0)) = lcd.col := by omega
    rw [List.foldl_nil, List.length_nil, hcells, hcol]
  | cons c text ih =>
    rw [List.foldl_cons, ih (h.putChar c), List.length_cons]
    unfold Lcd.putChar
    by_cases hcol : lcd.col < columns
    · have hcells : (lcd.cells.modify lcd.row (·.set lcd.col c)).modify lcd.row
            (overwrite · (lcd.col + 1) text) =
          lcd.cells.modify lcd.row (overwrite · lcd.col (c :: text)) := by
        rw [List.modify_modify_eq]
        refine h.modify_congr (fun cells hlength => ?_) _
        exact overwrite_set (hlength ▸ hcol) c
      have hend : max (lcd.col + 1) (min columns (lcd.col + 1 + text.length)) =
          max lcd.col (min columns (lcd.col + (text.length + 1))) := by omega
      simp only [if_pos hcol, hcells, hend]
    · -- at the end of the row neither the character nor the rest of the text changes a cell
      have hcells : lcd.cells.modify lcd.row (overwrite · lcd.col text) =
          lcd.cells.modify lcd.row (overwrite · lcd.col (c :: text)) := by
        refine h.modify_congr (fun cells hlength => ?_) _
        rw [overwrite_of_le (by omega), overwrite_of_le (by omega)]
      have hend : max lcd.col (min columns (lcd.col + text.length)) =
          max lcd.col (min columns (lcd.col + (text.length + 1))) := by omega
      simp only [if_neg hcol, hcells, hend]

theorem call_moveTo_eq_ok_iff {col row : Nat} {lcd' : Lcd} :
    lcd.call (.moveTo col row) = .ok lcd' ↔
      (col < columns ∧ row < rows) ∧ lcd' = { lcd with col, row } := by
  by_cases h : col < columns ∧ row < rows
  · simp [Lcd.call, h, eq_comm]
  · simp [Lcd.call, h]

theorem call_loadGlyph_eq_ok_iff {slot : Nat} {glyph : Bitmap} {lcd' : Lcd} :
    lcd.call (.loadGlyph slot glyph) = .ok lcd' ↔
      slot < slots ∧ lcd' = { lcd with glyphs := lcd.glyphs.set slot (some glyph) } := by
  by_cases h : slot < slots
  · simp [Lcd.call, h, eq_comm]
  · simp [Lcd.call, h]

/-- No call changes the number of rows, columns or slots. -/
theorem Sized.call (h : lcd.Sized) {call : Call} {lcd' : Lcd} (hcall : lcd.call call = .ok lcd') :
    lcd'.Sized := by
  cases call with
  | moveTo col row =>
    obtain ⟨-, rfl⟩ := call_moveTo_eq_ok_iff.mp hcall
    exact { h with }
  | putText text =>
    cases hcall
    rw [h.foldl_putChar]
    refine ⟨?_, h.modify fun cells => length_overwrite, h.slots_eq⟩
    rw [List.length_modify]
    exact h.rows_eq
  | loadGlyph slot glyph =>
    obtain ⟨-, rfl⟩ := call_loadGlyph_eq_ok_iff.mp hcall
    refine ⟨h.rows_eq, h.columns_eq, ?_⟩
    rw [List.length_set]
    exact h.slots_eq
  | clear =>
    cases hcall
    refine ⟨rfl, fun hmem => ?_, h.slots_eq⟩
    rw [List.eq_of_mem_replicate hmem]
    rfl

/-- Only a call that loads a glyph touches the glyphs. -/
theorem Sized.glyphs_call (h : lcd.Sized) {call : Call} {lcd' : Lcd}
    (hcall : lcd.call call = .ok lcd') (hnot : ∀ slot glyph, call ≠ .loadGlyph slot glyph) :
    lcd'.glyphs = lcd.glyphs := by
  cases call with
  | moveTo col row =>
    obtain ⟨-, rfl⟩ := call_moveTo_eq_ok_iff.mp hcall
    rfl
  | putText text =>
    cases hcall
    rw [h.foldl_putChar]
  | loadGlyph slot glyph => exact absurd rfl (hnot slot glyph)
  | clear =>
    cases hcall
    rfl

/-- A text of the width of the panel on each row, the first one first, leaves nothing of what
the rows held before. -/
theorem Sized.cells_twoRows (h : lcd.Sized) {first second : List Char} {lcd' : Lcd}
    (hfirst : first.length = columns) (hsecond : second.length = columns)
    (hcalls : (Screen.twoRows first second).foldlM Lcd.call lcd = .ok lcd') :
    lcd'.cells = [first, second] := by
  obtain ⟨upper, lower, hcells⟩ := List.length_eq_two.mp h.rows_eq
  have hupper : upper.length = columns := h.columns_eq (by simp [hcells])
  have hlower : lower.length = columns := h.columns_eq (by simp [hcells])
  -- the cursor goes to the beginning of each row before the text does
  have hstart : Sized { lcd with col := 0, row := 0 } := { h with }
  have hturn : Sized { first.foldl Lcd.putChar { lcd with col := 0, row := 0 } with
      col := 0, row := 1 } := by
    have hput : Sized (first.foldl Lcd.putChar { lcd with col := 0, row := 0 }) :=
      hstart.call (show Lcd.call _ (.putText first) = .ok _ from rfl)
    exact { hput with }
  cases hcalls
  rw [hturn.foldl_putChar, hstart.foldl_putChar]
  simp only [hcells, List.modify_zero_cons, List.modify_succ_cons]
  rw [overwrite_full (hfirst.trans hupper.symm), overwrite_full (hsecond.trans hlower.symm)]

end Lcd

end HomeEnergy.Panel
