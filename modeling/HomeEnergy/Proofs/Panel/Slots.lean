import HomeEnergy.Proofs.Panel.Redraw
import Mathlib.Data.List.Induction

/-!
# Slots and the glyphs in them

Glyphs are loaded into the slots of a panel one after the other, on a wire that may refuse any
call.  A slot counts as taken only once its glyph is in it, so that the slots taken, the characters
given and the glyphs on the panel always fit together.

* `Loads` — the three ways in which loading a glyph can go;
* `LooseWire.loadEach_concat` — each glyph goes one of them;
* `Tally.Orderly` — what holds of the slots after any glyphs, and `LooseWire.orderly_loadEach`,
  that it does;
* `LooseWire.loadEach_accounts` — **no slot is lost, given twice or loaded again**.
-/

namespace HomeEnergy.Panel

/-- Loads glyphs one after the other, going on after each failure; what came of each. -/
def GlyphSlots.loadEach {m : Type → Type} [Monad m] (draw : Draw m) (glyphs : List Bitmap) :
    StateT GlyphSlots m (List (Except ControlError Char)) :=
  glyphs.mapM fun glyph => (GlyphSlots.load draw glyph).run

theorem GlyphSlots.loadEach_concat {m : Type → Type} [Monad m] [LawfulMonad m] (draw : Draw m)
    (glyphs : List Bitmap) (glyph : Bitmap) :
    loadEach draw (glyphs ++ [glyph]) = (do
      let outcomes ← loadEach draw glyphs
      let outcome ← (load draw glyph).run
      return outcomes ++ [outcome]) := by
  simp [loadEach]

/-- What came of some glyphs: the outcome of each, the slots taken, and the panel. -/
structure Tally where
  outcomes : List (Except ControlError Char)
  held : GlyphSlots
  wire : LooseWire

namespace LooseWire

/-- Loads glyphs one after the other, with all slots free. -/
def loadEach (wire : LooseWire) (glyphs : List Bitmap) : Tally :=
  let ((outcomes, held), wire) := ((GlyphSlots.loadEach draw glyphs).run {}).run wire
  { outcomes, held, wire }

/-- The error by which the wire refuses the next call, if it does. -/
def refusal? (wire : LooseWire) : Option PanelError := wire.refusals.head?.join

/-- The wire after one more call has come to it. -/
def called (wire : LooseWire) (lcd : Lcd) : LooseWire := { lcd, refusals := wire.refusals.tail }

end LooseWire

/-- The three ways in which loading a glyph can go, by the slots taken and the wire before and
after it. -/
inductive Loads (held : GlyphSlots) (wire : LooseWire) (glyph : Bitmap) :
    Except ControlError Char → GlyphSlots → LooseWire → Prop
  | accepted (hfree : held.used < slots) (hobeys : wire.refusal? = none) :
      Loads held wire glyph (.ok (Char.ofNat held.used)) ⟨held.used + 1⟩
        (wire.called { wire.lcd with glyphs := wire.lcd.glyphs.set held.used (some glyph) })
  | refused {e : PanelError} (hfree : held.used < slots) (hrefuses : wire.refusal? = some e) :
      Loads held wire glyph (.error (.panel e)) held (wire.called wire.lcd)
  | exhausted (hfull : slots ≤ held.used) :
      Loads held wire glyph (.error (.slotsExhausted slots)) held wire

section

variable {held held' : GlyphSlots} {wire wire' : LooseWire} {glyph : Bitmap}
  {outcome : Except ControlError Char}

/-- A glyph that is not accepted changes neither the slots nor the panel. -/
theorem Loads.unchanged (h : Loads held wire glyph outcome held' wire') {e : ControlError}
    (he : outcome = .error e) : held' = held ∧ wire'.lcd = wire.lcd := by
  cases h with
  | accepted => cases he
  | refused => exact ⟨rfl, rfl⟩
  | exhausted => exact ⟨rfl, rfl⟩

/-- As long as a slot is free, the answer of the panel decides. -/
theorem Loads.of_free (h : Loads held wire glyph outcome held' wire') (hfree : held.used < slots) :
    outcome =
      match wire.refusal? with
      | some e => .error (.panel e)
      | none => .ok (Char.ofNat held.used) := by
  cases h with
  | accepted _ hobeys => rw [hobeys]
  | refused _ hrefuses => rw [hrefuses]
  | exhausted hfull => exact absurd hfree (Nat.not_lt.mpr hfull)

/-- Once there is none, no call comes to the wire. -/
theorem Loads.of_full (h : Loads held wire glyph outcome held' wire') (hfull : slots ≤ held.used) :
    outcome = .error (.slotsExhausted slots) ∧ wire' = wire := by
  cases h with
  | accepted hfree => exact absurd hfree (Nat.not_lt.mpr hfull)
  | refused hfree => exact absurd hfree (Nat.not_lt.mpr hfull)
  | exhausted => exact ⟨rfl, rfl⟩

end

namespace LooseWire

theorem run_draw_loadGlyph (wire : LooseWire) {slot : Nat} (h : slot < slots) (glyph : Bitmap) :
    (draw (.loadGlyph slot glyph)).run wire =
      match wire.refusal? with
      | some e => (.error e, wire.called wire.lcd)
      | none => (.ok (),
          wire.called { wire.lcd with glyphs := wire.lcd.glyphs.set slot (some glyph) }) := by
  unfold draw
  rw [StateT.run, Lcd.call_loadGlyph_eq_ok_iff.mpr ⟨h, rfl⟩, ← refusal?]
  cases wire.refusal? <;> rfl

/-- Loading a glyph goes one of the three ways. -/
theorem loads_load (held : GlyphSlots) (wire : LooseWire) (glyph : Bitmap) :
    ∃ outcome held' wire', ((GlyphSlots.load draw glyph).run.run held).run wire =
      ((outcome, held'), wire') ∧ Loads held wire glyph outcome held' wire' := by
  by_cases hfree : held.used < slots
  · rw [GlyphSlots.load_of_free draw hfree, StateT.run_map, run_draw_loadGlyph wire hfree]
    cases hrefusal : wire.refusal? with
    | none => exact ⟨_, _, _, rfl, .accepted hfree hrefusal⟩
    | some e => exact ⟨_, _, _, rfl, .refused hfree hrefusal⟩
  · have hfull := Nat.le_of_not_lt hfree
    rw [GlyphSlots.load_of_full draw hfull]
    exact ⟨_, _, _, rfl, .exhausted hfull⟩

/-- One more glyph goes one of the three ways, whatever came of those before it. -/
theorem loadEach_concat (wire : LooseWire) (glyphs : List Bitmap) (glyph : Bitmap) :
    ∃ outcome, (wire.loadEach (glyphs ++ [glyph])).outcomes =
        (wire.loadEach glyphs).outcomes ++ [outcome] ∧
      Loads (wire.loadEach glyphs).held (wire.loadEach glyphs).wire glyph outcome
        (wire.loadEach (glyphs ++ [glyph])).held (wire.loadEach (glyphs ++ [glyph])).wire := by
  rcases hbefore : ((GlyphSlots.loadEach draw glyphs).run {}).run wire with ⟨⟨outcomes, held⟩, w⟩
  obtain ⟨outcome, held', w', hload, hloads⟩ := loads_load held w glyph
  have hafter : ((GlyphSlots.loadEach draw (glyphs ++ [glyph])).run {}).run wire =
      ((outcomes ++ [outcome], held'), w') := by
    rw [GlyphSlots.loadEach_concat, StateT.run_bind, StateT.run_bind, hbefore]
    exact congrArg (fun r => ((outcomes ++ [r.1.1], r.1.2), r.2)) hload
  simp only [loadEach, hbefore, hafter]
  exact ⟨outcome, rfl, hloads⟩

end LooseWire

/-! ## What holds of the slots -/

/-- The glyphs and the outcomes in a tally fit the slots taken and the panel: there is one
outcome for each glyph, one slot for each success, and the characters are given in the order of
the slots; each selects the glyph for which it was given. -/
structure Tally.Orderly (tally : Tally) (glyphs : List Bitmap) : Prop where
  length_eq : tally.outcomes.length = glyphs.length
  used_eq : tally.held.used = tally.outcomes.countP Except.isOk
  used_le : tally.held.used ≤ slots
  characters_eq :
    tally.outcomes.filterMap Except.toOption = (List.range tally.held.used).map Char.ofNat
  slots_eq : tally.wire.lcd.glyphs.length = slots
  selects {glyph : Bitmap} {c : Char} (h : (glyph, .ok c) ∈ glyphs.zip tally.outcomes) :
    c.toNat < tally.held.used ∧ tally.wire.lcd.glyphs[c.toNat]? = some (some glyph)

namespace Tally

theorem toNat_ofNat {slot : Nat} (h : slot < slots) : (Char.ofNat slot).toNat = slot := by
  have hall : ∀ k < slots, (Char.ofNat k).toNat = k := by decide
  exact hall slot h

variable {outcomes : List (Except ControlError Char)} {held : GlyphSlots} {wire wire' : LooseWire}
  {glyphs : List Bitmap}

theorem orderly_nil (h : wire.lcd.Sized) : (⟨[], {}, wire⟩ : Tally).Orderly [] where
  length_eq := rfl
  used_eq := rfl
  used_le := Nat.zero_le _
  characters_eq := rfl
  slots_eq := h.slots_eq
  selects := nofun

theorem zip_concat (h : outcomes.length = glyphs.length) (glyph : Bitmap)
    (outcome : Except ControlError Char) :
    (glyphs ++ [glyph]).zip (outcomes ++ [outcome]) = glyphs.zip outcomes ++ [(glyph, outcome)] :=
  List.zip_append h.symm

/-- A failure that leaves the panel as it is leaves all in order. -/
theorem Orderly.fail (h : (⟨outcomes, held, wire⟩ : Tally).Orderly glyphs) (glyph : Bitmap)
    (e : ControlError) (hlcd : wire'.lcd = wire.lcd) :
    (⟨outcomes ++ [.error e], held, wire'⟩ : Tally).Orderly (glyphs ++ [glyph]) where
  length_eq := by
    rw [List.length_append, List.length_append, h.length_eq]
    rfl
  used_eq := by
    rw [List.countP_append, h.used_eq]
    rfl
  used_le := h.used_le
  characters_eq := by
    rw [List.filterMap_append, h.characters_eq]
    exact List.append_nil _
  slots_eq := by
    rw [hlcd]
    exact h.slots_eq
  selects {other c} hmem := by
    rw [zip_concat h.length_eq, List.mem_append, List.mem_singleton] at hmem
    rw [hlcd]
    rcases hmem with hmem | hlast
    · exact h.selects hmem
    · cases hlast

/-- A glyph in the next slot leaves all in order: the slots of the characters given before are
other ones. -/
theorem Orderly.succeed (h : (⟨outcomes, held, wire⟩ : Tally).Orderly glyphs) (glyph : Bitmap)
    (hfree : held.used < slots)
    (hglyphs : wire'.lcd.glyphs = wire.lcd.glyphs.set held.used (some glyph)) :
    (⟨outcomes ++ [.ok (Char.ofNat held.used)], ⟨held.used + 1⟩, wire'⟩ : Tally).Orderly
      (glyphs ++ [glyph]) where
  length_eq := by
    rw [List.length_append, List.length_append, h.length_eq]
    rfl
  used_eq := by
    rw [List.countP_append, ← h.used_eq]
    rfl
  used_le := hfree
  characters_eq := by
    rw [List.filterMap_append, h.characters_eq, List.range_succ, List.map_append]
    rfl
  slots_eq := by
    rw [hglyphs, List.length_set]
    exact h.slots_eq
  selects {other c} hmem := by
    rw [zip_concat h.length_eq, List.mem_append, List.mem_singleton] at hmem
    rw [hglyphs]
    rcases hmem with hmem | hlast
    · obtain ⟨hlt, hselects⟩ := h.selects hmem
      refine ⟨Nat.lt_succ_of_lt hlt, ?_⟩
      rw [List.getElem?_set_ne (Nat.ne_of_gt hlt)]
      exact hselects
    · cases hlast
      have hslots : held.used < wire.lcd.glyphs.length := Nat.lt_of_lt_of_eq hfree h.slots_eq.symm
      rw [toNat_ofNat hfree, List.getElem?_set_self hslots]
      exact ⟨Nat.lt_succ_self _, rfl⟩

/-- One more glyph leaves all in order. -/
theorem Orderly.step {before after : Tally} (h : before.Orderly glyphs) {glyph : Bitmap}
    {outcome : Except ControlError Char} (houtcomes : after.outcomes = before.outcomes ++ [outcome])
    (hloads : Loads before.held before.wire glyph outcome after.held after.wire) :
    after.Orderly (glyphs ++ [glyph]) := by
  obtain ⟨outcomes', held', wire'⟩ := after
  subst houtcomes
  cases hloads with
  | accepted hfree => exact h.succeed glyph hfree rfl
  | refused => exact h.fail glyph _ rfl
  | exhausted => exact h.fail glyph _ rfl

end Tally

namespace LooseWire

variable {wire : LooseWire}

/-- Whatever the wire refuses, all is in order after any glyphs. -/
theorem orderly_loadEach (h : wire.lcd.Sized) (glyphs : List Bitmap) :
    (wire.loadEach glyphs).Orderly glyphs := by
  induction glyphs using List.reverseRecOn with
  | nil => exact Tally.orderly_nil h
  | append_singleton glyphs glyph ih =>
    obtain ⟨outcome, houtcomes, hloads⟩ := wire.loadEach_concat glyphs glyph
    exact ih.step houtcomes hloads

/-- **No slot is lost, given twice or loaded again.**  Load any glyphs, one after the other, on any
panel and with all slots free, and let the wire to the panel refuse any of the calls.  There are as
many slots taken as glyphs were accepted, and never more than eight; the characters given are
those of the first slots, in order; and each of them still selects its glyph when all is done.

One more glyph that is not accepted takes no slot and leaves the panel as it is.  As long as a slot
is free the answer of the panel decides.  Once there is none the glyph is refused, and neither this
panel nor any other is asked. -/
theorem loadEach_accounts (hsized : wire.lcd.Sized) (glyphs : List Bitmap) :
    let tally := wire.loadEach glyphs
    tally.outcomes.length = glyphs.length ∧
    tally.held.used = tally.outcomes.countP Except.isOk ∧ tally.held.used ≤ 8 ∧
    tally.outcomes.filterMap Except.toOption = (List.range tally.held.used).map Char.ofNat ∧
    (∀ glyph c, (glyph, .ok c) ∈ glyphs.zip tally.outcomes →
      tally.wire.lcd.glyphs[c.toNat]? = some (some glyph) ∧
        tally.wire.lcd.appearance c = Lcd.shade glyph) ∧
    (∀ glyph, ∃ outcome,
      let after := wire.loadEach (glyphs ++ [glyph])
      after.outcomes = tally.outcomes ++ [outcome] ∧
      (∀ e, outcome = .error e →
        after.held = tally.held ∧ after.wire.lcd = tally.wire.lcd) ∧
      (tally.held.used < 8 → outcome =
        match tally.wire.refusal? with
        | some e => .error (.panel e)
        | none => .ok (Char.ofNat tally.held.used)) ∧
      (tally.held.used = 8 →
        outcome = .error (.slotsExhausted 8) ∧ after.wire = tally.wire)) ∧
    (tally.held.used = 8 →
      ∀ (m : Type → Type) [Monad m] [LawfulMonad m] (draw : Draw m) (glyph : Bitmap),
        (GlyphSlots.load draw glyph).run.run tally.held =
          pure (.error (.slotsExhausted 8), tally.held)) := by
  intro tally
  have horderly : tally.Orderly glyphs := orderly_loadEach hsized glyphs
  refine ⟨horderly.length_eq, horderly.used_eq, horderly.used_le, horderly.characters_eq, ?_, ?_,
    ?_⟩
  · intro glyph c hmem
    obtain ⟨hlt, hselects⟩ := horderly.selects hmem
    have hslot : c.toNat < slots := Nat.lt_of_lt_of_le hlt horderly.used_le
    refine ⟨hselects, ?_⟩
    rw [Lcd.appearance, if_pos hslot, List.getD_eq_getElem?_getD, hselects]
    rfl
  · intro glyph
    obtain ⟨outcome, houtcomes, hloads⟩ := wire.loadEach_concat glyphs glyph
    refine ⟨outcome, houtcomes, ?_, hloads.of_free, ?_⟩
    · intro e he
      exact hloads.unchanged he
    · intro hfull
      exact hloads.of_full (Nat.le_of_eq hfull.symm)
  · intro hfull m _ _ draw glyph
    exact GlyphSlots.load_of_full draw (Nat.le_of_eq hfull.symm) glyph

/-- A panel that was in use before.  The second glyph is refused on its wire. -/
def wornOnce : LooseWire where
  lcd := wornWire.lcd
  refusals := [none, some (.bus Bus.breakage)]

/-- Of ten glyphs eight find a slot: one is refused by the wire, and the last one comes too
late. -/
theorem loadEach_accounts_worn :
    let glyphs := GlyphSet.bitmaps ++ [GlyphSet.turbineBitmap, GlyphSet.houseBitmap]
    let tally := wornOnce.loadEach glyphs
    wornOnce.lcd.Sized ∧
    tally.outcomes = [.ok (Char.ofNat 0), .error (.panel (.bus Bus.breakage))] ++
      (List.range' 1 7).map (.ok ∘ Char.ofNat) ++ [.error (.slotsExhausted 8)] ∧
    tally.held.used = 8 ∧
    tally.outcomes.filterMap Except.toOption = (List.range 8).map Char.ofNat ∧
    tally.wire.lcd.glyphs[7]? = some (some GlyphSet.turbineBitmap) := by
  intro glyphs tally
  have hsized : wornOnce.lcd.Sized :=
    ⟨rfl, fun hmem => by rw [List.eq_of_mem_replicate hmem]; rfl, rfl⟩
  have houtcomes : tally.outcomes = [.ok (Char.ofNat 0), .error (.panel (.bus Bus.breakage))] ++
      (List.range' 1 7).map (.ok ∘ Char.ofNat) ++ [.error (.slotsExhausted 8)] := by
    decide +kernel
  obtain ⟨-, hused, -, hcharacters, hselects, -⟩ := loadEach_accounts hsized glyphs
  have hfull : tally.held.used = 8 := by
    rw [hused, houtcomes]
    decide
  have hlast : (GlyphSet.turbineBitmap, .ok (Char.ofNat 7)) ∈ glyphs.zip tally.outcomes := by
    rw [houtcomes]
    decide +kernel
  have htally : tally = wornOnce.loadEach glyphs := rfl
  have hseventh : (Char.ofNat 7).toNat = 7 := rfl
  have hselected := (hselects _ _ hlast).1
  rw [hseventh, ← htally] at hselected
  refine ⟨hsized, houtcomes, hfull, ?_, hselected⟩
  rw [hcharacters, hfull]

end LooseWire

end HomeEnergy.Panel
