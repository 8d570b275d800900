import HomeEnergy.Panel.Call

/-!
# Custom glyphs

The panel's glyph slots are taken in order.  A slot is taken only when the panel has
accepted the glyph, and it is never given back.  The status line uses eight
glyphs: the house, the turbine, and six batteries from empty to full.

`GlyphSlots.load_of_full` and `GlyphSlots.load_of_free` say what loading a glyph comes to, on any
panel.
-/

namespace HomeEnergy.Panel

/-- How many glyph slots are taken. -/
structure GlyphSlots where
  used : Nat := 0
  deriving Repr, DecidableEq, Inhabited

/-- Work that takes glyph slots and may fail. -/
abbrev Loading (m : Type → Type) := ExceptT ControlError (StateT GlyphSlots m)

section

variable {m : Type → Type} [Monad m] (draw : Draw m)

/-- Loads a glyph into the next slot, and gives the character that shows it. -/
def GlyphSlots.load (glyph : Bitmap) : Loading m Char := do
  let held ← get
  if held.used < slots then
    match ← draw (.loadGlyph held.used glyph) with
    | .ok () =>
      set { held with used := held.used + 1 }
      return Char.ofNat held.used
    | .error e => throw (.panel e)
  else throw (.slotsExhausted slots)

/-- What comes of a glyph for the next slot, by the answer of the panel. -/
def GlyphSlots.answered (held : GlyphSlots) :
    Except PanelError Unit → Except ControlError Char × GlyphSlots
  | .ok () => (.ok (Char.ofNat held.used), { held with used := held.used + 1 })
  | .error e => (.error (.panel e), held)

section

variable [LawfulMonad m] {held held' : GlyphSlots}

/-- Work that asks nothing of the panel comes to what it gives. -/
theorem Loading.run_bind_of_pure {α β : Type} {work : Loading m α} {next : α → Loading m β} {a : α}
    (h : work.run.run held = pure (.ok a, held')) :
    (work >>= next).run.run held = (next a).run.run held' := by
  rw [ExceptT.run_bind, StateT.run_bind, h, pure_bind]

theorem Loading.run_get : (get : Loading m GlyphSlots).run.run held = pure (.ok held, held) := by
  show (Except.ok <$> (get : StateT GlyphSlots m GlyphSlots)).run held = _
  rw [StateT.run_map, StateT.run_get, map_pure]

theorem Loading.run_set : (set held' : Loading m PUnit).run.run held = pure (.ok ⟨⟩, held') := by
  show (Except.ok <$> (set held' : StateT GlyphSlots m PUnit)).run held = _
  rw [StateT.run_map, StateT.run_set, map_pure]

theorem Loading.run_draw (call : Call) :
    (liftM (draw call) : Loading m (Except PanelError Unit)).run.run held =
      (fun answer => (.ok answer, held)) <$> draw call := by
  show (Except.ok <$> (StateT.lift (draw call) :
    StateT GlyphSlots m (Except PanelError Unit))).run held = _
  rw [StateT.run_map, StateT.run_lift]
  simp only [map_eq_pure_bind, bind_assoc, pure_bind]

/-- Once all slots are taken, a glyph is refused without a call to the panel. -/
theorem GlyphSlots.load_of_full (h : slots ≤ held.used) (glyph : Bitmap) :
    (load draw glyph).run.run held = pure (.error (.slotsExhausted slots), held) := by
  rw [load, Loading.run_bind_of_pure Loading.run_get, if_neg (Nat.not_lt.mpr h)]
  rfl

/-- Before that, the answer of the panel decides. -/
theorem GlyphSlots.load_of_free (h : held.used < slots) (glyph : Bitmap) :
    (load draw glyph).run.run held = held.answered <$> draw (.loadGlyph held.used glyph) := by
  rw [load, Loading.run_bind_of_pure Loading.run_get, if_pos h, ExceptT.run_bind, StateT.run_bind,
    Loading.run_draw, bind_map_left, map_eq_pure_bind]
  congr 1
  funext answer
  cases answer with
  | ok => exact Loading.run_bind_of_pure Loading.run_set
  | error e => rfl

end

/-- The characters that show the status glyphs. -/
structure GlyphSet where
  house : Char
  turbine : Char
  /-- From empty to full. -/
  battery : List Char
  deriving Repr, DecidableEq, Inhabited

namespace GlyphSet

/-- A house. -/
def houseBitmap : Bitmap := [0x04, 0x0E, 0x1F, 0x11, 0x15, 0x11, 0x1F, 0x00]

/-- A turbine. -/
def turbineBitmap : Bitmap := [0x11, 0x0A, 0x04, 0x0A, 0x11, 0x04, 0x04, 0x0E]

/-- Batteries from empty to full. -/
def batteryBitmaps : List Bitmap :=
  [[0x0E, 0x1B, 0x11, 0x11, 0x11, 0x11, 0x11, 0x1F],
   [0x0E, 0x1B, 0x11, 0x11, 0x11, 0x11, 0x1F, 0x1F],
   [0x0E, 0x1B, 0x11, 0x11, 0x11, 0x1F, 0x1F, 0x1F],
   [0x0E, 0x1B, 0x11, 0x11, 0x1F, 0x1F, 0x1F, 0x1F],
   [0x0E, 0x1B, 0x11, 0x1F, 0x1F, 0x1F, 0x1F, 0x1F],
   [0x0E, 0x1F, 0x1F, 0x1F, 0x1F, 0x1F, 0x1F, 0x1F]]

/-- Loads the status glyphs in order. -/
def load : Loading m GlyphSet := do
  let house ← GlyphSlots.load draw houseBitmap
  let turbine ← GlyphSlots.load draw turbineBitmap
  let battery ← batteryBitmaps.mapM (GlyphSlots.load draw)
  return { house, turbine, battery }

/-- The glyph of a charge; beyond the last one, the last. -/
def batteryAt (glyphs : GlyphSet) (index : Nat) : Char :=
  glyphs.battery.getD (min index (glyphs.battery.length - 1)) ' '

end GlyphSet

end

end HomeEnergy.Panel
