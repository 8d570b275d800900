import HomeEnergy.Proofs.Panel.Cells
import Mathlib.Logic.Function.Iterate

/-!
# Redrawing the panel

A report redraws both rows from their beginning, and its texts are as wide as the panel.  So a
report that is shown leaves nothing of what the panel held before: neither an earlier frame nor
one that was broken off, whatever a refused call may have done to the cells.

* `Lcd.Sized.run_load` — what loading the status glyphs does, one slot after the other;
* `Lcd.Loaded.appearance_eq` — how characters show once the glyphs are in their slots;
* `Unsteady` — a panel that may refuse any call;
* `renderAll_shows` — **every frame that such a panel accepts is shown in full**, with the
  marquee as far on as there were frames shown before.
-/

namespace HomeEnergy.Panel

/-! ## How characters show -/

namespace GlyphSet

/-- The status glyphs in the order of their characters. -/
def bitmaps : List Bitmap := houseBitmap :: turbineBitmap :: batteryBitmaps

/-- The characters of the status glyphs. -/
def characters (glyphs : GlyphSet) : List Char := glyphs.house :: glyphs.turbine :: glyphs.battery

/-- A character as it shows: the shade in the place of a status glyph, any other one itself. -/
def shown (glyphs : GlyphSet) (c : Char) : Char :=
  match (glyphs.characters.zip bitmaps).lookup c with
  | some bitmap => Lcd.shade bitmap
  | none => c

end GlyphSet

/-- The characters of the status glyphs in slots that were free. -/
def firstCharacters : GlyphSet where
  house := Char.ofNat 0
  turbine := Char.ofNat 1
  battery := (List.range' 2 6).map Char.ofNat

namespace Lcd

/-- The panel as ports see it that refuse no call of their own. -/
def draw : Draw (StateM Lcd) := fun call lcd =>
  match lcd.call call with
  | .ok lcd' => (.ok (), lcd')
  | .error e => (.error e, lcd)

/-- The status glyphs are in their slots, as loading them into some panel has left them, and
these are their characters. -/
def Loaded (lcd : Lcd) (glyphs : GlyphSet) : Prop :=
  ∃ before held after, before.Sized ∧
    ((GlyphSet.load draw).run.run {}).run before = ((.ok glyphs, held), after) ∧
    lcd.glyphs = after.glyphs

section

variable {lcd lcd' : Lcd}

theorem run_loading_bind {α β : Type} {work : Loading (StateM Lcd) α}
    {next : α → Loading (StateM Lcd) β} {held held' : GlyphSlots} {a : α}
    (h : (work.run.run held).run lcd = ((.ok a, held'), lcd')) :
    ((work >>= next).run.run held).run lcd = ((next a).run.run held').run lcd' := by
  simp only [ExceptT.run_bind, StateT.run_bind, h]
  rfl

/-- A glyph goes into the next slot. -/
theorem run_load (slot : Nat) (h : slot < slots) (glyph : Bitmap) (lcd : Lcd) :
    ((GlyphSlots.load draw glyph).run.run ⟨slot⟩).run lcd =
      ((.ok (Char.ofNat slot), ⟨slot + 1⟩),
        { lcd with glyphs := lcd.glyphs.set slot (some glyph) }) := by
  have hdraw : (draw (.loadGlyph slot glyph)).run lcd =
      (.ok (), { lcd with glyphs := lcd.glyphs.set slot (some glyph) }) := by
    unfold draw
    rw [StateT.run, call_loadGlyph_eq_ok_iff.mpr ⟨h, rfl⟩]
  rw [GlyphSlots.load_of_free draw h, StateT.run_map, hdraw]
  rfl

/-- Glyphs go into the next slots one after the other. -/
theorem run_mapM_load (glyphs : List Bitmap) (slot : Nat) (h : slot + glyphs.length ≤ slots)
    (hslots : lcd.glyphs.length = slots) :
    ((glyphs.mapM (GlyphSlots.load draw)).run.run ⟨slot⟩).run lcd =
      ((.ok ((List.range' slot glyphs.length).map Char.ofNat), ⟨slot + glyphs.length⟩),
        { lcd with glyphs := overwrite lcd.glyphs slot (glyphs.map some) }) := by
  induction glyphs generalizing slot lcd with
  | nil =>
    rw [List.map_nil, overwrite_nil]
    rfl
  | cons glyph glyphs ih =>
    rw [List.length_cons] at h
    have hfree : slot < slots := by omega
    have hset : (lcd.glyphs.set slot (some glyph)).length = slots := by
      rw [List.length_set, hslots]
    have hrest := @ih { lcd with glyphs := lcd.glyphs.set slot (some glyph) } (slot + 1)
      (by omega) hset
    rw [List.mapM_cons, run_loading_bind (run_load slot hfree glyph lcd), run_loading_bind hrest,
      overwrite_set (hslots ▸ hfree), List.length_cons, List.range'_succ, Nat.add_right_comm]
    rfl

end

/-- Loading takes all slots, in order. -/
theorem Sized.run_load {lcd : Lcd} (h : lcd.Sized) :
    ((GlyphSet.load draw).run.run {}).run lcd =
      ((.ok firstCharacters, ⟨slots⟩), { lcd with glyphs := GlyphSet.bitmaps.map some }) := by
  have hslots := h.slots_eq
  let marked : Lcd := { lcd with glyphs :=
    (lcd.glyphs.set 0 (some GlyphSet.houseBitmap)).set 1 (some GlyphSet.turbineBitmap) }
  have hmarked : marked.glyphs.length = slots := by simpa [marked] using hslots
  have hall : overwrite marked.glyphs 2 (GlyphSet.batteryBitmaps.map some) =
      GlyphSet.bitmaps.map some := by
    rw [overwrite_set (by simp [hslots, slots]), overwrite_set (by simp [hslots, slots])]
    exact overwrite_full hslots.symm
  have hbattery := run_mapM_load GlyphSet.batteryBitmaps 2 (by decide) hmarked
  rw [hall] at hbattery
  rw [GlyphSet.load, run_loading_bind (Lcd.run_load 0 (by decide) _ lcd),
    run_loading_bind (Lcd.run_load 1 (by decide) _ _), run_loading_bind hbattery]
  rfl

variable {lcd : Lcd} {glyphs : GlyphSet}

/-- Loading has taken all slots, in order. -/
theorem Loaded.slots_eq (h : lcd.Loaded glyphs) :
    glyphs = firstCharacters ∧ lcd.glyphs = GlyphSet.bitmaps.map some := by
  obtain ⟨before, held, after, hsized, hload, hglyphs⟩ := h
  rw [hsized.run_load] at hload
  cases hload
  exact ⟨rfl, hglyphs⟩

/-- Only the slots matter. -/
theorem Loaded.congr {lcd' : Lcd} (h : lcd.Loaded glyphs) (hglyphs : lcd'.glyphs = lcd.glyphs) :
    lcd'.Loaded glyphs := by
  obtain ⟨before, held, after, hsized, hload, hafter⟩ := h
  exact ⟨before, held, after, hsized, hload, hglyphs.trans hafter⟩

/-- Once the status glyphs are loaded, their characters show as shades and all others as they
are. -/
theorem Loaded.appearance_eq (h : lcd.Loaded glyphs) (c : Char) :
    lcd.appearance c = glyphs.shown c := by
  obtain ⟨rfl, hglyphs⟩ := h.slots_eq
  unfold appearance
  rw [hglyphs]
  by_cases hc : c.toNat < slots
  · rw [if_pos hc]
    have hchar : c = Char.ofNat c.toNat := (Char.ofNat_toNat c).symm
    generalize c.toNat = k at hc hchar
    subst hchar
    match k, hc with
    | 0, _ | 1, _ | 2, _ | 3, _ | 4, _ | 5, _ | 6, _ | 7, _ => rfl
  · rw [if_neg hc]
    have hslots : ∀ (shown : Char × Bitmap),
        shown ∈ firstCharacters.characters.zip GlyphSet.bitmaps → shown.1.toNat < slots := by
      decide
    have hnone : (firstCharacters.characters.zip GlyphSet.bitmaps).lookup c = none := by
      rw [List.lookup_eq_none_iff]
      intro shown hmem
      rw [bne_iff_ne]
      rintro rfl
      exact hc (hslots shown hmem)
    rw [GlyphSet.shown, hnone]

end Lcd

/-! ## A panel that may refuse any call -/

/-- A panel of a world that obeys the calls which it accepts.  A call may be refused at any time
and for any reason, and a refused one may have left any text in the cells and moved the
cursor. -/
structure Unsteady {σ : Type} (draw : Draw (StateM σ)) where
  lcd : σ → Lcd
  accepts {w w' : σ} {call : Call} (h : (draw call).run w = (.ok (), w')) :
    (lcd w).call call = .ok (lcd w')
  refuses {w w' : σ} {call : Call} {e : PanelError} (h : (draw call).run w = (.error e, w')) :
    ((lcd w).Sized → (lcd w').Sized) ∧ (lcd w').glyphs = (lcd w).glyphs

section

variable {σ : Type} {draw : Draw (StateM σ)} {w w' : σ} {outcome : Except PanelError Unit}

theorem run_drawAll_cons (call : Call) (calls : List Call) (w : σ) :
    (drawAll draw (call :: calls)).run w =
      match (draw call).run w with
      | (.ok (), w') => (drawAll draw calls).run w'
      | (.error e, w') => (.error e, w') := by
  rw [drawAll, StateT.run_bind]
  rcases (draw call).run w with ⟨_ | _, w'⟩ <;> rfl

/-- The panel is whole and holds these glyphs. -/
structure Unsteady.Keeps (panel : Unsteady draw) (glyphs : List (Option Bitmap)) (w : σ) :
    Prop where
  sized : (panel.lcd w).Sized
  glyphs_eq : (panel.lcd w).glyphs = glyphs

namespace Unsteady

variable {panel : Unsteady draw} {held : List (Option Bitmap)}

/-- Calls that have all been accepted have all been obeyed. -/
theorem foldlM_call {calls : List Call} (h : (drawAll draw calls).run w = (.ok (), w')) :
    calls.foldlM Lcd.call (panel.lcd w) = .ok (panel.lcd w') := by
  induction calls generalizing w with
  | nil =>
    cases h
    rfl
  | cons call calls ih =>
    rw [run_drawAll_cons] at h
    rw [List.foldlM_cons]
    rcases hdraw : (draw call).run w with ⟨_ | _, w₁⟩
    · rw [hdraw] at h
      cases h
    · rw [hdraw] at h
      rw [panel.accepts hdraw]
      exact ih h

/-- Whatever comes of some calls, the panel stays whole and keeps its glyphs, if none of them
loads one. -/
theorem Keeps.after_drawAll (hkeeps : panel.Keeps held w) {calls : List Call}
    (hcalls : ∀ call ∈ calls, ∀ slot glyph, call ≠ .loadGlyph slot glyph)
    (h : (drawAll draw calls).run w = (outcome, w')) : panel.Keeps held w' := by
  induction calls generalizing w with
  | nil =>
    cases h
    exact hkeeps
  | cons call calls ih =>
    rw [run_drawAll_cons] at h
    rcases hdraw : (draw call).run w with ⟨e | _, w₁⟩
    · rw [hdraw] at h
      cases h
      obtain ⟨hsized, hglyphs⟩ := panel.refuses hdraw
      exact ⟨hsized hkeeps.sized, hglyphs.trans hkeeps.glyphs_eq⟩
    · rw [hdraw] at h
      have hcall := panel.accepts hdraw
      have hglyphs := hkeeps.sized.glyphs_call hcall (hcalls call List.mem_cons_self)
      refine ih ⟨hkeeps.sized.call hcall, hglyphs.trans hkeeps.glyphs_eq⟩ ?_ h
      exact fun later hmem => hcalls later (List.mem_cons_of_mem call hmem)

end Unsteady

/-! ## Frames one after the other -/

/-- A text that has moved on some times begins as many characters further, counted round it. -/
theorem Marquee.iterate_advance {marquee : Marquee}
    (h : marquee.offset < marquee.text.length) (k : Nat) :
    advance^[k] marquee =
      { marquee with offset := (marquee.offset + k) % marquee.text.length } := by
  induction k with
  | zero =>
    rw [Function.iterate_zero_apply, Nat.add_zero, Nat.mod_eq_of_lt h]
  | succ k ih =>
    have hne : marquee.text.isEmpty = false := by
      rw [List.isEmpty_eq_false_iff]
      exact List.ne_nil_of_length_pos (Nat.zero_lt_of_lt h)
    rw [Function.iterate_succ_apply', ih, advance]
    simp only [hne, Bool.false_eq_true, if_false, Nat.mod_add_mod, Nat.add_assoc]

namespace Screen

/-- Shows balances one after the other, also after a frame that was refused; what came of each. -/
def renderAll {m : Type → Type} [Monad m] (draw : Draw m) :
    List Balance → Screen → m (List (Except PanelError Unit) × Screen)
  | [], screen => pure ([], screen)
  | b :: later, screen => do
    let (outcome, screen) ← screen.render draw b
    let (outcomes, screen) ← renderAll draw later screen
    pure (outcome :: outcomes, screen)

/-- The screen after a frame: the marquee has moved on if the frame was shown. -/
def next (screen : Screen) : Except PanelError Unit → Screen
  | .ok () => { screen with marquee := screen.marquee.advance }
  | .error _ => screen

theorem run_render (screen : Screen) (b : Balance) (w : σ) :
    (screen.render draw b).run w =
      let (outcome, w') := (drawAll draw (screen.frame b)).run w
      ((outcome, screen.next outcome), w') := by
  rw [render, StateT.run_bind]
  rcases (drawAll draw (screen.frame b)).run w with ⟨_ | _, w'⟩ <;> rfl

theorem run_renderAll_cons (b : Balance) (later : List Balance) (screen : Screen) (w : σ) :
    (renderAll draw (b :: later) screen).run w =
      let (outcome, w₁) := (drawAll draw (screen.frame b)).run w
      let ((outcomes, last), w') := (renderAll draw later (screen.next outcome)).run w₁
      ((outcome :: outcomes, last), w') := by
  rw [renderAll, StateT.run_bind, run_render]
  rfl

/-- The calls of a frame load no glyphs. -/
theorem frame_ne_loadGlyph (screen : Screen) (b : Balance) :
    ∀ call ∈ screen.frame b, ∀ slot glyph, call ≠ .loadGlyph slot glyph := by
  intro call hmem slot glyph
  simp only [frame, twoRows, List.mem_cons, List.not_mem_nil, or_false] at hmem
  rcases hmem with rfl | rfl | rfl | rfl <;> simp

end Screen

variable {panel : Unsteady draw} {held : List (Option Bitmap)} {screen last : Screen}

/-- A frame that was accepted fills both rows. -/
theorem Unsteady.Keeps.rows_eq (hkeeps : panel.Keeps held w) {b : Balance}
    (h : (drawAll draw (screen.frame b)).run w = (.ok (), w')) :
    (panel.lcd w').cells = [statusLine b screen.glyphs, screen.marquee.window columns] :=
  hkeeps.sized.cells_twoRows (length_statusLine b screen.glyphs)
    (Marquee.length_window screen.marquee columns) (foldlM_call h)

/-- After any frames the panel is whole and holds the same glyphs, and the marquee has moved on
once for each frame that was shown. -/
theorem Unsteady.Keeps.after_renderAll (hkeeps : panel.Keeps held w) {earlier : List Balance}
    {outcomes : List (Except PanelError Unit)}
    (h : (Screen.renderAll draw earlier screen).run w = ((outcomes, last), w')) :
    panel.Keeps held w' ∧
      last = { screen with
        marquee := Marquee.advance^[outcomes.countP Except.isOk] screen.marquee } := by
  induction earlier generalizing w screen outcomes with
  | nil =>
    cases h
    exact ⟨hkeeps, rfl⟩
  | cons b later ih =>
    rw [Screen.run_renderAll_cons] at h
    rcases hdraw : (drawAll draw (screen.frame b)).run w with ⟨outcome, w₁⟩
    rcases hrest : (Screen.renderAll draw later (screen.next outcome)).run w₁ with
      ⟨⟨outcomes', last'⟩, w₂⟩
    simp only [hdraw, hrest] at h
    cases h
    obtain ⟨hlast, hscreen⟩ := ih (hkeeps.after_drawAll (screen.frame_ne_loadGlyph b) hdraw) hrest
    refine ⟨hlast, hscreen.trans ?_⟩
    rw [List.countP_cons]
    cases outcome with
    | error e => rfl
    | ok => rfl

/-- An empty text shows blanks, however often it has moved on. -/
theorem Marquee.window_iterate_of_nil (s width : Nat) :
    (advance^[s] { text := [] }).window width = List.replicate width ' ' := by
  have hstill : advance^[s] { text := [] } = ({ text := [] } : Marquee) :=
    Function.iterate_fixed rfl s
  rw [hstill]
  simp [window]

/-- Column `i` of a text that has moved on some times. -/
theorem Marquee.getElem?_window_iterate {text : List Char} (h : 0 < text.length) (s : Nat)
    {width i : Nat} (hi : i < width) :
    ((advance^[s] { text }).window width)[i]? = text[(s + i) % text.length]? := by
  have hmod : (s % text.length + i) % text.length = (s + i) % text.length := by
    rw [Nat.mod_add_mod]
  have hlt : (s + i) % text.length < text.length := Nat.mod_lt _ h
  rw [iterate_advance h, List.getElem?_eq_getElem (by simpa using hi), getElem_window]
  simp only [Nat.zero_add, hmod]
  rw [List.getD_eq_getElem?_getD, List.getElem?_eq_getElem hlt, Option.getD_some]

/-- **Every frame that is accepted is shown in full.**  Take a panel that may refuse any call,
with any text in its cells and its cursor anywhere, but with the status glyphs loaded.  Show any
balances on it, one after the other and whatever comes of each.  If the next balance is shown,
the first row is its status line and the second one the marquee, as many characters on as
balances have been shown before, both with a shade for each glyph. -/
theorem renderAll_shows (panel : Unsteady draw) {glyphs : GlyphSet}
    (hsized : (panel.lcd w).Sized) (hloaded : (panel.lcd w).Loaded glyphs) (text : String)
    (earlier : List Balance) (b : Balance) {outcomes : List (Except PanelError Unit)}
    {shownBefore shownAfter : Screen} {w₁ w₂ : σ}
    (hearlier : (Screen.renderAll draw earlier { glyphs, marquee := .ofString text }).run w =
      ((outcomes, shownBefore), w₁))
    (hlast : (shownBefore.render draw b).run w₁ = ((.ok (), shownAfter), w₂)) :
    let s := outcomes.countP Except.isOk
    let n := text.toList.length
    (panel.lcd w₂).rowText 0 = (statusLine b glyphs).map glyphs.shown ∧
      ((panel.lcd w₂).rowText 1).length = columns ∧
      (n = 0 → (panel.lcd w₂).rowText 1 = List.replicate columns ' ') ∧
      (0 < n → ∀ i < columns, ((panel.lcd w₂).rowText 1)[i]? =
        text.toList[(s + i) % n]?.map glyphs.shown) := by
  intro s n
  have hkeeps : panel.Keeps (panel.lcd w).glyphs w := ⟨hsized, rfl⟩
  obtain ⟨hkeeps₁, hscreen⟩ := hkeeps.after_renderAll hearlier
  rw [Screen.run_render] at hlast
  rcases hdraw : (drawAll draw (shownBefore.frame b)).run w₁ with ⟨outcome, w'⟩
  simp only [hdraw] at hlast
  cases hlast
  have hkeeps₂ := hkeeps₁.after_drawAll (shownBefore.frame_ne_loadGlyph b) hdraw
  have hcells := hkeeps₁.rows_eq hdraw
  have happearance : (panel.lcd w₂).appearance = glyphs.shown :=
    funext (hloaded.congr hkeeps₂.glyphs_eq).appearance_eq
  have hfirst : (panel.lcd w₂).rowText 0 = (statusLine b glyphs).map glyphs.shown := by
    rw [Lcd.rowText, hcells, happearance, hscreen]
    rfl
  have hsecond : (panel.lcd w₂).rowText 1 =
      ((Marquee.advance^[s] (.ofString text)).window columns).map glyphs.shown := by
    rw [Lcd.rowText, hcells, happearance, hscreen]
    rfl
  refine ⟨hfirst, ?_, ?_, ?_⟩
  · rw [hsecond, List.length_map, Marquee.length_window]
  · intro hempty
    rw [hsecond, Marquee.ofString, List.eq_nil_of_length_eq_zero hempty,
      Marquee.window_iterate_of_nil, List.map_replicate, ← happearance]
    rfl
  · intro hpos i hi
    rw [hsecond, List.getElem?_map, Marquee.ofString, Marquee.getElem?_window_iterate hpos s hi]

end

/-! ## A panel on a loose wire -/

/-- A panel, and what comes of the next calls to it: some are refused with an error.  All calls
after these are obeyed. -/
structure LooseWire where
  lcd : Lcd := {}
  refusals : List (Option PanelError) := []

namespace LooseWire

/-- Calls over the wire; a refused one does nothing to the panel. -/
def draw : Draw (StateM LooseWire) := fun call wire =>
  match wire.refusals.head?.join with
  | some e => (.error e, { wire with refusals := wire.refusals.tail })
  | none =>
    match wire.lcd.call call with
    | .ok lcd => (.ok (), { lcd, refusals := wire.refusals.tail })
    | .error e => (.error e, { wire with refusals := wire.refusals.tail })

/-- On a loose wire any calls may be refused. -/
def unsteady : Unsteady draw where
  lcd := lcd
  accepts {wire wire' call} h := by
    unfold draw at h
    rw [StateT.run] at h
    split at h
    · cases h
    · split at h
      next lcd' hcall =>
        cases h
        exact hcall
      next => cases h
  refuses {wire wire' call e} h := by
    unfold draw at h
    rw [StateT.run] at h
    split at h
    · cases h
      exact ⟨id, rfl⟩
    · split at h
      · cases h
      · cases h
        exact ⟨id, rfl⟩

end LooseWire

/-- A panel full of question marks, with its cursor in the middle of the second row.  Of the
next frames on its wire the second one is broken off when its first row has been written. -/
def wornWire : LooseWire where
  lcd := {
    cells := List.replicate rows (List.replicate columns '?')
    col := 7
    row := 1
    glyphs := GlyphSet.bitmaps.map some }
  refusals := [none, none, none, none, none, none, some (.bus Bus.breakage)]

/-- A balance in which the battery feeds a heat pump. -/
def heated : Balance where
  houseLoad := 4
  turbineLoad := -2
  batteryLoad := -2
  totalLoad := 0
  stateOfCharge := 18
  batteryGlyph := 1

/-- The fourth frame is the third one shown, so the marquee is two characters on. -/
theorem renderAll_shows_worn :
    let earlier := (Screen.renderAll LooseWire.draw [heated, heated, heated]
      { glyphs := firstCharacters, marquee := .ofString "ABCDEFGHIJKLMNOPQR" }).run wornWire
    let last := (earlier.1.2.render LooseWire.draw heated).run earlier.2
    wornWire.lcd.Sized ∧ wornWire.lcd.Loaded firstCharacters ∧
      earlier.1.1 = [.ok (), .error (.bus Bus.breakage), .ok ()] ∧ last.1.1 = .ok () ∧
      last.2.lcd.rowText 0 = (statusLine heated firstCharacters).map firstCharacters.shown ∧
      last.2.lcd.rowText 0 = "▓+4 ▒-2 ▓-2 =+0 ".toList ∧
      ∀ i < columns, (last.2.lcd.rowText 1)[i]? =
        "ABCDEFGHIJKLMNOPQR".toList[(2 + i) % 18]?.map firstCharacters.shown := by
  intro earlier last
  have hsized : wornWire.lcd.Sized :=
    ⟨rfl, fun hmem => by rw [List.eq_of_mem_replicate hmem]; rfl, rfl⟩
  have hloaded : wornWire.lcd.Loaded firstCharacters := ⟨{}, ⟨8⟩, _,
    ⟨rfl, fun hmem => by rw [List.eq_of_mem_replicate hmem]; rfl, rfl⟩, rfl, rfl⟩
  have houtcomes : earlier.1.1 = [.ok (), .error (.bus Bus.breakage), .ok ()] := by
    decide +kernel
  have hshown : last.1.1 = .ok () := by decide +kernel
  have hrow : last.2.lcd.rowText 0 = "▓+4 ▒-2 ▓-2 =+0 ".toList := by decide +kernel
  have hearlier : (Screen.renderAll LooseWire.draw [heated, heated, heated]
      { glyphs := firstCharacters, marquee := .ofString "ABCDEFGHIJKLMNOPQR" }).run wornWire =
      earlier := rfl
  have hlast : (earlier.1.2.render LooseWire.draw heated).run earlier.2 = last := rfl
  clear_value last earlier
  obtain ⟨⟨outcomes, shownBefore⟩, w₁⟩ := earlier
  obtain ⟨⟨outcome, shownAfter⟩, w₂⟩ := last
  subst houtcomes hshown
  obtain ⟨hfirst, -, -, hsecond⟩ := renderAll_shows LooseWire.unsteady (w := wornWire) hsized hloaded
    "ABCDEFGHIJKLMNOPQR" [heated, heated, heated] heated hearlier hlast
  exact ⟨hsized, hloaded, rfl, rfl, hfirst, hrow, hsecond (by decide)⟩

end HomeEnergy.Panel
