import HomeEnergy.Proofs.Controller.Work

/-!
# Setting up a controller

Setting up talks to the panel and asks the clock once.  The calls to the panel are
known beforehand: the glyphs always take the same slots, and there are enough slots for
them, so that setting up ends early only if the panel refuses a call or the report timer
cannot be started.

* `setUp_leaves` — **every setting up takes one of the courses of `SetsUp`**;
* `SetsUp.starts` — the timer starts at the moment of the setting up.
-/

namespace HomeEnergy

open Exchange

namespace Controller

/-- The calls that load some glyphs into the slots from `first` on. -/
def loadCalls (first : Nat) (glyphs : List Panel.Bitmap) : List Panel.Call :=
  (glyphs.zipIdx first).map fun (glyph, slot) => .loadGlyph slot glyph

/-- The characters that show the glyphs in `count` slots from `first` on. -/
def slotChars (first count : Nat) : List Char := (List.range' first count).map Char.ofNat

/-- The characters of the status glyphs after a setting up. -/
def firstGlyphs : Panel.GlyphSet where
  house := Char.ofNat 0
  turbine := Char.ofNat 1
  battery := slotChars 2 6

/-- What a controller keeps of the panel after it has been set up. -/
def firstScreen (settings : Settings) : Panel.Screen where
  glyphs := firstGlyphs
  marquee := .ofString settings.marquee

/-- The calls that load the status glyphs. -/
def glyphCalls : List Panel.Call :=
  loadCalls 0 [Panel.GlyphSet.houseBitmap] ++ (loadCalls 1 [Panel.GlyphSet.turbineBitmap] ++
    loadCalls 2 Panel.GlyphSet.batteryBitmaps)

/-- The calls to the panel that set up a controller. -/
def setUpCalls (settings : Settings) : List Panel.Call :=
  [.clear] ++ (glyphCalls ++ Panel.Screen.twoRows
    ((title ++ [firstGlyphs.house, firstGlyphs.turbine]).take Panel.columns)
    ((firstScreen settings).marquee.window Panel.columns))

/-- The courses of a setting up. -/
inductive SetsUp (house : House) (settings : Settings) :
    List Exchange → Except Halt Controller → Prop
  | refused {xs : List Exchange} {e : PanelError}
      (hdraws : Draws (setUpCalls settings) xs (.error e)) :
      SetsUp house settings xs (.error (.failed (.panel e)))
  | unstarted {xs : List Exchange} {start : Tick} {f : Fault}
      (hdraws : Draws (setUpCalls settings) xs (.ok ()))
      (htimer : Timer.start settings.reportInterval start = .error f) :
      SetsUp house settings (xs ++ [.now start]) (.error (.broken f))
  | ready {xs : List Exchange} {start : Tick} {timer : Timer}
      (hdraws : Draws (setUpCalls settings) xs (.ok ()))
      (htimer : Timer.start settings.reportInterval start = .ok timer) :
      SetsUp house settings (xs ++ [.now start])
        (.ok { house, screen := firstScreen settings, timer, idleDelay := settings.idleDelay })

section

variable {calls later : List Panel.Call} {xs ys : List Exchange}

theorem Draws.append {outcome : Except PanelError Unit} (hfirst : Draws calls xs (.ok ()))
    (hlater : Draws later ys outcome) : Draws (calls ++ later) (xs ++ ys) outcome := by
  cases hfirst
  cases hlater with
  | all =>
    rw [← List.map_append]
    exact .all
  | @some before after call e h =>
    rw [← List.append_assoc, ← List.map_append]
    exact .some (by rw [h, List.append_assoc])

theorem Draws.append_of_error {e : PanelError} (hfirst : Draws calls xs (.error e))
    (later : List Panel.Call) : Draws (calls ++ later) xs (.error e) := by
  cases hfirst with
  | some h => exact .some (by rw [h, List.append_assoc, List.cons_append])

theorem draws_one (call : Panel.Call) (answer : Except PanelError Unit) :
    Draws [call] [.draw call answer] answer := by
  cases answer with
  | ok => exact .all
  | error e => exact @Draws.some _ [] [] call e rfl

end

/-- Work with the glyph slots that makes some calls to the panel: it gives its answer if
the panel accepts all of them, and fails with the panel otherwise. -/
inductive Loads {α : Type} (calls : List Panel.Call) (answer : α) (after : Panel.GlyphSlots) :
    List Exchange → Except ControlError α → Panel.GlyphSlots → Prop
  | all {xs : List Exchange} (h : Draws calls xs (.ok ())) :
      Loads calls answer after xs (.ok answer) after
  | some {xs : List Exchange} {e : PanelError} {held : Panel.GlyphSlots}
      (h : Draws calls xs (.error e)) : Loads calls answer after xs (.error (.panel e)) held

section

variable {σ α β : Type} {ports : Ports (StateM σ)}

theorem loads_pure (a : α) (held : Panel.GlyphSlots) :
    Does ports (pure a) held (Loads [] a held) :=
  does_pure (.all .all)

theorem loads_bind {work : RecordedWork σ ControlError Panel.GlyphSlots α}
    {next : α → RecordedWork σ ControlError Panel.GlyphSlots β} {calls later : List Panel.Call}
    {a : α} {b : β} {held mid last : Panel.GlyphSlots}
    (hwork : Does ports work held (Loads calls a mid))
    (hnext : Does ports (next a) mid (Loads later b last)) :
    Does ports (work >>= next) held (Loads (calls ++ later) b last) := by
  refine does_bind hwork ?_ ?_
  · intro xs result c' h
    obtain ⟨hcalls⟩ := h
    refine hnext.imp ?_
    intro ys result after h
    cases h with
    | all hlater => exact .all (hcalls.append hlater)
    | some hlater => exact .some (hcalls.append hlater)
  · intro xs e after h
    cases h with
    | some hcalls => exact .some (hcalls.append_of_error later)

theorem load_does (glyph : Panel.Bitmap) (slot : Nat) (hfree : slot < Panel.slots) :
    Does ports (Panel.GlyphSlots.load ports.recorded.draw glyph) ⟨slot⟩
      (Loads [.loadGlyph slot glyph] (Char.ofNat slot) ⟨slot + 1⟩) := by
  refine does_get_bind ?_
  show Does ports (if slot < Panel.slots then _ else _) _ _
  rw [if_pos hfree]
  refine does_request_bind (ports.leaves_draw _) ?_
  intro xs answer hxs
  subst hxs
  have hdraws := draws_one (.loadGlyph slot glyph) answer
  cases answer with
  | error e => exact does_throw (.some hdraws)
  | ok => exact does_set_bind (does_pure (.all hdraws))

theorem mapM_load_does (glyphs : List Panel.Bitmap) (first : Nat)
    (hfree : first + glyphs.length ≤ Panel.slots) :
    Does ports (glyphs.mapM (Panel.GlyphSlots.load ports.recorded.draw)) ⟨first⟩
      (Loads (loadCalls first glyphs) (slotChars first glyphs.length)
        ⟨first + glyphs.length⟩) := by
  induction glyphs generalizing first with
  | nil => exact loads_pure [] _
  | cons glyph glyphs ih =>
    rw [List.length_cons] at hfree
    have hrest := ih (first + 1) (by omega)
    rw [Nat.add_right_comm, Nat.add_assoc] at hrest
    have hcalls : loadCalls first (glyph :: glyphs) =
        [.loadGlyph first glyph] ++ (loadCalls (first + 1) glyphs ++ []) := by
      rw [List.append_nil]
      rfl
    rw [List.mapM_cons, hcalls]
    refine loads_bind (load_does glyph first (by omega)) ?_
    exact loads_bind hrest (loads_pure _ _)

theorem loadGlyphs_does :
    Does ports (Panel.GlyphSet.load ports.recorded.draw) {}
      (Loads glyphCalls firstGlyphs ⟨8⟩) := by
  rw [glyphCalls, ← List.append_nil (loadCalls 2 Panel.GlyphSet.batteryBitmaps)]
  refine loads_bind (load_does Panel.GlyphSet.houseBitmap 0 (by decide)) ?_
  refine loads_bind (load_does Panel.GlyphSet.turbineBitmap 1 (by decide)) ?_
  exact loads_bind (mapM_load_does Panel.GlyphSet.batteryBitmaps 2 (by decide))
    (loads_pure firstGlyphs _)

theorem leaves_request_bind {ε : Type} {request : StateM (Recorded σ) α}
    {next : α → ExceptT ε (StateM (Recorded σ)) β} {mid : List Exchange → α → Prop}
    {post : List Exchange → Except ε β → Prop} (hrequest : ports.Leaves request mid)
    (hnext : ∀ xs a, mid xs a → ports.Leaves (next a).run fun ys b => post (xs ++ ys) b) :
    ports.Leaves ((request : ExceptT ε (StateM (Recorded σ)) α) >>= next).run post := by
  have hrun : ((request : ExceptT ε (StateM (Recorded σ)) α) >>= next).run =
      request >>= fun a => (next a).run := rfl
  rw [hrun]
  exact Ports.leaves_bind hrequest hnext

/-- **Every setting up takes one of its courses**, whatever the world. -/
theorem setUp_leaves (house : House) (settings : Settings) :
    ports.Leaves (setUp ports.recorded house settings).run (SetsUp house settings) := by
  unfold setUp drawOrHalt
  rw [bind_assoc]
  refine leaves_request_bind (ports.leaves_draw .clear) ?_
  intro xs answer hxs
  subst hxs
  have hclear := draws_one .clear answer
  cases answer with
  | error e => exact Ports.leaves_pure (.refused (hclear.append_of_error _))
  | ok =>
    simp only [pure_bind]
    refine leaves_request_bind loadGlyphs_does ?_
    intro ys out hloads
    obtain ⟨_, _⟩ := out
    cases hloads with
    | some hglyphs =>
      refine Ports.leaves_pure (.refused ?_)
      rw [List.append_nil]
      exact hclear.append (hglyphs.append_of_error _)
    | all hglyphs =>
      refine leaves_request_bind (drawAll_leaves _) ?_
      intro zs outcome hrows
      have hdraws : Draws (setUpCalls settings) _ outcome := hclear.append (hglyphs.append hrows)
      cases outcome with
      | error e =>
        refine Ports.leaves_pure ?_
        rw [List.append_nil]
        exact .refused hdraws
      | ok =>
        refine leaves_request_bind ports.leaves_now ?_
        intro xs start hxs
        subst hxs
        cases htimer : Timer.start settings.reportInterval start with
        | error f =>
          refine Ports.leaves_pure ?_
          have hset : SetsUp house settings _ _ := .unstarted hdraws htimer
          simpa only [List.append_assoc, List.append_nil] using hset
        | ok timer =>
          refine Ports.leaves_pure ?_
          have hset : SetsUp house settings _ _ := .ready hdraws htimer
          simpa only [List.append_assoc, List.append_nil, firstScreen] using hset

variable (ports) in
/-- What comes of setting up in a recorded world: the controller or why there is none, and the
world with all that was exchanged. -/
def setUpIn (house : House) (settings : Settings) (s : σ) :
    Except Halt Controller × Recorded σ :=
  (setUp ports.recorded house settings).run.run ⟨s, []⟩

/-- A setting up has taken one of its courses, and the world went along with it. -/
theorem setsUp_of_setUpIn {house : House} {settings : Settings} {s s' : σ}
    {result : Except Halt Controller} {before : List Exchange}
    (h : setUpIn ports house settings s = (result, ⟨s', before⟩)) :
    SetsUp house settings before result ∧ ports.Path s before s' := by
  rcases @setUp_leaves σ ports house settings s with ⟨xs, _, _, hpath, hsets, hrun⟩
  cases (hrun []).symm.trans h
  exact ⟨hsets, hpath⟩

/-- A controller that has been set up has the house that it was given. -/
theorem house_of_setUp {house : House} {settings : Settings} {s : σ} {c : Controller}
    (h : (setUpIn ports house settings s).1 = .ok c) : c.house = house := by
  rcases hset : setUpIn ports house settings s with ⟨result, s', before⟩
  rw [hset] at h
  cases h
  cases (setsUp_of_setUpIn hset).1 with
  | ready => rfl

/-- Setting up takes no time on a clock that moves only by sleeping, and starts the timer at that
moment. -/
theorem SetsUp.starts (clock : ports.SleepClock) {house : House} {settings : Settings} {s s' : σ}
    {c : Controller} {before : List Exchange} (h : SetsUp house settings before (.ok c))
    (hpath : ports.Path s before s') :
    Timer.start settings.reportInterval (clock.clock s') = .ok c.timer ∧
      c.idleDelay = settings.idleDelay ∧ clock.clock s' = clock.clock s := by
  cases h with
  | @ready xs start timer hdraws htimer =>
    have hxs : sleeps xs = [] := by
      cases hdraws
      simp [sleeps, slept?]
    have hclock : clock.clock s' = clock.clock s := by
      rw [clock.clock_of_path hpath, sleeps_append, hxs]
      rfl
    rw [hclock, ← clock.reading_of_path hpath hxs]
    exact ⟨htimer, rfl, rfl⟩

end

end Controller

end HomeEnergy
