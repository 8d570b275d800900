import HomeEnergy.Proofs.House.Charging
import HomeEnergy.Proofs.House.Outputs

/-!
# The glyph of the charge

The glyph tells the charge in whole fifths of the capacity.  The last of the six stands for one
charge only, that of a full battery.  The fifths are computed in words of 64 bits, where nothing
overflows, and the glyph moves only when the battery charges or discharges.

* `Charged.glyphIndex_eq_ok_iff` — the charges that a glyph stands for;
* `Charged.toInt_product`, `Charged.toInt_fifths` — the words of 64 bits compute it exactly;
* `Charged.step_follows` — one step moves the glyph to the side of its rate;
* `House.uses_of_inTurn` — what is done to a house is some use of its battery;
* `glyphIndex_exact` — **the glyph is exact at every capacity, and follows the rate along every
  run.**
-/

namespace HomeEnergy

namespace Battery

/-! ## Charges and glyphs -/

/-- The capacity is positive and the charge is within it.  Of the rates nothing is asked. -/
structure Charged (battery : Battery) : Prop where
  maxCharge_pos : 0 < battery.maxCharge.toInt
  charge_nonneg : 0 ≤ battery.charge.toInt
  charge_le : battery.charge.toInt ≤ battery.maxCharge.toInt

/-- The charge has reached so many fifths of the capacity, and not the next. -/
def InFifth (battery : Battery) (k : Int) : Prop :=
  k * battery.maxCharge.toInt ≤ 5 * battery.charge.toInt ∧
    5 * battery.charge.toInt < (k + 1) * battery.maxCharge.toInt

/-- The fifths of the capacity that the charge has reached, in words of 64 bits. -/
def fifths (battery : Battery) : Int64 :=
  battery.charge.toInt64 * 5 / battery.maxCharge.toInt64

variable {battery other : Battery}

/-- Of two charges in batteries of one capacity the greater has reached no fewer fifths. -/
theorem InFifth.mono {k l : Int} (hk : battery.InFifth k) (hl : other.InFifth l)
    (hpos : 0 < battery.maxCharge.toInt) (hsame : other.maxCharge = battery.maxCharge)
    (hle : battery.charge.toInt ≤ other.charge.toInt) : k ≤ l := by
  have hreach : k * battery.maxCharge.toInt < (l + 1) * battery.maxCharge.toInt := by
    have hlow := hk.1
    have hhigh := hl.2
    rw [hsame] at hhigh
    omega
  have hlt : k < l + 1 := Int.lt_of_mul_lt_mul_right hreach (Int.le_of_lt hpos)
  omega

namespace Charged

/-- There are fifths from none to all five. -/
theorem fifth_bounds (h : battery.Charged) {k : Int} (hk : battery.InFifth k) : 0 ≤ k ∧ k ≤ 5 := by
  have hnonneg := h.charge_nonneg
  have hle := h.charge_le
  have hpos := h.maxCharge_pos
  have hlow : 0 * battery.maxCharge.toInt < (k + 1) * battery.maxCharge.toInt := by
    have hhigh := hk.2
    omega
  have hhigh : k * battery.maxCharge.toInt ≤ 5 * battery.maxCharge.toInt := by
    have hlow := hk.1
    omega
  have hfirst : 0 < k + 1 := Int.lt_of_mul_lt_mul_right hlow (Int.le_of_lt hpos)
  have hlast : k ≤ 5 := Int.le_of_mul_le_mul_right hhigh hpos
  omega

/-- The quotient is cut off at the fifth that the charge is in. -/
theorem tdiv_eq_iff (h : battery.Charged) {k : Int} :
    Int.tdiv (battery.charge.toInt * 5) battery.maxCharge.toInt = k ↔ battery.InFifth k := by
  have hproduct : 0 ≤ battery.charge.toInt * 5 := by
    have hnonneg := h.charge_nonneg
    omega
  rw [Int.tdiv_eq_ediv_of_nonneg hproduct, Int.ediv_eq_iff_of_pos h.maxCharge_pos, InFifth,
    Int.add_mul, Int.one_mul, Int.mul_comm battery.charge.toInt]

/-- The charge is in some fifth. -/
theorem exists_fifth (h : battery.Charged) : ∃ k : Nat, k ≤ 5 ∧ battery.InFifth k := by
  have hfifth := h.tdiv_eq_iff.mp rfl
  obtain ⟨hnonneg, hle⟩ := h.fifth_bounds hfifth
  refine ⟨_, ?_, (Int.toNat_of_nonneg hnonneg).symm ▸ hfifth⟩
  omega

/-- The glyph is the fifth that the charge is in: nothing is left to clamp. -/
theorem glyphIndex_eq (h : battery.Charged) {k : Nat} (hk : battery.InFifth k) :
    battery.glyphIndex = .ok k := by
  have hcapacity : battery.maxCharge ≠ 0 := by
    intro hzero
    have hpos := h.maxCharge_pos
    rw [hzero] at hpos
    exact absurd hpos (by decide)
  have htop : (glyphCount : Int) - 1 = 5 := rfl
  have hle := (h.fifth_bounds hk).2
  have hunclamped : (max 0 (min (k : Int) 5)).toNat = k := by omega
  rw [glyphIndex, if_neg hcapacity]
  dsimp only
  rw [htop, h.tdiv_eq_iff.mpr hk, hunclamped]

/-- **The charges that a glyph stands for.** -/
theorem glyphIndex_eq_ok_iff (h : battery.Charged) {k : Nat} :
    battery.glyphIndex = .ok k ↔ battery.InFifth k := by
  constructor
  · intro hglyph
    obtain ⟨l, -, hl⟩ := h.exists_fifth
    rw [h.glyphIndex_eq hl] at hglyph
    cases hglyph
    exact hl
  · exact h.glyphIndex_eq

/-- The last glyph stands for a full battery. -/
theorem glyphIndex_eq_five_iff (h : battery.Charged) :
    battery.glyphIndex = .ok 5 ↔ battery.charge = battery.maxCharge := by
  have hle := h.charge_le
  have hpos := h.maxCharge_pos
  rw [h.glyphIndex_eq_ok_iff, ← Int32.toInt_inj, InFifth]
  omega

/-- The greater charge shows no lower a glyph. -/
theorem glyphIndex_mono (h : battery.Charged) (hother : other.Charged)
    (hsame : other.maxCharge = battery.maxCharge)
    (hle : battery.charge.toInt ≤ other.charge.toInt) {k l : Nat}
    (hk : battery.glyphIndex = .ok k) (hl : other.glyphIndex = .ok l) : k ≤ l := by
  rw [h.glyphIndex_eq_ok_iff] at hk
  rw [hother.glyphIndex_eq_ok_iff] at hl
  exact Int.ofNat_le.mp (hk.mono hl h.maxCharge_pos hsame hle)

/-! ## Words of 64 bits -/

/-- Five times a charge is far from the end of its word. -/
theorem toInt_product (h : battery.Charged) :
    (battery.charge.toInt64 * 5).toInt = 5 * battery.charge.toInt := by
  have hnonneg := h.charge_nonneg
  have hword := battery.charge.toInt_lt
  have hfive : (5 : Int64).toInt = 5 := rfl
  rw [Int64.toInt_mul, Int32.toInt_toInt64, hfive, Int.mul_comm]
  exact Int.bmod_eq_of_le (by omega) (by omega)

/-- The quotient of the words is that of the integers. -/
theorem toInt_fifths (h : battery.Charged) {k : Int} (hk : battery.InFifth k) :
    battery.fifths.toInt = k := by
  obtain ⟨hnonneg, hle⟩ := h.fifth_bounds hk
  rw [fifths, Int64.toInt_div, h.toInt_product, Int32.toInt_toInt64,
    Int.mul_comm, h.tdiv_eq_iff.mpr hk]
  exact Int.bmod_eq_of_le (by omega) (by omega)

/-! ## Steps and commands -/

theorem command (h : battery.Charged) (action : List UInt8) :
    (battery.command action).Charged := by
  rw [command_frame]
  exact { h with }

/-- A step leaves the charge within the capacity, and moves it to the side of its rate if it
moves it. -/
theorem step_charge (h : battery.Charged) {flow rate : Int32} {next : Battery}
    (hstep : battery.step flow = .ok (rate, next)) :
    next.Charged ∧ next.maxCharge = battery.maxCharge ∧
      (battery.charge.toInt < next.charge.toInt → 0 < rate.toInt) ∧
      (next.charge.toInt < battery.charge.toInt → rate.toInt < 0) := by
  obtain ⟨wanted, -, hstep⟩ := bind_eq_ok_iff.mp hstep
  split at hstep
  · obtain ⟨charge, hcharge, hstep⟩ := bind_eq_ok_iff.mp hstep
    cases hstep
    have hzero : (0 : Int32).toInt = 0 := rfl
    have hnonneg := h.charge_nonneg
    have hle := h.charge_le
    have hpos := h.maxCharge_pos
    have hword := Word.fits_toInt battery.maxCharge
    have hsum := (Word.clamp_eq_ok_iff.mp hcharge).2
    rw [Word.toInt_satAdd, hzero] at hsum
    unfold Word.Fits at hword
    refine ⟨⟨hpos, ?_, ?_⟩, rfl, ?_, ?_⟩ <;> dsimp only <;> omega
  · cases hstep
    exact ⟨{ h with }, rfl, fun hrises => absurd hrises (Int.lt_irrefl _),
      fun hfalls => absurd hfalls (Int.lt_irrefl _)⟩

end Charged

/-- The glyph rises only at a rate of charging, and falls only at one of discharging. -/
structure Follows (before after : Nat) (rate : Int32) : Prop where
  rises (h : before < after) : 0 < rate
  falls (h : after < before) : rate < 0

/-- **A step moves the glyph to the side of its rate**, if it moves it. -/
theorem Charged.step_follows (h : battery.Charged) {flow rate : Int32} {next : Battery}
    (hstep : battery.step flow = .ok (rate, next)) {k l : Nat}
    (hk : battery.glyphIndex = .ok k) (hl : next.glyphIndex = .ok l) : Follows k l rate := by
  have hzero : (0 : Int32).toInt = 0 := rfl
  obtain ⟨hnext, hsame, hcharges, hdischarges⟩ := h.step_charge hstep
  -- a glyph that moves betrays a charge that moves the same way
  constructor
  · intro hrises
    rw [Int32.lt_iff_toInt_lt, hzero]
    apply hcharges
    by_contra hnot
    have hback := hnext.glyphIndex_mono h hsame.symm (Int.not_lt.mp hnot) hl hk
    omega
  · intro hfalls
    rw [Int32.lt_iff_toInt_lt, hzero]
    apply hdischarges
    by_contra hnot
    have hforth := h.glyphIndex_mono hnext hsame (Int.not_lt.mp hnot) hk hl
    omega

/-! ## Runs -/

/-- A use that begins with a step is the step and then the rest. -/
theorem useAll_step_eq_ok_iff {flow : Int32} {later : List Use} {strides : List Stride}
    {last : Battery} :
    battery.useAll (.step flow :: later) = .ok (strides, last) ↔
      ∃ rate next rest, battery.step flow = .ok (rate, next) ∧
        next.useAll later = .ok (rest, last) ∧
        strides = ⟨rate.toInt, battery.charge.toInt, next.charge.toInt⟩ :: rest := by
  constructor
  · intro h
    obtain ⟨⟨rate, next⟩, hstep, h⟩ := bind_eq_ok_iff.mp h
    obtain ⟨⟨rest, last⟩, hrest, h⟩ := bind_eq_ok_iff.mp h
    cases h
    exact ⟨rate, next, rest, hstep, hrest, rfl⟩
  · rintro ⟨rate, next, rest, hstep, hrest, rfl⟩
    rw [useAll, hstep]
    simp only [bind, Except.bind, hrest]
    rfl

theorem useAll_append {uses later : List Use} {strides strides' : List Stride}
    {middle last : Battery} (huses : battery.useAll uses = .ok (strides, middle))
    (hlater : middle.useAll later = .ok (strides', last)) :
    battery.useAll (uses ++ later) = .ok (strides ++ strides', last) := by
  induction uses generalizing battery strides with
  | nil =>
    cases huses
    exact hlater
  | cons use uses ih =>
    cases use with
    | step flow =>
      obtain ⟨rate, next, rest, hstep, hrest, rfl⟩ := useAll_step_eq_ok_iff.mp huses
      exact useAll_step_eq_ok_iff.mpr ⟨rate, next, rest ++ strides', hstep, ih hrest, rfl⟩
    | command action => exact @ih (battery.command action) strides huses

/-- A battery that does nothing but obey. -/
theorem useAll_commands (battery : Battery) (actions : List (List UInt8)) :
    battery.useAll (actions.map .command) = .ok ([], actions.foldl Battery.command battery) := by
  induction actions generalizing battery with
  | nil => rfl
  | cons action actions ih => exact ih (battery.command action)

/-- However a battery is used, as long as no use is a fault, its charge stays within its
capacity. -/
theorem Charged.useAll (h : battery.Charged) {uses : List Use} {strides : List Stride}
    {reached : Battery} (huses : battery.useAll uses = .ok (strides, reached)) :
    reached.Charged := by
  induction uses generalizing battery strides with
  | nil =>
    cases huses
    exact h
  | cons use uses ih =>
    cases use with
    | step flow =>
      obtain ⟨_, _, _, hstep, hrest, -⟩ := useAll_step_eq_ok_iff.mp huses
      exact ih (h.step_charge hstep).1 hrest
    | command action => exact ih (h.command action) huses

/-- Of what can be done next only a step moves the glyph, and it moves it to the side of its
rate. -/
structure GlyphFollows (battery : Battery) (k : Nat) : Prop where
  shown : battery.glyphIndex = .ok k
  command (action : List UInt8) : (battery.command action).glyphIndex = .ok k
  step {flow rate : Int32} {next : Battery} (hstep : battery.step flow = .ok (rate, next)) :
    ∃ l, next.glyphIndex = .ok l ∧ Follows k l rate

theorem Charged.glyphFollows (h : battery.Charged) : ∃ k, battery.GlyphFollows k := by
  obtain ⟨k, -, hk⟩ := h.exists_fifth
  refine ⟨k, h.glyphIndex_eq hk, fun action => ?_, fun {flow rate next} hstep => ?_⟩
  · apply (h.command action).glyphIndex_eq
    rw [command_frame]
    exact hk
  · obtain ⟨l, -, hl⟩ := (h.step_charge hstep).1.exists_fifth
    have hglyph := (h.step_charge hstep).1.glyphIndex_eq hl
    exact ⟨l, hglyph, h.step_follows hstep (h.glyphIndex_eq hk) hglyph⟩

end Battery

/-! ## The glyph in the reports of a house -/

theorem House.batteryGlyph_of_balance {house : House} {done : Done Balance}
    (h : house.balance = .ok done) :
    done.house.battery.glyphIndex = .ok done.answer.batteryGlyph := by
  obtain ⟨_, -, h⟩ := bind_eq_ok_iff.mp h
  obtain ⟨_, -, h⟩ := bind_eq_ok_iff.mp h
  obtain ⟨_, -, h⟩ := bind_eq_ok_iff.mp h
  obtain ⟨⟨_, _⟩, -, h⟩ := bind_eq_ok_iff.mp h
  obtain ⟨_, hglyph, h⟩ := bind_eq_ok_iff.mp h
  cases h
  exact hglyph

/-- What an operation does to the battery of a house: a balance makes a step of it and reports the
rate and the glyph, any other operation gives it some commands, or none. -/
theorem Operation.Course.battery {house : House} {operation : Operation} {done : Done Response}
    (h : Course house operation done) :
    (∃ b, done.answer = .balanced b ∧
      house.battery.step b.beforeBattery = .ok (b.batteryLoad, done.house.battery) ∧
      done.house.battery.glyphIndex = .ok b.batteryGlyph) ∨
    ((∀ b, done.answer ≠ .balanced b) ∧
      ∃ actions, done.house.battery = List.foldl Battery.command house.battery actions) := by
  cases h with
  | dispatch line heatPump => exact .inr ⟨nofun, _, rfl⟩
  | @balance balanced hbalanced =>
    exact .inl ⟨balanced.answer, rfl, (House.balanceCourse hbalanced).step_eq,
      House.batteryGlyph_of_balance hbalanced⟩
  | pressWind => exact .inr ⟨nofun, [], rfl⟩
  | pressHeatPump => exact .inr ⟨nofun, [], rfl⟩
  | shutDown => exact .inr ⟨nofun, [], rfl⟩

namespace House

variable {house : House}

/-- **What is done to a house is some use of its battery.** -/
theorem uses_of_inTurn {operations : List Operation} {done : Done (List Response)}
    (h : house.inTurn (operations.map Operation.perform) = .ok done) :
    ∃ uses strides, house.battery.useAll uses = .ok (strides, done.house.battery) := by
  induction operations generalizing house done with
  | nil =>
    cases h
    exact ⟨[], [], rfl⟩
  | cons operation later ih =>
    obtain ⟨first, hfirst, h⟩ := bind_eq_ok_iff.mp h
    obtain ⟨rest, hrest, h⟩ := bind_eq_ok_iff.mp h
    cases h
    obtain ⟨uses, strides, huses⟩ := ih hrest
    rcases (Operation.course_of_perform hfirst).battery with
      ⟨b, -, hstep, -⟩ | ⟨-, actions, hactions⟩
    · exact ⟨.step b.beforeBattery :: uses, _,
        Battery.useAll_step_eq_ok_iff.mpr ⟨_, _, strides, hstep, huses, rfl⟩⟩
    · rw [hactions] at huses
      exact ⟨_, _, Battery.useAll_append (house.battery.useAll_commands actions) huses⟩

/-- Of what can be done next only a balance moves the glyph.  It reports the glyph that it leaves,
and beside it a rate to the side of which the glyph has moved. -/
def GlyphFollows (house : House) (k : Nat) : Prop :=
  house.battery.glyphIndex = .ok k ∧
    ∀ (operation : Operation) (done : Done Response), operation.perform house = .ok done →
      match done.answer with
      | .balanced b => done.house.battery.glyphIndex = .ok b.batteryGlyph ∧
          Battery.Follows k b.batteryGlyph b.batteryLoad
      | _ => done.house.battery.glyphIndex = .ok k

theorem glyphFollows_of_charged (h : house.battery.Charged) : ∃ k, house.GlyphFollows k := by
  obtain ⟨k, hfollows⟩ := h.glyphFollows
  refine ⟨k, hfollows.shown, fun operation done hdone => ?_⟩
  rcases (Operation.course_of_perform hdone).battery with
    ⟨b, hanswer, hstep, hglyph⟩ | ⟨hanswer, actions, hactions⟩
  · obtain ⟨l, hl, hmoves⟩ := hfollows.step hstep
    cases hglyph.symm.trans hl
    rw [hanswer]
    exact ⟨hglyph, hmoves⟩
  · have hsame : done.house.battery.glyphIndex = .ok k := by
      have hframe := Battery.foldl_command house.battery actions
      rw [hactions, hframe]
      exact hfollows.shown
    split
    next b hb => exact absurd hb (hanswer b)
    next => exact hsame

end House

namespace Battery

/-- **The glyph is exact at every capacity.**  A battery with a positive capacity and a charge
within it shows the one glyph, of the six, whose fifths of the capacity its charge has reached.  In
words of 64 bits the product does not overflow and the quotient is the glyph, so that there is
nothing to clamp.  The last glyph shows exactly a full battery, and the greater charge shows no
lower a glyph.

However the battery is used, the glyph rises only in a step at a rate of charging and falls only
in one at a rate of discharging.  So it is with the glyphs and the rates that a house with this
battery reports, whatever is done to it. -/
theorem glyphIndex_exact {battery : Battery} (h : battery.Charged) :
    (∃ k, battery.glyphIndex = .ok k) ∧
    (∀ k : Nat, battery.glyphIndex = .ok k ↔ k ≤ 5 ∧ battery.InFifth k) ∧
    (battery.charge.toInt64 * 5).toInt = 5 * battery.charge.toInt ∧
    (0 ≤ battery.fifths.toInt ∧ battery.fifths.toInt ≤ 5 ∧
      battery.glyphIndex = .ok battery.fifths.toInt.toNat) ∧
    (battery.glyphIndex = .ok 5 ↔ battery.charge = battery.maxCharge) ∧
    (∀ other : Battery, other.Charged → other.maxCharge = battery.maxCharge →
      battery.charge ≤ other.charge →
      ∀ k l, battery.glyphIndex = .ok k → other.glyphIndex = .ok l → k ≤ l) ∧
    (0 < battery.maxRate →
      ∀ uses, ∃ strides reached, battery.useAll uses = .ok (strides, reached)) ∧
    (∀ uses strides reached, battery.useAll uses = .ok (strides, reached) →
      ∃ k, reached.GlyphFollows k) ∧
    ∀ (house : House) (operations : List Operation) (done : Done (List Response)),
      house.battery = battery →
      house.inTurn (operations.map Operation.perform) = .ok done →
      ∃ k, done.house.GlyphFollows k := by
  obtain ⟨k, hle, hk⟩ := h.exists_fifth
  have hshown := h.glyphIndex_eq hk
  have hfifths := h.toInt_fifths hk
  refine ⟨⟨k, hshown⟩, ?_, h.toInt_product, ?_, h.glyphIndex_eq_five_iff, ?_, ?_, ?_, ?_⟩
  · intro l
    rw [h.glyphIndex_eq_ok_iff]
    refine ⟨fun hl => ⟨?_, hl⟩, fun hl => hl.2⟩
    exact Int.ofNat_le.mp (h.fifth_bounds hl).2
  · rw [hfifths]
    exact ⟨Int.natCast_nonneg k, Int.ofNat_le.mpr hle, hshown⟩
  · intro other hother hsame hle k l hk hl
    exact h.glyphIndex_mono hother hsame (Int32.le_iff_toInt_le.mp hle) hk hl
  · intro hrate uses
    have hfit : battery.Fit :=
      ⟨h.maxCharge_pos, Int32.lt_iff_toInt_lt.mp hrate, h.charge_nonneg, h.charge_le⟩
    obtain ⟨strides, reached, huses, -⟩ := hfit.useAll uses
    exact ⟨strides, reached, huses⟩
  · intro uses strides reached huses
    exact (h.useAll huses).glyphFollows
  · rintro house operations done rfl hdone
    obtain ⟨uses, strides, huses⟩ := House.uses_of_inTurn hdone
    exact House.glyphFollows_of_charged (h.useAll huses)

/-- The greatest battery shows the last glyph but one until the last unit is in it.  Five times its
charge would not fit a word of 32 bits. -/
theorem glyphIndex_exact_nearlyFull :
    nearlyFull.Charged ∧ nearlyFull.glyphIndex = .ok 4 ∧
      (nearlyFull.charge.toInt64 * 5).toInt = 10737418230 ∧
      ∃ strides reached, nearlyFull.useAll (greatestUses.take 2) = .ok (strides, reached) ∧
        reached.GlyphFollows 5 := by
  have hcharged : nearlyFull.Charged := ⟨by decide, by decide, by decide⟩
  obtain ⟨-, hglyph, hproduct, -, -, -, huses, hfollows, -⟩ := glyphIndex_exact hcharged
  obtain ⟨strides, reached, hreached⟩ := huses (by decide) (greatestUses.take 2)
  obtain ⟨k, hk⟩ := hfollows _ _ _ hreached
  have hfull : reached.glyphIndex = .ok 5 := by
    cases hreached
    rfl
  cases hk.shown.symm.trans hfull
  refine ⟨hcharged, (hglyph 4).mpr ⟨by decide, by decide, by decide⟩, hproduct, ?_⟩
  exact ⟨strides, reached, hreached, hk⟩

end Battery

end HomeEnergy
