import HomeEnergy.Fault
import HomeEnergy.Options
import HomeEnergy.Proofs.Text.Literals
import Mathlib.Data.List.Induction

/-!
# The language of the command line

Arguments are pairs of a flag and its value, until they end or something else stands where a flag
should.  What pairs say does not depend on how they are mixed, only on the values given for each
flag, in order.

* `exists_pairs` — arguments are pairs and what stops them;
* `readFrom_spell` — pairs are taken one after the other;
* `assignAll_eq_ok_iff` — which pairs can be taken, and what they say;
* `parse_language` — **which arguments are accepted, and as what**.
-/

namespace HomeEnergy

namespace Flag

/-- The value of the flag is a number, and the last one counts.  All other flags may be given
only once. -/
def TakesNumber : Flag → Prop
  | .seed | .reports => True
  | .scenario | .preset | .telemetryOut => False

instance (flag : Flag) : Decidable flag.TakesNumber := by
  cases flag <;> unfold TakesNumber <;> infer_instance

theorem ofName?_name (flag : Flag) : ofName? flag.name = some flag := by
  cases flag <;> decide

theorem name_of_ofName? {arg : String} {flag : Flag} (h : ofName? arg = some flag) :
    flag.name = arg := by
  have hfound := List.find?_some h
  exact eq_of_beq hfound

end Flag

namespace Options

/-- A flag and the value given for it. -/
abbrev Pair := Flag × String

/-- Pairs as arguments. -/
def spell (pairs : List Pair) : List String := pairs.flatMap fun (flag, value) => [flag.name, value]

/-- The values that pairs give for a flag, in order. -/
def valuesOf (flag : Flag) (pairs : List Pair) : List String :=
  pairs.filterMap fun pair => if pair.1 = flag then some pair.2 else none

/-- The last value that pairs give for a flag. -/
def last? (flag : Flag) (pairs : List Pair) : Option String := (valuesOf flag pairs).getLast?

/-- The last value that pairs give for a flag, as a number. -/
def lastNumber? (flag : Flag) (pairs : List Pair) : Option UInt64 :=
  (last? flag pairs).bind (Text.Decimal.count? ·.toList)

/-- The last value that pairs give for a flag writes this number. -/
def LastNumber (flag : Flag) (pairs : List Pair) (w : UInt64) : Prop :=
  ∃ value, last? flag pairs = some value ∧ Text.Decimal.Count value.toList w.toNat

/-- What pairs say. -/
def given (pairs : List Pair) : Options where
  scenario := last? .scenario pairs
  preset := last? .preset pairs
  seed := lastNumber? .seed pairs
  reports := lastNumber? .reports pairs
  telemetryOut := last? .telemetryOut pairs

/-- The options with what one more pair says. -/
def hear (o : Options) : Pair → Options
  | (.scenario, value) => { o with scenario := some value }
  | (.preset, value) => { o with preset := some value }
  | (.seed, value) => { o with seed := Text.Decimal.count? value.toList }
  | (.reports, value) => { o with reports := Text.Decimal.count? value.toList }
  | (.telemetryOut, value) => { o with telemetryOut := some value }

/-- The text is a number below 2^64. -/
def IsCount (value : String) : Prop := ∃ n, Text.Decimal.Count value.toList n ∧ n < UInt64.size

/-- Each pair can be taken: where a number is expected the value is one, and no other flag is
given twice. -/
structure WellFormed (pairs : List Pair) : Prop where
  number (flag : Flag) : flag.TakesNumber → ∀ value ∈ valuesOf flag pairs, IsCount value
  once (flag : Flag) : ¬ flag.TakesNumber → (valuesOf flag pairs).length ≤ 1

/-- The configuration is not given twice over. -/
def OneSource (pairs : List Pair) : Prop :=
  valuesOf .scenario pairs = [] ∨ valuesOf .preset pairs = []

/-- What pairs say when nothing follows them: without a source, the preset is the usual one. -/
def settled (pairs : List Pair) : Options :=
  if valuesOf .scenario pairs = [] ∧ valuesOf .preset pairs = [] then
    { given pairs with preset := some "demo" }
  else given pairs

/-- The word asks for help. -/
abbrev AsksHelp (word : String) : Prop := word = "--help" ∨ word = "-h"

/-! ## Arguments as pairs -/

theorem spell_cons (flag : Flag) (value : String) (pairs : List Pair) :
    spell ((flag, value) :: pairs) = flag.name :: value :: spell pairs :=
  rfl

/-- No flag asks for help. -/
theorem not_asksHelp_name (flag : Flag) : ¬ AsksHelp flag.name := by
  cases flag <;> decide

/-- What can stand where the next pair is expected: nothing, a request for help, a flag without
its value, or a word that is no flag. -/
inductive Stops : List String → Prop
  | done : Stops []
  | help {word : String} (h : AsksHelp word) (rest : List String) : Stops (word :: rest)
  | missing (flag : Flag) : Stops [flag.name]
  | unknown {arg : String} (hhelp : ¬ AsksHelp arg) (hflag : Flag.ofName? arg = none)
      (rest : List String) : Stops (arg :: rest)

/-- Arguments are pairs, and what stops them. -/
theorem exists_pairs : ∀ args, ∃ pairs tail, args = spell pairs ++ tail ∧ Stops tail
  | [] => ⟨[], [], rfl, .done⟩
  | [arg] => by
    by_cases hhelp : AsksHelp arg
    · exact ⟨[], [arg], rfl, .help hhelp []⟩
    · cases hflag : Flag.ofName? arg with
      | none => exact ⟨[], [arg], rfl, .unknown hhelp hflag []⟩
      | some flag =>
        rw [← Flag.name_of_ofName? hflag]
        exact ⟨[], _, rfl, .missing flag⟩
  | arg :: value :: rest => by
    by_cases hhelp : AsksHelp arg
    · exact ⟨[], _, rfl, .help hhelp (value :: rest)⟩
    · cases hflag : Flag.ofName? arg with
      | none => exact ⟨[], _, rfl, .unknown hhelp hflag (value :: rest)⟩
      | some flag =>
        obtain ⟨pairs, tail, hrest, hstops⟩ := exists_pairs rest
        refine ⟨(flag, value) :: pairs, tail, ?_, hstops⟩
        rw [spell_cons, Flag.name_of_ofName? hflag, hrest]
        rfl

/-! ## Reading pair by pair -/

section

variable (o : Options)

theorem readFrom_help {word : String} (h : AsksHelp word) (rest : List String) :
    o.readFrom (word :: rest) = .ok { o with help := true } := by
  cases rest with
  | nil => exact if_pos h
  | cons value rest => exact if_pos h

theorem readFrom_missing (flag : Flag) :
    o.readFrom [flag.name] = .error (.missingValue flag) := by
  rw [readFrom, if_neg (not_asksHelp_name flag), Flag.ofName?_name]

theorem readFrom_unknown {arg : String} (hhelp : ¬ AsksHelp arg) (hflag : Flag.ofName? arg = none)
    (rest : List String) : o.readFrom (arg :: rest) = .error (.unknown arg) := by
  cases rest with
  | nil =>
    rw [readFrom, if_neg hhelp, hflag]
  | cons value rest =>
    rw [readFrom, if_neg hhelp, hflag]

theorem readFrom_pair (flag : Flag) (value : String) (rest : List String) :
    o.readFrom (flag.name :: value :: rest) = o.assign flag value >>= (·.readFrom rest) := by
  rw [readFrom, if_neg (not_asksHelp_name flag), Flag.ofName?_name]

/-- Takes pairs one after the other. -/
def assignAll (pairs : List Pair) : Except OptionsError Options :=
  pairs.foldlM (fun o pair => o.assign pair.1 pair.2) o

/-- Pairs are taken one after the other, and what comes after them is read last. -/
theorem readFrom_spell (pairs : List Pair) (tail : List String) :
    o.readFrom (spell pairs ++ tail) = o.assignAll pairs >>= (·.readFrom tail) := by
  induction pairs generalizing o with
  | nil => rfl
  | cons pair pairs ih =>
    obtain ⟨flag, value⟩ := pair
    rw [spell_cons, List.cons_append, List.cons_append, readFrom_pair, assignAll,
      List.foldlM_cons, bind_assoc]
    congr 1
    funext o'
    exact ih o'

end

/-! ## What pairs say -/

section

variable {pairs : List Pair} {flag : Flag} {value : String}

theorem valuesOf_concat (pairs : List Pair) (flag other : Flag) (value : String) :
    valuesOf flag (pairs ++ [(other, value)])
      = valuesOf flag pairs ++ if other = flag then [value] else [] := by
  rw [valuesOf, List.filterMap_append, ← valuesOf]
  congr 1
  by_cases h : other = flag <;> simp [h]

/-- The last of the pairs counts for its own flag. -/
theorem last?_concat (pairs : List Pair) (flag other : Flag) (value : String) :
    last? flag (pairs ++ [(other, value)])
      = if other = flag then some value else last? flag pairs := by
  rw [last?, valuesOf_concat]
  split
  · exact List.getLast?_concat
  · rw [List.append_nil, last?]

theorem lastNumber?_concat (pairs : List Pair) (flag other : Flag) (value : String) :
    lastNumber? flag (pairs ++ [(other, value)])
      = if other = flag then Text.Decimal.count? value.toList else lastNumber? flag pairs := by
  rw [lastNumber?, last?_concat]
  split <;> rfl

theorem last?_eq_none_iff : last? flag pairs = none ↔ valuesOf flag pairs = [] :=
  List.getLast?_eq_none_iff

theorem lastNumber?_eq_some_iff {w : UInt64} :
    lastNumber? flag pairs = some w ↔ LastNumber flag pairs w := by
  rw [lastNumber?, Option.bind_eq_some_iff]
  exact exists_congr fun value => and_congr_right fun _ => Text.Decimal.count?_eq_some_iff

theorem isCount_iff : IsCount value ↔ ∃ w, Text.Decimal.count? value.toList = some w := by
  constructor
  · rintro ⟨n, hn, hlt⟩
    refine ⟨.ofNat n, Text.Decimal.count?_eq_some_iff.mpr ?_⟩
    rwa [UInt64.toNat_ofNat_of_lt' hlt]
  · rintro ⟨w, hw⟩
    exact ⟨w.toNat, Text.Decimal.count?_eq_some_iff.mp hw, w.toNat_lt_size⟩

/-- What a pair must be like to be taken after these. -/
def Fits (pairs : List Pair) (flag : Flag) (value : String) : Prop :=
  if flag.TakesNumber then IsCount value else valuesOf flag pairs = []

theorem once_eq_ok_iff {before v : Option String} :
    once flag before value = .ok v ↔ before = none ∧ v = some value := by
  cases before with
  | none => exact ⟨fun h => by cases h; exact ⟨rfl, rfl⟩, fun ⟨_, h⟩ => h ▸ rfl⟩
  | some w => exact ⟨nofun, nofun⟩

theorem number_eq_ok_iff {v : Option UInt64} :
    number flag value = .ok v ↔ IsCount value ∧ v = Text.Decimal.count? value.toList := by
  rw [isCount_iff, number]
  cases Text.Decimal.count? value.toList with
  | none => exact ⟨nofun, nofun⟩
  | some w => exact ⟨fun h => by cases h; exact ⟨⟨w, rfl⟩, rfl⟩, fun ⟨_, hv⟩ => by rw [hv]⟩

/-- One more pair is heard instead of what was given for its flag. -/
theorem given_concat (pairs : List Pair) (pair : Pair) :
    given (pairs ++ [pair]) = (given pairs).hear pair := by
  obtain ⟨flag, value⟩ := pair
  cases flag <;> simp [given, hear, last?_concat, lastNumber?_concat]

/-- **A pair is taken after others exactly if it fits, and then they say what all of them say.** -/
theorem assign_given_eq_ok_iff {o : Options} :
    (given pairs).assign flag value = .ok o
      ↔ Fits pairs flag value ∧ o = given (pairs ++ [(flag, value)]) := by
  rw [given_concat]
  cases flag with
  | scenario | preset | telemetryOut =>
    rw [Fits, if_neg (by decide), ← last?_eq_none_iff, assign, bind_eq_ok_iff]
    constructor
    · rintro ⟨v, hv, ho⟩
      obtain ⟨hnone, rfl⟩ := once_eq_ok_iff.mp hv
      cases ho
      exact ⟨hnone, rfl⟩
    · rintro ⟨hnone, rfl⟩
      exact ⟨_, once_eq_ok_iff.mpr ⟨hnone, rfl⟩, rfl⟩
  | seed | reports =>
    rw [Fits, if_pos (by decide), assign, bind_eq_ok_iff]
    constructor
    · rintro ⟨v, hv, ho⟩
      obtain ⟨hcount, rfl⟩ := number_eq_ok_iff.mp hv
      cases ho
      exact ⟨hcount, rfl⟩
    · rintro ⟨hcount, rfl⟩
      exact ⟨_, number_eq_ok_iff.mpr ⟨hcount, rfl⟩, rfl⟩

theorem WellFormed.of_concat (h : WellFormed (pairs ++ [(flag, value)])) : WellFormed pairs where
  number f hf v hv := by
    refine h.number f hf v ?_
    rw [valuesOf_concat]
    exact List.mem_append_left _ hv
  once f hf := by
    have hall := h.once f hf
    rw [valuesOf_concat, List.length_append] at hall
    omega

theorem WellFormed.fits_of_concat (h : WellFormed (pairs ++ [(flag, value)])) :
    Fits pairs flag value := by
  have hvalues : valuesOf flag (pairs ++ [(flag, value)]) = valuesOf flag pairs ++ [value] := by
    rw [valuesOf_concat, if_pos rfl]
  unfold Fits
  split
  next hnumber => exact h.number flag hnumber value (hvalues ▸ List.mem_concat_self)
  next honce =>
    have hall := h.once flag honce
    rw [hvalues, List.length_append, List.length_singleton] at hall
    exact List.length_eq_zero_iff.mp (by omega)

theorem WellFormed.concat (h : WellFormed pairs) (hfits : Fits pairs flag value) :
    WellFormed (pairs ++ [(flag, value)]) where
  number f hf v hv := by
    rw [valuesOf_concat, List.mem_append] at hv
    obtain hv | hv := hv
    · exact h.number f hf v hv
    · split at hv
      next hsame =>
        subst hsame
        rw [Fits, if_pos hf] at hfits
        exact List.mem_singleton.mp hv ▸ hfits
      next => cases hv
  once f hf := by
    rw [valuesOf_concat]
    split
    next hsame =>
      subst hsame
      rw [Fits, if_neg hf] at hfits
      rw [hfits]
      exact Nat.le_refl 1
    next =>
      rw [List.append_nil]
      exact h.once f hf

theorem wellFormed_concat :
    WellFormed (pairs ++ [(flag, value)]) ↔ WellFormed pairs ∧ Fits pairs flag value :=
  ⟨fun h => ⟨h.of_concat, h.fits_of_concat⟩, fun ⟨h, hfits⟩ => h.concat hfits⟩

theorem wellFormed_nil : WellFormed [] :=
  ⟨fun _ _ _ hv => (nomatch hv), fun _ _ => Nat.zero_le 1⟩

/-- **Pairs are taken one after the other exactly if they are well formed, and then all of them
are heard.** -/
theorem assignAll_eq_ok_iff {o : Options} :
    assignAll {} pairs = .ok o ↔ WellFormed pairs ∧ o = given pairs := by
  -- Whether a pair fits depends on the pairs before it, so the induction takes the last one off.
  induction pairs using List.reverseRecOn generalizing o with
  | nil =>
    exact ⟨fun h => by cases h; exact ⟨wellFormed_nil, rfl⟩, fun ⟨_, h⟩ => by rw [h]; rfl⟩
  | append_singleton pairs pair ih =>
    obtain ⟨flag, value⟩ := pair
    have hone (o' : Options) : assignAll o' [(flag, value)] = o'.assign flag value := by
      rw [assignAll, List.foldlM_cons]
      exact bind_pure _
    rw [assignAll, List.foldlM_append, wellFormed_concat, bind_eq_ok_iff]
    constructor
    · rintro ⟨said, hsaid, hlast⟩
      obtain ⟨hwf, rfl⟩ := ih.mp hsaid
      obtain ⟨hfits, ho⟩ := assign_given_eq_ok_iff.mp ((hone _).symm.trans hlast)
      exact ⟨⟨hwf, hfits⟩, ho⟩
    · rintro ⟨⟨hwf, hfits⟩, ho⟩
      exact ⟨given pairs, ih.mpr ⟨hwf, rfl⟩,
        (hone _).trans (assign_given_eq_ok_iff.mpr ⟨hfits, ho⟩)⟩

/-- Arguments that begin with pairs are accepted exactly if the pairs are well formed and what
follows them is accepted. -/
theorem parse_spell_eq_ok_iff {tail : List String} {o : Options} :
    parse (spell pairs ++ tail) = .ok o
      ↔ WellFormed pairs ∧ (given pairs).readFrom tail = .ok o := by
  rw [parse, readFrom_spell, bind_eq_ok_iff]
  constructor
  · rintro ⟨said, hsaid, htail⟩
    obtain ⟨hwf, rfl⟩ := assignAll_eq_ok_iff.mp hsaid
    exact ⟨hwf, htail⟩
  · rintro ⟨hwf, htail⟩
    exact ⟨given pairs, assignAll_eq_ok_iff.mpr ⟨hwf, rfl⟩, htail⟩

/-- Pairs that nothing follows are accepted exactly if they do not give two sources. -/
theorem complete_given_eq_ok_iff {o : Options} :
    (given pairs).complete = .ok o ↔ OneSource pairs ∧ o = settled pairs := by
  simp only [OneSource, settled, ← last?_eq_none_iff]
  rw [complete, show (given pairs).scenario = last? .scenario pairs from rfl,
    show (given pairs).preset = last? .preset pairs from rfl]
  cases last? .scenario pairs <;> cases last? .preset pairs <;>
    simp [defaultPreset, eq_comm]

end

/-! ## The language -/

/-- The arguments are pairs that can be taken, and give at most one source. -/
structure Plain (args : List String) (pairs : List Pair) : Prop where
  words : args = spell pairs
  wellFormed : WellFormed pairs
  oneSource : OneSource pairs

/-- The arguments ask for help after pairs that can be taken. -/
structure Helped (args : List String) (pairs : List Pair) : Prop where
  words : ∃ word rest, AsksHelp word ∧ args = spell pairs ++ word :: rest
  wellFormed : WellFormed pairs

@[simp]
theorem settled_help (pairs : List Pair) : (settled pairs).help = false := by
  unfold settled
  split <;> rfl

section

variable {args : List String} {o : Options}

/-- Accepted arguments are pairs that can be taken, and nothing or a request for help stops
them. -/
theorem cases_of_parse (h : parse args = .ok o) :
    (∃ pairs, Plain args pairs ∧ o = settled pairs)
      ∨ ∃ pairs, Helped args pairs ∧ o = { given pairs with help := true } := by
  obtain ⟨pairs, tail, rfl, hstops⟩ := exists_pairs args
  obtain ⟨hwf, htail⟩ := parse_spell_eq_ok_iff.mp h
  cases hstops with
  | done =>
    obtain ⟨hsource, ho⟩ := complete_given_eq_ok_iff.mp htail
    exact .inl ⟨pairs, ⟨List.append_nil _, hwf, hsource⟩, ho⟩
  | help hhelp rest =>
    rw [readFrom_help _ hhelp] at htail
    cases htail
    exact .inr ⟨pairs, ⟨⟨_, rest, hhelp, rfl⟩, hwf⟩, rfl⟩
  | missing flag =>
    rw [readFrom_missing] at htail
    cases htail
  | unknown hhelp hflag rest =>
    rw [readFrom_unknown _ hhelp hflag] at htail
    cases htail

theorem Plain.parse {pairs : List Pair} (h : Plain args pairs) :
    parse args = .ok (settled pairs) := by
  rw [h.words, ← List.append_nil (spell pairs)]
  exact parse_spell_eq_ok_iff.mpr ⟨h.wellFormed, complete_given_eq_ok_iff.mpr ⟨h.oneSource, rfl⟩⟩

theorem Helped.parse {pairs : List Pair} (h : Helped args pairs) :
    parse args = .ok { given pairs with help := true } := by
  obtain ⟨word, rest, hhelp, rfl⟩ := h.words
  exact parse_spell_eq_ok_iff.mpr ⟨h.wellFormed, readFrom_help _ hhelp rest⟩

/-- The arguments are accepted without a request for help exactly if they are pairs that can be
taken and give at most one source. -/
theorem parse_without_help_iff :
    parse args = .ok o ∧ o.help = false ↔ ∃ pairs, Plain args pairs ∧ o = settled pairs := by
  constructor
  · rintro ⟨h, hhelp⟩
    obtain hplain | ⟨_, _, rfl⟩ := cases_of_parse h
    · exact hplain
    · cases hhelp
  · rintro ⟨pairs, hplain, rfl⟩
    exact ⟨hplain.parse, settled_help pairs⟩

/-- The arguments are taken as a request for help exactly if they ask for it after pairs that can
be taken. -/
theorem parse_with_help_iff :
    parse args = .ok o ∧ o.help = true
      ↔ ∃ pairs, Helped args pairs ∧ o = { given pairs with help := true } := by
  constructor
  · rintro ⟨h, hhelp⟩
    obtain ⟨pairs, _, rfl⟩ | hhelped := cases_of_parse h
    · rw [settled_help] at hhelp
      cases hhelp
    · exact hhelped
  · rintro ⟨pairs, hhelped, rfl⟩
    exact ⟨hhelped.parse, rfl⟩

/-- All other arguments are refused. -/
theorem parse_refused_iff :
    (∃ e, parse args = .error e) ↔ ∀ pairs, ¬ Plain args pairs ∧ ¬ Helped args pairs := by
  constructor
  · rintro ⟨e, he⟩ pairs
    constructor
    · intro hplain
      cases he.symm.trans hplain.parse
    · intro hhelped
      cases he.symm.trans hhelped.parse
  · intro hneither
    cases h : parse args with
    | error e => exact ⟨e, rfl⟩
    | ok o =>
      obtain ⟨pairs, hplain, _⟩ | ⟨pairs, hhelped, _⟩ := cases_of_parse h
      · exact absurd hplain (hneither pairs).1
      · exact absurd hhelped (hneither pairs).2

end

/-- With at most one source given, they settle on exactly one. -/
theorem settled_source {pairs : List Pair} (h : OneSource pairs) :
    (settled pairs).scenario.isSome ↔ (settled pairs).preset = none := by
  simp only [OneSource, ← last?_eq_none_iff] at h
  simp only [settled, ← last?_eq_none_iff]
  split
  next hnone => simp [given, hnone.1]
  next hsome =>
    show (last? .scenario pairs).isSome ↔ last? .preset pairs = none
    rw [Option.isSome_iff_ne_none]
    tauto

/-! ### Mixing pairs -/

/-- The pairs are the same, and what is given several times for a flag is in the same order. -/
structure Mixed (pairs pairs' : List Pair) : Prop where
  perm : pairs'.Perm pairs
  repeated (flag : Flag) :
    1 < (valuesOf flag pairs).length → valuesOf flag pairs' = valuesOf flag pairs

section

variable {pairs pairs' : List Pair}

theorem Mixed.valuesOf_eq (h : Mixed pairs pairs') (flag : Flag) :
    valuesOf flag pairs' = valuesOf flag pairs := by
  by_cases hseveral : 1 < (valuesOf flag pairs).length
  · exact h.repeated flag hseveral
  · have hperm : (valuesOf flag pairs').Perm (valuesOf flag pairs) := h.perm.filterMap _
    cases hvalues : valuesOf flag pairs with
    | nil => exact List.perm_nil.mp (hvalues ▸ hperm)
    | cons value later =>
      rw [hvalues, List.length_cons] at hseveral
      obtain rfl : later = [] := List.length_eq_zero_iff.mp (by omega)
      exact List.perm_singleton.mp (hvalues ▸ hperm)

/-- How pairs that are taken are mixed makes no difference. -/
theorem Mixed.parse_eq (h : Mixed pairs pairs') {tail : List String} {o : Options}
    (hparse : parse (spell pairs ++ tail) = .ok o) : parse (spell pairs' ++ tail) = .ok o := by
  obtain ⟨hwf, htail⟩ := parse_spell_eq_ok_iff.mp hparse
  have hwf' : WellFormed pairs' :=
    ⟨fun flag => h.valuesOf_eq flag ▸ hwf.number flag,
      fun flag => h.valuesOf_eq flag ▸ hwf.once flag⟩
  have hgiven : given pairs' = given pairs := by
    simp only [given, lastNumber?, last?, h.valuesOf_eq]
  exact parse_spell_eq_ok_iff.mpr ⟨hwf', hgiven ▸ htail⟩

end

/-- **The arguments that are accepted, and as what.**  They are pairs that can be taken, with at
most one source, or ask for help after such pairs; the last number given for a flag counts, there
is always one source in the end, and mixing the pairs changes nothing. -/
theorem parse_language (args : List String) :
    (∀ o, parse args = .ok o ∧ o.help = false ↔ ∃ pairs, Plain args pairs ∧ o = settled pairs)
      ∧ (∀ o, parse args = .ok o ∧ o.help = true
          ↔ ∃ pairs, Helped args pairs ∧ o = { given pairs with help := true })
      ∧ ((∃ e, parse args = .error e) ↔ ∀ pairs, ¬ Plain args pairs ∧ ¬ Helped args pairs)
      ∧ (∀ pairs w, ((given pairs).seed = some w ↔ LastNumber .seed pairs w)
          ∧ ((given pairs).reports = some w ↔ LastNumber .reports pairs w))
      ∧ (∀ o, parse args = .ok o ∧ o.help = false → (o.scenario.isSome ↔ o.preset = none))
      ∧ ∀ pairs pairs' tail o, args = spell pairs ++ tail → Mixed pairs pairs' →
          parse args = .ok o → parse (spell pairs' ++ tail) = .ok o := by
  refine ⟨fun o => parse_without_help_iff, fun o => parse_with_help_iff, parse_refused_iff,
    fun pairs w => ⟨lastNumber?_eq_some_iff, lastNumber?_eq_some_iff⟩, fun o ho => ?_, ?_⟩
  · obtain ⟨pairs, hplain, rfl⟩ := parse_without_help_iff.mp ho
    exact settled_source hplain.oneSource
  · rintro pairs pairs' tail o rfl hmixed hparse
    exact hmixed.parse_eq hparse

/-- A flag may stand where a value is expected, and the last number counts. -/
example : parse ["--seed", "1", "--preset", "--help", "--reports", "+3", "--seed", "2"]
    = .ok { preset := some "--help", seed := some 2, reports := some 3 } := by
  decide +kernel

end Options

end HomeEnergy
