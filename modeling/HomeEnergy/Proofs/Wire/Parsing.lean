import HomeEnergy.Proofs.Runs
import HomeEnergy.Wire.Command

/-!
# The grammar of commands

A command is a keyword and an action with separators between them, and maybe around them.  The
grammar is said here by what stands where in a line, without a word about cutting it up, and
the reader of commands is shown to accept what the grammar does and nothing else.

* `laid_pair_iff` — what a line of two words looks like;
* `parse_grammar` — **which lines are commands, and why the others are not.**
-/

namespace HomeEnergy.Wire

namespace Target

/-- The bytes of a keyword. -/
def spelling : Target → List UInt8
  | .led => [0x6C, 0x65, 0x64]
  | .battery => [0x62, 0x61, 0x74, 0x74, 0x65, 0x72, 0x79]
  | .turbine => [0x74, 0x75, 0x72, 0x62, 0x69, 0x6E, 0x65]
  | .heatPump => [0x68, 0x65, 0x61, 0x74, 0x70, 0x75, 0x6D, 0x70]

theorem encode_keyword (target : Target) :
    Text.Utf8.encode target.keyword.toList = target.spelling := by
  cases target <;> decide

theorem spelling_inj {t u : Target} (h : t.spelling = u.spelling) : t = u := by
  cases t <;> cases u <;> first | rfl | exact absurd h (by decide)

/-- A keyword is nothing that a separator could be in. -/
theorem spelling_word (target : Target) :
    target.spelling ≠ [] ∧ ∀ b ∈ target.spelling, Command.isSeparator b = false := by
  have hne : target.spelling ≠ [] := by
    cases target <;> exact List.cons_ne_nil _ _
  have hnone : target.spelling.any Command.isSeparator = false := by
    cases target <;> decide
  refine ⟨hne, ?_⟩
  intro b hb
  exact eq_false_of_ne_true (List.any_eq_false.mp hnone b hb)

/-- A word addresses the target whose keyword it is, byte for byte. -/
theorem ofKeyword?_eq_some_iff {name : List UInt8} {target : Target} :
    ofKeyword? name = some target ↔ name = target.spelling := by
  constructor
  · intro h
    have hfound : (Text.Utf8.encode target.keyword.toList == name) = true :=
      List.find?_some (p := fun target : Target => Text.Utf8.encode target.keyword.toList == name) h
    rw [← beq_iff_eq.mp hfound, encode_keyword]
  · rintro rfl
    cases target <;> decide

/-- A word that is no keyword addresses nothing. -/
theorem ofKeyword?_eq_none_iff {name : List UInt8} :
    ofKeyword? name = none ↔ ∀ target : Target, name ≠ target.spelling := by
  rw [Option.eq_none_iff_forall_ne_some]
  exact forall_congr' fun target => not_congr ofKeyword?_eq_some_iff

end Target

namespace Command

/-- The grammar of commands: `line` is a keyword and an action, with at least one separator
between them and any number of them around. -/
structure SpelledBy (command : Command) (before between after : List UInt8) (line : Line) :
    Prop where
  layout : line = before ++ command.target.spelling ++ between ++ command.action ++ after
  before_blank : ∀ b ∈ before, isSeparator b = true
  between_blank : ∀ b ∈ between, isSeparator b = true
  between_ne : between ≠ []
  after_blank : ∀ b ∈ after, isSeparator b = true
  action_ne : command.action ≠ []
  action_word : ∀ b ∈ command.action, isSeparator b = false

/-- A line of two words has separators between them, and may have some around them. -/
theorem laid_pair_iff {line : Line} {first second : List UInt8} :
    Laid isSeparator line [first, second] ↔ ∃ before between after,
      line = before ++ first ++ between ++ second ++ after ∧
      (∀ b ∈ before, isSeparator b = true) ∧
      (first ≠ [] ∧ ∀ b ∈ first, isSeparator b = false) ∧
      (between ≠ [] ∧ ∀ b ∈ between, isSeparator b = true) ∧
      (second ≠ [] ∧ ∀ b ∈ second, isSeparator b = false) ∧
      ∀ b ∈ after, isSeparator b = true := by
  constructor
  · intro h
    rcases laid_cons_iff.mp h with ⟨before, rest, rfl, hbefore, hne, hfirst, hend, hrest⟩
    rcases laid_cons_iff.mp hrest with ⟨between, after, rfl, hbetween, hne', hsecond, _, hafter⟩
    have hgap : between ≠ [] := by
      -- otherwise the second word would go on the first
      rintro rfl
      cases second with
      | nil => exact hne' rfl
      | cons b second =>
        have hsep : isSeparator b = true := hend b rfl
        rw [hsecond b List.mem_cons_self] at hsep
        cases hsep
    refine ⟨before, between, after, ?_, hbefore, ⟨hne, hfirst⟩, ⟨hgap, hbetween⟩,
      ⟨hne', hsecond⟩, laid_nil_iff.mp hafter⟩
    simp only [List.append_assoc]
  · rintro ⟨before, between, after, rfl, hbefore, ⟨hne, hfirst⟩, ⟨hgap, hbetween⟩,
      ⟨hne', hsecond⟩, hafter⟩
    have hrest : Laid isSeparator (between ++ (second ++ after)) [second] := by
      apply laid_cons_iff.mpr
      refine ⟨between, after, rfl, hbetween, hne', hsecond, ?_, laid_nil_iff.mpr hafter⟩
      intro b hb
      exact hafter b (List.mem_of_mem_head? hb)
    simp only [List.append_assoc]
    apply laid_cons_iff.mpr
    refine ⟨before, _, rfl, hbefore, hne, hfirst, ?_, hrest⟩
    intro b hb
    cases between with
    | nil => exact absurd rfl hgap
    | cons c between =>
      rw [← Option.some.inj hb]
      exact hbetween c List.mem_cons_self

/-- A line follows the grammar if its words are a keyword and the action. -/
theorem spelledBy_iff {command : Command} {line : Line} :
    (∃ before between after, command.SpelledBy before between after line) ↔
      Laid isSeparator line [command.target.spelling, command.action] := by
  rw [laid_pair_iff]
  constructor
  · rintro ⟨before, between, after, h⟩
    exact ⟨before, between, after, h.layout, h.before_blank, command.target.spelling_word,
      ⟨h.between_ne, h.between_blank⟩, ⟨h.action_ne, h.action_word⟩, h.after_blank⟩
  · rintro ⟨before, between, after, layout, hbefore, _, ⟨hgap, hbetween⟩, ⟨hne, haction⟩, hafter⟩
    exact ⟨before, between, after, layout, hbefore, hbetween, hgap, hafter, hne, haction⟩

/-- Two words are a command or address nothing. -/
theorem parse_pair {line : Line} {name action : List UInt8}
    (h : Laid isSeparator line [name, action]) :
    (∃ target : Target, name = target.spelling ∧ parse line = .ok { target, action }) ∨
    ((∀ target : Target, name ≠ target.spelling) ∧
      parse line = .error (.unknownTarget (Text.Utf8.repair name))) := by
  have hwords : tokens line = [name, action] := laid_iff.mp h
  cases hname : Target.ofKeyword? name with
  | some target =>
    refine .inl ⟨target, Target.ofKeyword?_eq_some_iff.mp hname, ?_⟩
    simp only [parse, hwords, hname]
  | none =>
    refine .inr ⟨Target.ofKeyword?_eq_none_iff.mp hname, ?_⟩
    simp only [parse, hwords, hname]

/-- Any other number of words is refused for their number, whatever they are. -/
theorem parse_of_length_ne {line : Line} {words : List (List UInt8)}
    (h : Laid isSeparator line words) (hlen : words.length ≠ 2) :
    parse line = .error (.tokenCount words.length) := by
  have hwords : tokens line = words := laid_iff.mp h
  rw [parse, hwords]
  match words, hlen with
  | [], _ => rfl
  | [_], _ => rfl
  | [_, _], hlen => exact absurd rfl hlen
  | _ :: _ :: _ :: _, _ => rfl

/-- A line has two words, or it is refused for their number. -/
theorem pair_or_tokenCount (line : Line) :
    (∃ name action, Laid isSeparator line [name, action]) ∨
    ∃ words, Laid isSeparator line words ∧ words.length ≠ 2 ∧
      parse line = .error (.tokenCount words.length) := by
  rcases exists_laid isSeparator line with ⟨words, hwords⟩
  by_cases hlen : words.length = 2
  · match words, hlen, hwords with
    | [name, action], _, hwords => exact .inl ⟨name, action, hwords⟩
  · exact .inr ⟨words, hwords, hlen, parse_of_length_ne hwords hlen⟩

/-- A line is refused for the number of its words exactly if that number is not two. -/
theorem parse_eq_tokenCount_iff {line : Line} {n : Nat} :
    parse line = .error (.tokenCount n) ↔
      n ≠ 2 ∧ ∃ words, Laid isSeparator line words ∧ words.length = n := by
  constructor
  · intro h
    rcases pair_or_tokenCount line with ⟨name, action, hpair⟩ | ⟨words, hwords, hlen, hparse⟩
    · rcases parse_pair hpair with ⟨_, _, hparse⟩ | ⟨_, hparse⟩
      · cases h.symm.trans hparse
      · cases h.symm.trans hparse
    · cases h.symm.trans hparse
      exact ⟨hlen, words, hwords, rfl⟩
  · rintro ⟨hne, words, hwords, rfl⟩
    exact parse_of_length_ne hwords hne

/-- A line is a command exactly if its words are the keyword and the action. -/
theorem parse_eq_ok_iff {line : Line} {command : Command} :
    parse line = .ok command ↔
      Laid isSeparator line [command.target.spelling, command.action] := by
  constructor
  · intro h
    rcases pair_or_tokenCount line with ⟨name, action, hpair⟩ | ⟨_, _, _, hparse⟩
    · rcases parse_pair hpair with ⟨target, rfl, hparse⟩ | ⟨_, hparse⟩
      · cases h.symm.trans hparse
        exact hpair
      · cases h.symm.trans hparse
    · cases h.symm.trans hparse
  · intro hwords
    rcases parse_pair hwords with ⟨target, hname, hparse⟩ | ⟨hnone, _⟩
    · rw [hparse, ← Target.spelling_inj hname]
    · exact absurd rfl (hnone command.target)

/-- A line addresses nothing exactly if it has two words of which the first is no keyword. -/
theorem parse_eq_unknownTarget_iff {line : Line} {name : List Char} :
    parse line = .error (.unknownTarget name) ↔
      ∃ first second, Laid isSeparator line [first, second] ∧
        (∀ target : Target, first ≠ target.spelling) ∧ name = Text.Utf8.repair first := by
  constructor
  · intro h
    rcases pair_or_tokenCount line with ⟨first, second, hpair⟩ | ⟨_, _, _, hparse⟩
    · rcases parse_pair hpair with ⟨_, _, hparse⟩ | ⟨hnone, hparse⟩
      · cases h.symm.trans hparse
      · cases h.symm.trans hparse
        exact ⟨first, second, hpair, hnone, rfl⟩
    · cases h.symm.trans hparse
  · rintro ⟨first, second, hwords, hnone, rfl⟩
    rcases parse_pair hwords with ⟨target, hname, _⟩ | ⟨_, hparse⟩
    · exact absurd hname (hnone target)
    · exact hparse

/-- **The reader of commands accepts its grammar.**  Every line is laid out in words in one way.
It is the command that spells it, if there is one; it is refused for its number of words
exactly if there are not two, whatever they are; and it is refused for its target, which the
refusal names, exactly if there are two and the first is no keyword. -/
theorem parse_grammar (line : Line) :
    (∃ words, Laid isSeparator line words ∧
      ∀ words', Laid isSeparator line words' → words' = words) ∧
    (∀ command : Command, parse line = .ok command ↔
      ∃ before between after, command.SpelledBy before between after line) ∧
    (∀ n, parse line = .error (.tokenCount n) ↔
      n ≠ 2 ∧ ∃ words, Laid isSeparator line words ∧ words.length = n) ∧
    ∀ name, parse line = .error (.unknownTarget name) ↔
      ∃ first second, Laid isSeparator line [first, second] ∧
        (∀ target : Target, first ≠ target.spelling) ∧ name = Text.Utf8.repair first := by
  refine ⟨⟨runs isSeparator line, laid_runs _ _, fun _ h => h.eq_runs⟩, ?_, ?_, ?_⟩
  · intro command
    rw [parse_eq_ok_iff, spelledBy_iff]
  · intro n
    exact parse_eq_tokenCount_iff
  · intro name
    exact parse_eq_unknownTarget_iff

end Command

end HomeEnergy.Wire
