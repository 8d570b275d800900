import HomeEnergy.Button.Edge
import HomeEnergy.Pin
import HomeEnergy.Proofs.Runs
import Mathlib.Algebra.GroupWithZero.Nat

/-!
# Presses on a pin that may fail

A press is a run of low levels.  A detector that sees all of them fires once for each press.
One that sees the pin through reads that may fail takes a failed read for a button at rest; so
a press falls apart into the stretches in which it could be read, and each of them counts.

* `firings_eq` — a detector fires once for each run of low samples;
* `firings_seen` — **with failing reads, it fires once for each readable stretch of a press;**
* `held_press_fires_twice` — so a failed read in the middle of a press makes it count again.
-/

namespace HomeEnergy

/-- A sample of a pin: the level that the pin has, and whether the read of it fails. -/
structure PinSample where
  high : Bool
  fails : Bool
  deriving Repr, DecidableEq

namespace PinSample

/-- What the read gives. -/
def reading? (s : PinSample) : Option Bool := if s.fails then none else some s.high

/-- The level that the read counts as. -/
def seen (s : PinSample) : Bool := Pin.read s.reading?

theorem seen_eq (s : PinSample) : s.seen = (s.high || s.fails) := by
  obtain ⟨high, fails⟩ := s
  cases fails
  · exact (Bool.or_false high).symm
  · exact (Bool.or_true high).symm

/-- The presses among some samples: the runs in which the pin is low. -/
def presses (samples : List PinSample) : List (List PinSample) := runs (·.high) samples

/-- The stretches of some samples in which the pin can be read. -/
def stretches (samples : List PinSample) : List (List PinSample) := runs (·.fails) samples

/-- The reads that fail while the pin is low. -/
def lost (samples : List PinSample) : Nat := samples.countP fun s => !s.high && s.fails

end PinSample

namespace FallingEdge

/-- How often a detector fires that takes these samples one after the other. -/
def firings (edge : FallingEdge) : List Bool → Nat
  | [] => 0
  | high :: later => (edge.sample high).1.toNat + (edge.sample high).2.firings later

/-- A high sample completes no edge and is the end of any press. -/
theorem firings_high (edge : FallingEdge) (later : List Bool) :
    edge.firings (true :: later) = ({} : FallingEdge).firings later := by
  rw [firings, sample, Bool.not_true, Bool.and_false]
  exact Nat.zero_add _

/-- While the pin stays low, nothing fires again. -/
theorem firings_low {run : List Bool} (hrun : ∀ high ∈ run, high = false) (later : List Bool) :
    (⟨false⟩ : FallingEdge).firings (run ++ later) = (⟨false⟩ : FallingEdge).firings later := by
  induction run with
  | nil => rfl
  | cons high run ih =>
    rcases List.forall_mem_cons.mp hrun with ⟨rfl, hrest⟩
    rw [List.cons_append, firings, ← ih hrest]
    exact Nat.zero_add _

/-- At the end of a press it does not matter that the pin was low. -/
theorem firings_of_end {later : List Bool} (hend : ∀ high ∈ later.head?, high = true) :
    (⟨false⟩ : FallingEdge).firings later = ({} : FallingEdge).firings later := by
  cases later with
  | nil => rfl
  | cons high later =>
    have hhigh : high = true := hend high rfl
    rw [hhigh, firings_high, firings_high]

/-- **A detector fires once for each run of low samples.** -/
theorem firings_eq (levels : List Bool) :
    ({} : FallingEdge).firings levels = (runs id levels).length := by
  have hlaid := laid_runs id levels
  generalize runs id levels = found at hlaid ⊢
  induction hlaid with
  | nil => rfl
  | @separator high later _ hhigh _ ih =>
    have htrue : high = true := hhigh
    rw [htrue, firings_high, ih]
  | @run run later _ hne hrun hend _ ih =>
    cases run with
    | nil => exact absurd rfl hne
    | cons high run =>
      rcases List.forall_mem_cons.mp hrun with ⟨hlow, hrest⟩
      have hfalse : high = false := hlow
      have hfirst : ({} : FallingEdge).firings (high :: (run ++ later)) =
          1 + (⟨false⟩ : FallingEdge).firings (run ++ later) := by
        rw [hfalse]
        rfl
      rw [List.cons_append, hfirst, firings_low hrest, firings_of_end hend, ih,
        List.length_cons, Nat.add_comm]

/-- Sampled in some way, the pin is low in runs of its samples. -/
theorem firings_map (level : PinSample → Bool) (samples : List PinSample) :
    ({} : FallingEdge).firings (samples.map level) = (runs level samples).length := by
  have hruns : runs id (samples.map level) = (runs level samples).map (·.map level) :=
    runs_map level samples
  rw [firings_eq, hruns, List.length_map]

end FallingEdge

open PinSample FallingEdge

/-- The pin is seen low in the readable stretches of its presses. -/
theorem PinSample.runs_seen (samples : List PinSample) :
    runs (·.seen) samples = (presses samples).flatMap stretches := by
  have hseen : (fun s : PinSample => s.seen) = fun s => s.high || s.fails := funext seen_eq
  rw [hseen]
  exact runs_or (·.high) (·.fails) samples

/-- All presses together have no more stretches than one each and what each may have beside. -/
theorem PinSample.sum_stretches_le (beside : List PinSample → Nat)
    {found : List (List PinSample)}
    (h : ∀ press ∈ found, (stretches press).length ≤ beside press + 1) :
    (found.map fun press => (stretches press).length).sum ≤
      found.length + (found.map beside).sum := by
  induction found with
  | nil => exact Nat.le_refl 0
  | cons press found ih =>
    rcases List.forall_mem_cons.mp h with ⟨hpress, hrest⟩
    have hsum := ih hrest
    simp only [List.map_cons, List.sum_cons, List.length_cons]
    omega

/-- The reads that fail while the pin is low fail during the presses. -/
theorem PinSample.lost_eq (samples : List PinSample) :
    lost samples = ((presses samples).map fun press => press.countP (·.fails)).sum := by
  rw [← List.countP_flatten, presses, flatten_runs, List.countP_filter]
  exact congrArg samples.countP (funext fun s => Bool.and_comm _ _)

/-- **Over reads that may fail, a press counts once for each stretch of it that could be read.**
The same pin without failures would count each press once.  So a press that never comes back
after a failed read makes no more edges than it should, and in any case there is at most one
edge too many for each read that failed during a press. -/
theorem firings_seen (samples : List PinSample) :
    ({} : FallingEdge).firings (samples.map (·.high)) = (presses samples).length ∧
    ({} : FallingEdge).firings (samples.map (·.seen)) =
      ((presses samples).map fun press => (stretches press).length).sum ∧
    ((∀ press ∈ presses samples, (stretches press).length ≤ 1) →
      ({} : FallingEdge).firings (samples.map (·.seen)) ≤
        ({} : FallingEdge).firings (samples.map (·.high))) ∧
    ({} : FallingEdge).firings (samples.map (·.seen)) ≤
      ({} : FallingEdge).firings (samples.map (·.high)) + lost samples := by
  have htrue : ({} : FallingEdge).firings (samples.map (·.high)) = (presses samples).length :=
    firings_map (·.high) samples
  have hseen := firings_map (·.seen) samples
  rw [runs_seen, List.length_flatMap] at hseen
  refine ⟨htrue, hseen, ?_, ?_⟩
  · intro hwhole
    have hsum := sum_stretches_le (fun _ => 0) hwhole
    rwa [List.map_const', List.sum_replicate_nat, Nat.mul_zero, Nat.add_zero, ← htrue,
      ← hseen] at hsum
  · -- a stretch that is not the first of its press comes after a failed read
    have hpress : ∀ press ∈ presses samples,
        (stretches press).length ≤ press.countP (·.fails) + 1 :=
      fun press _ => length_runs_le PinSample.fails press
    have hsum := sum_stretches_le (fun press => press.countP (·.fails)) hpress
    rwa [← lost_eq, ← htrue, ← hseen] at hsum

/-- Two presses.  The first is seen late, because its first read fails, and the second is left
early, because its last read does. -/
def raggedPresses : List PinSample :=
  [⟨false, true⟩, ⟨false, false⟩, ⟨true, false⟩, ⟨true, true⟩, ⟨false, false⟩, ⟨false, true⟩]

/-- Reads that fail at the ends of presses add no edge. -/
theorem firings_seen_ragged :
    (∀ press ∈ presses raggedPresses, (stretches press).length ≤ 1) ∧
    ({} : FallingEdge).firings (raggedPresses.map (·.seen)) ≤
      ({} : FallingEdge).firings (raggedPresses.map (·.high)) := by
  have hwhole : ∀ press ∈ presses raggedPresses, (stretches press).length ≤ 1 := by decide
  exact ⟨hwhole, (firings_seen raggedPresses).2.2.1 hwhole⟩

/-- One press, held for three samples, of which the read in the middle fails. -/
def heldPress : List PinSample := [⟨false, false⟩, ⟨false, true⟩, ⟨false, false⟩]

/-- The held press makes one edge, and two over the failing read. -/
theorem held_press_fires_twice :
    ({} : FallingEdge).firings (heldPress.map (·.high)) = 1 ∧
    ({} : FallingEdge).firings (heldPress.map (·.seen)) = 2 ∧
    ¬ ∀ samples : List PinSample, ({} : FallingEdge).firings (samples.map (·.seen)) ≤
      ({} : FallingEdge).firings (samples.map (·.high)) := by
  refine ⟨by decide, by decide, ?_⟩
  intro hnever
  exact absurd (hnever heldPress) (by decide)

end HomeEnergy
