/-!
# Runs between separators

A list that is read from its beginning is laid out in runs: separators stand around them and
between them, and a run goes on as long as there is no separator.  The words of a line are such
runs, and so are the presses of a button among the samples of its pin.

* `Laid` — the layout of a list, said by what stands where;
* `laid_iff` — **cutting at every separator finds exactly this layout;**
* `runs_or` — where there are separators of two kinds, one may cut at the one kind first and
  then each run at the other.
-/

namespace HomeEnergy

section

variable {α : Type}

/-- A list is laid out as some runs.  Each run is as long as it can be: it ends with the list
or before a separator. -/
inductive Laid (p : α → Bool) : List α → List (List α) → Prop
  | nil : Laid p [] []
  | separator {x : α} {rest : List α} {found : List (List α)} (hx : p x = true)
      (hrest : Laid p rest found) : Laid p (x :: rest) found
  | run {run rest : List α} {found : List (List α)} (hne : run ≠ [])
      (hrun : ∀ x ∈ run, p x = false) (hend : ∀ x ∈ rest.head?, p x = true)
      (hrest : Laid p rest found) : Laid p (run ++ rest) (run :: found)

/-- The runs that are left if a list is cut at every separator. -/
def runs (p : α → Bool) (xs : List α) : List (List α) := (xs.splitOnP p).filter (· ≠ [])

variable {p : α → Bool}

@[simp] theorem runs_nil : runs p [] = [] := by
  simp [runs]

theorem runs_append_cons (xs rest : List α) {x : α} (hx : p x = true) :
    runs p (xs ++ x :: rest) = runs p xs ++ runs p rest := by
  rw [runs, List.splitOnP_append_cons xs rest hx, List.filter_append, runs, runs]

theorem runs_cons (rest : List α) {x : α} (hx : p x = true) :
    runs p (x :: rest) = runs p rest := by
  have h := runs_append_cons [] rest hx
  rwa [List.nil_append, runs_nil, List.nil_append] at h

/-- What holds no separator is one run, if it is anything. -/
theorem runs_of_forall {run : List α} (hne : run ≠ []) (hrun : ∀ x ∈ run, p x = false) :
    runs p run = [run] := by
  rw [runs, List.splitOnP_eq_singleton hrun]
  simp [hne]

/-- A run that cannot go on is cut off as a whole. -/
theorem runs_append {run rest : List α} (hne : run ≠ []) (hrun : ∀ x ∈ run, p x = false)
    (hend : ∀ x ∈ rest.head?, p x = true) : runs p (run ++ rest) = run :: runs p rest := by
  cases rest with
  | nil => rw [List.append_nil, runs_of_forall hne hrun, runs_nil]
  | cons x rest =>
    have hx : p x = true := hend x rfl
    rw [runs_append_cons run rest hx, runs_of_forall hne hrun, runs_cons rest hx]
    exact List.singleton_append

/-- A list has one layout only. -/
theorem Laid.eq_runs {xs : List α} {found : List (List α)} (h : Laid p xs found) :
    found = runs p xs := by
  induction h with
  | nil => exact runs_nil.symm
  | separator hx _ ih => rw [runs_cons _ hx, ih]
  | run hne hrun hend _ ih => rw [runs_append hne hrun hend, ih]

/-- An element that is no separator goes on the run behind it, or is one alone. -/
theorem Laid.cons_other {x : α} {rest : List α} {found : List (List α)} (hx : p x = false)
    (h : Laid p rest found) : ∃ found', Laid p (x :: rest) found' := by
  have hsingle : ∀ y ∈ [x], p y = false := by
    intro y hy
    rwa [List.mem_singleton.mp hy]
  cases h with
  | nil => exact ⟨_, .run (List.cons_ne_nil x []) hsingle nofun .nil⟩
  | @separator y rest found hy hrest =>
    have hend : ∀ z ∈ (y :: rest).head?, p z = true := by
      intro z hz
      rwa [← Option.some.inj hz]
    exact ⟨_, .run (List.cons_ne_nil x []) hsingle hend (.separator hy hrest)⟩
  | @run run rest found hne hrun hend hrest =>
    have hlonger : ∀ y ∈ x :: run, p y = false := List.forall_mem_cons.mpr ⟨hx, hrun⟩
    exact ⟨_, .run (List.cons_ne_nil x run) hlonger hend hrest⟩

theorem exists_laid (p : α → Bool) (xs : List α) : ∃ found, Laid p xs found := by
  induction xs with
  | nil => exact ⟨[], .nil⟩
  | cons x rest ih =>
    rcases ih with ⟨found, hfound⟩
    by_cases hx : p x = true
    · exact ⟨found, .separator hx hfound⟩
    · exact hfound.cons_other (eq_false_of_ne_true hx)

/-- **A list is laid out exactly as the runs that cutting it leaves.** -/
theorem laid_iff {xs : List α} {found : List (List α)} :
    Laid p xs found ↔ runs p xs = found := by
  constructor
  · intro h
    exact h.eq_runs.symm
  · intro h
    rcases exists_laid p xs with ⟨found', hfound'⟩
    rwa [← h, ← hfound'.eq_runs]

theorem laid_runs (p : α → Bool) (xs : List α) : Laid p xs (runs p xs) := laid_iff.mpr rfl

/-- Separators in front are passed over. -/
theorem Laid.gap {gap rest : List α} {found : List (List α)} (hgap : ∀ x ∈ gap, p x = true)
    (h : Laid p rest found) : Laid p (gap ++ rest) found := by
  induction gap with
  | nil => exact h
  | cons x gap ih =>
    rcases List.forall_mem_cons.mp hgap with ⟨hx, hgap⟩
    exact .separator hx (ih hgap)

/-- Nothing but separators is laid out as no run at all. -/
theorem laid_nil_iff {xs : List α} : Laid p xs [] ↔ ∀ x ∈ xs, p x = true := by
  constructor
  · intro h
    generalize hfound : ([] : List (List α)) = found at h
    induction h with
    | nil => exact nofun
    | separator hx _ ih => exact List.forall_mem_cons.mpr ⟨hx, ih hfound⟩
    | run => cases hfound
  · intro hall
    rw [← List.append_nil xs]
    exact Laid.gap hall .nil

/-- The first run stands behind some separators. -/
theorem laid_cons_iff {xs first : List α} {found : List (List α)} :
    Laid p xs (first :: found) ↔ ∃ gap rest, xs = gap ++ (first ++ rest) ∧
      (∀ x ∈ gap, p x = true) ∧ first ≠ [] ∧ (∀ x ∈ first, p x = false) ∧
      (∀ x ∈ rest.head?, p x = true) ∧ Laid p rest found := by
  constructor
  · intro h
    generalize hwhole : first :: found = whole at h
    induction h with
    | nil => cases hwhole
    | @separator x _ _ hx _ ih =>
      rcases ih hwhole with ⟨gap, rest, rfl, hgap, hfirst⟩
      exact ⟨x :: gap, rest, rfl, List.forall_mem_cons.mpr ⟨hx, hgap⟩, hfirst⟩
    | @run run rest _ hne hrun hend hrest _ =>
      cases hwhole
      exact ⟨[], rest, rfl, nofun, hne, hrun, hend, hrest⟩
  · rintro ⟨gap, rest, rfl, hgap, hne, hfirst, hend, hrest⟩
    exact Laid.gap hgap (.run hne hfirst hend hrest)

/-- The runs hold all that is no separator. -/
theorem flatten_runs (p : α → Bool) (xs : List α) :
    (runs p xs).flatten = xs.filter fun x => !p x := by
  have hlaid := laid_runs p xs
  generalize runs p xs = found at hlaid ⊢
  induction hlaid with
  | nil => rfl
  | separator hx _ ih =>
    rw [ih, List.filter_cons_of_neg]
    rw [hx]
    decide
  | run _ hrun _ _ ih =>
    have hall : ∀ x ∈ _, (!p x) = true := fun x hx => by rw [hrun x hx]; rfl
    rw [List.flatten_cons, ih, List.filter_append, List.filter_eq_self.mpr hall]

/-- There is at most one run more than there are separators. -/
theorem length_runs_le (p : α → Bool) (xs : List α) :
    (runs p xs).length ≤ xs.countP p + 1 := by
  have hcut : (xs.splitOnP p).length = xs.countP p + 1 := by
    induction xs with
    | nil => rfl
    | cons x rest ih =>
      rw [List.splitOnP_cons_eq_if_modifyHead, List.countP_cons]
      by_cases hx : p x = true
      · rw [if_pos hx, if_pos hx, List.length_cons, ih]
      · rw [if_neg hx, if_neg hx, List.length_modifyHead, ih]
  rw [← hcut]
  exact List.length_filter_le _ _

/-- Elements may be read in another way before the list is cut or after it. -/
theorem Laid.map {β : Type} {f : β → α} {xs : List β} {found : List (List β)}
    (h : Laid (fun x => p (f x)) xs found) : Laid p (xs.map f) (found.map (·.map f)) := by
  induction h with
  | nil => exact .nil
  | separator hx _ ih => exact .separator hx ih
  | @run run rest found hne hrun hend _ ih =>
    rw [List.map_append]
    refine .run (mt List.map_eq_nil_iff.mp hne) ?_ ?_ ih
    · intro y hy
      rcases List.mem_map.mp hy with ⟨x, hx, rfl⟩
      exact hrun x hx
    · intro y hy
      rw [List.head?_map] at hy
      rcases Option.map_eq_some_iff.mp hy with ⟨x, hx, rfl⟩
      exact hend x hx

theorem runs_map {β : Type} (f : β → α) (xs : List β) :
    runs p (xs.map f) = (runs (fun x => p (f x)) xs).map (·.map f) :=
  (laid_runs (fun x => p (f x)) xs).map.eq_runs.symm

/-- Only what is a separator in the list matters. -/
theorem Laid.congr {q : α → Bool} {xs : List α} {found : List (List α)} (h : Laid p xs found)
    (hsame : ∀ x ∈ xs, p x = q x) : Laid q xs found := by
  induction h with
  | nil => exact .nil
  | separator hx _ ih =>
    rcases List.forall_mem_cons.mp hsame with ⟨hfirst, hrest⟩
    exact .separator (hfirst ▸ hx) (ih hrest)
  | @run run rest found hne hrun hend _ ih =>
    rcases List.forall_mem_append.mp hsame with ⟨hfirst, hrest⟩
    refine .run hne ?_ ?_ (ih hrest)
    · intro x hx
      rw [← hfirst x hx, hrun x hx]
    · intro x hx
      rw [← hrest x (List.mem_of_mem_head? hx), hend x hx]

theorem runs_congr {q : α → Bool} {xs : List α} (hsame : ∀ x ∈ xs, p x = q x) :
    runs p xs = runs q xs :=
  ((laid_runs p xs).congr hsame).eq_runs

/-- Separators of two kinds cut no other runs than those of the second kind do within the runs
between those of the first. -/
theorem runs_or (p q : α → Bool) (xs : List α) :
    runs (fun x => p x || q x) xs = (runs p xs).flatMap (runs q) := by
  have hlaid := laid_runs p xs
  generalize runs p xs = found at hlaid ⊢
  induction hlaid with
  | nil => rw [runs_nil, List.flatMap_nil]
  | @separator x rest _ hx _ ih =>
    have hboth : (p x || q x) = true := Bool.or_eq_true_iff.mpr (.inl hx)
    rw [runs_cons rest hboth, ih]
  | @run run rest found _ hrun hend _ ih =>
    have hsame : runs (fun x => p x || q x) run = runs q run := by
      apply runs_congr
      intro x hx
      rw [hrun x hx, Bool.false_or]
    rw [List.flatMap_cons, ← ih, ← hsame]
    cases rest with
    | nil => rw [runs_nil, List.append_nil, List.append_nil]
    | cons x rest =>
      have hboth : (p x || q x) = true := Bool.or_eq_true_iff.mpr (.inl (hend x rfl))
      rw [runs_append_cons run rest hboth, runs_cons rest hboth]

end

end HomeEnergy
