import Mathlib.Data.Option.Basic

/-!
# Machines and their runs

A `Machine` has a partial step function on states and labels; every choice of its environment is
part of the label.  A run is a list of labels, so runs can be executed.

`Machine.run_invariant` is the induction over runs.  The steps may be restricted by a condition on
the state before the step and its label (`Machine.Along`).
-/

namespace Control

/-- A machine with states `S` and step labels `L`. -/
structure Machine (S L : Type*) where
  /-- The state after a step; `none` when the step is not enabled. -/
  next : S → L → Option S

namespace Machine

variable {S L : Type*} (M : Machine S L)

/-- The state after a run. -/
def run : S → List L → Option S
  | s, [] => some s
  | s, l :: ls => (M.next s l).bind fun s' => run s' ls

/-- Every step of the run from `s` meets the condition `G` on the state before and the label. -/
def Along (G : S → L → Prop) : S → List L → Prop
  | _, [] => True
  | s, l :: ls => G s l ∧ ∀ s', M.next s l = some s' → Along G s' ls

/-- Whether a run meets a condition can be found out by following it. -/
instance Along.decidable (G : S → L → Prop) [∀ s l, Decidable (G s l)] :
    ∀ (s : S) (ls : List L), Decidable (M.Along G s ls)
  | _, [] => isTrue trivial
  | s, l :: ls =>
    match h : M.next s l with
    | none => decidable_of_iff (G s l) ⟨fun hG => ⟨hG, fun t ht => by simp [h] at ht⟩, And.left⟩
    | some t =>
      have := Along.decidable G t ls
      decidable_of_iff (G s l ∧ M.Along G t ls)
        ⟨fun hG => ⟨hG.1, fun t' ht => Option.some.inj (h.symm.trans ht) ▸ hG.2⟩,
          fun hG => ⟨hG.1, hG.2 t h⟩⟩

/-- Whether a run ends in a state with a property can be found out by running it. -/
instance decidableRun (s : S) (ls : List L) (P : S → Prop) [DecidablePred P] :
    Decidable (∃ s', M.run s ls = some s' ∧ P s') :=
  decidable_of_iff ((M.run s ls).any (fun s' => decide (P s')) = true)
    (by simp [Option.any_eq_true])

variable {M}

theorem guarded_eq_some {p : Prop} [Decidable p] {s s' : S} :
    (if p then some s else none) = some s' ↔ p ∧ s = s' := by
  rw [Option.ite_none_right_eq_some, Option.some.injEq]

theorem run_cons_eq_some {s s' : S} {l : L} {ls : List L} :
    M.run s (l :: ls) = some s' ↔ ∃ t, M.next s l = some t ∧ M.run t ls = some s' := by
  simp [run, Option.bind_eq_some_iff]

/-- The state after a run that gets through. -/
theorem run_get {s : S} {ls : List L} (h : (M.run s ls).isSome) :
    M.run s ls = some ((M.run s ls).get h) :=
  (Option.some_get h).symm

/-- **The induction over runs**, for steps that meet `G`. -/
theorem run_invariant {I : S → Prop} {G : S → L → Prop}
    (hstep : ∀ s l s', I s → G s l → M.next s l = some s' → I s') {s s' : S} {ls : List L}
    (h : I s) (hG : M.Along G s ls) (hr : M.run s ls = some s') : I s' := by
  induction ls generalizing s with
  | nil => exact Option.some.inj hr ▸ h
  | cons l ls ih =>
    obtain ⟨t, ht, hr⟩ := run_cons_eq_some.1 hr
    exact ih (hstep s l t h hG.1 ht) (hG.2 t ht) hr

theorem along_congr {I : S → Prop} {G H : S → L → Prop}
    (hstep : ∀ s l s', I s → M.next s l = some s' → I s') (hGH : ∀ s l, I s → (G s l ↔ H s l))
    {s : S} (h : I s) (ls : List L) : M.Along G s ls ↔ M.Along H s ls := by
  induction ls generalizing s with
  | nil => exact Iff.rfl
  | cons l ls ih =>
    refine and_congr (hGH s l h) (forall_congr' fun t => ?_)
    exact forall_congr' fun ht => ih (hstep s l t h ht)

/-- A condition that follows from another one in the states that a run goes through. -/
theorem along_of_invariant {I : S → Prop} {G H : S → L → Prop}
    (hstep : ∀ s l s', I s → G s l → M.next s l = some s' → I s')
    (hGH : ∀ s l, I s → G s l → H s l) {s : S} {ls : List L} (h : I s) (hG : M.Along G s ls) :
    M.Along H s ls := by
  induction ls generalizing s with
  | nil => trivial
  | cons l ls ih => exact ⟨hGH s l h hG.1, fun t ht => ih (hstep s l t h hG.1 ht) (hG.2 t ht)⟩

/-- **Two runs at once**: what every step respects is respected by whole runs. -/
theorem run_map {G : S → L → Prop} {f : S → S} {g : L → L}
    (hstep : ∀ s l, G s l → M.next (f s) (g l) = (M.next s l).map f) {s : S} {ls : List L}
    (hG : M.Along G s ls) : M.run (f s) (ls.map g) = (M.run s ls).map f := by
  induction ls generalizing s with
  | nil => rfl
  | cons l ls ih =>
    simp only [List.map_cons, run, hstep s l hG.1]
    cases hnext : M.next s l with
    | none => rfl
    | some t => exact ih (hG.2 t hnext)

theorem Along.and {G H : S → L → Prop} {s : S} {ls : List L} (hG : M.Along G s ls)
    (hH : M.Along H s ls) : M.Along (fun s l => G s l ∧ H s l) s ls := by
  induction ls generalizing s with
  | nil => trivial
  | cons l ls ih => exact ⟨⟨hG.1, hH.1⟩, fun t ht => ih (hG.2 t ht) (hH.2 t ht)⟩

theorem along_true (s : S) (ls : List L) : M.Along (fun _ _ => True) s ls := by
  induction ls generalizing s with
  | nil => trivial
  | cons l ls ih => exact ⟨trivial, fun t _ => ih t⟩

end Machine

end Control
