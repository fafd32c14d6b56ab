import Mathlib.Data.List.Basic

/-!
# Finite maps

A finite map as the list of its entries in the order of their keys, so that two maps with the same
entries are equal.
-/

namespace Control

/-- A finite map from `K` to `α`. -/
structure Table (K α : Type) [LT K] where
  entries : List (K × α)
  sorted : entries.Pairwise fun a b => a.1 < b.1

namespace Table

variable {K α β : Type} [LT K] [DecidableEq K]

instance [DecidableEq α] : DecidableEq (Table K α) := fun s t =>
  decidable_of_iff (s.entries = t.entries) ⟨fun h => by cases s; cases t; cases h; rfl, congrArg _⟩

/-- A map without entries. -/
def empty : Table K α := ⟨[], .nil⟩

/-- The value of a key. -/
def get (t : Table K α) (k : K) : Option α := (t.entries.find? fun e => e.1 = k).map Prod.snd

/-- Change every value. -/
def map (f : α → β) (t : Table K α) : Table K β :=
  ⟨t.entries.map fun e => (e.1, f e.2), t.sorted.map _ fun _ _ h => h⟩

@[simp] theorem get_map (f : α → β) (t : Table K α) (k : K) :
    (t.map f).get k = (t.get k).map f := by
  simp only [get, map, List.find?_map, Option.map_map]
  rfl

omit [DecidableEq K] in
theorem map_map {γ : Type} (g : β → γ) (f : α → β) (t : Table K α) :
    (t.map f).map g = t.map fun a => g (f a) := by
  simp [map]

omit [DecidableEq K] in
theorem map_congr {f g : α → β} {t : Table K α} (h : ∀ e ∈ t.entries, f e.2 = g e.2) :
    t.map f = t.map g := by
  simp only [map, mk.injEq]
  exact List.map_congr_left fun e he => by rw [h e he]

omit [DecidableEq K] in
theorem isEmpty_map (f : α → β) (t : Table K α) :
    (t.map f).entries.isEmpty = t.entries.isEmpty := by
  simp [map]

end Table

end Control
