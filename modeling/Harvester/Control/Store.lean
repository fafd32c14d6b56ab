import Mathlib.Data.List.Nodup

/-!
# Object stores

A `Store key` is a finite collection of objects that carry their own key, with at most one object
under each key.

A `Lookup` is what a reader sees of it through a cache: a reading can fail, miss an object or show
an old one, but an object that is shown has the key it was asked for.
-/

namespace Control

/-- A finite set of objects with distinct keys. -/
structure Store {K V : Type*} (key : V → K) where
  objs : List V
  nodup : (objs.map key).Nodup

namespace Store

variable {K V : Type*} {key : V → K}

@[ext] theorem ext {s t : Store key} (h : s.objs = t.objs) : s = t := by
  cases s
  cases h
  rfl

instance [DecidableEq V] : DecidableEq (Store key) :=
  fun _ _ => decidable_of_iff _ Store.ext_iff.symm

/-- No object at all. -/
def empty : Store key := ⟨[], List.nodup_nil⟩

/-- The objects that meet a condition. -/
def filter (s : Store key) (p : V → Bool) : Store key where
  objs := s.objs.filter p
  nodup := s.nodup.sublist (List.filter_sublist.map key)

variable [DecidableEq K] {s : Store key} {k : K} {u v : V}

/-- The object stored under `k`. -/
def get (s : Store key) (k : K) : Option V := s.objs.find? fun v => key v = k

/-- Remove the object under `k`. -/
def delete (s : Store key) (k : K) : Store key where
  objs := s.objs.filter fun v => key v ≠ k
  nodup := s.nodup.sublist (List.filter_sublist.map key)

/-- Store an object under its key, in place of the one that was there. -/
def put (s : Store key) (v : V) : Store key where
  objs := v :: (s.delete (key v)).objs
  nodup := by
    rw [List.map_cons, List.nodup_cons]
    refine ⟨fun h => ?_, (s.delete (key v)).nodup⟩
    obtain ⟨u, hu, huv⟩ := List.mem_map.1 h
    simpa [huv] using (List.mem_filter.1 hu).2

@[simp] theorem get_empty (k : K) : (empty : Store key).get k = none := rfl

theorem key_of_get (h : s.get k = some v) : key v = k := by
  simpa using List.find?_some h

theorem mem_of_get (h : s.get k = some v) : v ∈ s.objs :=
  List.mem_of_find?_eq_some h

@[simp] theorem get_delete_self (s : Store key) (k : K) : (s.delete k).get k = none := by
  simp [get, delete]

@[simp] theorem get_put_self (s : Store key) (v : V) : (s.put v).get (key v) = some v := by
  simp [get, put]

theorem mem_put : u ∈ (s.put v).objs ↔ u = v ∨ u ∈ s.objs ∧ key u ≠ key v := by
  simp [put, delete]

theorem mem_put_self : v ∈ (s.put v).objs := List.mem_cons_self

/-- What holds of an object and of the others holds of all objects once it is stored. -/
theorem forall_mem_put {P : V → Prop} (hv : P v)
    (h : ∀ u ∈ s.objs, key u ≠ key v → P u) : ∀ u ∈ (s.put v).objs, P u := by
  intro u hu
  rcases mem_put.1 hu with rfl | ⟨hu, hne⟩
  · exact hv
  · exact h u hu hne

theorem get_delete_of_ne (s : Store key) {k k' : K} (h : k' ≠ k) :
    (s.delete k).get k' = s.get k' := by
  simp only [get, delete, List.find?_filter]
  congr 1
  funext v
  by_cases hv : key v = k' <;> simp [hv, h]

theorem get_put_of_ne (s : Store key) (h : k ≠ key v) : (s.put v).get k = s.get k := by
  have hv : (decide (key v = k)) = false := by simpa using fun e => h e.symm
  rw [← get_delete_of_ne s h]
  simp [get, put, hv]

theorem get_of_mem (h : v ∈ s.objs) : s.get (key v) = some v := by
  obtain ⟨objs, hnd⟩ := s
  simp only [get] at h ⊢
  induction objs with
  | nil => simp at h
  | cons u objs ih =>
    rw [List.map_cons, List.nodup_cons] at hnd
    by_cases huv : key u = key v
    · rcases List.mem_cons.1 h with rfl | h
      · simp
      · exact absurd (huv ▸ List.mem_map_of_mem h) hnd.1
    · rcases List.mem_cons.1 h with rfl | h
      · exact absurd rfl huv
      · simpa [huv] using ih hnd.2 h

theorem eq_of_key (hu : u ∈ s.objs) (hv : v ∈ s.objs) (h : key u = key v) : u = v :=
  Option.some.inj ((get_of_mem hu).symm.trans (h ▸ get_of_mem hv))

theorem not_mem_of_get_eq_none (h : s.get k = none) (hv : v ∈ s.objs) : key v ≠ k := by
  rintro rfl
  rw [get_of_mem hv] at h
  exact absurd h (by simp)

theorem mem_delete : v ∈ (s.delete k).objs ↔ v ∈ s.objs ∧ key v ≠ k := by
  simp [delete]

theorem perm_of_mem (h : v ∈ s.objs) : s.objs.Perm (v :: (s.delete (key v)).objs) := by
  have hnodup : (s.put v).objs.Nodup := (s.put v).nodup.of_map key
  refine (List.perm_ext_iff_of_nodup (s.nodup.of_map key) hnodup).2 fun u => ?_
  rw [mem_put]
  constructor
  · intro hu
    by_cases heq : key u = key v
    · exact .inl (eq_of_key hu h heq)
    · exact .inr ⟨hu, heq⟩
  · rintro (rfl | ⟨hu, -⟩)
    · exact h
    · exact hu

theorem countP_delete_le (s : Store key) (k : K) (p : V → Bool) :
    (s.delete k).objs.countP p ≤ s.objs.countP p :=
  List.filter_sublist.countP_le

theorem countP_put_le_succ (s : Store key) (v : V) (p : V → Bool) :
    (s.put v).objs.countP p ≤ s.objs.countP p + 1 := by
  have hdelete := countP_delete_le s (key v) p
  rw [put, List.countP_cons]
  split <;> omega

theorem countP_put_le {p : V → Bool} (h : p v = true → ∃ u ∈ s.objs, key v = key u ∧ p u = true) :
    (s.put v).objs.countP p ≤ s.objs.countP p := by
  by_cases hv : p v = true
  · obtain ⟨u, hu, hkey, hpu⟩ := h hv
    refine Nat.le_of_eq ?_
    rw [(perm_of_mem hu).countP_eq, put, List.countP_cons_of_pos hv, List.countP_cons_of_pos hpu,
      hkey]
  · rw [put, List.countP_cons_of_neg hv]
    exact countP_delete_le s (key v) p

end Store

/-- Readings by key, each of which shows an object with that key or fails. -/
structure Lookup (ε : Type*) {K V : Type*} (key : V → K) where
  find : K → Except ε V
  key_of_find : ∀ {k v}, find k = .ok v → key v = k

/-- The readings that show the store as it is. -/
def Store.lookup {ε K V : Type*} {key : V → K} [DecidableEq K] (notFound : K → ε)
    (s : Store key) : Lookup ε key where
  find k := (s.get k).elim (.error (notFound k)) .ok
  key_of_find {k v} h := by
    cases hget : s.get k with
    | none => simp [hget] at h
    | some u =>
      simp only [hget, Option.elim_some, Except.ok.injEq] at h
      exact h ▸ Store.key_of_get hget

end Control
