import Harvester.Control.Store

/-!
# Informers

A controller has a cache, which the changes of the objects reach one after the other, and a work
queue with the keys of changed objects.  That the changes on their way lead from the cache to the
current objects is a field of `Informer`.

`Informer.Handled k`: nothing about the object `k` is on its way or queued; then the cache shows the
object as it is (`Informer.Handled.get_cache`).
-/

namespace Control

variable {K V : Type*}

/-- A change of a store. -/
inductive Change (key : V → K) where
  | put (v : V)
  | delete (k : K)

namespace Change

variable {key : V → K}

/-- The key of the object that is changed. -/
def target : Change key → K
  | put v => key v
  | delete k => k

variable [DecidableEq K]

/-- The store after a change. -/
def apply (s : Store key) : Change key → Store key
  | put v => s.put v
  | delete k => s.delete k

theorem get_apply_of_ne {s : Store key} {c : Change key} {k : K} (h : k ≠ c.target) :
    (c.apply s).get k = s.get k := by
  cases c with
  | put v => exact s.get_put_of_ne h
  | delete k' => exact s.get_delete_of_ne h

theorem get_apply {s : Store key} {c : Change key} {k : K} {v : V}
    (h : (c.apply s).get k = some v) : s.get k = some v ∨ c = .put v := by
  by_cases hk : k = c.target
  · subst hk
    cases c with
    | put u =>
      rw [apply, target, s.get_put_self] at h
      exact .inr (congrArg _ (Option.some.inj h))
    | delete k =>
      rw [apply, target, s.get_delete_self] at h
      cases h
  · exact .inl (get_apply_of_ne hk ▸ h)

end Change

/-- The objects of one kind and the controller that watches them. -/
structure Informer [DecidableEq K] (key : V → K) where
  /-- The objects of the API server. -/
  live : Store key
  /-- The changes on their way, the oldest first. -/
  changes : List (Change key)
  cache : Store key
  queue : List K
  replay : changes.foldl Change.apply cache = live

namespace Informer

variable [DecidableEq K] {key : V → K}

/-- The cache shows these objects. -/
def init (s : Store key) : Informer key := ⟨s, [], s, [], rfl⟩

variable (i : Informer key)

/-- An object is changed. -/
def change (c : Change key) : Informer key where
  live := c.apply i.live
  changes := i.changes ++ [c]
  cache := i.cache
  queue := i.queue
  replay := by rw [List.foldl_append, i.replay, List.foldl_cons, List.foldl_nil]

/-- The next change reaches the cache, and the key is queued. -/
def deliver : Option (Informer key) :=
  match hchanges : i.changes with
  | [] => none
  | c :: changes => some ⟨i.live, changes, c.apply i.cache, c.target :: i.queue, by
      have hreplay := i.replay
      rwa [hchanges] at hreplay⟩

/-- The controller is to look at an object again. -/
def enqueue (k : K) : Informer key := { i with queue := k :: i.queue }

/-- The controller takes a key from the queue. -/
def take (k : K) : Informer key := { i with queue := i.queue.filter (· ≠ k) }

/-- A version of an object that the cache shows, now or later. -/
def Shows (v : V) : Prop := i.cache.get (key v) = some v ∨ .put v ∈ i.changes

/-- Nothing is on its way or queued. -/
def Handled (k : K) : Prop := k ∉ i.queue ∧ ∀ c ∈ i.changes, c.target ≠ k
  deriving Decidable

variable {i} {i' : Informer key} {k : K} {v : V} {c : Change key}

theorem deliver_eq_some (h : i.deliver = some i') : ∃ c changes, i.changes = c :: changes ∧
    i'.live = i.live ∧ i'.changes = changes ∧ i'.cache = c.apply i.cache ∧
      i'.queue = c.target :: i.queue := by
  unfold deliver at h
  split at h
  · cases h
  · next c changes hchanges =>
    cases h
    exact ⟨c, changes, hchanges, rfl, rfl, rfl, rfl⟩

theorem live_deliver (h : i.deliver = some i') : i'.live = i.live := by
  obtain ⟨_, _, _, hlive, _⟩ := deliver_eq_some h
  exact hlive

/-- **A cache with nothing on its way shows what is there.** -/
theorem get_cache (h : ∀ c ∈ i.changes, c.target ≠ k) : i.cache.get k = i.live.get k := by
  have hfold : ∀ (changes : List (Change key)) (s : Store key), (∀ c ∈ changes, c.target ≠ k) →
      (changes.foldl Change.apply s).get k = s.get k := by
    intro changes
    induction changes with
    | nil => exact fun _ _ => rfl
    | cons c changes ih =>
      intro s hne
      rw [List.foldl_cons, ih _ fun c' hc' => hne c' (List.mem_cons_of_mem c hc')]
      exact Change.get_apply_of_ne (Ne.symm (hne c (List.mem_cons_self ..)))
  rw [← i.replay, hfold _ _ h]

theorem Handled.get_cache (h : i.Handled k) : i.cache.get k = i.live.get k :=
  Informer.get_cache h.2

theorem shows_change (h : (i.change c).Shows v) : i.Shows v ∨ c = .put v := by
  rcases h with hcache | hchange
  · exact .inl (.inl hcache)
  · rcases List.mem_append.1 hchange with hold | hnew
    · exact .inl (.inr hold)
    · exact .inr (List.mem_singleton.1 hnew).symm

theorem shows_deliver (h : i.deliver = some i') (hv : i'.Shows v) : i.Shows v := by
  obtain ⟨c, changes, hchanges, -, hrest, hcache, -⟩ := deliver_eq_some h
  rcases hv with hget | hmem
  · rw [hcache] at hget
    rcases Change.get_apply hget with hold | rfl
    · exact .inl hold
    · exact .inr (hchanges ▸ List.mem_cons_self ..)
  · rw [hrest] at hmem
    exact .inr (hchanges ▸ List.mem_cons_of_mem c hmem)

theorem not_handled_change : ¬ (i.change c).Handled c.target :=
  fun h => h.2 c (List.mem_append_right _ (List.mem_singleton_self c)) rfl

theorem handled_of_change (h : (i.change c).Handled k) : i.Handled k :=
  ⟨h.1, fun c' hc' => h.2 c' (List.mem_append_left _ hc')⟩

theorem handled_of_deliver (h : i.deliver = some i') (hk : i'.Handled k) : i.Handled k := by
  obtain ⟨c, changes, hchanges, -, hrest, -, hqueue⟩ := deliver_eq_some h
  obtain ⟨hnot, hne⟩ := hk
  rw [hqueue, List.mem_cons, not_or] at hnot
  rw [hrest] at hne
  refine ⟨hnot.2, fun c' hc' => ?_⟩
  rw [hchanges] at hc'
  rcases List.mem_cons.1 hc' with rfl | hc'
  · exact Ne.symm hnot.1
  · exact hne c' hc'

theorem handled_of_enqueue {k' : K} (h : (i.enqueue k').Handled k) : i.Handled k :=
  ⟨fun hk => h.1 (List.mem_cons_of_mem k' hk), h.2⟩

theorem not_handled_enqueue : ¬ (i.enqueue k).Handled k :=
  fun h => h.1 (List.mem_cons_self ..)

theorem handled_of_take {k' : K} (hne : k ≠ k') (h : (i.take k').Handled k) : i.Handled k :=
  ⟨fun hk => h.1 (List.mem_filter.2 ⟨hk, by simpa using hne⟩), h.2⟩

end Informer

end Control
