import Mathlib.Data.List.Infix
import Mathlib.Data.List.Nodup
import Mathlib.Data.List.Perm.Basic

/-!
# The images that are purged

At the end of an upgrade the controller purges the images of the previous version that the current
one does not need (`getImagesDiffList` of `upgrade_repo.go`).  The images that match a retain
pattern are taken off the list by a loop that leaves each pattern after its first match.

`purge_list_exact`: this is right if a pattern that is the last one to match an image matches it
first.
-/

namespace Harvester

namespace Upgrades

section

variable {α : Type} {a x : α} {l : List α} {p : α → Bool}

/-- `removeItemFromSlice`: the last element takes the place of the one that is removed. -/
def removeItemFromSlice (slice : List α) (i : Nat) : List α :=
  match slice.getLast? with
  | none => []
  | some last => (slice.set i last).dropLast

theorem perm_cons_set (a : α) {i : Nat} (h : i < l.length) : (l[i] :: l.set i a).Perm (a :: l) :=
  calc (l[i] :: l.set i a).Perm (l[i] :: a :: l.eraseIdx i) :=
        (List.set_perm_cons_eraseIdx h a).cons _
    _ |>.Perm (a :: l[i] :: l.eraseIdx i) := List.Perm.swap ..
    _ |>.Perm (a :: l) := (List.getElem_cons_eraseIdx_perm h).cons a

theorem perm_removeItemFromSlice {i : Nat} (h : i < l.length) :
    (l[i] :: removeItemFromSlice l i).Perm l := by
  have hne : l ≠ [] := List.ne_nil_of_length_pos (by omega)
  obtain ⟨init, last, rfl⟩ : ∃ init last, l = init ++ [last] :=
    ⟨_, _, (List.dropLast_append_getLast hne).symm⟩
  have hlast : removeItemFromSlice (init ++ [last]) i = ((init ++ [last]).set i last).dropLast := by
    simp [removeItemFromSlice]
  rw [hlast]
  by_cases hi : i < init.length
  · rw [List.getElem_append_left hi, List.set_append_left _ _ hi, List.dropLast_concat]
    exact (perm_cons_set last hi).trans (List.perm_append_singleton last init).symm
  have heq : i = init.length := by
    rw [List.length_append, List.length_singleton] at h
    omega
  subst heq
  simpa using (List.perm_append_singleton last init).symm

/-- One round of the loop: the first match is removed. -/
def removeFirst (p : α → Bool) (l : List α) : List α :=
  match l.findIdx? p with
  | none => l
  | some i => removeItemFromSlice l i

theorem removeFirst_of_none (h : l.find? p = none) : removeFirst p l = l := by
  have hidx : l.findIdx? p = none := by
    simpa using h
  simp only [removeFirst, hidx]

theorem perm_removeFirst (h : l.find? p = some a) : (a :: removeFirst p l).Perm l := by
  rcases hidx : l.findIdx? p with _ | i
  · have hnone : l.find? p = none := by simpa using hidx
    simp [hnone] at h
  · obtain ⟨hi, hp, hbefore⟩ := List.findIdx?_eq_some_iff_getElem.1 hidx
    have hfirst : l.find? p = some l[i] := by
      rw [List.find?_eq_some_iff_getElem]
      refine ⟨hp, i, hi, rfl, fun j hj => ?_⟩
      simpa using hbefore j hj
    have ha : a = l[i] := Option.some.inj (h.symm.trans hfirst)
    simp only [removeFirst, hidx, ha]
    exact perm_removeItemFromSlice hi

theorem nodup_removeFirst (hl : l.Nodup) : (removeFirst p l).Nodup := by
  rcases h : l.find? p with _ | a
  · rw [removeFirst_of_none h]
    exact hl
  · exact (List.nodup_cons.1 ((perm_removeFirst h).nodup_iff.2 hl)).2

theorem mem_removeFirst (hl : l.Nodup) :
    x ∈ removeFirst p l ↔ x ∈ l ∧ l.find? p ≠ some x := by
  rcases h : l.find? p with _ | a
  · simp [removeFirst_of_none h]
  have hperm := perm_removeFirst h
  have hnotMem := (List.nodup_cons.1 (hperm.nodup_iff.2 hl)).1
  rw [← hperm.mem_iff, List.mem_cons]
  constructor
  · intro hx
    refine ⟨.inr hx, fun heq => hnotMem ?_⟩
    exact Option.some.inj heq ▸ hx
  · rintro ⟨rfl | hx, hne⟩
    · exact absurd rfl hne
    · exact hx

end

section

variable {α β : Type} (contains : α → β → Bool)

/-- `applyImageRetainList`: each pattern takes its first match off the list. -/
def applyImageRetainList (patterns : List β) (images : List α) : List α :=
  patterns.foldl (fun images pattern => removeFirst (contains · pattern) images) images

/-- Each image that a pattern is the last one to match is the first one that it matches. -/
def LastIsFirst : List β → List α → Prop
  | [], _ => True
  | pattern :: patterns, images =>
    (∀ image ∈ images, contains image pattern = true →
      (∀ later ∈ patterns, contains image later = false) →
      images.find? (contains · pattern) = some image) ∧
    LastIsFirst patterns (removeFirst (contains · pattern) images)

variable {contains} {patterns : List β} {images : List α} {image : α}

theorem mem_of_mem_applyImageRetainList (h : images.Nodup)
    (hmem : image ∈ applyImageRetainList contains patterns images) : image ∈ images := by
  induction patterns generalizing images with
  | nil => exact hmem
  | cons pattern patterns ih => exact ((mem_removeFirst h).1 (ih (nodup_removeFirst h) hmem)).1

theorem mem_applyImageRetainList_of_unmatched (h : images.Nodup) (hmem : image ∈ images)
    (hnone : ∀ pattern ∈ patterns, contains image pattern = false) :
    image ∈ applyImageRetainList contains patterns images := by
  induction patterns generalizing images with
  | nil => exact hmem
  | cons pattern patterns ih =>
    rw [List.forall_mem_cons] at hnone
    refine ih (nodup_removeFirst h) ((mem_removeFirst h).2 ⟨hmem, fun hfirst => ?_⟩) hnone.2
    have hmatch := List.find?_some hfirst
    simp [hnone.1] at hmatch

/-- **Which images the loop leaves**: none that matches exactly if every pattern gets the images for
which it is the last chance. -/
theorem unmatched_iff_lastIsFirst (h : images.Nodup) :
    (∀ image ∈ applyImageRetainList contains patterns images,
        ∀ pattern ∈ patterns, contains image pattern = false) ↔
      LastIsFirst contains patterns images := by
  induction patterns generalizing images with
  | nil => simp [LastIsFirst]
  | cons pattern patterns ih =>
    have hnodup : (removeFirst (contains · pattern) images).Nodup := nodup_removeFirst h
    have hrest := ih hnodup
    constructor
    · intro hall
      refine ⟨fun image hmem hmatch hlater => ?_, hrest.1 fun image hmem later hmem' => ?_⟩
      · by_contra hnot
        -- The image would stay, and no later pattern removes it.
        have hleft := mem_applyImageRetainList_of_unmatched hnodup
          ((mem_removeFirst h).2 ⟨hmem, hnot⟩) hlater
        have hfalse := hall image hleft pattern (List.mem_cons_self ..)
        simp [hmatch] at hfalse
      · exact hall image hmem later (List.mem_cons_of_mem _ hmem')
    · rintro ⟨hfirst, hlast⟩ image hmem
      have hlater := hrest.2 hlast image hmem
      refine List.forall_mem_cons.2 ⟨?_, hlater⟩
      by_contra hmatch
      have hin := (mem_removeFirst h).1 (mem_of_mem_applyImageRetainList hnodup hmem)
      exact hin.2 (hfirst image hin.1 (by simpa using hmatch) hlater)

end

/-- The retain patterns. -/
def imageRetainList : List String :=
  ["/harvester-upgrade:", "longhornio/longhorn-engine", "longhornio/longhorn-instance-manager",
    "rancher/mirrored-banzaicloud-fluentd", "rancher/mirrored-fluent-fluent-bit"]

/-- `strings.Contains`. -/
def stringsContains (s substr : String) : Bool := substr.toList <:+: s.toList

/-- The order in which the keys of a map are visited; `entries` are the keys that were set. -/
structure Iteration (entries : List String) where
  keys : List String
  nodup : keys.Nodup
  mem_iff : ∀ key, key ∈ keys ↔ key ∈ entries

/-- The images that are not needed. -/
def difference (keys setB : List String) : List String := keys.filter fun key => key ∉ setB

/-- `getImagesDiffList`, for the image lists of the two versions. -/
def getImagesDiffList (patterns : List String) {previous : List String}
    (order : Iteration previous) (current : List String) : List String :=
  applyImageRetainList stringsContains patterns (difference order.keys current)

/-- The images that are meant to be purged. -/
structure Unneeded (patterns previous current : List String) (image : String) : Prop where
  previous : image ∈ previous
  current : image ∉ current
  retained : ∀ pattern ∈ patterns, stringsContains image pattern = false

/-- **The purge list** has exactly the images that are not needed if and only if every retain
pattern gets the images for which it is the last chance. -/
theorem purge_list_exact (patterns : List String) {previous : List String}
    (order : Iteration previous) (current : List String) :
    (∀ image, image ∈ getImagesDiffList patterns order current ↔
        Unneeded patterns previous current image) ↔
      LastIsFirst stringsContains patterns (difference order.keys current) := by
  have hnodup : (difference order.keys current).Nodup := order.nodup.filter _
  have hdiff : ∀ image, image ∈ difference order.keys current ↔
      image ∈ previous ∧ image ∉ current := by
    simp [difference, order.mem_iff]
  rw [← unmatched_iff_lastIsFirst hnodup]
  constructor
  · exact fun h image hmem => ((h image).1 hmem).retained
  intro h image
  constructor
  · intro hmem
    have hin := (hdiff image).1 (mem_of_mem_applyImageRetainList hnodup hmem)
    exact ⟨hin.1, hin.2, h image hmem⟩
  · intro hu
    exact mem_applyImageRetainList_of_unmatched hnodup ((hdiff image).2 ⟨hu.previous, hu.current⟩)
      hu.retained

/-- **A needed image is purged**: two images match the same pattern. -/
theorem second_match_purged :
    let previous := ["longhornio/longhorn-engine:v1.7.2", "longhornio/longhorn-engine:v1.8.1"]
    ∃ order : Iteration previous, ∃ image ∈ getImagesDiffList imageRetainList order [],
      ¬ Unneeded imageRetainList previous [] image := by
  refine ⟨⟨_, by decide, fun _ => Iff.rfl⟩, "longhornio/longhorn-engine:v1.8.1", ?_, fun h => ?_⟩
  · decide +kernel
  have hmatch : stringsContains "longhornio/longhorn-engine:v1.8.1" "longhornio/longhorn-engine" =
      true := by decide +kernel
  have hfalse := h.retained "longhornio/longhorn-engine" (by decide)
  exact absurd (hmatch.symm.trans hfalse) (by decide)

end Upgrades

end Harvester
