import Mathlib.Tactic.TypeStar

/-!
# Histories and delayed readers

The versions that a shared variable has had, numbered from `0` to `now`.  A reader with a delayed
cache sees an older version `h.get i`, `i ≤ h.now`.  `h.Since a P` says that `P` has held from
version `a` on.

`History.flag_principle` is the argument behind every protocol in which a party raises a flag and
then looks at the flags of the others: of two parties that have kept their flags up since they saw
the other flag down, at most one can exist, however old the versions were that they saw.
-/

namespace Control

/-- The versions of a variable. -/
structure History (α : Type*) where
  /-- The number of the current version. -/
  now : Nat
  get : Nat → α

namespace History

variable {α : Type*} {h : History α} {P : α → Prop} {a b : Nat} {x : α}

/-- The current version. -/
def live (h : History α) : α := h.get h.now

/-- A variable that has not changed yet. -/
def init (x : α) : History α := ⟨0, fun _ => x⟩

/-- A new version. -/
def push (h : History α) (x : α) : History α :=
  ⟨h.now + 1, fun k => if k = h.now + 1 then x else h.get k⟩

@[simp] theorem now_push (h : History α) (x : α) : (h.push x).now = h.now + 1 := rfl

@[simp] theorem live_push (h : History α) (x : α) : (h.push x).live = x := by
  simp [live, push]

theorem get_push_of_le {k : Nat} (hk : k ≤ h.now) (x : α) : (h.push x).get k = h.get k := by
  have hne : k ≠ h.now + 1 := by omega
  simp [push, hne]

/-- A new version that is based on a given one; there is none if that one is old. -/
def replace (h : History α) (number : Nat) (x : α) : Option (History α) :=
  if number = h.now then some (h.push x) else none

theorem replace_now (h : History α) (x : α) : h.replace h.now x = some (h.push x) := if_pos rfl

/-- Every version changed in the same way. -/
def map {β : Type*} (f : α → β) (h : History α) : History β := ⟨h.now, fun k => f (h.get k)⟩

@[simp] theorem now_map {β : Type*} (f : α → β) (h : History α) : (h.map f).now = h.now := rfl

@[simp] theorem live_map {β : Type*} (f : α → β) (h : History α) : (h.map f).live = f h.live := rfl

theorem push_map {β : Type*} (f : α → β) (h : History α) (x : α) :
    (h.push x).map f = (h.map f).push (f x) := by
  simp only [map]
  congr 1
  funext k
  exact apply_ite f _ _ _

/-- A reader has seen `x` as version `a`. -/
structure At (h : History α) (a : Nat) (x : α) : Prop where
  le : a ≤ h.now
  get : h.get a = x

theorem At.push (hx : h.At a x) (y : α) : (h.push y).At a x :=
  ⟨Nat.le_succ_of_le hx.le, (get_push_of_le hx.le y).trans hx.get⟩

theorem at_push (h : History α) (x : α) : (h.push x).At (h.now + 1) x :=
  ⟨Nat.le_refl _, live_push h x⟩

/-- `P` has held from version `a` on. -/
def Since (h : History α) (a : Nat) (P : α → Prop) : Prop :=
  ∀ k, a ≤ k → k ≤ h.now → P (h.get k)

theorem Since.mono (hs : h.Since a P) (hab : a ≤ b) : h.Since b P :=
  fun k hk => hs k (Nat.le_trans hab hk)

/-- What has always held, holds now. -/
theorem Since.live (hs : h.Since 0 P) : P h.live := hs h.now (Nat.zero_le _) (Nat.le_refl _)

theorem Since.push (hs : h.Since a P) (hx : P x) : (h.push x).Since a P := by
  intro k hk hk'
  by_cases hnow : k ≤ h.now
  · rw [get_push_of_le hnow]
    exact hs k hk hnow
  have hlast : k = h.now + 1 := by
    rw [now_push] at hk'
    omega
  rw [hlast]
  show P (h.push x).live
  rwa [live_push]

/-- From the new version on there is only the new version. -/
theorem since_push_of_lt (ha : h.now < a) (hx : P x) : (h.push x).Since a P := by
  have hnone : h.Since a P := fun k hk hk' => absurd (Nat.le_trans hk hk') (Nat.not_le_of_lt ha)
  exact hnone.push hx

/-- Later versions are above earlier ones. -/
def Ascending (h : History α) (R : α → α → Prop) : Prop :=
  ∀ i j, i ≤ j → j ≤ h.now → R (h.get i) (h.get j)

theorem Ascending.push {R : α → α → Prop} (ha : h.Ascending R) (hrefl : R x x)
    (htrans : ∀ {y z}, R y z → R z x → R y x) (hx : R h.live x) : (h.push x).Ascending R := by
  intro i j hij hj
  by_cases hjnow : j ≤ h.now
  · rw [get_push_of_le (Nat.le_trans hij hjnow), get_push_of_le hjnow]
    exact ha i j hij hjnow
  have hlast : j = h.now + 1 := by
    rw [now_push] at hj
    omega
  subst hlast
  rw [show (h.push x).get (h.now + 1) = x from live_push h x]
  by_cases hi : i ≤ h.now
  · rw [get_push_of_le hi]
    exact htrans (ha i h.now hi (Nat.le_refl _)) hx
  · rw [show i = h.now + 1 by omega, show (h.push x).get (h.now + 1) = x from live_push h x]
    exact hrefl

/-- **The flag principle.**  Two parties cannot both have kept their flag up since they saw the
other flag down: the one that looked last would have seen it. -/
theorem flag_principle (ha : a ≤ h.now) (hb : b ≤ h.now) (hP : h.Since a P) (hQ : h.Since b Q)
    (hnQ : ¬ Q (h.get a)) (hnP : ¬ P (h.get b)) : False := by
  rcases Nat.le_total a b with hab | hab
  · exact hnP (hP b hab hb)
  · exact hnQ (hQ a hab ha)

end History

end Control
