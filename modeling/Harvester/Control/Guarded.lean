import Harvester.Control.Action

/-!
# Programs that can crash

A program of type `Guarded ε α` ends with a value, with an error that it reports, or by
dereferencing a nil pointer.  A pointer is an option, and `deref` reads it without a test.

`Crashes` looks at the last way to end.  `settle` takes a crash for one more error, as a caller that
recovers does.  `Steady` actions crash in no state.
-/

namespace Control

/-- How a program ends without a value. -/
inductive Halt (ε : Type) where
  | error (e : ε)
  | crash
  deriving DecidableEq

/-- Programs that can crash. -/
abbrev Guarded (ε α : Type) := Except (Halt ε) α

namespace Guarded

variable {ε α β : Type}

/-- Read a pointer. -/
def deref : Option α → Guarded ε α
  | none => .error .crash
  | some a => .ok a

theorem deref_some (a : α) : (deref (some a) : Guarded ε α) = .ok a := rfl

/-- A program that does not crash. -/
def ofExcept (x : Except ε α) : Guarded ε α := x.mapError .error

/-- The program dereferences a nil pointer. -/
def Crashes (x : Guarded ε α) : Prop := x = .error .crash

instance [DecidableEq ε] (x : Guarded ε α) : Decidable (Crashes x) :=
  match x with
  | .ok _ => isFalse fun h => by cases h
  | .error .crash => isTrue rfl
  | .error (.error _) => isFalse fun h => by cases h

theorem crashes_bind {x : Guarded ε α} {f : α → Guarded ε β} :
    Crashes (x >>= f) ↔ Crashes x ∨ ∃ a, x = .ok a ∧ Crashes (f a) := by
  rcases x with e | a
  · simp [Crashes, bind, Except.bind]
  · simp [Crashes, bind, Except.bind]

theorem crashes_bind_unit {x : Guarded ε Unit} {f : Unit → Guarded ε β} :
    Crashes (x >>= f) ↔ Crashes x ∨ x = .ok () ∧ Crashes (f ()) := by
  refine crashes_bind.trans (or_congr_right ⟨?_, fun h => ⟨(), h⟩⟩)
  rintro ⟨⟨⟩, h⟩
  exact h

@[simp] theorem crashes_deref {p : Option α} : Crashes (deref p : Guarded ε α) ↔ p = none := by
  cases p <;> simp [Crashes, deref]

@[simp] theorem not_crashes_ok {a : α} : ¬ Crashes (.ok a : Guarded ε α) := by simp [Crashes]

@[simp] theorem not_crashes_pure {a : α} : ¬ Crashes (pure a : Guarded ε α) := not_crashes_ok

@[simp] theorem crashes_map {x : Guarded ε α} {f : α → β} : Crashes (f <$> x) ↔ Crashes x := by
  rcases x with e | a <;> simp [Crashes, Functor.map, Except.map]

@[simp] theorem not_crashes_ofExcept {x : Except ε α} : ¬ Crashes (ofExcept x) := by
  intro h
  rcases x with e | a
  · cases h
  · cases h

@[simp] theorem ofExcept_eq_ok {x : Except ε α} {a : α} : ofExcept x = .ok a ↔ x = .ok a :=
  except_mapError_eq_ok

/-- A caller that recovers from a crash. -/
def settle (crash : ε) : Guarded ε α → Except ε α
  | .ok a => .ok a
  | .error (.error e) => .error e
  | .error .crash => .error crash

@[simp] theorem settle_ofExcept (crash : ε) (x : Except ε α) : (ofExcept x).settle crash = x := by
  cases x <;> rfl

theorem settle_bind (crash : ε) (x : Guarded ε α) (f : α → Guarded ε β) :
    (x >>= f).settle crash = x.settle crash >>= fun a => (f a).settle crash := by
  rcases x with (e | -) | a <;> rfl

variable {W : Type} {m : Action W (Halt ε) α}

/-- Reporting errors in another way hides no crash and makes none. -/
theorem crashes_mapError {x : Guarded ε α} {f : Halt ε → Halt ε}
    (hf : ∀ e, f e = .crash ↔ e = .crash) : Crashes (x.mapError f) ↔ Crashes x := by
  rcases x with e | a
  · show Except.error (f e) = .error .crash ↔ Except.error e = .error .crash
    simp [hf]
  · exact iff_of_false not_crashes_ok not_crashes_ok

/-- The action crashes in no state. -/
def Steady (m : Action W (Halt ε) α) : Prop := ∀ w, ¬ Crashes (m.run w).1

theorem Steady.pure (a : α) : Steady (Pure.pure a : Action W (Halt ε) α) :=
  fun _ => not_crashes_ok

theorem Steady.fail (e : ε) : Steady (Action.fail (.error e) : Action W (Halt ε) α) :=
  fun _ h => by cases h

theorem Steady.bind {f : α → Action W (Halt ε) β} (hm : Steady m) (hf : ∀ a, Steady (f a)) :
    Steady (m >>= f) := by
  intro w
  cases h : (m.run w).1 with
  | error e =>
    rw [Action.run_bind_of_error h]
    intro hcrash
    obtain rfl : e = .crash := Except.error.inj hcrash
    exact hm w h
  | ok a =>
    rw [Action.run_bind_of_ok h]
    exact hf a _

theorem Steady.mapError {f : Halt ε → Halt ε} (hf : ∀ e, f e = .crash ↔ e = .crash)
    (hm : Steady m) : Steady (Action.mapError f m) :=
  fun w h => hm w ((crashes_mapError hf).1 h)

theorem Steady.request {fault : Fault} {e : ε} (hm : Steady m) :
    Steady (Action.request fault (.error e) m) := by
  cases fault with
  | none => exact hm
  | refused => exact Steady.fail e
  | lost => exact fun _ h => by cases h

end Guarded

end Control
