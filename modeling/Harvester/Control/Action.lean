import Mathlib.Tactic.TypeStar

/-!
# Actions that can fail half-way

An `Action W ε α` changes a state `W` and ends with a value or an error.  When it fails, the state
keeps what was done before: there is no rollback.  A request to a server goes wrong in two ways
(`Fault`): it is refused, or it is carried out and its answer is lost.

`Triple P m Q` is the Hoare triple of an action; its postcondition sees the outcome.  `Preserves I
m` is about an invariant that `m` keeps however it ends, `Yields I V m` adds what is known of its
value, and `Ensures P m Q` is about the runs without an error.  `Simulates f g m m'` compares two
actions that run from two states.
-/

namespace Control

theorem except_bind_eq_ok {ε α β : Type} {x : Except ε α} {f : α → Except ε β} {b : β} :
    x >>= f = .ok b ↔ ∃ a, x = .ok a ∧ f a = .ok b := by
  cases x with
  | error e | ok a => simp [bind, Except.bind]

theorem except_bind_unit_eq_ok {ε β : Type} {x : Except ε Unit} {f : Unit → Except ε β} {b : β} :
    x >>= f = .ok b ↔ x = .ok () ∧ f () = .ok b :=
  except_bind_eq_ok.trans ⟨fun ⟨⟨⟩, h⟩ => h, fun h => ⟨(), h⟩⟩

theorem except_mapError_eq_ok {ε ε' α : Type} {x : Except ε α} {f : ε → ε'} {a : α} :
    x.mapError f = .ok a ↔ x = .ok a := by
  cases x with
  | error e =>
    show Except.error (f e) = .ok a ↔ Except.error e = .ok a
    simp
  | ok b =>
    show Except.ok b = .ok a ↔ Except.ok b = .ok a
    simp

theorem except_map_eq_ok {ε α β : Type} {x : Except ε α} {f : α → β} {b : β} :
    x.map f = .ok b ↔ ∃ a, x = .ok a ∧ f a = b := by
  cases x with
  | error e =>
    show Except.error e = .ok b ↔ _
    simp
  | ok a =>
    show Except.ok (f a) = .ok b ↔ _
    simp

/-- An action on `W` that ends with a value in `α` or an error in `ε`. -/
def Action (W ε α : Type) := W → Except ε α × W

/-- What happens to one request. -/
inductive Fault where
  /-- The request is carried out and answered. -/
  | none
  /-- The request fails and has no effect. -/
  | refused
  /-- The request is carried out, but its answer is lost. -/
  | lost
  deriving DecidableEq, Repr

namespace Action

variable {W ε α β : Type}

/-- Run an action. -/
def run (m : Action W ε α) (w : W) : Except ε α × W := m w

/-- End with an error. -/
def fail (e : ε) : Action W ε α := fun w => (.error e, w)

instance : Monad (Action W ε) where
  pure a := fun w => (.ok a, w)
  bind m f := fun w =>
    match m w with
    | (.ok a, w') => f a w'
    | (.error e, w') => (.error e, w')

/-- Change the state. -/
def modify (f : W → W) : Action W ε Unit := fun w => (.ok (), f w)

/-- The outcome of an action as a value, so that its error can be looked at. -/
def attempt {ε' : Type} (m : Action W ε α) : Action W ε' (Except ε α) :=
  fun w => (.ok (m w).1, (m w).2)

/-- Report the errors of an action in another way. -/
def mapError {ε' : Type} (f : ε → ε') (m : Action W ε α) : Action W ε' α :=
  fun w => ((m w).1.mapError f, (m w).2)

/-- End with the error of a computation without effects, or go on with its value. -/
def ofExcept (x : Except ε α) : Action W ε α := fun w => (x, w)

/-- A request with the given fault. -/
def request (f : Fault) (e : ε) (m : Action W ε α) : Action W ε α :=
  match f with
  | .none => m
  | .refused => fail e
  | .lost => fun w => (.error e, (m w).2)

/-- Run an action if a condition is met. -/
def when (p : Prop) [Decidable p] (m : Action W ε Unit) : Action W ε Unit :=
  if p then m else pure ()

/-- Run an action for every element of a list, up to the first error. -/
def forEach (f : β → Action W ε Unit) : List β → Action W ε Unit
  | [] => pure ()
  | x :: xs => do
    f x
    forEach f xs

/-- Run an action on a part of the state. -/
def zoom {S : Type} (get : S → W) (set : W → S → S) (m : Action W ε α) : Action S ε α :=
  fun s => ((m (get s)).1, set (m (get s)).2 s)

section

variable {m : Action W ε α} {f : α → Action W ε β} {w w' v : W} {a : α} {b : β}

theorem run_bind_of_ok (h : (m.run w).1 = .ok a) : (m >>= f).run w = (f a).run (m.run w).2 := by
  rcases hm : m w with ⟨r, w'⟩
  simp only [run, hm] at h
  simp only [run, Bind.bind, hm, h]

theorem run_bind_of_error {e : ε} (h : (m.run w).1 = .error e) :
    (m >>= f).run w = (.error e, (m.run w).2) := by
  rcases hm : m w with ⟨r, w'⟩
  simp only [run, hm] at h
  simp only [run, Bind.bind, hm, h]

theorem run_bind_eq_ok :
    (m >>= f).run w = (.ok b, w') ↔ ∃ a v, m.run w = (.ok a, v) ∧ (f a).run v = (.ok b, w') := by
  rcases hm : m w with ⟨e | a, v⟩
  · simp [run, Bind.bind, hm]
  simp only [run, Bind.bind, hm]
  constructor
  · exact fun h => ⟨a, v, rfl, h⟩
  · rintro ⟨a', v', hav, h⟩
    cases hav
    exact h

theorem run_bind_of_run_ok (h : m.run w = (.ok a, v)) : (m >>= f).run w = (f a).run v := by
  rw [run_bind_of_ok (congrArg Prod.fst h), h]

theorem run_bind_of_run_error {e : ε} (h : m.run w = (.error e, v)) :
    (m >>= f).run w = (.error e, v) := by
  rw [run_bind_of_error (congrArg Prod.fst h), h]

theorem run_attempt_bind {ε' : Type} (m : Action W ε α) (f : Except ε α → Action W ε' β) (w : W) :
    (attempt m >>= f).run w = (f (m.run w).1).run (m.run w).2 := rfl

theorem ofExcept_ok_bind (a : α) (f : α → Action W ε β) : (ofExcept (.ok a) >>= f) = f a := rfl

@[simp] theorem request_none (e : ε) (m : Action W ε α) : request .none e m = m := rfl

@[simp] theorem run_request_lost (e : ε) (m : Action W ε α) (w : W) :
    (request .lost e m).run w = (.error e, (m.run w).2) := rfl

theorem run_request_cases {r : Except ε α} (h : m.run w = (r, v)) (fault : Fault) (e : ε) :
    fault = .refused ∧ (request fault e m).run w = (.error e, w) ∨
      fault = .lost ∧ (request fault e m).run w = (.error e, v) ∨
      fault = .none ∧ (request fault e m).run w = (r, v) := by
  cases fault with
  | none => exact .inr (.inr ⟨rfl, h⟩)
  | refused => exact .inl ⟨rfl, rfl⟩
  | lost => exact .inr (.inl ⟨rfl, by rw [run_request_lost, h]⟩)

/-- A request that is answered has been carried out. -/
theorem run_request_eq_ok {fault : Fault} {e : ε} :
    (request fault e m).run w = (.ok a, w') ↔ fault = .none ∧ m.run w = (.ok a, w') := by
  cases fault with
  | none => simp
  | refused => simp [request, run, fail]
  | lost => simp [request, run]

end

/-! ### Triples -/

/-- From every state in `P`, `m` ends with an outcome and a state in `Q`. -/
def Triple (P : W → Prop) (m : Action W ε α) (Q : Except ε α → W → Prop) : Prop :=
  ∀ w, P w → Q (m.run w).1 (m.run w).2

/-- `m` keeps `I`, whether it fails or not. -/
def Preserves (I : W → Prop) (m : Action W ε α) : Prop := Triple I m fun _ => I

section

variable {P P' : W → Prop} {m : Action W ε α} {f : α → Action W ε β}
  {Q Q' : Except ε α → W → Prop} {R : Except ε β → W → Prop}

theorem Triple.weaken (h : Triple P m Q) (hP : ∀ w, P' w → P w) (hQ : ∀ r w, Q r w → Q' r w) :
    Triple P' m Q' :=
  fun w hw => hQ _ _ (h w (hP w hw))

theorem Triple.and (h : Triple P m Q) (h' : Triple P m Q') : Triple P m fun r w => Q r w ∧ Q' r w :=
  fun w hw => ⟨h w hw, h' w hw⟩

theorem Triple.pure {a : α} (h : ∀ w, P w → Q (.ok a) w) : Triple P (Pure.pure a) Q := h

theorem Triple.fail {e : ε} (h : ∀ w, P w → Q (.error e) w) : Triple P (Action.fail e) Q := h

theorem Triple.ofExcept {x : Except ε α} (h : ∀ w, P w → Q x w) :
    Triple P (Action.ofExcept x) Q := h

/-- **The rule of sequential composition.** -/
theorem Triple.bind (hm : Triple P m Q) (hf : ∀ a, Triple (Q (.ok a)) (f a) R)
    (he : ∀ e w, Q (.error e) w → R (.error e) w) : Triple P (m >>= f) R := by
  intro w hw
  have h := hm w hw
  rcases hrun : m w with ⟨e | a, w'⟩
  · simp only [run, hrun] at h
    simpa only [run, Bind.bind, hrun] using he e w' h
  · simp only [run, hrun] at h
    simpa only [run, Bind.bind, hrun] using hf a w' h

/-- Going on with the outcome of an action: its error does not end the composition. -/
theorem Triple.attemptBind {ε' : Type} {R : Except ε' β → W → Prop}
    {g : Except ε α → Action W ε' β} (hm : Triple P m Q) (hg : ∀ r, Triple (Q r) (g r) R) :
    Triple P (attempt m >>= g) R :=
  fun w hw => hg _ _ (hm w hw)

theorem Triple.mapError {ε' : Type} {g : ε → ε'} {R : Except ε' α → W → Prop} (hm : Triple P m Q)
    (h : ∀ r w, Q r w → R (r.mapError g) w) : Triple P (Action.mapError g m) R :=
  fun w hw => h _ _ (hm w hw)

theorem Triple.when {p : Prop} [Decidable p] {m : Action W ε Unit} {Q : Except ε Unit → W → Prop}
    (hm : p → Triple P m Q) (hskip : ¬ p → ∀ w, P w → Q (.ok ()) w) :
    Triple P (Action.when p m) Q := by
  unfold Action.when
  split
  · next hp => exact hm hp
  · next hp => exact .pure (hskip hp)

theorem Triple.requestCases {fault : Fault} {e : ε} (hnone : fault = .none → Triple P m Q)
    (hrefused : fault = .refused → ∀ w, P w → Q (.error e) w)
    (hlost : fault = .lost → Triple P m fun _ => Q (.error e)) :
    Triple P (request fault e m) Q := by
  cases fault with
  | none => exact hnone rfl
  | refused => exact hrefused rfl
  | lost => exact hlost rfl

/-- A request whose errors need no answer from the action. -/
theorem Triple.request {fault : Fault} {e : ε} (h : Triple P m Q)
    (hrefused : ∀ w, P w → Q (.error e) w) (hlost : ∀ r w, Q r w → Q (.error e) w) :
    Triple P (request fault e m) Q :=
  .requestCases (fun _ => h) (fun _ => hrefused) fun _ w hw => hlost _ _ (h w hw)

/-- A request that is not refused does to the state what the action does. -/
theorem Triple.requestState {I : W → Prop} {fault : Fault} {e : ε} (h : Triple P m fun _ => I)
    (hfault : fault ≠ .refused) : Triple P (Action.request fault e m) fun _ => I :=
  .requestCases (fun _ => h) (absurd · hfault) fun _ => h

end

section

variable {I : W → Prop} {m : Action W ε α} {f : α → Action W ε β}

theorem Preserves.pure (a : α) : Preserves I (Pure.pure a : Action W ε α) := fun _ h => h

theorem Preserves.fail (e : ε) : Preserves I (Action.fail e : Action W ε α) := fun _ h => h

theorem Preserves.ofExcept (x : Except ε α) : Preserves I (ofExcept x : Action W ε α) :=
  fun _ h => h

theorem Preserves.modify {g : W → W} (h : ∀ w, I w → I (g w)) :
    Preserves I (modify g : Action W ε Unit) := h

theorem Preserves.bind (hm : Preserves I m) (hf : ∀ a, Preserves I (f a)) : Preserves I (m >>= f) :=
  Triple.bind hm hf fun _ _ h => h

theorem Preserves.attempt {ε' : Type} (hm : Preserves I m) :
    Preserves I (attempt m : Action W ε' _) := hm

theorem Preserves.mapError {ε' : Type} {g : ε → ε'} (hm : Preserves I m) :
    Preserves I (mapError g m) := hm

theorem Preserves.request {fault : Fault} {e : ε} (hm : Preserves I m) :
    Preserves I (request fault e m) :=
  Triple.request hm (fun _ h => h) fun _ _ h => h

theorem Preserves.when {p : Prop} [Decidable p] {m : Action W ε Unit} (hm : p → Preserves I m) :
    Preserves I (when p m) := Triple.when hm fun _ _ h => h

theorem Preserves.forEach {g : β → Action W ε Unit} {xs : List β}
    (h : ∀ x ∈ xs, Preserves I (g x)) : Preserves I (forEach g xs) := by
  induction xs with
  | nil => exact .pure ()
  | cons x xs ih =>
    refine (h x (List.mem_cons_self ..)).bind fun _ => ih fun y hy => ?_
    exact h y (List.mem_cons_of_mem x hy)

end

/-! ### Values and errors -/

/-- `Q a` holds after the value `a`, and `E` after an error. -/
def Ends (E : W → Prop) (Q : α → W → Prop) : Except ε α → W → Prop
  | .ok a => Q a
  | .error _ => E

section

variable {P E : W → Prop} {m : Action W ε α} {Q : α → W → Prop}

theorem Ends.elim (hQE : ∀ a w, Q a w → E w) (r : Except ε α) (w : W) (h : Ends E Q r w) : E w := by
  cases r with
  | ok a => exact hQE a w h
  | error => exact h

theorem Triple.andThen {f : α → Action W ε β} {R : β → W → Prop} (hm : Triple P m (Ends E Q))
    (hf : ∀ a, Triple (Q a) (f a) (Ends E R)) : Triple P (m >>= f) (Ends E R) :=
  hm.bind hf fun _ _ h => h

theorem Triple.requestEnds {fault : Fault} {e : ε} (hm : Triple P m (Ends E Q))
    (hPE : ∀ w, P w → E w) (hQE : ∀ a w, Q a w → E w) :
    Triple P (Action.request fault e m) (Ends E Q) :=
  .request hm hPE (Ends.elim hQE)

theorem Preserves.ends (hm : Preserves P m) (hPE : ∀ w, P w → E w) :
    Triple P m (Ends E fun _ => P) := by
  refine hm.weaken (fun _ h => h) fun r w h => ?_
  cases r with
  | ok => exact h
  | error => exact hPE w h

end

/-! ### Invariants and values -/

/-- `m` keeps `I`, and a value that it ends with is in `V`. -/
def Yields (I : W → Prop) (V : α → Prop) (m : Action W ε α) : Prop :=
  Triple I m fun r w => I w ∧ ∀ a, r = .ok a → V a

section

variable {I : W → Prop} {V : α → Prop} {m : Action W ε α}

theorem Yields.pure {a : α} (h : V a) : Yields I V (Pure.pure a : Action W ε α) :=
  fun _ hw => ⟨hw, fun _ ha => Except.ok.inj ha ▸ h⟩

theorem Yields.ofExcept {x : Except ε α} (h : ∀ a, x = .ok a → V a) :
    Yields I V (ofExcept x : Action W ε α) :=
  fun _ hw => ⟨hw, h⟩

/-- Going on with what is known of a value. -/
theorem Yields.bindTriple {f : α → Action W ε β} {R : Except ε β → W → Prop} (hm : Yields I V m)
    (hf : ∀ a, V a → Triple I (f a) R) (he : ∀ e w, I w → R (.error e) w) :
    Triple I (m >>= f) R :=
  Triple.bind hm (fun a w hw => hf a (hw.2 a rfl) w hw.1) fun e w hw => he e w hw.1

theorem Yields.bind {f : α → Action W ε β} (hm : Yields I V m)
    (hf : ∀ a, V a → Preserves I (f a)) : Preserves I (m >>= f) :=
  hm.bindTriple hf fun _ _ hw => hw

theorem Yields.andThen {f : α → Action W ε β} {V' : β → Prop} (hm : Yields I V m)
    (hf : ∀ a, V a → Yields I V' (f a)) : Yields I V' (m >>= f) :=
  hm.bindTriple hf fun _ _ hw => ⟨hw, fun _ hr => by simp at hr⟩

theorem Yields.mono {V' : α → Prop} (hm : Yields I V m) (h : ∀ a, V a → V' a) : Yields I V' m :=
  fun w hw => ⟨(hm w hw).1, fun a ha => h a ((hm w hw).2 a ha)⟩

theorem Preserves.yields (hm : Preserves I m) : Yields I (fun _ => True) m :=
  fun w hw => ⟨hm w hw, fun _ _ => trivial⟩

theorem Yields.attempt {ε' : Type} (hm : Yields I V m) :
    Yields I (fun r => ∀ a, r = .ok a → V a) (Action.attempt m : Action W ε' _) :=
  fun w hw => ⟨(hm w hw).1, fun _ hr a ha => (hm w hw).2 a ((Except.ok.inj hr).trans ha)⟩

theorem Yields.attemptBind {ε' : Type} {g : Except ε α → Action W ε' β} (hm : Yields I V m)
    (hg : ∀ r, (∀ a, r = .ok a → V a) → Preserves I (g r)) :
    Preserves I (Action.attempt m >>= g) :=
  Triple.attemptBind hm fun r w hw => hg r hw.2 w hw.1

theorem Yields.mapError {ε' : Type} {g : ε → ε'} (hm : Yields I V m) : Yields I V (mapError g m) :=
  fun w hw => ⟨(hm w hw).1, fun a ha => (hm w hw).2 a (except_mapError_eq_ok.1 ha)⟩

theorem Yields.request {fault : Fault} {e : ε} (hm : Yields I V m) :
    Yields I V (request fault e m) :=
  Triple.request hm (fun _ hw => ⟨hw, fun _ ha => by simp at ha⟩)
    fun _ _ hw => ⟨hw.1, fun _ ha => by simp at ha⟩

end

/-! ### Runs without an error -/

/-- From every state in `P`, `m` fails or ends with a value and a state in `Q`. -/
def Ensures (P : W → Prop) (m : Action W ε α) (Q : α → W → Prop) : Prop :=
  Triple P m fun r w => ∀ a, r = .ok a → Q a w

section

variable {P : W → Prop} {m : Action W ε α} {Q Q' : α → W → Prop}

theorem Ensures.weaken (h : Ensures P m Q) (hQ : ∀ a w, Q a w → Q' a w) : Ensures P m Q' :=
  fun w hw a ha => hQ a _ (h w hw a ha)

theorem Ensures.pure {a : α} (h : ∀ w, P w → Q a w) : Ensures P (Pure.pure a : Action W ε α) Q :=
  fun w hw _ ha => Except.ok.inj ha ▸ h w hw

theorem Ensures.fail {e : ε} : Ensures P (Action.fail e : Action W ε α) Q :=
  fun _ _ _ ha => by simp [run, Action.fail] at ha

theorem Ensures.ofExcept {x : Except ε α} (h : ∀ a w, x = .ok a → P w → Q a w) :
    Ensures P (Action.ofExcept x) Q :=
  fun w hw a ha => h a w ha hw

theorem Ensures.bind {f : α → Action W ε β} {R : β → W → Prop} (hm : Ensures P m Q)
    (hf : ∀ a, Ensures (Q a) (f a) R) : Ensures P (m >>= f) R :=
  Triple.bind hm (fun a w hw => hf a w (hw a rfl)) fun _ _ _ _ hr => by simp at hr

theorem Preserves.ensures (hm : Preserves P m) : Ensures P m fun _ => P := fun w hw _ _ => hm w hw

theorem Ensures.request {fault : Fault} {e : ε} (hm : Ensures P m Q) :
    Ensures P (request fault e m) Q :=
  Triple.request hm (fun _ _ _ ha => by simp at ha) fun _ _ _ _ ha => by simp at ha

theorem Ensures.mapError {ε' : Type} {g : ε → ε'} (hm : Ensures P m Q) :
    Ensures P (mapError g m) Q :=
  fun w hw a ha => hm w hw a (except_mapError_eq_ok.1 ha)

theorem Ensures.zoom {S : Type} {get : S → W} {set : W → S → S} {P : S → Prop} {Q : α → S → Prop}
    (hm : ∀ s, P s → ∀ a, (m.run (get s)).1 = .ok a → Q a (set (m.run (get s)).2 s)) :
    Ensures P (zoom get set m) Q := hm

/-- **A loop without an error**: what a turn has brought about is kept by the others. -/
theorem Ensures.forEach {g : β → Action W ε Unit} {xs : List β} {R : β → W → Prop}
    (hturn : ∀ x ∈ xs, Ensures P (g x) fun _ w => P w ∧ R x w)
    (hkeep : ∀ x y, Ensures (R y) (g x) fun _ => R y) :
    Ensures P (forEach g xs) fun _ w => P w ∧ ∀ x ∈ xs, R x w := by
  induction xs with
  | nil => exact .pure fun w hw => ⟨hw, fun _ hx => by simp at hx⟩
  | cons x xs ih =>
    have hrest : ∀ xs, Ensures (R x) (Action.forEach g xs) fun _ => R x := by
      intro xs
      induction xs with
      | nil => exact .pure fun _ hw => hw
      | cons y ys ih => exact (hkeep y x).bind fun _ => ih
    refine (hturn x (List.mem_cons_self ..)).bind fun _ w hw a ha => ?_
    have hxs := ih (fun y hy => hturn y (List.mem_cons_of_mem x hy)) w hw.1 a ha
    refine ⟨hxs.1, List.forall_mem_cons.2 ⟨hrest xs w hw.2 a ha, hxs.2⟩⟩

end

/-! ### Two actions at once -/

/-- From a state changed by `f`, the action `m'` ends as `m` does, up to `g` and `f`. -/
def Simulates {V γ : Type} (f : W → V) (g : α → γ) (m : Action W ε α) (m' : Action V ε γ) : Prop :=
  ∀ w, m'.run (f w) = ((m.run w).1.map g, f (m.run w).2)

section

variable {V γ δ : Type} {f : W → V} {g : α → γ} {m : Action W ε α} {m' : Action V ε γ}

theorem Simulates.pure (a : α) :
    Simulates f g (Pure.pure a : Action W ε α) (Pure.pure (g a) : Action V ε γ) := fun _ => rfl

theorem Simulates.fail (e : ε) :
    Simulates f g (Action.fail e : Action W ε α) (Action.fail e) := fun _ => rfl

theorem Simulates.ofExcept (x : Except ε α) :
    Simulates f g (Action.ofExcept x : Action W ε α) (Action.ofExcept (x.map g)) := fun _ => rfl

theorem Simulates.bind {k : α → Action W ε β} {k' : γ → Action V ε δ} {j : β → δ}
    (hm : Simulates f g m m') (hk : ∀ a, Simulates f j (k a) (k' (g a))) :
    Simulates f j (m >>= k) (m' >>= k') := by
  intro w
  have hm := hm w
  rcases hrun : m w with ⟨e | a, v⟩
  · simp only [run] at hm
    simp only [run, Bind.bind, hrun, hm]
    rfl
  · simp only [run] at hm
    simp only [run, Bind.bind, hrun, hm]
    exact hk a v

theorem Simulates.ite {p : Prop} [Decidable p] {a b : Action W ε α} {a' b' : Action V ε γ}
    (ha : p → Simulates f g a a') (hb : ¬ p → Simulates f g b b') :
    Simulates f g (if p then a else b) (if p then a' else b') := by
  by_cases h : p
  · simpa only [if_pos h] using ha h
  · simpa only [if_neg h] using hb h

theorem Simulates.mapError {ε' : Type} {j : ε → ε'} (hm : Simulates f g m m') :
    Simulates f g (Action.mapError j m) (Action.mapError j m') := by
  intro w
  have hm := hm w
  rcases hrun : m w with ⟨e | a, v⟩
  · simp only [run] at hm
    simp only [run, Action.mapError, hrun, hm]
    rfl
  · simp only [run] at hm
    simp only [run, Action.mapError, hrun, hm]
    rfl

theorem Simulates.request {fault : Fault} {e : ε} (hm : Simulates f g m m') :
    Simulates f g (Action.request fault e m) (Action.request fault e m') := by
  cases fault with
  | none => exact hm
  | refused => exact .fail e
  | lost =>
    intro w
    show ((Except.error e : Except ε γ), (m'.run (f w)).2) = _
    rw [hm w]
    rfl

end

end Action

end Control
