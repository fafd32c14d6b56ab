import Mathlib.Logic.Function.Basic
import Harvester.Control.History
import Harvester.Control.Machine
import Harvester.Maintenance.Controller

/-!
# At most one control-plane node in maintenance

The versions of the nodes form a `History`.  The drain controller has one reconcile in flight for
each node, which reads some older version, at least as new as the one its predecessor read, and then
makes its requests; users and the maintain controller act in between.

`True/Validating` is a flag in the sense of `History.flag_principle`: a node is drained only if the
flags of the others are down.  This needs that the flag has stayed up between the look and the
drain, and `validate` overwrites whatever the live node shows.

* `at_most_one_critical`: as long as `validate` writes only over `True/Validating`, at most one of
  three control-plane nodes is draining, evacuating, completed or failed;
* `two_nodes_drain`: a stale reconcile that overwrites `False/Error` brings two nodes to
  `True/Draining`.
-/

namespace Harvester

namespace Maintenance

open Control

/-! ### The system -/

/-- The stages of `disableMaintenanceMode` after its check of the node. -/
inductive DisableStage where
  /-- The drain request is removed next. -/
  | clearRequest
  /-- The condition is removed next. -/
  | removeCondition
  deriving DecidableEq, Repr

/-- The API server, the drain controller, and the calls of users that are under way. -/
structure System (N : Type) where
  history : History (N → Node)
  /-- The version of its node that the last reconcile of each node was called with. -/
  seen : N → Nat
  /-- The next request of the reconcile in flight. -/
  inFlight : N → Option Request
  disabling : List (N × DisableStage)

/-- The steps of the system. -/
inductive Step (N : Type) where
  /-- A reconcile of `n` at version `i` begins; the others are listed at `j`. -/
  | begin (n : N) (i j : Nat) (findings : Findings)
  /-- The reconcile of `n` makes its next request. -/
  | perform (n : N)
  /-- The reconcile of `n` ends with an error. -/
  | abort (n : N)
  /-- `maintainNodeHandler` completes the maintenance of a node seen at version `i`. -/
  | complete (n : N) (i : Nat)
  | enable (n : N) (forced : Bool)
  /-- `disableMaintenanceMode` has checked the node. -/
  | disable (n : N)
  /-- The next request of a `disableMaintenanceMode` that is under way. -/
  | disableNext (n : N) (stage : DisableStage)
  | clear (n : N)

section

variable {N : Type} [Fintype N] [DecidableEq N] (roles : Roles N)

namespace System

/-- The current nodes. -/
def live (s : System N) (n : N) : Node := s.history.live n

/-- Write one node. -/
def write (s : System N) (n : N) (node : Node) : System N :=
  { s with history := s.history.push (Function.update s.history.live n node) }

/-- Begin a reconcile. -/
def beginReconcile (s : System N) (n : N) (i j : Nat) (findings : Findings) : Option (System N) :=
  if s.inFlight n = none ∧ s.seen n ≤ i ∧ i ≤ j ∧ j ≤ s.history.now then
    some { s with
      seen := Function.update s.seen n i
      inFlight := Function.update s.inFlight n
        (onNodeChange roles (s.history.get j) findings (s.history.get i n) n) }
  else none

/-- Make the next request of a reconcile. -/
def perform (s : System N) (n : N) : Option (System N) :=
  match s.inFlight n with
  | none => none
  | some r =>
    let done := r.perform (s.live n)
    some { s.write n done.1 with inFlight := Function.update s.inFlight n done.2 }

/-- Go on with `disableMaintenanceMode`. -/
def disableNext (s : System N) (n : N) (stage : DisableStage) : Option (System N) :=
  if (n, stage) ∈ s.disabling then
    let rest := s.disabling.erase (n, stage)
    match stage with
    | .clearRequest =>
      some { s.write n (s.live n).clearDrainRequest with
        disabling := (n, .removeCondition) :: rest }
    | .removeCondition =>
      match removeMaintenanceModeCondition (s.live n) false with
      | none => some { s with disabling := rest }
      | some node => some { s.write n node with disabling := rest }
  else none

end System

/-- The runs of the maintenance mode. -/
def maintenance : Machine (System N) (Step N) where
  next s
    | .begin n i j findings => s.beginReconcile roles n i j findings
    | .perform n => s.perform n
    | .abort n => some { s with inFlight := Function.update s.inFlight n none }
    | .complete n i =>
      if i ≤ s.history.now ∧ (s.history.get i n).isPhase true [.evacuating] = true then
        some (s.write n ((s.live n).transition true .evacuating .completed))
      else none
    | .enable n forced => (enableMaintenanceMode (s.live n) forced).map (s.write n)
    | .disable n =>
      if (s.live n).canDisable then
        some { s with disabling := (n, .clearRequest) :: s.disabling }
      else none
    | .disableNext n stage => s.disableNext n stage
    | .clear n => (removeMaintenanceModeCondition (s.live n) true).map (s.write n)

/-- The first state: no node is in maintenance. -/
def System.init (nodes : N → Node) : System N where
  history := .init nodes
  seen _ := 0
  inFlight _ := none
  disabling := []

/-- The step writes the verdict of `validate` over a node that is not validating any more. -/
def System.overwrites (s : System N) : Step N → Bool
  | .perform n =>
    match s.inFlight n with
    | some .setDraining => !(s.live n).isPhase true [.validating]
    | some (.failPreCheck _) => !(s.live n).isPhase true [.validating]
    | _ => false
  | _ => false

end

/-! ### Phases -/

namespace Node

variable {node node' : Node}

@[simp] theorem condition_setCondition (node : Node) (c : Condition) :
    (node.setCondition c).condition = some c := by
  unfold setCondition
  split
  · next h => exact h
  · rfl

theorem isEngaged_of_isPhase {reasons : List Reason} (h : node.isPhase true reasons = true) :
    node.isEngaged = true := by
  obtain ⟨c, hc, hphase⟩ := (Option.any_eq_true _ _).1 h
  rw [isEngaged, hc]
  simp only [Bool.and_eq_true, decide_eq_true_eq] at hphase
  exact hphase.1

theorem isCritical_of_free (h : node.isEngaged = false) : node.isCritical = false := by
  by_contra hc
  rw [Bool.not_eq_false] at hc
  rw [isEngaged_of_isPhase hc] at h
  exact absurd h (by simp)

theorem isPhase_congr (h : node'.condition = node.condition) (status : Bool)
    (reasons : List Reason) : node'.isPhase status reasons = node.isPhase status reasons := by
  rw [isPhase, isPhase, h]

theorem isEngaged_congr (h : node'.condition = node.condition) :
    node'.isEngaged = node.isEngaged := by
  rw [isEngaged, isEngaged, h]

theorem isCritical_congr (h : node'.condition = node.condition) :
    node'.isCritical = node.isCritical :=
  isPhase_congr h _ _

end Node

/-! ### The invariant -/

section

variable {N : Type} {roles : Roles N}

/-- The node `n` is engaged. -/
def Engaged (n : N) (nodes : N → Node) : Prop := (nodes n).isEngaged = true

/-- The node `n` is not engaged. -/
def Free (n : N) (nodes : N → Node) : Prop := (nodes n).isEngaged = false

/-- No control-plane node but `n` is engaged. -/
def OthersFree (roles : Roles N) (n : N) (nodes : N → Node) : Prop :=
  ∀ m, roles.isControlPlane m = true → m ≠ n → Free m nodes

/-- What is known of the node `n`, of which reconciles see the versions from `a` on. -/
@[mk_iff] structure Supports (roles : Roles N) (h : History (N → Node)) (a : Nat) (n : N)
    (node : Node) : Prop where
  /-- No reconcile can see a critical node as it was before it was engaged. -/
  critical : node.isCritical = true → h.Since a (Engaged n)
  /-- An engaged node that a reconcile can see as validating has been engaged ever since. -/
  engaged : node.isEngaged = true → ∀ i, a ≤ i → i ≤ h.now →
    (h.get i n).isPhase true [.validating] = true → h.Since i (Engaged n)
  /-- A free node that a reconcile can see without a condition has been free ever since. -/
  free : node.isEngaged = false → ∀ i, a ≤ i → i ≤ h.now →
    (h.get i n).condition = none → h.Since i (Free n)
  /-- A critical control-plane node has been engaged since a time when no other one was. -/
  alone : node.isCritical = true → roles.isControlPlane n = true →
    ∃ c ≤ h.now, h.Since c (Engaged n) ∧ OthersFree roles n (h.get c)

/-- What holds for the node `n`. -/
def NodeInv (roles : Roles N) (h : History (N → Node)) (a : Nat) (n : N) : Prop :=
  Supports roles h a n (h.live n)

section

variable {h : History (N → Node)} {a b : Nat} {n : N} {node node' : Node} {nodes : N → Node}

theorem Supports.mono (hn : Supports roles h a n node) (hab : a ≤ b) :
    Supports roles h b n node where
  critical hc := (hn.critical hc).mono hab
  engaged he i hi := hn.engaged he i (hab.trans hi)
  free hf i hi := hn.free hf i (hab.trans hi)
  alone := hn.alone

theorem Supports.congr (hn : Supports roles h a n node) (hc : node'.condition = node.condition) :
    Supports roles h a n node' := by
  rwa [supports_iff, Node.isCritical_congr hc, Node.isEngaged_congr hc, ← supports_iff]

/-- **A new version** that the versions before it support. -/
theorem Supports.push (hn : Supports roles h a n (nodes n)) : NodeInv roles (h.push nodes) a n := by
  refine ⟨fun hc => ?_, fun he i hi hi' hv => ?_, fun hf i hi hi' hv => ?_, fun hc hcp => ?_⟩
  · rw [History.live_push] at hc
    exact (hn.critical hc).push (Node.isEngaged_of_isPhase hc)
  · -- The version `i` is an old one, or the new one itself.
    rw [History.live_push] at he
    by_cases hnow : i ≤ h.now
    · rw [History.get_push_of_le hnow] at hv
      exact (hn.engaged he i hi hnow hv).push he
    · exact History.since_push_of_lt (Nat.lt_of_not_le hnow) he
  · rw [History.live_push] at hf
    by_cases hnow : i ≤ h.now
    · rw [History.get_push_of_le hnow] at hv
      exact (hn.free hf i hi hnow hv).push hf
    · exact History.since_push_of_lt (Nat.lt_of_not_le hnow) hf
  · rw [History.live_push] at hc
    obtain ⟨c, hc', hsince, hothers⟩ := hn.alone hc hcp
    refine ⟨c, hc'.trans (Nat.le_succ _), hsince.push (Node.isEngaged_of_isPhase hc), ?_⟩
    rwa [History.get_push_of_le hc']

/-! #### The changes of a condition -/

theorem NodeInv.enter (hn : NodeInv roles h a n) (ha : a ≤ h.now)
    (hseen : (h.get a n).condition = none) (hnew : node.condition = some .validating) :
    Supports roles h a n node := by
  have hnc : node.isCritical = false := by
    simp [Node.isCritical, Node.isPhase, hnew, Condition.validating]
  have hne : node.isEngaged = true := by simp [Node.isEngaged, hnew, Condition.validating]
  by_cases hlive : (h.live n).isEngaged = true
  · -- The live node is engaged, but not critical: that would have been seen.
    exact ⟨by simp [hnc], fun _ => hn.engaged hlive, by simp [hne], by simp [hnc]⟩
  · -- The live node is free, so it has been free since it was seen without a condition, and no
    -- version that reconciles can still see is validating.
    rw [Bool.not_eq_true] at hlive
    have hsince : h.Since a (Free n) := hn.free hlive a le_rfl ha hseen
    refine ⟨by simp [hnc], fun _ i hi hi' hv => ?_, by simp [hne], by simp [hnc]⟩
    have heng := Node.isEngaged_of_isPhase hv
    rw [hsince i hi hi'] at heng
    exact absurd heng (by simp)

theorem NodeInv.drain {j : Nat} (hn : NodeInv roles h a n) (ha : a ≤ h.now)
    (hseen : (h.get a n).isPhase true [.validating] = true) (haj : a ≤ j) (hj : j ≤ h.now)
    (hothers : roles.isControlPlane n = true → OthersFree roles n (h.get j))
    (hlive : (h.live n).isEngaged = true) (hnew : node.isCritical = true) :
    Supports roles h a n node := by
  have hsince : h.Since a (Engaged n) := hn.engaged hlive a le_rfl ha hseen
  refine ⟨fun _ => hsince, fun _ i hi _ _ => hsince.mono hi, ?_,
    fun _ hcp => ⟨j, hj, hsince.mono haj, hothers hcp⟩⟩
  simp [Node.isEngaged_of_isPhase hnew]

theorem supports_leave (hsince : h.Since a (Engaged n)) (hnew : node.isEngaged = false) :
    Supports roles h a n node := by
  have hnc := Node.isCritical_of_free hnew
  refine ⟨by simp [hnc], by simp [hnew], fun _ i hi hi' hnone => ?_, by simp [hnc]⟩
  -- Without a condition the node would have been free.
  have heng : (h.get i n).isEngaged = true := hsince i hi hi'
  simp [Node.isEngaged, hnone] at heng

theorem NodeInv.stay (hn : NodeInv roles h a n) (hlive : (h.live n).isCritical = true)
    (hnew : node.isCritical = true) : Supports roles h a n node := by
  have hsince := hn.critical hlive
  refine ⟨fun _ => hsince, fun _ i hi _ _ => hsince.mono hi, ?_, fun _ => hn.alone hlive⟩
  simp [Node.isEngaged_of_isPhase hnew]

theorem NodeInv.stayFree (hn : NodeInv roles h a n) (hlive : (h.live n).isEngaged = false)
    (hnew : node.isEngaged = false) : Supports roles h a n node := by
  have hnc := Node.isCritical_of_free hnew
  exact ⟨by simp [hnc], by simp [hnew], fun _ => hn.free hlive, by simp [hnc]⟩

theorem NodeInv.transition (hn : NodeInv roles h a n) {reason : Reason} {c : Condition}
    (hreason : reason ≠ .validating) (hstatus : c.status = true) (hc : c.reason ≠ .validating) :
    Supports roles h a n ((h.live n).transition true reason c) := by
  have hcritical : ∀ {node : Node} {c : Condition}, node.condition = some c → c.status = true →
      c.reason ≠ .validating → node.isCritical = true := by
    intro node c hcond hs hr
    simp only [Node.isCritical, Node.isPhase]
    rcases hcr : c.reason <;> simp_all
  unfold Node.transition
  split
  · -- The live node has the phase that the transition starts from: both phases are critical.
    next hphase =>
    refine hn.stay ?_ ?_
    · obtain ⟨old, hold, hfacts⟩ := (Option.any_eq_true _ _).1 hphase
      simp only [Bool.and_eq_true, decide_eq_true_eq, List.mem_singleton] at hfacts
      exact hcritical hold hfacts.1 (hfacts.2 ▸ hreason)
    · exact hcritical (Node.condition_setCondition _ c) hstatus hc
  · exact hn

end

/-! #### The requests of a reconcile -/

/-- What a request in flight rests on: the version `a` of the node that the reconcile saw, and for
`setDraining` a later version of the other nodes. -/
def Justified (roles : Roles N) (h : History (N → Node)) (a : Nat) (n : N) : Request → Prop
  | .setValidating => (h.get a n).condition = none
  | .setDraining => (h.get a n).isPhase true [.validating] = true ∧ ∃ j, a ≤ j ∧ j ≤ h.now ∧
      (roles.isControlPlane n = true → OthersFree roles n (h.get j))
  | .failPreCheck _ => (h.get a n).isPhase true [.validating] = true
  | _ => True

theorem Justified.push {h : History (N → Node)} {a : Nat} {n : N} {r : Request}
    (hr : Justified roles h a n r) (ha : a ≤ h.now) (nodes : N → Node) :
    Justified roles (h.push nodes) a n r := by
  cases r with
  | setValidating | failPreCheck =>
    rw [Justified, History.get_push_of_le ha]
    exact hr
  | setDraining =>
    obtain ⟨hseen, j, haj, hj, hothers⟩ := hr
    refine ⟨by rwa [History.get_push_of_le ha], j, haj, hj.trans (Nat.le_succ _), ?_⟩
    rwa [History.get_push_of_le hj]
  | failDrainTimeout | finishDrain | clearDrainRequest => trivial

theorem clearRequest_eq_some {node : Node} {r : Request} (h : clearRequest node = some r) :
    r = .clearDrainRequest node.resourceVersion := by
  unfold clearRequest at h
  split at h
  · exact (Option.some.inj h).symm
  · simp at h

theorem perform_snd {node : Node} {r r' : Request} (h : (r.perform node).2 = some r') :
    ∃ resourceVersion, r' = .clearDrainRequest resourceVersion := by
  cases r with
  | setValidating | setDraining => simp [Request.perform] at h
  | failPreCheck => exact ⟨_, clearRequest_eq_some h⟩
  | failDrainTimeout | finishDrain =>
    simp only [Request.perform] at h
    split at h
    · exact ⟨_, clearRequest_eq_some h⟩
    · simp at h
  | clearDrainRequest =>
    simp only [Request.perform] at h
    split at h <;> simp at h

end

section

variable {N : Type} [Fintype N] [DecidableEq N] {roles : Roles N}
  (hthree : (Finset.univ.filter fun m => roles.isControlPlane m = true).card = 3)

include hthree

/-- Of three control-plane nodes, the two others are free if the pre-check passes. -/
theorem othersFree_of_drainPossible {nodes : N → Node} {n : N}
    (hn : roles.isControlPlane n = true) (h : drainPossible roles nodes n = .ok ()) :
    OthersFree roles n nodes := by
  -- The available nodes are two of the two others, hence all of them.
  have hcard : (availableNodes roles nodes n).card = 2 := by
    by_contra hne
    simp [drainPossible, hn, hthree, hne] at h
  have hsub : availableNodes roles nodes n ⊆
      (Finset.univ.filter fun m => roles.isControlPlane m = true).erase n := by
    intro m hm
    simp only [availableNodes, Finset.mem_filter, Finset.mem_univ, true_and] at hm
    simp [hm.1, hm.2.1]
  have hothers :
      ((Finset.univ.filter fun m => roles.isControlPlane m = true).erase n).card = 2 := by
    rw [Finset.card_erase_of_mem (by simp [hn]), hthree]
  have heq := Finset.eq_of_subset_of_card_le hsub (by omega)
  intro m hm hne
  have hmem : m ∈ availableNodes roles nodes n := by
    rw [heq]
    simp [hm, hne]
  simp only [availableNodes, Finset.mem_filter] at hmem
  exact hmem.2.2.2

/-- **The requests of `OnNodeChange` are justified** by the versions that it has read. -/
theorem onNodeChange_justified {h : History (N → Node)} {i j : Nat} {n : N} {findings : Findings}
    {r : Request} (hij : i ≤ j) (hj : j ≤ h.now)
    (hr : onNodeChange roles (h.get j) findings (h.get i n) n = some r) :
    Justified roles h i n r := by
  unfold onNodeChange at hr
  split at hr
  · next hnone =>
    split at hr
    · cases hr
      exact hnone
    · simp at hr
  next c hc =>
  have hclear : clearRequest (h.get i n) = some r → Justified roles h i n r := by
    intro hr
    rw [clearRequest_eq_some hr]
    trivial
  split at hr
  · next hreason =>
    -- The node is seen as validating, so its status is true.
    have hstatus : c.status = true := by
      by_contra hstatus
      rw [Bool.not_eq_true] at hstatus
      rw [c.wf hstatus] at hreason
      exact absurd hreason (by simp)
    have hseen : (h.get i n).isPhase true [.validating] = true := by
      simp [Node.isPhase, hc, hstatus, hreason]
    split at hr
    swap
    · simp at hr
    unfold validate at hr
    split at hr
    · cases hr
      exact hseen
    next hpossible =>
    split at hr
    · simp at hr
    split at hr
    · cases hr
      exact hseen
    · cases hr
      exact ⟨hseen, j, hij, hj, fun hn => othersFree_of_drainPossible hthree hn hpossible⟩
  · unfold Maintenance.drain at hr
    split at hr
    · cases hr
      trivial
    · cases hr
      trivial
    · simp at hr
  · exact hclear hr
  · exact hclear hr
  · exact hclear hr

end

/-! ### What every step keeps -/

section

variable {N : Type} [DecidableEq N] {roles : Roles N}

/-- The invariant of the system. -/
structure Inv (roles : Roles N) (s : System N) : Prop where
  node : ∀ n, NodeInv roles s.history (s.seen n) n
  seen : ∀ n, s.seen n ≤ s.history.now
  inFlight : ∀ n r, s.inFlight n = some r → Justified roles s.history (s.seen n) n r

omit [DecidableEq N] in
theorem inv_init {nodes : N → Node} (h : ∀ n, (nodes n).condition = none) :
    Inv roles (System.init nodes) := by
  have hlive : ∀ n, ((History.init nodes).live n).isEngaged = false := fun n => by
    simp [History.init, History.live, Node.isEngaged, h n]
  refine ⟨fun n => ⟨fun hc => ?_, fun he => ?_, fun _ _ _ _ _ k _ _ => hlive n, fun hc => ?_⟩,
    fun n => le_rfl, fun n r hr => by simp [System.init] at hr⟩
  · rw [System.init, Node.isCritical_of_free (hlive n)] at hc
    exact absurd hc (by simp)
  · rw [System.init, hlive n] at he
    exact absurd he (by simp)
  · rw [System.init, Node.isCritical_of_free (hlive n)] at hc
    exact absurd hc (by simp)

section

variable {s s' : System N} {n : N}

theorem Inv.write (h : Inv roles s) {v : Node} {inFlight : N → Option Request}
    {disabling : List (N × DisableStage)}
    (hn : Supports roles s.history (s.seen n) n v)
    (hflight : ∀ m r, inFlight m = some r → s.inFlight m = some r ∨
      Justified roles (s.history.push (Function.update s.history.live n v)) (s.seen m) m r) :
    Inv roles { s.write n v with inFlight := inFlight, disabling := disabling } := by
  refine ⟨fun m => ?_, fun m => (h.seen m).trans (Nat.le_succ _), fun m r hm => ?_⟩
  · by_cases hmn : m = n
    · subst hmn
      exact .push (by rwa [Function.update_self])
    · exact .push (by rw [Function.update_of_ne hmn]; exact h.node m)
  · rcases hflight m r hm with hold | hnew
    · exact (h.inFlight m r hold).push (h.seen m) _
    · exact hnew

theorem Inv.write_same (h : Inv roles s) {v : Node} {disabling : List (N × DisableStage)}
    (hc : v.condition = (s.live n).condition) :
    Inv roles { s.write n v with disabling := disabling } :=
  h.write ((h.node n).congr hc) fun _ _ => .inl

theorem inv_perform (h : Inv roles s) (hG : s.overwrites (.perform n) = false)
    (hs : s.perform n = some s') : Inv roles s' := by
  unfold System.perform at hs
  split at hs
  · simp at hs
  next r hr =>
  cases hs
  have hj := h.inFlight n r hr
  have hn := h.node n
  have hseen := h.seen n
  refine h.write ?_ fun m r' hm => ?_
  · cases r with
    | setValidating =>
      exact hn.enter hseen hj (Node.condition_setCondition _ _)
    | setDraining =>
      -- The flag was up in the version that was seen, and it is up now: it has been up in between.
      obtain ⟨hval, j, haj, hjnow, hothers⟩ := hj
      have hlive : (s.live n).isPhase true [.validating] = true := by
        simpa [System.overwrites, hr] using hG
      refine hn.drain hseen hval haj hjnow hothers (Node.isEngaged_of_isPhase hlive) ?_
      simp [Request.perform, Node.isCritical, Node.isPhase, Condition.draining]
    | failPreCheck message =>
      have hlive : (s.live n).isPhase true [.validating] = true := by
        simpa [System.overwrites, hr] using hG
      refine supports_leave (hn.engaged (Node.isEngaged_of_isPhase hlive) _ le_rfl hseen hj) ?_
      simp [Request.perform, Node.isEngaged, Condition.preCheckError]
    | failDrainTimeout message => exact hn.transition (by simp) rfl (by simp [Condition.drainError])
    | finishDrain => exact hn.transition (by simp) rfl (by simp [Condition.evacuating])
    | clearDrainRequest resourceVersion =>
      refine hn.congr ?_
      simp only [Request.perform]
      split <;> rfl
  · -- What follows a request needs no justification.
    by_cases hmn : m = n
    · subst hmn
      rw [Function.update_self] at hm
      obtain ⟨resourceVersion, rfl⟩ := perform_snd hm
      exact .inr trivial
    · rw [Function.update_of_ne hmn] at hm
      exact .inl hm

/-- The node was critical before its condition was removed, or it was free. -/
theorem removeMaintenanceModeCondition_eq_some {node v : Node} {preCheckErrorOnly : Bool}
    (h : removeMaintenanceModeCondition node preCheckErrorOnly = some v) :
    v.condition = none ∧ (node.isCritical = true ∨ node.isEngaged = false) := by
  unfold removeMaintenanceModeCondition at h
  split_ifs at h with hnone honly hrequest hphase hdisable <;> cases h
  · rw [Option.isNone_iff_eq_none] at hnone
    exact ⟨hnone, .inr (by simp [Node.isEngaged, hnone])⟩
  · have hphase : node.isPhase false [.error] = true := by simpa using hphase
    obtain ⟨c, hc, hfacts⟩ := (Option.any_eq_true _ _).1 hphase
    simp only [Bool.and_eq_true, decide_eq_true_eq] at hfacts
    exact ⟨rfl, .inr (by simp [Node.isEngaged, hc, hfacts.1])⟩
  · simp only [Bool.or_eq_true, not_or, Bool.not_eq_true', Bool.not_eq_false] at hdisable
    obtain ⟨c, hc, hfacts⟩ := (Option.any_eq_true _ _).1 hdisable.1
    simp only [Bool.and_eq_true, decide_eq_true_eq] at hfacts
    refine ⟨rfl, .inl ((Option.any_eq_true _ _).2 ⟨c, hc, ?_⟩)⟩
    simpa only [Bool.and_eq_true, decide_eq_true_eq] using
      ⟨hfacts.1, List.mem_cons_of_mem _ hfacts.2⟩

theorem Inv.remove (h : Inv roles s) {v : Node} {preCheckErrorOnly : Bool}
    {disabling : List (N × DisableStage)}
    (hv : removeMaintenanceModeCondition (s.live n) preCheckErrorOnly = some v) :
    Inv roles { s.write n v with disabling := disabling } := by
  obtain ⟨hnone, hlive⟩ := removeMaintenanceModeCondition_eq_some hv
  refine h.write ?_ fun _ _ => .inl
  have hnew : v.isEngaged = false := by simp [Node.isEngaged, hnone]
  rcases hlive with hcritical | hfree
  · -- The node has been engaged as far as reconciles can see.
    exact supports_leave ((h.node n).critical hcritical) hnew
  · exact (h.node n).stayFree hfree hnew

theorem inv_disableNext {stage : DisableStage} (h : Inv roles s)
    (hs : s.disableNext n stage = some s') : Inv roles s' := by
  unfold System.disableNext at hs
  split at hs
  swap
  · simp at hs
  split at hs
  · cases hs
    exact h.write_same rfl
  split at hs
  · cases hs
    exact ⟨h.node, h.seen, h.inFlight⟩
  · next v hv =>
    cases hs
    exact h.remove hv

end

end

section

variable {N : Type} [Fintype N] [DecidableEq N] {roles : Roles N} {s s' : System N}
  (hthree : (Finset.univ.filter fun m => roles.isControlPlane m = true).card = 3)

include hthree

theorem inv_begin {n : N} {i j : Nat} {findings : Findings} (h : Inv roles s)
    (hs : s.beginReconcile roles n i j findings = some s') : Inv roles s' := by
  obtain ⟨⟨-, hi, hij, hj⟩, rfl⟩ := Machine.guarded_eq_some.1 hs
  refine ⟨fun m => ?_, fun m => ?_, fun m r hm => ?_⟩
  all_goals
    by_cases hmn : m = n
    · subst hmn
      simp only [Function.update_self] at *
      first
        | exact (h.node m).mono hi
        | exact hij.trans hj
        | exact onNodeChange_justified hthree hij hj hm
    · simp only [Function.update_of_ne hmn] at *
      first
        | exact h.node m
        | exact h.seen m
        | exact h.inFlight m r hm

theorem inv_step (l : Step N) (h : Inv roles s) (hG : s.overwrites l = false)
    (hs : (maintenance roles).next s l = some s') : Inv roles s' := by
  cases l with
  | begin n i j findings => exact inv_begin hthree h hs
  | perform n => exact inv_perform h hG hs
  | abort n =>
    cases hs
    refine ⟨h.node, h.seen, fun m r hm => ?_⟩
    dsimp only at hm
    by_cases hmn : m = n
    · simp [hmn] at hm
    · rw [Function.update_of_ne hmn] at hm
      exact h.inFlight m r hm
  | complete n i =>
    obtain ⟨-, rfl⟩ := Machine.guarded_eq_some.1 hs
    exact h.write ((h.node n).transition (by simp) rfl (by simp [Condition.completed]))
      fun _ _ => .inl
  | enable n forced =>
    obtain ⟨v, hv, rfl⟩ := Option.map_eq_some_iff.1 hs
    unfold enableMaintenanceMode at hv
    split at hv
    · simp at hv
    · cases hv
      exact h.write_same rfl
  | disable n =>
    obtain ⟨-, rfl⟩ := Machine.guarded_eq_some.1 hs
    exact ⟨h.node, h.seen, h.inFlight⟩
  | disableNext n stage => exact inv_disableNext h hs
  | clear n =>
    obtain ⟨v, hv, rfl⟩ := Option.map_eq_some_iff.1 hs
    exact h.remove hv

omit hthree

/-- **At most one of three control-plane nodes is in maintenance**, in every run in which `validate`
writes only over `True/Validating`. -/
theorem at_most_one_critical (roles : Roles N)
    (hthree : (Finset.univ.filter fun m => roles.isControlPlane m = true).card = 3)
    (nodes : N → Node) (hinit : ∀ n, (nodes n).condition = none) (steps : List (Step N))
    (s : System N)
    (hG : (maintenance roles).Along (fun s l => s.overwrites l = false) (System.init nodes) steps)
    (hrun : (maintenance roles).run (System.init nodes) steps = some s) (n m : N)
    (hn : roles.isControlPlane n = true) (hm : roles.isControlPlane m = true)
    (hcn : (s.live n).isCritical = true) (hcm : (s.live m).isCritical = true) : n = m := by
  have h : Inv roles s := Machine.run_invariant
    (fun s l s' hs hG hl => inv_step hthree l hs hG hl) (inv_init hinit) hG hrun
  by_contra hne
  -- Each of the two has seen the flag of the other one down and has kept its own up since.
  obtain ⟨a, ha, hsn, hon⟩ := (h.node n).alone hcn hn
  obtain ⟨b, hb, hsm, hom⟩ := (h.node m).alone hcm hm
  refine History.flag_principle ha hb hsn hsm (fun he => ?_) fun he => ?_
  · rw [Engaged, hon m hm (Ne.symm hne)] at he
    exact absurd he (by simp)
  · rw [Engaged, hom n hn hne] at he
    exact absurd he (by simp)

end

namespace Sample

/-- Three control-plane nodes. -/
def roles : Roles (Fin 3) := ⟨fun n => "node-" ++ toString n.val, fun _ => true, fun _ => true⟩

/-- No node is in maintenance. -/
def nodes : Fin 3 → Node := fun _ => ⟨none, false, false, 0⟩

/-- All VMs can be migrated, and the node is drained. -/
def good : Findings := ⟨some [], .drained⟩

/-- A VM cannot be migrated. -/
def bad : Findings := ⟨some [("node-selector", ["default/vm"])], .drained⟩

/-- Node 0 is requested to enter the maintenance mode and publishes `True/Validating`. -/
def requestNode0 : List (Step (Fin 3)) := [.enable 0 false, .begin 0 1 1 good, .perform 0]

/-- Node 0 is drained all the way; node 1 is refused. -/
def oneAfterTheOther : List (Step (Fin 3)) := requestNode0 ++
  [.begin 0 2 2 good, .perform 0, .enable 1 false, .begin 1 4 4 good, .perform 1,
    .begin 1 5 5 good, .perform 1, .perform 1, .begin 0 5 5 good, .perform 0, .perform 0]

/-- Node 0 shows `False/Error`; a second reconcile of it still sees `True/Validating`, at version 2,
and finds nothing wrong.  Meanwhile node 1 publishes `True/Validating`, and sees the `False/Error`.
-/
def staleReconcile : List (Step (Fin 3)) := requestNode0 ++
  [.begin 0 2 2 bad, .perform 0, .perform 0, .begin 0 2 2 good,
    .enable 1 false, .begin 1 5 5 good, .perform 1, .begin 1 6 6 good, .perform 0, .perform 1]

end Sample

open Sample in
/-- After the run node 0 has been drained, and no other node is critical. -/
theorem at_most_one_critical_sample : ∃ s,
    (maintenance roles).run (System.init nodes) oneAfterTheOther = some s ∧
    (s.live 0).isPhase true [.evacuating] = true ∧ (s.live 1).isPhase false [.error] = true ∧
    ∀ m, (s.live m).isCritical = true → 0 = m := by
  refine ⟨_, Machine.run_get (by decide), by decide, by decide,
    fun m hm => ?_⟩
  exact at_most_one_critical roles (by decide) nodes (fun _ => rfl) oneAfterTheOther _
    (by decide) (Machine.run_get _) 0 m rfl rfl (by decide) hm

open Sample in
/-- **A stale reconcile brings two nodes to `True/Draining`.** -/
theorem two_nodes_drain :
    ((maintenance roles).run (System.init nodes) staleReconcile).map
      (fun s => ((s.live 0).condition, (s.live 1).condition)) =
    some (some .draining, some .draining) := by
  decide

end Maintenance

end Harvester
