import Harvester.Control.Machine
import Harvester.Node.Down

/-!
# Runs of the node-down controller

Steps of the controller that read some version of the node, with every request refused or its answer
lost, among changes of the node by others.

A step that reads the drain taint without the `Drained` condition dereferences a nil pointer
(`crashes_iff`).  `drain_protocol` says when this does not happen and that the out-of-service taint
is added then; `drain_stuck` shows a node that stays with the first taint for ever.

A step that reads the status `False` of the `Ready` condition does nothing.  `down_alike` says that
apart from such steps `False` and `Unknown` make no difference over whole runs, and
`false_is_not_down` shows a node that stays `False` and is never tainted.
-/

namespace Harvester

open Control Action

namespace NodeDown

/-! ### Steps -/

/-- A reconcile, or a change by others. -/
inductive Event where
  /-- A reconcile that reads a version of the node. -/
  | onNodeChanged (number : Nat) (env : Env)
  | change (node : Node)

/-- One step. -/
def World.next (w : World) : Event → Option World
  | .onNodeChanged number env => do
    guard (number ≤ w.versions.now)
    pure ((onNodeChanged env (w.version number)).run w).2
  | .change node => some { w with versions := w.versions.push node }

/-- The system. -/
def machine : Machine World Event := ⟨World.next⟩

variable {env : Env} {v : Version} {node : Node} {w w' : World} {e : Event}
  {cond : NodeCondition} {policy : VMForceResetPolicy}

/-- The controller takes the node for down. -/
structure Acts (env : Env) (node : Node) (cond : NodeCondition) (policy : VMForceResetPolicy) :
    Prop where
  alive : node.deleting = false
  ready : findNodeStatusCondition node.conditions nodeReady = some cond
  unknown : cond.status = .unknown
  noUpgrade : isOnUpgrade env = false
  decoded : decodeVMForceResetPolicy env.policy = .ok policy
  enabled : policy.enable = true

/-- The action does nothing, and does not crash. -/
def Inert (m : Handler Unit) : Prop :=
  ∀ w, (m.run w).2 = w ∧ ¬ Guarded.Crashes (m.run w).1

theorem wrap_eq_crash (text : String) (x : Halt Err) : wrap text x = .crash ↔ x = .crash := by
  cases x <;> simp [wrap]

theorem Inert.pure : Inert (Pure.pure ()) := fun _ => ⟨rfl, Guarded.not_crashes_ok⟩

theorem Inert.fail (err : Err) : Inert (fail (.error err)) :=
  fun w => ⟨rfl, Guarded.Steady.fail err w⟩

theorem checkNodeUnknown_of_decoded (v : Version) (cond : NodeCondition)
    (hpolicy : decodeVMForceResetPolicy env.policy = .ok policy) :
    checkNodeUnknown env v cond =
      if policy.enable then drainNode env v cond policy else pure () := by
  unfold checkNodeUnknown
  rw [hpolicy]
  rfl

theorem onNodeChanged_of_acts (h : Acts env v.node cond policy) :
    onNodeChanged env v =
      mapError (wrap ("failed to check node ready for node " ++ v.node.name))
        (drainNode env v cond policy) := by
  unfold onNodeChanged checkNodeReady
  rw [h.ready]
  simp only [h.alive, h.noUpgrade, h.unknown, Bool.false_eq_true, if_false]
  rw [checkNodeUnknown_of_decoded v cond h.decoded, if_pos h.enabled]

/-- **What a reconcile does**: it drains the node, resets it, or does nothing. -/
theorem onNodeChanged_cases (env : Env) (v : Version) :
    (∃ cond policy, Acts env v.node cond policy) ∨
      (∃ cond text, findNodeStatusCondition v.node.conditions nodeReady = some cond ∧
        cond.status = .true ∧ onNodeChanged env v = mapError (wrap text) (resetNode env v)) ∨
      Inert (onNodeChanged env v) := by
  unfold onNodeChanged checkNodeReady
  cases halive : v.node.deleting with
  | true => exact .inr (.inr Inert.pure)
  | false =>
    cases hready : findNodeStatusCondition v.node.conditions nodeReady with
    | none => exact .inr (.inr (Inert.fail _))
    | some cond =>
      cases hupgrade : isOnUpgrade env with
      | true => exact .inr (.inr Inert.pure)
      | false =>
        simp only
        cases hstatus : cond.status with
        | true => exact .inr (.inl ⟨cond, _, rfl, hstatus, rfl⟩)
        | false => exact .inr (.inr Inert.pure)
        | other s => exact .inr (.inr (Inert.fail _))
        | unknown =>
          cases hpolicy : decodeVMForceResetPolicy env.policy with
          | error err =>
            refine .inr (.inr ?_)
            unfold checkNodeUnknown
            rw [hpolicy]
            exact Inert.fail _
          | ok policy =>
            cases henable : policy.enable with
            | true => exact .inl ⟨cond, policy, halive, hready, hstatus, hupgrade, hpolicy, henable⟩
            | false =>
              rw [checkNodeUnknown_of_decoded v cond hpolicy, henable]
              exact .inr (.inr Inert.pure)

/-! ### Crashes -/

section

open Guarded

variable (env v)

/-- The node has the drain taint and no `Drained` condition. -/
def Exposed (node : Node) : Prop :=
  (getNodeTaint node.taints nodeDrainTaintDefaultKey).isSome ∧
    findNodeStatusCondition node.conditions harvesterNodeCondDrained = none
  deriving Decidable

theorem steady_store (node : Node) (number : Nat) (f : Node → Node) :
    Steady (store node number f) := by
  intro w
  unfold run store
  split
  · exact not_crashes_ok
  · exact fun h => by cases h

theorem steady_update : Steady (update env v) :=
  (steady_store _ _ _).request

theorem steady_updateStatus : Steady (updateStatus env v) :=
  (steady_store _ _ _).request

theorem steady_addTaints (taints : List Taint) :
    Steady (addTaints env v taints) := by
  unfold addTaints
  split
  · exact steady_update _ _
  · exact Steady.pure v

theorem steady_markDrained : Steady (markDrained env v) :=
  (steady_updateStatus _ _).bind fun _ => Steady.pure ()

theorem steady_triggerMigration : Steady (triggerMigration env v) :=
  ((steady_addTaints _ _ _).mapError (wrap_eq_crash _)).bind fun _ =>
    ((steady_updateStatus _ _).mapError (wrap_eq_crash _)).bind fun _ => Steady.pure ()

theorem steady_cleanup : Steady (cleanup env v) := by
  have hforce : Steady (forceNodeCleanup env v) :=
    ((steady_addTaints _ _ _).mapError (wrap_eq_crash _)).bind fun _ => Steady.pure ()
  exact (hforce.mapError (wrap_eq_crash _)).bind fun _ => steady_markDrained _ _

theorem steady_enqueueAfter (interval : Int) : Steady (enqueueAfter interval) :=
  fun _ => not_crashes_ok

theorem steady_resetNode : Steady (resetNode env v) := by
  have hremove (keys : List String) : Steady (removeTaints env v keys) := by
    unfold removeTaints
    dsimp only
    split
    · exact (steady_update _ _).bind fun _ => Steady.pure ()
    · exact Steady.pure ()
  have hforget : Steady (removeHarvesterNodeDrainedCond env v) :=
    (steady_updateStatus _ _).bind fun _ => Steady.pure ()
  refine ((hremove _).mapError (wrap_eq_crash _)).bind fun _ => ?_
  split
  · exact hforget.mapError (wrap_eq_crash _)
  · exact Steady.pure ()

theorem steady_addKubevirtTaintAfterExtraTimeout (cond : NodeCondition)
    (extraTime : Int) : Steady (addKubevirtTaintAfterExtraTimeout env v cond extraTime) := by
  unfold addKubevirtTaintAfterExtraTimeout
  split
  · exact Steady.pure ()
  split
  · exact steady_enqueueAfter _
  · exact steady_triggerMigration _ _

theorem crashes_waitAndAddOutOfServiceTaint (drainCondition : Option NodeCondition)
    (vmMigrationTimeout : Int) (w : World) :
    Crashes ((waitAndAddOutOfServiceTaint env v drainCondition vmMigrationTimeout).run w).1 ↔
      drainCondition = none := by
  cases drainCondition with
  | none => exact ⟨fun _ => rfl, fun _ => rfl⟩
  | some c =>
    have hsteady : Steady (waitAndAddOutOfServiceTaint env v (some c) vmMigrationTimeout) := by
      refine Steady.bind (fun _ => not_crashes_ok) fun cond => ?_
      split
      · exact steady_enqueueAfter _
      · exact steady_cleanup _ _
    exact iff_of_false (hsteady w) (by simp)

theorem crashes_drainNode (cond : NodeCondition)
    (policy : VMForceResetPolicy) (w : World) :
    Crashes ((drainNode env v cond policy).run w).1 ↔ Exposed v.node := by
  unfold drainNode addMissingTaint Exposed
  cases hdrain : getNodeTaint v.node.taints nodeDrainTaintDefaultKey with
  | none =>
    refine iff_of_false ?_ (by simp)
    exact steady_addKubevirtTaintAfterExtraTimeout _ _ _ _ w
  | some t =>
    cases hoos : getNodeTaint v.node.taints taintNodeOutOfService with
    | none =>
      refine (crashes_waitAndAddOutOfServiceTaint _ _ _ _ w).trans ?_
      simp
    | some t' =>
      cases hcond : findNodeStatusCondition v.node.conditions harvesterNodeCondDrained with
      | none => exact iff_of_true rfl (by simp)
      | some c =>
        have hread : Steady (Action.ofExcept (deref (some c)) : Handler NodeCondition) :=
          fun _ => not_crashes_ok
        refine iff_of_false (hread.bind (fun c => ?_) w) (by simp)
        split
        · exact steady_markDrained _ _
        · exact Steady.pure ()

/-- **A step crashes exactly if it reads a node that is down and exposed.** -/
theorem crashes_iff (w : World) :
    Crashes ((onNodeChanged env v).run w).1 ↔
      Exposed v.node ∧ ∃ cond policy, Acts env v.node cond policy := by
  have hacts {cond : NodeCondition} {policy : VMForceResetPolicy}
      (h : Acts env v.node cond policy) :
      Crashes ((onNodeChanged env v).run w).1 ↔ Exposed v.node := by
    rw [onNodeChanged_of_acts h]
    exact (crashes_mapError (wrap_eq_crash _)).trans (crashes_drainNode env v cond policy w)
  refine ⟨fun hcrash => ?_, ?_⟩
  · obtain ⟨cond, policy, h⟩ | ⟨cond, text, -, -, hreset⟩ | hinert := onNodeChanged_cases env v
    · exact ⟨(hacts h).1 hcrash, cond, policy, h⟩
    · rw [hreset] at hcrash
      exact absurd hcrash ((steady_resetNode env v).mapError (wrap_eq_crash _) w)
    · exact absurd hcrash (hinert w).2
  · rintro ⟨hexposed, cond, policy, h⟩
    exact (hacts h).2 hexposed

end

theorem triple_store {P : World → Prop} {Q : Except (Halt Err) Version → World → Prop}
    {f : Node → Node} {number : Nat}
    (hcurrent : ∀ w, P w → number = w.versions.now →
      Q (.ok ⟨w.versions.now + 1, f w.versions.live⟩)
        { w with versions := w.versions.push (f w.versions.live) })
    (hstale : ∀ w e, P w → number ≠ w.versions.now → Q (.error e) w) :
    Triple P (store node number f) Q := by
  intro w hw
  unfold run store
  split
  · next h => exact hcurrent w hw h
  · next h => exact hstale w _ hw h

/-! ### The drain taint and the condition -/

/-- A node with the drain taint has the `Drained` condition. -/
def Covered (node : Node) : Prop := ¬ Exposed node
  deriving Decidable

theorem covered_iff : Covered node ↔
    ((getNodeTaint node.taints nodeDrainTaintDefaultKey).isSome →
      (findNodeStatusCondition node.conditions harvesterNodeCondDrained).isSome) := by
  simp [Covered, Exposed, Option.isSome_iff_ne_none]

theorem type_of_find {conditions : List NodeCondition} {t : String}
    (h : findNodeStatusCondition conditions t = some cond) : cond.type = t := by
  simpa using List.find?_some h

theorem find_setNodeStatusCondition (now : Int) (node : Node) (condType : String)
    (status : ConditionStatus) (reason message : String) :
    (findNodeStatusCondition
      (setNodeStatusCondition now node condType status reason message).conditions
      condType).isSome := by
  unfold setNodeStatusCondition
  cases hfind : findNodeStatusCondition node.conditions condType with
  | none => simp [findNodeStatusCondition]
  | some c =>
    have htype := type_of_find hfind
    have hmem : c ∈ node.conditions := List.mem_of_find?_eq_some hfind
    simp only [findNodeStatusCondition, List.find?_isSome, List.mem_map, decide_eq_true_eq]
    exact ⟨_, ⟨c, hmem, if_pos htype⟩, htype⟩

theorem covered_setNodeStatusCondition (now : Int) (taints : List Taint) (node : Node)
    (status : ConditionStatus) (reason message : String) :
    Covered { node with
      taints
      conditions := (setNodeStatusCondition now node harvesterNodeCondDrained status reason
        message).conditions } :=
  covered_iff.2 fun _ => find_setNodeStatusCondition ..

theorem covered_of_noTaint (h : getNodeTaint node.taints nodeDrainTaintDefaultKey = none) :
    Covered node :=
  covered_iff.2 fun hsome => by simp [h] at hsome

theorem getNodeTaint_filter {taints : List Taint} {keys : List String} {key : String}
    (hkey : key ∈ keys) : getNodeTaint (taints.filter fun t => t.key ∉ keys) key = none := by
  simp only [getNodeTaint, List.find?_eq_none, List.mem_filter, decide_eq_true_eq]
  rintro t ⟨-, ht⟩ rfl
  exact ht hkey

/-- The version that is current. -/
def World.current (w : World) : Version := w.version w.versions.now

/-- The node is covered, and `v` is one of its versions. -/
structure Covers (v : Version) (w : World) : Prop where
  covered : Covered w.versions.live
  reads : w.versions.At v.number v.node

theorem Covers.live (h : Covers v w) (hnow : v.number = w.versions.now) :
    w.versions.live = v.node := by
  rw [History.live, ← hnow, h.reads.get]

/-- A request that is based on `v` has no effect if there is a newer version. -/
theorem covers_request {P : World → Prop} {f : Node → Node} {fault : Fault} {err : Halt Err}
    (hP : ∀ w, P w → Covers v w)
    (hf : ∀ w, P w → v.number = w.versions.now → Covered (f v.node)) :
    Triple P (request fault err (store node v.number f)) fun _ => Covers v := by
  refine .request (triple_store (fun w hw hnow => ?_) fun w _ hw _ => hP w hw) hP
    fun _ _ h => h
  refine ⟨?_, (hP w hw).reads.push _⟩
  rw [History.live_push, (hP w hw).live hnow]
  exact hf w hw hnow

theorem covers_markDrained : Preserves (Covers v) (markDrained env v) :=
  Preserves.bind
    (covers_request (fun _ h => h) fun _ _ _ => covered_setNodeStatusCondition _ _ _ _ _ _)
    fun _ => .pure ()

theorem getNodeTaint_append_nonGracefulTaint (taints : List Taint) :
    getNodeTaint (taints ++ [nonGracefulTaint]) nodeDrainTaintDefaultKey =
      getNodeTaint taints nodeDrainTaintDefaultKey := by
  have hne : ¬ taintNodeOutOfService = nodeDrainTaintDefaultKey := by decide
  simp [getNodeTaint, nonGracefulTaint, hne]

theorem covers_cleanup : Preserves (Covers v) (cleanup env v) := by
  have htaint : Preserves (Covers v) (addTaints env v [nonGracefulTaint]) := by
    unfold addTaints
    split
    · refine covers_request (fun _ h => h) fun w hw hnow => ?_
      have hcovered := hw.live hnow ▸ hw.covered
      rw [covered_iff] at hcovered ⊢
      rwa [getNodeTaint_append_nonGracefulTaint]
    · exact .pure v
  exact (htaint.mapError.bind fun _ => .pure ()).mapError.bind fun _ => covers_markDrained

/-- A request answers with the current version, or fails and leaves the node covered. -/
def Answers : Except (Halt Err) Version → World → Prop
  | .ok v, w => v.number = w.versions.now
  | .error _, w => Covered w.versions.live

/-- The taint and the condition are both written when their requests go through. -/
theorem covered_triggerMigration (hlost : env.update ≠ .lost)
    (hrefused : env.updateStatus ≠ .refused) :
    Triple (Covers v) (triggerMigration env v) fun _ w => Covered w.versions.live := by
  have htaint : Triple (Covers v) (addTaints env v [kubevirtDrainTaint]) Answers := by
    unfold addTaints
    rw [if_pos (by simp)]
    refine .requestCases (fun _ => ?_) (fun _ _ hw => hw.covered) (absurd · hlost)
    exact triple_store (fun _ _ _ => rfl) fun _ _ hw _ => hw.covered
  refine .bind (htaint.mapError (R := Answers) fun r w h => by cases r <;> exact h)
    (fun v' => ?_) fun _ _ h => h
  refine .bind (Q := fun _ w => Covered w.versions.live) ?_ (fun _ => .pure fun _ h => h)
    fun _ _ h => h
  refine .mapError (Triple.requestState (triple_store (fun w _ _ => ?_)
    fun _ _ hw hne => absurd hw hne) hrefused) fun _ _ h => h
  rw [History.live_push]
  exact covered_setNodeStatusCondition _ _ _ _ _ _

theorem covered_drainNode (cond : NodeCondition) (policy : VMForceResetPolicy)
    (hsafe : getNodeTaint v.node.taints nodeDrainTaintDefaultKey = none →
      calculateRequeueInterval env.now cond policy.period ≤ 0 →
      env.update ≠ .lost ∧ env.updateStatus ≠ .refused) :
    Triple (Covers v) (drainNode env v cond policy) fun _ w => Covered w.versions.live := by
  have hmissing (drainCondition : Option NodeCondition) : Triple (Covers v)
      (addMissingTaint env v cond drainCondition policy) fun _ w => Covered w.versions.live := by
    unfold addMissingTaint
    split
    · next hnone =>
      unfold addKubevirtTaintAfterExtraTimeout
      split
      · exact fun _ hw => hw.covered
      split
      · exact fun _ hw => hw.covered
      · next hpassed =>
        obtain ⟨hlost, hrefused⟩ := hsafe hnone (Int.not_lt.1 hpassed)
        exact covered_triggerMigration hlost hrefused
    split
    · refine .bind (Preserves.ofExcept _) (fun c => ?_) fun _ _ hw => hw.covered
      split
      · exact fun _ hw => hw.covered
      · exact fun w hw => (covers_cleanup w hw).covered
    · exact fun _ hw => hw.covered
  unfold drainNode
  dsimp only
  split
  · refine .bind (Preserves.ofExcept _) (fun c => ?_) fun _ _ hw => hw.covered
    split
    · exact fun w hw => (covers_markDrained w hw).covered
    · exact hmissing _
  · exact hmissing _

theorem covered_resetNode :
    Triple (Covers v) (resetNode env v) fun _ w => Covered w.versions.live := by
  have hkey : nodeDrainTaintDefaultKey ∈ [nodeDrainTaintDefaultKey, taintNodeOutOfService] :=
    List.mem_cons_self
  have hcovers : Preserves (Covers v)
      (removeTaints env v [nodeDrainTaintDefaultKey, taintNodeOutOfService]) := by
    unfold removeTaints
    dsimp only
    split
    · exact .bind (covers_request (fun _ h => h) fun _ _ _ =>
        covered_of_noTaint (getNodeTaint_filter hkey)) fun _ => .pure ()
    · exact .pure ()
  -- Without the taint there is nothing to remove, and otherwise there is a newer version then.
  have hremoved : Ensures (Covers v)
      (removeTaints env v [nodeDrainTaintDefaultKey, taintNodeOutOfService])
      fun _ w => v.number = w.versions.now →
        getNodeTaint v.node.taints nodeDrainTaintDefaultKey = none := by
    unfold removeTaints
    dsimp only
    split
    · refine .bind (Q := fun _ w => v.number ≠ w.versions.now) (Ensures.request
        (triple_store (fun w _ hnow _ _ => ?_) fun _ _ _ _ _ h => by cases h))
        fun _ => .pure fun _ hne hnow => absurd hnow hne
      exact fun h => Nat.succ_ne_self _ (h.symm.trans hnow)
    · next heq =>
      refine .pure fun w hw _ => ?_
      rw [not_not.1 heq]
      exact getNodeTaint_filter hkey
  refine .bind (Triple.and hcovers.mapError hremoved.mapError) (fun _ => ?_)
    fun _ _ hw => hw.1.covered
  split
  · refine .mapError (Q := fun _ => Covers v) ?_ fun _ _ hw => hw.covered
    exact .bind (covers_request (v := v) (fun _ hw => hw.1) fun w hw hnow =>
      covered_of_noTaint (hw.2 _ rfl hnow)) (fun _ => .pure fun _ hw => hw) fun _ _ hw => hw
  · exact .pure fun _ hw => hw.1.covered

/-- The node is down, its period has passed, and it does not have the drain taint yet. -/
def Triggers (env : Env) (node : Node) : Prop :=
  ∃ cond policy, Acts env node cond policy ∧
    getNodeTaint node.taints nodeDrainTaintDefaultKey = none ∧
    calculateRequeueInterval env.now cond policy.period ≤ 0

/-- A reconcile reads the current version, and if it triggers the migration, its two requests do not
fail between the taint and the condition; others keep the node covered. -/
def World.Safe (w : World) : Event → Prop
  | .onNodeChanged number env => number = w.versions.now ∧
      (Triggers env w.versions.live → env.update ≠ .lost ∧ env.updateStatus ≠ .refused)
  | .change node => Covered node

theorem next_onNodeChanged {number : Nat}
    (h : machine.next w (.onNodeChanged number env) = some w') :
    w' = ((onNodeChanged env (w.version number)).run w).2 := by
  simp only [machine, World.next, Option.bind_eq_bind, Option.bind_eq_some_iff] at h
  obtain ⟨_, -, h⟩ := h
  exact (Option.some.inj h).symm

/-- **A safe step keeps the node covered.** -/
theorem covered_next (hcovered : Covered w.versions.live) (hsafe : w.Safe e)
    (hnext : machine.next w e = some w') : Covered w'.versions.live := by
  cases e with
  | change node =>
    cases hnext
    rw [History.live_push]
    exact hsafe
  | onNodeChanged number env =>
    obtain ⟨rfl, hsafe⟩ := hsafe
    rw [next_onNodeChanged hnext]
    have hcovers : Covers w.current w := ⟨hcovered, Nat.le_refl _, rfl⟩
    show Covered ((onNodeChanged env w.current).run w).2.versions.live
    obtain ⟨cond, policy, h⟩ | ⟨cond, text, -, -, hreset⟩ | hinert :=
      onNodeChanged_cases env w.current
    · rw [onNodeChanged_of_acts h]
      exact covered_drainNode cond policy (fun hnone hpassed => hsafe ⟨_, _, h, hnone, hpassed⟩) w
        hcovers
    · rw [hreset]
      exact covered_resetNode w hcovers
    · rw [(hinert w).1]
      exact hcovered

/-! ### The out-of-service taint -/

theorem calculateRequeueInterval_le {now timeout : Int} (htimeout : 0 < timeout)
    (hpassed : cond.lastTransitionTime + timeout * second ≤ now) :
    calculateRequeueInterval now cond timeout ≤ 0 := by
  have hmod : (timeout * second).bmod (2 ^ 64) ≤ timeout * second := by
    have hpos : 0 ≤ timeout * second := Int.mul_nonneg (Int.le_of_lt htimeout) (by decide)
    rw [Int.bmod_def]
    split <;> omega
  unfold calculateRequeueInterval saturate
  omega

/-- The node has the out-of-service taint. -/
def OutOfService (w : World) : Prop :=
  (getNodeTaint w.versions.live.taints taintNodeOutOfService).isSome

theorem preserves_markDrained : Preserves OutOfService (markDrained env v) := by
  refine .bind (Preserves.request (triple_store (fun w hw _ => ?_) fun _ _ hw _ => hw))
    fun _ => .pure ()
  rw [OutOfService, History.live_push]
  exact hw

theorem outOfService_cleanup (hupdate : env.update ≠ .refused) :
    Triple (fun w => v.number = w.versions.now) (cleanup env v) fun _ => OutOfService := by
  have htaint : Triple (fun w => v.number = w.versions.now) (addTaints env v [nonGracefulTaint])
      fun _ => OutOfService := by
    unfold addTaints
    rw [if_pos (by simp)]
    refine .requestState (triple_store (fun w _ _ => ?_) fun _ _ hw hne => absurd hw hne)
      hupdate
    simp [OutOfService, getNodeTaint, nonGracefulTaint]
  refine .bind (Q := fun _ => OutOfService) ?_ (fun _ => preserves_markDrained) fun _ _ h => h
  refine .mapError (Q := fun _ => OutOfService) ?_ fun _ _ h => h
  exact .bind (htaint.mapError (R := fun _ => OutOfService) fun _ _ h => h)
    (fun _ => .pure fun _ h => h) fun _ _ h => h

/-- **A covered node that is down gets the out-of-service taint after the migration timeout.** -/
theorem outOfService_of_passed (hacts : Acts env w.versions.live cond policy)
    (hdrain : (getNodeTaint w.current.node.taints nodeDrainTaintDefaultKey).isSome)
    {drained : NodeCondition}
    (hcond : findNodeStatusCondition w.current.node.conditions harvesterNodeCondDrained =
      some drained)
    (hpassed : drained.lastTransitionTime + policy.vmMigrationTimeout * second ≤ env.now)
    (hupdate : env.update ≠ .refused) : OutOfService ((onNodeChanged env w.current).run w).2 := by
  rw [onNodeChanged_of_acts (v := w.current) hacts]
  show OutOfService ((drainNode env w.current cond policy).run w).2
  obtain ⟨t, hdrain⟩ := Option.isSome_iff_exists.1 hdrain
  unfold drainNode addMissingTaint
  simp only [hcond, hdrain, Guarded.deref_some, ofExcept_ok_bind]
  cases hoos : getNodeTaint w.current.node.taints taintNodeOutOfService with
  | some t' =>
    -- Both taints are there, and the status is written at most.
    have hkept : OutOfService w := Option.isSome_iff_exists.2 ⟨t', hoos⟩
    simp only [Option.isSome_some, Bool.and_self, if_true]
    split
    · exact preserves_markDrained w hkept
    · exact hkept
  | none =>
    have hzero := calculateRequeueInterval_le policy.vmMigrationTimeout_pos hpassed
    simp only [waitAndAddOutOfServiceTaint, Guarded.deref_some, ofExcept_ok_bind,
      if_neg (Int.not_lt.2 hzero)]
    exact outOfService_cleanup (v := w.current) hupdate w rfl

/-- A step dereferences a nil pointer. -/
def World.Crashes (w : World) : Event → Prop
  | .onNodeChanged number env => Guarded.Crashes ((onNodeChanged env (w.version number)).run w).1
  | .change _ => False

/-- **The drain protocol.**  In every safe run from a covered node no step crashes; and after it, a
node with the drain taint has the `Drained` condition, and the next reconcile with a healthy API
adds the out-of-service taint once the migration timeout has passed. -/
theorem drain_protocol {events : List Event} (hcovered : Covered w.versions.live)
    (hsafe : machine.Along World.Safe w events) :
    machine.Along (fun w e => ¬ w.Crashes e) w events ∧
      ∀ w', machine.run w events = some w' →
        ∀ env cond policy, Acts env w'.versions.live cond policy → env.update = .none →
          (getNodeTaint w'.versions.live.taints nodeDrainTaintDefaultKey).isSome →
          ∃ drained, findNodeStatusCondition w'.versions.live.conditions harvesterNodeCondDrained =
              some drained ∧
            (drained.lastTransitionTime + policy.vmMigrationTimeout * second ≤ env.now →
              (getNodeTaint ((onNodeChanged env w'.current).run w').2.versions.live.taints
                taintNodeOutOfService).isSome) := by
  have hstep (w : World) (e : Event) (w' : World) (h : Covered w.versions.live) (hs : w.Safe e)
      (hnext : machine.next w e = some w') : Covered w'.versions.live := covered_next h hs hnext
  refine ⟨Machine.along_of_invariant hstep (fun w e h hs => ?_) hcovered hsafe, ?_⟩
  · cases e with
    | change node => exact id
    | onNodeChanged number env =>
      obtain ⟨rfl, -⟩ := hs
      exact fun hcrash => h ((crashes_iff env _ w).1 hcrash).1
  · intro w' hrun env cond policy hacts hupdate hdrain
    have hcovered' := Machine.run_invariant hstep hcovered hsafe hrun
    obtain ⟨drained, hcond⟩ := Option.isSome_iff_exists.1 (covered_iff.1 hcovered' hdrain)
    refine ⟨drained, hcond, fun hpassed => ?_⟩
    exact outOfService_of_passed hacts hdrain hcond hpassed (by simp [hupdate])

namespace Sample

/-- A node whose `Ready` condition has had a status since time zero. -/
def downNode (status : ConditionStatus) : Node :=
  ⟨"node1", false, [], [⟨nodeReady, status, 0, 0, "", ""⟩]⟩

def world (status : ConditionStatus) : World := ⟨History.init (downNode status), []⟩

/-- A healthy API; the node is down after ten seconds and drained a minute later. -/
def healthy (now : Int) : Env :=
  ⟨now * second, .ok ⟨true, 10, 60⟩, .ok [], none, .none, .none, .other "unavailable"⟩

/-- The status cannot be written. -/
def noStatus (now : Int) : Env := { healthy now with updateStatus := .refused }

/-- The policy of these environments. -/
def resetPolicy : VMForceResetPolicy := ⟨true, 10, 60, by decide, by decide⟩

end Sample

open Sample in
/-- The node is drained after ten seconds, and gets the out-of-service taint after seventy. -/
theorem drain_protocol_healthy : ∃ w,
    machine.run (world .unknown) [.onNodeChanged 0 (healthy 10)] = some w ∧
      (getNodeTaint ((onNodeChanged (healthy 70) w.current).run w).2.versions.live.taints
        taintNodeOutOfService).isSome := by
  have hsafe : machine.Along World.Safe (world .unknown) [.onNodeChanged 0 (healthy 10)] :=
    ⟨⟨rfl, fun _ => by decide⟩, fun _ _ => trivial⟩
  obtain ⟨drained, hcond, hout⟩ := (drain_protocol (by decide) hsafe).2 _
    (Machine.run_get (by decide)) (healthy 70) ⟨nodeReady, .unknown, 0, 0, "", ""⟩
    resetPolicy ⟨by decide, by decide, rfl, rfl, rfl, rfl⟩ rfl (by decide)
  obtain rfl : ⟨harvesterNodeCondDrained, .false, 10 * second, 10 * second,
      harvesterNodeDrainedCondReasonDraining, harvesterNodeDrainedCondMsg⟩ = drained :=
    Option.some.inj (.trans (by decide) hcond)
  exact ⟨_, Machine.run_get _, hout (by decide)⟩

theorem drainNode_of_exposed (hexposed : Exposed v.node) (cond : NodeCondition)
    (policy : VMForceResetPolicy) : ((drainNode env v cond policy).run w).2 = w := by
  obtain ⟨hdrain, hcond⟩ := hexposed
  obtain ⟨t, hdrain⟩ := Option.isSome_iff_exists.1 hdrain
  unfold drainNode addMissingTaint
  simp only [hcond, hdrain]
  cases getNodeTaint v.node.taints taintNodeOutOfService <;> rfl

theorem unchanged_of_exposed (hexposed : Exposed w.versions.live)
    (hready : findNodeStatusCondition w.versions.live.conditions nodeReady = some cond)
    (hstatus : cond.status = .unknown) (env : Env) :
    ((onNodeChanged env w.current).run w).2 = w := by
  obtain ⟨cond', policy, h⟩ | ⟨cond', text, hready', hstatus', -⟩ | hinert :=
    onNodeChanged_cases env w.current
  · rw [onNodeChanged_of_acts h]
    exact drainNode_of_exposed hexposed cond' policy
  · obtain rfl := Option.some.inj (hready.symm.trans hready')
    exact absurd (hstatus.symm.trans hstatus') (by simp)
  · exact (hinert w).1

open Sample in
/-- **A node that is stuck**: the status cannot be written once.  From then on every step that takes
the node for down crashes, and the out-of-service taint is never added. -/
theorem drain_stuck : ∃ w,
    machine.run (world .unknown) [.onNodeChanged 0 (noStatus 10)] = some w ∧
      (∃ cond, Acts (healthy 1000) w.versions.live cond resetPolicy) ∧
      ∀ events w',
        machine.Along (fun w e => ∃ env, e = .onNodeChanged w.versions.now env) w events →
        machine.run w events = some w' →
        getNodeTaint w'.versions.live.taints taintNodeOutOfService = none ∧
          ∀ env cond policy, Acts env w'.versions.live cond policy →
            Guarded.Crashes ((onNodeChanged env w'.current).run w').1 := by
  obtain ⟨w, hw, hexposed, halive, hready, hnone⟩ : ∃ w,
      machine.run (world .unknown) [.onNodeChanged 0 (noStatus 10)] = some w ∧
      Exposed w.versions.live ∧ w.versions.live.deleting = false ∧
      findNodeStatusCondition w.versions.live.conditions nodeReady = some ⟨nodeReady, .unknown, 0,
        0, "", ""⟩ ∧ getNodeTaint w.versions.live.taints taintNodeOutOfService = none := by
    decide
  refine ⟨w, hw, ⟨_, halive, hready, rfl, rfl, rfl, rfl⟩, fun events w' hsteps hrun' => ?_⟩
  have hsame : w' = w := by
    refine Machine.run_invariant (I := fun w' => w' = w) ?_ rfl hsteps hrun'
    rintro _ e w'' rfl ⟨env, rfl⟩ hnext
    exact (next_onNodeChanged hnext).trans (unchanged_of_exposed hexposed hready rfl env)
  subst hsame
  exact ⟨hnone, fun env cond policy hacts =>
    (crashes_iff env _ _).2 ⟨hexposed, cond, policy, hacts⟩⟩

/-! ### The status `False` in place of `Unknown` -/

/-- The `Ready` condition with the status `Unknown` in place of `False`. -/
def NodeCondition.asUnknown (c : NodeCondition) : NodeCondition :=
  if c.type = nodeReady ∧ c.status = .false then { c with status := .unknown } else c

/-- The same for the conditions of a node. -/
def Node.asUnknown (node : Node) : Node :=
  { node with conditions := node.conditions.map NodeCondition.asUnknown }

/-- The same for a version. -/
def Version.asUnknown (v : Version) : Version := { v with node := v.node.asUnknown }

/-- The same for all versions. -/
def World.asUnknown (w : World) : World := { w with versions := w.versions.map Node.asUnknown }

/-- The same for a change. -/
def Event.asUnknown : Event → Event
  | .onNodeChanged number env => .onNodeChanged number env
  | .change node => .change node.asUnknown

/-- The step does not read the status `False`, or does not look at it: the node is being deleted, or
there is an upgrade, or the policy is not enabled. -/
def World.Alike (w : World) : Event → Prop
  | .onNodeChanged number env =>
    (∃ cond, findNodeStatusCondition (w.versions.get number).conditions nodeReady = some cond ∧
        cond.status = .false) →
      (w.versions.get number).deleting = true ∨ isOnUpgrade env = true ∨
        ∃ policy, decodeVMForceResetPolicy env.policy = .ok policy ∧ policy.enable = false
  | .change _ => True

theorem World.alike_of_ne {number : Nat} (h : ∀ cond ∈ findNodeStatusCondition
    (w.versions.get number).conditions nodeReady, cond.status ≠ .false) :
    w.Alike (.onNodeChanged number env) :=
  fun ⟨cond, hcond, hfalse⟩ => absurd hfalse (h cond hcond)

@[simp] theorem NodeCondition.asUnknown_type (c : NodeCondition) : c.asUnknown.type = c.type := by
  unfold NodeCondition.asUnknown
  split <;> rfl

@[simp] theorem NodeCondition.asUnknown_lastTransitionTime (c : NodeCondition) :
    c.asUnknown.lastTransitionTime = c.lastTransitionTime := by
  unfold NodeCondition.asUnknown
  split <;> rfl

theorem NodeCondition.asUnknown_of_ne {c : NodeCondition} (h : c.type ≠ nodeReady) :
    c.asUnknown = c :=
  if_neg fun hc => h hc.1

theorem NodeCondition.asUnknown_status {c : NodeCondition} (h : c.status ≠ .false) :
    c.asUnknown = c :=
  if_neg fun hc => h hc.2

theorem drained_ne_ready : harvesterNodeCondDrained ≠ nodeReady := by decide

theorem find_asUnknown (conditions : List NodeCondition) (t : String) :
    findNodeStatusCondition (conditions.map NodeCondition.asUnknown) t =
      (findNodeStatusCondition conditions t).map NodeCondition.asUnknown := by
  unfold findNodeStatusCondition
  rw [List.find?_map]
  congr 2
  funext c
  simp

theorem find_drained_asUnknown (node : Node) :
    findNodeStatusCondition node.asUnknown.conditions harvesterNodeCondDrained =
      findNodeStatusCondition node.conditions harvesterNodeCondDrained := by
  refine (find_asUnknown node.conditions _).trans ?_
  cases hfind : findNodeStatusCondition node.conditions harvesterNodeCondDrained with
  | none => rfl
  | some c =>
    rw [Option.map_some, NodeCondition.asUnknown_of_ne (type_of_find hfind ▸ drained_ne_ready)]

theorem setNodeStatusCondition_asUnknown (now : Int) (node : Node) (status : ConditionStatus)
    (reason message : String) :
    setNodeStatusCondition now node.asUnknown harvesterNodeCondDrained status reason message =
      (setNodeStatusCondition now node harvesterNodeCondDrained
        status reason message).asUnknown := by
  unfold setNodeStatusCondition
  rw [find_drained_asUnknown]
  cases hfind : findNodeStatusCondition node.conditions harvesterNodeCondDrained with
  | none => simp [Node.asUnknown, NodeCondition.asUnknown, drained_ne_ready]
  | some c =>
    simp only [Node.asUnknown, List.map_map]
    congr 1
    refine List.map_congr_left fun c' _ => ?_
    simp only [Function.comp_apply, NodeCondition.asUnknown_type]
    split
    · exact (NodeCondition.asUnknown_of_ne (type_of_find hfind ▸ drained_ne_ready)).symm
    · rfl

section

open Control.Action (Simulates)

/-- The action does the same to both, up to the status in the world and in the result. -/
def Blind {α : Type} (g : α → α) (m : Version → Handler α) : Prop :=
  ∀ v, Simulates World.asUnknown g (m v) (m v.asUnknown)

variable (env)

theorem simulates_store {f f' : Node → Node} (v : Version)
    (hf : ∀ x, f' x.asUnknown = (f x).asUnknown) :
    Simulates World.asUnknown Version.asUnknown (store v.node v.number f)
      (store v.asUnknown.node v.asUnknown.number f') := by
  intro w
  unfold run store
  by_cases h : v.number = w.versions.now
  · rw [if_pos h, if_pos (show v.asUnknown.number = w.asUnknown.versions.now from h)]
    simp only [World.asUnknown, History.live_map, hf, ← History.push_map]
    rfl
  · rw [if_neg h, if_neg (show ¬ v.asUnknown.number = w.asUnknown.versions.now from h)]
    rfl

theorem blind_update : Blind Version.asUnknown (update env) :=
  fun v => .request (simulates_store v fun _ => rfl)

theorem blind_updateStatus : Blind Version.asUnknown (updateStatus env) :=
  fun v => .request (simulates_store v fun _ => rfl)

theorem blind_addTaints (taints : List Taint) :
    Blind Version.asUnknown (addTaints env · taints) := fun v =>
  .ite (fun _ => blind_update env ⟨v.number, { v.node with taints := v.node.taints ++ taints }⟩)
    fun _ => Simulates.pure v

theorem blind_createOrUpdateNodeCondition (status : ConditionStatus) (reason message : String) :
    Blind Version.asUnknown
      (createOrUpdateNodeCondition env · harvesterNodeCondDrained status reason message) := by
  intro v
  dsimp only [createOrUpdateNodeCondition]
  rw [show v.asUnknown.node = v.node.asUnknown from rfl, setNodeStatusCondition_asUnknown]
  exact blind_updateStatus env ⟨v.number,
    setNodeStatusCondition env.now v.node harvesterNodeCondDrained status reason message⟩

theorem blind_markDrained : Blind id (markDrained env) := fun v =>
  (blind_createOrUpdateNodeCondition env _ _ _ v).bind fun _ => Simulates.pure ()

theorem blind_triggerMigration : Blind id (triggerMigration env) := fun v =>
  (blind_addTaints env _ v).mapError.bind fun v =>
    (blind_createOrUpdateNodeCondition env _ _ _ v).mapError.bind fun _ => Simulates.pure ()

theorem blind_forceNodeCleanup : Blind id (forceNodeCleanup env) := fun v =>
  (blind_addTaints env _ v).mapError.bind fun _ => Simulates.pure ()

theorem blind_cleanup : Blind id (cleanup env) := fun v =>
  (blind_forceNodeCleanup env v).mapError.bind fun _ => blind_markDrained env v

theorem simulates_enqueueAfter (interval : Int) :
    Simulates World.asUnknown id (enqueueAfter interval) (enqueueAfter interval) := fun _ => rfl

theorem calculateRequeueInterval_asUnknown (now : Int) (cond : NodeCondition) (timeout : Int) :
    calculateRequeueInterval now cond.asUnknown timeout =
      calculateRequeueInterval now cond timeout := by
  simp [calculateRequeueInterval]

variable (v)

theorem simulates_addMissingTaint (cond : NodeCondition)
    (drainCondition : Option NodeCondition) (policy : VMForceResetPolicy) :
    Simulates World.asUnknown id (addMissingTaint env v cond drainCondition policy)
      (addMissingTaint env v.asUnknown cond.asUnknown drainCondition policy) := by
  unfold addMissingTaint addKubevirtTaintAfterExtraTimeout
  rw [calculateRequeueInterval_asUnknown]
  refine .ite (fun _ => ?_) fun _ => .ite (fun _ => ?_) fun _ => Simulates.pure ()
  · refine .ite (fun _ => Simulates.pure ()) fun _ => .ite (fun _ => ?_) fun _ => ?_
    · exact simulates_enqueueAfter _
    · exact blind_triggerMigration env v
  · refine .bind (g := id) ?_ fun c => .ite (fun _ => ?_) fun _ => ?_
    · cases drainCondition <;> exact Simulates.ofExcept _
    · exact simulates_enqueueAfter _
    · exact blind_cleanup env v

theorem simulates_drainNode (cond : NodeCondition)
    (policy : VMForceResetPolicy) :
    Simulates World.asUnknown id (drainNode env v cond policy)
      (drainNode env v.asUnknown cond.asUnknown policy) := by
  unfold drainNode
  rw [show v.asUnknown.node = v.node.asUnknown from rfl, find_drained_asUnknown]
  refine .ite (fun _ => ?_) fun _ => simulates_addMissingTaint env v cond _ policy
  refine .bind (g := id) ?_ fun c => .ite (fun _ => ?_) fun _ => ?_
  · cases findNodeStatusCondition v.node.conditions harvesterNodeCondDrained <;>
      exact Simulates.ofExcept _
  · exact blind_markDrained env v
  · exact simulates_addMissingTaint env v cond _ policy

theorem simulates_checkNodeUnknown (cond : NodeCondition) :
    Simulates World.asUnknown id (checkNodeUnknown env v cond)
      (checkNodeUnknown env v.asUnknown cond.asUnknown) := by
  cases hpolicy : decodeVMForceResetPolicy env.policy with
  | error err =>
    unfold checkNodeUnknown
    rw [hpolicy]
    exact .fail _
  | ok policy =>
    rw [checkNodeUnknown_of_decoded _ _ hpolicy, checkNodeUnknown_of_decoded _ _ hpolicy]
    split
    · exact simulates_drainNode env v cond policy
    · exact .pure ()

theorem filter_asUnknown (conditions : List NodeCondition) (t : String) :
    (conditions.map NodeCondition.asUnknown).filter (fun c => c.type ≠ t) =
      (conditions.filter fun c => c.type ≠ t).map NodeCondition.asUnknown := by
  rw [List.filter_map]
  congr 2
  funext c
  simp

theorem blind_resetNode : Blind id (resetNode env) := by
  intro v
  have hremove (keys : List String) : Simulates World.asUnknown id (removeTaints env v keys)
      (removeTaints env v.asUnknown keys) := by
    refine .ite (fun _ => ?_) fun _ => Simulates.pure ()
    exact (blind_update env ⟨v.number, { v.node with
      taints := v.node.taints.filter fun t => t.key ∉ keys }⟩).bind fun _ => Simulates.pure ()
  have hforget : Simulates World.asUnknown id (removeHarvesterNodeDrainedCond env v)
      (removeHarvesterNodeDrainedCond env v.asUnknown) := by
    unfold removeHarvesterNodeDrainedCond
    have h := blind_updateStatus env ⟨v.number, { v.node with
      conditions := v.node.conditions.filter fun c => c.type ≠ harvesterNodeCondDrained }⟩
    rw [show v.asUnknown.node.conditions = v.node.conditions.map NodeCondition.asUnknown from rfl,
      filter_asUnknown]
    exact h.bind fun _ => Simulates.pure ()
  refine (hremove _).mapError.bind fun _ => ?_
  rw [show v.asUnknown.node = v.node.asUnknown from rfl, find_drained_asUnknown]
  split
  · exact hforget.mapError
  · exact .pure ()

theorem simulates_checkNodeReady
    (halike : (∃ cond, findNodeStatusCondition v.node.conditions nodeReady = some cond ∧
        cond.status = .false) → isOnUpgrade env = true ∨
      ∃ policy, decodeVMForceResetPolicy env.policy = .ok policy ∧ policy.enable = false) :
    Simulates World.asUnknown id (checkNodeReady env v) (checkNodeReady env v.asUnknown) := by
  unfold checkNodeReady
  rw [show findNodeStatusCondition v.asUnknown.node.conditions nodeReady = _ from
    find_asUnknown v.node.conditions nodeReady]
  cases hready : findNodeStatusCondition v.node.conditions nodeReady with
  | none => exact .fail _
  | some cond =>
    simp only [Option.map_some]
    split
    · exact .pure ()
    next hupgrade =>
    cases hstatus : cond.status with
    | false =>
      -- The other run goes on to the policy, which is not enabled.
      obtain h | ⟨policy, hpolicy, hdisabled⟩ := halike ⟨cond, hready, hstatus⟩
      · exact absurd h hupgrade
      have hunknown : cond.asUnknown.status = .unknown := by
        rw [NodeCondition.asUnknown, if_pos ⟨type_of_find hready, hstatus⟩]
      rw [hunknown]
      dsimp only
      rw [checkNodeUnknown_of_decoded _ _ hpolicy, if_neg (by simp [hdisabled])]
      exact .pure ()
    | unknown =>
      have hsame := NodeCondition.asUnknown_status (c := cond) (by simp [hstatus])
      have hcheck := simulates_checkNodeUnknown env v cond
      rw [hsame] at hcheck ⊢
      rw [hstatus]
      exact hcheck
    | true =>
      rw [NodeCondition.asUnknown_status (by simp [hstatus]), hstatus]
      exact blind_resetNode env v
    | other text =>
      rw [NodeCondition.asUnknown_status (by simp [hstatus]), hstatus]
      exact .fail _

theorem simulates_onNodeChanged (w : World) (number : Nat)
    (halike : w.Alike (.onNodeChanged number env)) :
    Simulates World.asUnknown id (onNodeChanged env (w.version number))
      (onNodeChanged env (w.asUnknown.version number)) := by
  refine .ite (fun _ => Simulates.pure ()) fun hdeleting => ?_
  refine (simulates_checkNodeReady env (w.version number) fun hfalse => ?_).mapError
  exact (halike hfalse).resolve_left hdeleting

end

theorem next_asUnknown (w : World) (e : Event) (halike : w.Alike e) :
    machine.next w.asUnknown e.asUnknown = (machine.next w e).map World.asUnknown := by
  cases e with
  | change node =>
    simp [machine, World.next, Event.asUnknown, World.asUnknown, History.push_map]
  | onNodeChanged number env =>
    have hrun := simulates_onNodeChanged env w number halike w
    simp only [machine, World.next]
    show (do
      guard (number ≤ w.versions.now)
      pure ((onNodeChanged env (w.asUnknown.version number)).run w.asUnknown).2 : Option World) = _
    rw [hrun]
    by_cases hnumber : number ≤ w.versions.now
    · simp
    · simp

/-- **`False` in place of `Unknown`** makes no difference, in every run in which no step looks at
the status `False`. -/
theorem down_alike {events : List Event} (halike : machine.Along World.Alike w events) :
    machine.run w.asUnknown (events.map Event.asUnknown) =
      (machine.run w events).map World.asUnknown :=
  Machine.run_map next_asUnknown halike

namespace Sample

/-- The policy is disabled. -/
def disabled (now : Int) : Env := { healthy now with policy := .ok ⟨false, 10, 60⟩ }

/-- Reconciles after the period, after the migration timeout, and once more. -/
def reconciles : List Event :=
  [.onNodeChanged 0 (healthy 10), .onNodeChanged 2 (healthy 70), .onNodeChanged 3 (healthy 71)]

/-- A `False` node with a disabled policy becomes `Unknown` and is drained. -/
def drained : List Event :=
  [.onNodeChanged 0 (disabled 10), .change (downNode .unknown), .onNodeChanged 1 (healthy 10),
    .onNodeChanged 3 (healthy 70)]

/-- The same reconciles for a node that does not change. -/
def idle : List Event :=
  [.onNodeChanged 0 (healthy 10), .onNodeChanged 0 (healthy 70), .onNodeChanged 0 (healthy 71)]

end Sample

open Sample in
/-- A node is left alone when the policy is disabled, and is drained when it is `Unknown`. -/
theorem down_alike_disabled : (machine.run (world .false) drained).isSome ∧
    machine.run (world .false).asUnknown (drained.map Event.asUnknown) =
      (machine.run (world .false) drained).map World.asUnknown := by
  refine ⟨by decide, down_alike ⟨fun _ => .inr (.inr ⟨⟨false, 10, 60, by decide, by decide⟩, rfl,
    rfl⟩), fun w₁ h₁ => ?_⟩⟩
  cases h₁
  refine ⟨trivial, fun w₂ h₂ => ?_⟩
  cases h₂
  refine ⟨World.alike_of_ne (by decide), fun w₃ h₃ => ?_⟩
  cases h₃
  exact ⟨World.alike_of_ne (by decide), fun _ _ => trivial⟩

open Sample in
/-- **A node with the status `False` is not down**: the reconciles that taint an `Unknown` node do
nothing. -/
theorem false_is_not_down :
    (∃ w, machine.run (world .unknown) reconciles = some w ∧
      w.versions.live.taints = [kubevirtDrainTaint, nonGracefulTaint]) ∧
    (world .false).asUnknown.versions.live = (world .unknown).versions.live ∧
    ∃ w, machine.run (world .false) idle = some w ∧ w.versions.now = 0 ∧
      w.versions.live = downNode .false ∧ w.requeued = [] := by
  refine ⟨?_, by decide, ?_⟩
  · decide
  · decide

end NodeDown

end Harvester
