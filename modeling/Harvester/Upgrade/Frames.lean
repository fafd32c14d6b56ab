import Harvester.Upgrade.System

/-!
# What the edits of an Upgrade leave alone

`Keeps`: an edit leaves the annotations with which the cleanup restores the settings, and the record
that it is done.  `Quiet`: it leaves the statuses of the nodes as well.  The theorems `keeps_…` and
`quiet_…` go through the edits of all the handlers.
-/

namespace Harvester

namespace Upgrades

open Control Relation

/-- The system services are not upgraded before the nodes are prepared. -/
def Upgrade.InOrder (u : Upgrade) : Prop :=
  u.status .systemServicesUpgraded ≠ none → u.status .nodesPrepared ≠ none

/-- What the cleanup relies on stays. -/
structure Keeps (u x : Upgrade) : Prop where
  replicaReplenishment :
    x.annotations.replicaReplenishment = u.annotations.replicaReplenishment
  reenableDescheduler : x.annotations.reenableDescheduler = u.annotations.reenableDescheduler
  longhornSettingsRestored :
    x.annotations.longhornSettingsRestored = u.annotations.longhornSettingsRestored
  /-- The cleanup can start again, but it is not done. -/
  cleanup : x.cleanup = some .succeeded → u.cleanup = some .succeeded
  /-- An upgrade that has ended does not go on. -/
  ended : u.Ended → x.Ended
  prepared : u.status .nodesPrepared ≠ none → x.status .nodesPrepared ≠ none
  inOrder : u.InOrder → x.InOrder

/-- The statuses of the nodes stay too. -/
structure Quiet (u x : Upgrade) : Prop extends Keeps u x where
  singleNode : x.singleNode = u.singleNode
  nodeStatuses : x.nodeStatuses = u.nodeStatuses

variable {u v x : Upgrade} {t : ConditionType} {s : ConditionStatus} {f : UpgradeFindings}
  {reason message node : String}

theorem Keeps.refl (u : Upgrade) : Keeps u u := ⟨rfl, rfl, rfl, id, id, id, id⟩

theorem Keeps.trans (h : Keeps u v) (h' : Keeps v x) : Keeps u x where
  replicaReplenishment := h'.replicaReplenishment.trans h.replicaReplenishment
  reenableDescheduler := h'.reenableDescheduler.trans h.reenableDescheduler
  longhornSettingsRestored := h'.longhornSettingsRestored.trans h.longhornSettingsRestored
  cleanup := h.cleanup ∘ h'.cleanup
  ended := h'.ended ∘ h.ended
  prepared := h'.prepared ∘ h.prepared
  inOrder := h'.inOrder ∘ h.inOrder

theorem Quiet.refl (u : Upgrade) : Quiet u u := ⟨.refl u, rfl, rfl⟩

theorem Quiet.trans (h : Quiet u v) (h' : Quiet v x) : Quiet u x :=
  ⟨h.toKeeps.trans h'.toKeeps, h'.singleNode.trans h.singleNode,
    h'.nodeStatuses.trans h.nodeStatuses⟩

theorem Quiet.nodeState (h : Quiet u x) : x.nodeState node = u.nodeState node := by
  simp only [Upgrade.nodeState, h.nodeStatuses]

theorem keeps_of_annotations (h : x.annotations = u.annotations)
    (hcleanup : x.cleanup = some .succeeded → u.cleanup = some .succeeded)
    (hended : u.Ended → x.Ended)
    (hprepared : u.status .nodesPrepared ≠ none → x.status .nodesPrepared ≠ none)
    (hinOrder : u.InOrder → x.InOrder) : Keeps u x :=
  ⟨by rw [h], by rw [h], by rw [h], hcleanup, hended, hprepared, hinOrder⟩

theorem keeps_of_eq (h : x.annotations = u.annotations) (hcleanup : x.cleanup = u.cleanup)
    (hconditions : x.conditions = u.conditions) : Keeps u x := by
  have hstatus := Upgrade.status_eq_of_conditions hconditions
  refine keeps_of_annotations h (fun hx => hcleanup ▸ hx) ?_ ?_ ?_
  · simp [Upgrade.Ended, hstatus]
  · simp [hstatus]
  · simp [Upgrade.InOrder, hstatus]

/-- A condition that neither ends the upgrade nor starts the system services too early. -/
theorem quiet_setCondition (ht : t ≠ .completed)
    (hservices : t = .systemServicesUpgraded →
      u.status .systemServicesUpgraded ≠ none ∨ u.status .nodesPrepared ≠ none) :
    Quiet u (u.setCondition t s reason message) := by
  refine ⟨keeps_of_annotations rfl id ?_ ?_ ?_, rfl, rfl⟩
  · simp [Upgrade.Ended, if_neg ht.symm]
  · rw [Upgrade.status_setCondition]
    split
    · simp
    · exact id
  · simp only [Upgrade.InOrder, Upgrade.status_setCondition]
    grind

theorem quiet_setState (u : Upgrade) (state : Option State) : Quiet u { u with state } :=
  ⟨keeps_of_eq rfl rfl rfl, rfl, rfl⟩

theorem quiet_fail : Quiet u (u.fail reason message) := by
  refine ⟨keeps_of_annotations rfl id ?_ ?_ ?_, rfl, rfl⟩
  · simp [Upgrade.Ended]
  · simp
  · simp [Upgrade.InOrder]

theorem quiet_createUnknownIfNotExists (ht : t ≠ .systemServicesUpgraded) :
    Quiet u (u.createUnknownIfNotExists t) := by
  unfold Upgrade.createUnknownIfNotExists
  split
  · next hconditions =>
    have hnone : u.status t = none := by simpa [Upgrade.status] using hconditions
    refine ⟨keeps_of_annotations rfl id ?_ ?_ ?_, rfl, rfl⟩
    all_goals
      simp only [Upgrade.Ended, Upgrade.InOrder, Upgrade.status_setStatus]
      grind
  · exact .refl u

theorem quiet_finish {state : State} (hs : s ≠ .conditionUnknown) : Quiet u (u.finish s state) := by
  refine ⟨keeps_of_annotations rfl (fun h => by simp [Upgrade.finish] at h)
    (fun _ => Upgrade.ended_finish hs) ?_ ?_, rfl, rfl⟩
  · exact id
  · exact id

theorem quiet_markComplete (u : Upgrade) : Quiet u u.markComplete := by
  rcases Upgrade.markComplete_cases u with ⟨-, heq⟩ | ⟨-, heq⟩ | ⟨-, -, heq⟩
  · exact heq ▸ quiet_finish (by decide)
  · exact heq ▸ quiet_finish (by decide)
  · exact heq.symm ▸ .refl u

theorem quiet_setMarked (ht : t ≠ .completed)
    (hservices : t = .systemServicesUpgraded →
      u.status .systemServicesUpgraded ≠ none ∨ u.status .nodesPrepared ≠ none) :
    Quiet u (u.setMarked t s reason message) :=
  (quiet_setCondition ht hservices).trans (quiet_markComplete _)

theorem quiet_setHelmChartUpgradeStatus
    (h : u.status .systemServicesUpgraded ≠ none ∨ u.status .nodesPrepared ≠ none) :
    Quiet u (u.setHelmChartUpgradeStatus s reason message) := by
  unfold Upgrade.setHelmChartUpgradeStatus
  split
  · exact .refl u
  · exact quiet_setMarked (by decide) fun _ => h

theorem keeps_setNodeUpgradeStatus {state : NodeState} :
    Keeps u (u.setNodeUpgradeStatus node state reason message) := by
  have hput : ∀ nodeStatuses, Keeps u { u with nodeStatuses } :=
    fun _ => keeps_of_eq rfl rfl rfl
  have hset : ∀ nodeStatuses s reason message,
      Keeps u ({ u with nodeStatuses }.setNodesUpgradedCondition s reason message) :=
    fun nodeStatuses _ _ _ =>
      (hput nodeStatuses).trans (quiet_setMarked (by decide) (by simp)).toKeeps
  exact Upgrade.setNodeUpgradeStatus_rec hput hset

theorem keeps_nodeEdits {states : List NodeState} (h : NodeEdits states node u x) :
    Keeps u x ∧ x.singleNode = u.singleNode := by
  induction h with
  | refl => exact ⟨.refl u, rfl⟩
  | tail _ hedit ih =>
    obtain ⟨-, reason, message⟩ := hedit
    exact ⟨ih.1.trans keeps_setNodeUpgradeStatus,
      Upgrade.framed_setNodeUpgradeStatus.singleNode.trans ih.2⟩

theorem quiet_planCompleted {component : PlanComponent}
    (h : u.planCompleted component = some x) : Quiet u x := by
  cases component with
  | node =>
    simp only [Upgrade.planCompleted] at h
    split at h
    · simp at h
    · exact Option.some.inj h ▸ quiet_setMarked (by decide) (by simp)
  | _ => exact Option.some.inj h ▸ ⟨⟨rfl, rfl, rfl, id, id, id, id⟩, rfl, rfl⟩

theorem quiet_repoAvailable (h : u.repoAvailable = some x) : Quiet u x := by
  unfold Upgrade.repoAvailable at h
  split at h
  · exact Option.some.inj h ▸ (quiet_setState u _).trans (quiet_setMarked (by decide) (by simp))
  · simp at h

theorem quiet_imageChanged {image : ImageInfo} (h : u.imageChanged image = some x) :
    Quiet u x := by
  refine Upgrade.imageChanged_rec h (.refl u) fun _ _ _ => ?_
  exact quiet_setMarked (by decide) (by simp)

theorem quiet_manifestJobChanged {job : Job} (h : u.manifestJobChanged job = some x) :
    Quiet u x := by
  refine Upgrade.manifestJobChanged_rec h (.refl u) fun _ _ _ _ hv hservices => ?_
  exact hv.trans (quiet_setMarked (by decide) fun _ => .inl hservices)

theorem quiet_loggingInfraPrepared (u : Upgrade) : Quiet u u.loggingInfraPrepared :=
  (quiet_setState u _).trans (quiet_setCondition (by decide) (by simp))

theorem quiet_initStatus (u : Upgrade) : Quiet u u.initStatus := by
  have h : Quiet u (u.createUnknownIfNotExists .completed) :=
    quiet_createUnknownIfNotExists (by decide)
  exact h.trans ⟨keeps_of_eq rfl rfl rfl, rfl, rfl⟩

/-- The upgrade goes from stage to stage without a node that is done. -/
structure Staged (f : UpgradeFindings) (u x : Upgrade) : Prop extends Keeps u x where
  singleNode : x.singleNode = u.singleNode ∨
    u.status .nodesPrepared = none ∧ f.isSingleNodeCluster = .ok x.singleNode
  nodeState : ∀ node, x.nodeState node = u.nodeState node ∨
    x.nodeState node ∈ [some .imagesPreloaded, some .upgradePaused]

theorem Quiet.staged (h : Quiet u x) : Staged f u x :=
  ⟨h.toKeeps, .inl h.singleNode, fun _ => .inl h.nodeState⟩

theorem Staged.trans_quiet (h : Staged f u v) (h' : Quiet v x) :
    Staged f u x := by
  refine ⟨h.toKeeps.trans h'.toKeeps, ?_, fun node => ?_⟩
  · rw [h'.singleNode]
    exact h.singleNode
  · rw [h'.nodeState]
    exact h.nodeState node

theorem staged_singleNode {singleNode : String}
    (hs : singleNode = u.singleNode ∨
      u.status .nodesPrepared = none ∧ f.isSingleNodeCluster = .ok singleNode)
    (repoInfo : String) : Staged f u { u with singleNode, repoInfo } :=
  ⟨keeps_of_eq rfl rfl rfl, hs, fun _ => .inl rfl⟩

theorem staged_setNodeUpgradeStatus {state : NodeState}
    (hstate : state ∈ [.imagesPreloaded, .upgradePaused]) (h : Staged f u v) :
    Staged f u (v.setNodeUpgradeStatus node state reason message) := by
  refine ⟨h.toKeeps.trans keeps_setNodeUpgradeStatus, ?_, fun node' => ?_⟩
  · rw [Upgrade.framed_setNodeUpgradeStatus.singleNode]
    exact h.singleNode
  rw [Upgrade.nodeState_setNodeUpgradeStatus]
  split
  · exact .inr (by simpa using hstate)
  · exact h.nodeState node'

theorem staged_skipPreload (nodes : List String) (h : Staged f u v) :
    Staged f u (v.skipPreload nodes) := by
  induction nodes generalizing v with
  | nil => exact h
  | cons node nodes ih => exact ih (staged_setNodeUpgradeStatus (by simp) h)

/-- **What the stages of the upgrade controller leave alone.** -/
theorem staged_of_stageStep (hx : StageStep f u x) : Staged f u x := by
  have hlog : ∀ {v : Upgrade} {reason message},
      Quiet v (v.setLogReadyCondition .conditionFalse reason message) :=
    quiet_setMarked (by decide) (by simp)
  cases hx with
  | initWithoutLog =>
    exact (((quiet_initStatus u).trans hlog).trans (quiet_setState _ _)).staged
  | init h hlog' hx =>
    refine Quiet.staged (.trans ?_ (quiet_createUnknownIfNotExists (by decide)))
    rcases hx with ⟨name, rfl⟩ | ⟨reason, rfl⟩
    · exact (quiet_initStatus u).trans ⟨keeps_of_eq rfl rfl rfl, rfl, rfl⟩
    · exact (quiet_initStatus u).trans hlog
  | logTimeout => exact (hlog.trans quiet_fail).staged
  | @fail h singleNode hs repoInfo reason =>
    exact (staged_singleNode hs repoInfo).trans_quiet quiet_fail
  | @createImage h imageID =>
    have himage : Quiet u { u with imageID } := ⟨keeps_of_eq rfl rfl rfl, rfl, rfl⟩
    exact (himage.trans (quiet_createUnknownIfNotExists (by decide))).staged
  | startRepo =>
    exact ((quiet_setState u _).trans (quiet_createUnknownIfNotExists (by decide))).staged
  | skipPreload h hrepo hnodes hs repoInfo nodes =>
    have hskip := staged_skipPreload nodes (staged_singleNode (.inr ⟨hnodes, hs⟩) repoInfo)
    refine hskip.trans_quiet ((quiet_setState _ (some .preparingNodes)).trans ?_)
    exact quiet_setMarked (by decide) (by simp)
  | preparePlan h hrepo hnodes hs repoInfo =>
    refine (staged_singleNode (.inr ⟨hnodes, hs⟩) repoInfo).trans_quiet ?_
    exact (quiet_setState _ _).trans (quiet_createUnknownIfNotExists (by decide))
  | systemServices h hnodes hservices =>
    have hprepared : u.status .nodesPrepared ≠ none := by simp [hnodes]
    have hstate := quiet_setState u (some .upgradingSystemServices)
    exact (hstate.trans (quiet_setHelmChartUpgradeStatus (.inr hprepared))).staged
  | singleNode h hservices hstate =>
    exact staged_setNodeUpgradeStatus hstate (Quiet.refl u).staged
  | upgradingNodes =>
    exact ((quiet_setState u _).trans (quiet_createUnknownIfNotExists (by decide))).staged

/-- **Only the upgrade controller touches what the cleanup relies on.** -/
theorem keeps_of_footprint {w : World} {ev : Event} (hev : ∀ env f, ev ≠ .upgrade env f)
    (hx : (footprint w ev).edit u x) : Keeps u x ∧ x.singleNode = u.singleNode := by
  have hquiet : Quiet u x → Keeps u x ∧ x.singleNode = u.singleNode :=
    fun h => ⟨h.toKeeps, h.singleNode⟩
  have hnode : ∀ {node state reason message},
      Keeps u (u.setNodeUpgradeStatus node state reason message) ∧
        (u.setNodeUpgradeStatus node state reason message).singleNode = u.singleNode :=
    ⟨keeps_setNodeUpgradeStatus, Upgrade.framed_setNodeUpgradeStatus.singleNode⟩
  cases ev with
  | upgrade env f => exact absurd rfl (hev env f)
  | plan => exact hquiet (quiet_planCompleted hx.2)
  | deployment => exact hquiet (quiet_repoAvailable hx)
  | image => exact hquiet (quiet_imageChanged hx)
  | job =>
    obtain ⟨job, -, hstep⟩ := hx
    cases hstep with
    | prepare _ hx => exact keeps_nodeEdits (nodeEdits_of_planJobChanged hx)
    | manifests hx => exact hquiet (quiet_manifestJobChanged hx)
    | hook _ hx => exact keeps_nodeEdits hx
  | node =>
    obtain ⟨-, -⟩ := hx
    exact hnode
  | secret =>
    obtain ⟨node, state, reason, message, -⟩ := hx
    exact hnode
  | upgradeLog => exact hquiet (hx.edit ▸ quiet_loggingInfraPrepared u)
  | _ => exact False.elim hx

end Upgrades

end Harvester
