import Mathlib.Data.Fintype.Basic
import Harvester.Kube.Basic

/-!
# The Upgrade object

What the controllers of `pkg/controller/master/upgrade` read and write of an `Upgrade`, with the
setters of `common.go`.  The setters of the conditions end with `markComplete`, which also moves the
state label on when the upgrade has succeeded or failed.
-/

namespace Harvester

namespace Upgrades

open Control

/-- The values of the label `harvesterhci.io/upgradeState`, in their order. -/
inductive State where
  | preparingLoggingInfra
  | loggingInfraPrepared
  | preparingRepo
  | repoPrepared
  | preparingNodes
  | upgradingSystemServices
  | upgradingNodes
  | succeeded
  | failed
  deriving DecidableEq, Repr

/-- The values of the label `harvesterhci.io/upgradeCleanup`. -/
inductive CleanupState where
  | pending
  | succeeded
  deriving DecidableEq, Repr

/-- The states of a node. -/
inductive NodeState where
  | imagesPreloading
  | imagesPreloaded
  | upgradePaused
  | preDraining
  | preDrained
  | postDraining
  | waitingReboot
  | succeeded
  | failed
  deriving DecidableEq, Repr

/-- The state as a text. -/
def NodeState.text : NodeState → String
  | imagesPreloading => "Images preloading"
  | imagesPreloaded => "Images preloaded"
  | upgradePaused => "Node-upgrade paused"
  | preDraining => "Pre-draining"
  | preDrained => "Pre-drained"
  | postDraining => "Post-draining"
  | waitingReboot => "Waiting Reboot"
  | succeeded => "Succeeded"
  | failed => "Failed"

/-- `NodeUpgradeStatus`, with the node it is recorded for. -/
structure NodeStatus where
  node : String
  state : NodeState
  reason : String
  message : String
  deriving DecidableEq, Repr

/-- The status of a condition. -/
inductive ConditionStatus where
  | conditionTrue
  | conditionFalse
  | conditionUnknown
  deriving DecidableEq, Repr

/-- The conditions of an Upgrade. -/
inductive ConditionType where
  | completed
  | logReady
  | imageReady
  | repoProvisioned
  | nodesPrepared
  | nodesUpgraded
  | systemServicesUpgraded
  deriving DecidableEq, Repr

instance : Fintype ConditionType where
  elems := {.completed, .logReady, .imageReady, .repoProvisioned, .nodesPrepared, .nodesUpgraded,
    .systemServicesUpgraded}
  complete t := by cases t <;> decide

/-- A condition without its times. -/
structure Condition where
  status : ConditionStatus
  reason : String
  message : String
  deriving DecidableEq, Repr

/-- The annotations that the controllers use. -/
structure Annotations where
  /-- The nodes that the pause map says to pause. -/
  paused : List String
  /-- The saved value of `replica-replenishment-wait-interval`. -/
  replicaReplenishment : Option Int
  /-- `reenable-descheduler-addon` is `"true"`. -/
  reenableDescheduler : Bool
  /-- `longhorn-settings-restored` exists. -/
  longhornSettingsRestored : Bool
  shutdownVMOnMigrationFailure : Option Bool
  /-- `apply-skip-rke2-manifests-plan-completed` exists. -/
  skipManifestsApplied : Bool
  /-- `remove-skip-rke2-manifests-plan-completed` exists. -/
  skipManifestsRemoved : Bool
  /-- `image-cleanup-plan-completed`. -/
  imageCleanup : Option Bool
  deriving DecidableEq, Repr

/-- An Upgrade. -/
structure Upgrade where
  logEnabled : Bool
  /-- The label with the state. -/
  state : Option State
  /-- The label for the latest upgrade is `"true"`. -/
  latest : Bool
  cleanup : Option CleanupState
  annotations : Annotations
  conditions : ConditionType → Option Condition
  nodeStatuses : Store NodeStatus.node
  /-- The node of a single-node cluster; empty in other clusters. -/
  singleNode : String
  repoInfo : String
  imageID : String
  upgradeLog : String
  deriving DecidableEq

namespace Upgrade

variable (u : Upgrade)

/-- `GetStatus`; `none` for a condition that does not exist. -/
def status (t : ConditionType) : Option ConditionStatus := (u.conditions t).map Condition.status

section

variable (t : ConditionType) (node : String) (status : ConditionStatus)

/-- The state of a node; `none` for a node without one. -/
def nodeState : Option NodeState :=
  (u.nodeStatuses.get node).map NodeStatus.state

/-- `SetStatus`, `Reason` and `Message`. -/
def setCondition (reason message : String) : Upgrade :=
  { u with conditions := Function.update u.conditions t (some ⟨status, reason, message⟩) }

/-- `SetStatus` alone: the reason and the message stay. -/
def setStatus : Upgrade :=
  let condition := (u.conditions t).getD ⟨status, "", ""⟩
  { u with conditions := Function.update u.conditions t (some { condition with status }) }

/-- A condition begins. -/
def createUnknownIfNotExists : Upgrade :=
  if (u.conditions t).isNone then u.setStatus t .conditionUnknown else u

/-- The upgrade has ended. -/
def finish (state : State) : Upgrade :=
  { u.setStatus .completed status with state := some state, cleanup := some .pending }

/-- The system services and the nodes have been upgraded. -/
def Succeeding : Prop :=
  u.status .systemServicesUpgraded = some .conditionTrue ∧
    u.status .nodesUpgraded = some .conditionTrue
  deriving Decidable

/-- A part of the upgrade has failed. -/
def Failing : Prop :=
  u.status .imageReady = some .conditionFalse ∨ u.status .repoProvisioned = some .conditionFalse ∨
    u.status .systemServicesUpgraded = some .conditionFalse ∨
    u.status .nodesUpgraded = some .conditionFalse

instance : Decidable u.Failing := inferInstanceAs (Decidable (_ ∨ _))

/-- The end of the upgrade is noted. -/
def markComplete : Upgrade :=
  let u := if u.Succeeding then u.finish .conditionTrue .succeeded else u
  if u.Failing then u.finish .conditionFalse .failed else u

/-- The setters of `common.go` for a condition, for example `setNodesPreparedCondition`. -/
def setMarked (reason message : String) : Upgrade :=
  (u.setCondition t status reason message).markComplete

/-- A setter. -/
def setLogReadyCondition : ConditionStatus → String → String → Upgrade := u.setMarked .logReady

/-- A setter. -/
def setImageReadyCondition : ConditionStatus → String → String → Upgrade := u.setMarked .imageReady

/-- A setter. -/
def setRepoProvisionedCondition : ConditionStatus → String → String → Upgrade :=
  u.setMarked .repoProvisioned

/-- A setter. -/
def setNodesPreparedCondition : ConditionStatus → String → String → Upgrade :=
  u.setMarked .nodesPrepared

/-- A setter. -/
def setNodesUpgradedCondition : ConditionStatus → String → String → Upgrade :=
  u.setMarked .nodesUpgraded

/-- The condition is set unless it has been true or false before. -/
def setHelmChartUpgradeStatus (reason message : String) : Upgrade :=
  if u.status .systemServicesUpgraded = some .conditionTrue ∨
      u.status .systemServicesUpgraded = some .conditionFalse then u
  else u.setMarked .systemServicesUpgraded status reason message

/-- The upgrade ends. -/
def setUpgradeCompletedCondition (state : State) (status : ConditionStatus)
    (reason message : String) : Upgrade :=
  { u with state := some state }.setCondition .completed status reason message

/-- `setUpgradeCompletedCondition` with `StateFailed`. -/
def fail (reason message : String) : Upgrade :=
  u.setUpgradeCompletedCondition .failed .conditionFalse reason message

/-- A failed node is the end of the upgrade, and so is the last node that succeeds. -/
def setNodeUpgradeStatus (state : NodeState) (reason message : String) : Upgrade :=
  let status : NodeStatus := ⟨node, state, reason, message⟩
  if u.nodeStatuses.get node = some status then u
  else
    let u := { u with nodeStatuses := u.nodeStatuses.put status }
    if state = .failed then u.setNodesUpgradedCondition .conditionFalse reason message
    else if u.state = some .upgradingNodes ∧
        u.nodeStatuses.objs.all (fun status => status.state = .succeeded) then
      u.setNodesUpgradedCondition .conditionTrue "" ""
    else u

/-- The user pauses the node. -/
def shouldPauseNodeUpgrade : Bool := node ∈ u.annotations.paused

/-- `setNodeUpgradeStatus` for a node that the user has paused. -/
def pauseNode : Upgrade :=
  u.setNodeUpgradeStatus node .upgradePaused "AdministrativelyPaused"
    "Node upgrade paused as requested by the user"

/-- `checkEligibleToDrain`: all other nodes have their images or are done. -/
def checkEligibleToDrain : Except Err Unit :=
  match u.nodeStatuses.objs.find? fun status =>
      status.node ≠ node && status.state ≠ .succeeded && status.state ≠ .imagesPreloaded with
  | none => .ok ()
  | some status => .error (.other (status.node ++ " is in \"\x7b" ++ status.state.text ++ " " ++
      status.reason ++ " " ++ status.message ++ "\x7d\" state so " ++ node ++
      " is not allowed to run any kind of job"))

end

variable {u} {t t' : ConditionType} {status : ConditionStatus} {reason message node : String}
  {state : NodeState}

@[simp] theorem status_setCondition :
    (u.setCondition t status reason message).status t' =
      if t' = t then some status else u.status t' := by
  by_cases h : t' = t
  · subst h
    simp [Upgrade.status, setCondition]
  · simp [Upgrade.status, setCondition, h]

@[simp] theorem status_setStatus :
    (u.setStatus t status).status t' = if t' = t then some status else u.status t' := by
  by_cases h : t' = t
  · subst h
    simp [Upgrade.status, setStatus]
  · simp [Upgrade.status, setStatus, h]

@[simp] theorem status_createUnknownIfNotExists :
    (u.createUnknownIfNotExists t).status t' =
      if t' = t then some ((u.status t).getD .conditionUnknown) else u.status t' := by
  have hnone : (u.conditions t).isNone = (u.status t).isNone := by simp [Upgrade.status]
  rw [createUnknownIfNotExists, hnone]
  rcases hs : u.status t with _ | s
  · simp
  · by_cases h : t' = t
    · simp [h, hs]
    · simp [h]

theorem status_eq_of_conditions {x : Upgrade} (h : x.conditions = u.conditions) :
    x.status = u.status := by
  funext t
  simp only [Upgrade.status, h]

@[simp] theorem status_fail :
    (u.fail reason message).status t =
      if t = .completed then some .conditionFalse else u.status t :=
  status_setCondition

@[simp] theorem state_fail : (u.fail reason message).state = some .failed := rfl

theorem finish_finish (s s' : ConditionStatus) (st st' : State) :
    (u.finish s st).finish s' st' = u.finish s' st' := by
  rcases hc : u.conditions .completed with _ | c
  · simp [finish, setStatus, hc]
  · simp [finish, setStatus, hc]

theorem status_finish_of_ne {s : ConditionStatus} {st : State} (h : t ≠ .completed) :
    (u.finish s st).status t = u.status t := by
  have hstatus : (u.finish s st).status t = (u.setStatus .completed s).status t := rfl
  rw [hstatus, status_setStatus, if_neg h]

theorem failing_finish {s : ConditionStatus} {st : State} :
    (u.finish s st).Failing ↔ u.Failing := by
  simp [Failing, status_finish_of_ne]

theorem markComplete_of_failing (h : u.Failing) :
    u.markComplete = u.finish .conditionFalse .failed := by
  by_cases hsucceeding : u.Succeeding
  · simp [markComplete, hsucceeding, failing_finish, h, finish_finish]
  · simp [markComplete, hsucceeding, h]

theorem markComplete_of_open (hfailing : ¬ u.Failing) (hsucceeding : ¬ u.Succeeding) :
    u.markComplete = u := by
  simp [markComplete, hsucceeding, hfailing]

theorem markComplete_cases (u : Upgrade) :
    u.Failing ∧ u.markComplete = u.finish .conditionFalse .failed ∨
      u.Succeeding ∧ u.markComplete = u.finish .conditionTrue .succeeded ∨
      ¬ u.Failing ∧ ¬ u.Succeeding ∧ u.markComplete = u := by
  by_cases hfailing : u.Failing
  · exact .inl ⟨hfailing, markComplete_of_failing hfailing⟩
  by_cases hsucceeding : u.Succeeding
  · simp [markComplete, hsucceeding, failing_finish, hfailing]
  · exact .inr (.inr ⟨hfailing, hsucceeding, markComplete_of_open hfailing hsucceeding⟩)

theorem status_markComplete_of_ne (h : t ≠ .completed) :
    u.markComplete.status t = u.status t := by
  rcases markComplete_cases u with ⟨-, heq⟩ | ⟨-, heq⟩ | ⟨-, -, heq⟩
  · rw [heq, status_finish_of_ne h]
  · rw [heq, status_finish_of_ne h]
  · rw [heq]

theorem status_setMarked_of_ne (h : t' ≠ .completed) :
    (u.setMarked t status reason message).status t' =
      if t' = t then some status else u.status t' := by
  rw [setMarked, status_markComplete_of_ne h, status_setCondition]

/-- What the setters leave as it is. -/
structure Framed (u v : Upgrade) : Prop where
  logEnabled : v.logEnabled = u.logEnabled
  latest : v.latest = u.latest
  annotations : v.annotations = u.annotations
  singleNode : v.singleNode = u.singleNode

theorem Framed.trans {v w : Upgrade} (h : u.Framed v) (h' : v.Framed w) : u.Framed w :=
  ⟨h'.1.trans h.1, h'.2.trans h.2, h'.3.trans h.3, h'.4.trans h.4⟩

theorem framed_setCondition : u.Framed (u.setCondition t status reason message) :=
  ⟨rfl, rfl, rfl, rfl⟩

theorem framed_createUnknownIfNotExists : u.Framed (u.createUnknownIfNotExists t) := by
  unfold createUnknownIfNotExists
  split
  · exact ⟨rfl, rfl, rfl, rfl⟩
  · exact ⟨rfl, rfl, rfl, rfl⟩

theorem framed_markComplete (u : Upgrade) : u.Framed u.markComplete := by
  rcases markComplete_cases u with ⟨-, heq⟩ | ⟨-, heq⟩ | ⟨-, -, heq⟩
  · exact heq ▸ ⟨rfl, rfl, rfl, rfl⟩
  · exact heq ▸ ⟨rfl, rfl, rfl, rfl⟩
  · exact heq.symm ▸ ⟨rfl, rfl, rfl, rfl⟩

theorem framed_setMarked : u.Framed (u.setMarked t status reason message) :=
  framed_setCondition.trans (framed_markComplete _)

theorem setNodeUpgradeStatus_rec {P : Upgrade → Prop}
    (hput : ∀ nodeStatuses, P { u with nodeStatuses })
    (hset : ∀ nodeStatuses s reason message,
      P ({ u with nodeStatuses }.setNodesUpgradedCondition s reason message)) :
    P (u.setNodeUpgradeStatus node state reason message) := by
  unfold setNodeUpgradeStatus
  dsimp only
  split
  · exact hput u.nodeStatuses
  split
  · exact hset _ _ _ _
  · split
    · exact hset _ _ _ _
    · exact hput _

theorem framed_setNodeUpgradeStatus :
    u.Framed (u.setNodeUpgradeStatus node state reason message) := by
  have hput : ∀ nodeStatuses, u.Framed { u with nodeStatuses } := fun _ => ⟨rfl, rfl, rfl, rfl⟩
  exact setNodeUpgradeStatus_rec hput fun _ _ _ _ => (hput _).trans framed_setMarked

@[simp] theorem state_createUnknownIfNotExists :
    (u.createUnknownIfNotExists t).state = u.state := by
  unfold createUnknownIfNotExists
  split
  · rfl
  · rfl

theorem conditions_setNodeUpgradeStatus (hstate : state ≠ .failed)
    (hu : u.state ≠ some .upgradingNodes) :
    (u.setNodeUpgradeStatus node state reason message).conditions = u.conditions ∧
      (u.setNodeUpgradeStatus node state reason message).state = u.state := by
  simp only [setNodeUpgradeStatus, hu]
  split
  · exact ⟨rfl, rfl⟩
  · exact ⟨rfl, rfl⟩

@[simp] theorem nodeStatuses_createUnknownIfNotExists :
    (u.createUnknownIfNotExists t).nodeStatuses = u.nodeStatuses := by
  unfold createUnknownIfNotExists
  split
  · rfl
  · rfl

@[simp] theorem nodeStatuses_markComplete : u.markComplete.nodeStatuses = u.nodeStatuses := by
  rcases markComplete_cases u with ⟨-, heq⟩ | ⟨-, heq⟩ | ⟨-, -, heq⟩
  · rw [heq]
    rfl
  · rw [heq]
    rfl
  · rw [heq]

@[simp] theorem nodeStatuses_setMarked :
    (u.setMarked t status reason message).nodeStatuses = u.nodeStatuses :=
  nodeStatuses_markComplete

theorem nodeState_setNodeUpgradeStatus {node' : String} :
    (u.setNodeUpgradeStatus node state reason message).nodeState node' =
      if node' = node then some state else u.nodeState node' := by
  have hput : ∀ v : Upgrade,
      v.nodeStatuses = u.nodeStatuses.put ⟨node, state, reason, message⟩ →
      v.nodeState node' = if node' = node then some state else u.nodeState node' := by
    intro v hv
    by_cases h : node' = node
    · have hself := Store.get_put_self u.nodeStatuses ⟨node, state, reason, message⟩
      simp [nodeState, hv, h]
    · have hne := Store.get_put_of_ne u.nodeStatuses (v := ⟨node, state, reason, message⟩) h
      simp only [nodeState, hv, hne, if_neg h]
  unfold setNodeUpgradeStatus
  simp only
  split
  · next hget =>
    by_cases h : node' = node
    · simp [nodeState, h, hget]
    · simp [h]
  · split
    · exact hput _ nodeStatuses_setMarked
    · split
      · exact hput _ nodeStatuses_setMarked
      · exact hput _ rfl

end Upgrade

end Upgrades

end Harvester
