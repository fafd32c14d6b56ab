import Mathlib.Data.Fintype.Card
import Harvester.Control.Action

/-!
# Maintenance mode

`pkg/util/maintain.go`, `pkg/util/drainhelper`, `pkg/controller/master/nodedrain` and the node
actions of `pkg/api/node`.  The `MaintenanceMode` condition of a node goes through the phases

`(none) → Validating → Draining → Evacuating → Completed → (none)`

The user's request is an annotation; the drain controller publishes `True/Validating`, then checks
the other nodes in its cache (`drainPossible`) and publishes `True/Draining` or `False/Error`.
-/

namespace Harvester

namespace Maintenance

open Control

/-- The lifecycle reasons. -/
inductive Reason where
  | validating
  | draining
  | evacuating
  | completed
  | error
  deriving DecidableEq, Repr

/-- The `MaintenanceMode` condition.  Only `False/Error`, a failure of the pre-check, has status
false. -/
structure Condition where
  status : Bool
  reason : Reason
  message : String
  wf : status = false → reason = .error
  deriving DecidableEq

namespace Condition

/-- `True/Validating`. -/
def validating : Condition :=
  ⟨true, .validating, "Checking whether the node can enter maintenance mode", by simp⟩

/-- `True/Draining`. -/
def draining : Condition := ⟨true, .draining, "Draining the node", by simp⟩

/-- `True/Evacuating`. -/
def evacuating : Condition :=
  ⟨true, .evacuating, "Waiting for VM migration and restart handling to complete", by simp⟩

/-- `True/Completed`. -/
def completed : Condition := ⟨true, .completed, "Maintenance mode enabled", by simp⟩

/-- `True/Error`: the drain has failed. -/
def drainError (message : String) : Condition := ⟨true, .error, message, by simp⟩

/-- `False/Error`: the pre-check has failed. -/
def preCheckError (message : String) : Condition := ⟨false, .error, message, fun _ => rfl⟩

end Condition

/-- What matters of a node: its condition, the drain annotations and the resource version. -/
structure Node where
  condition : Option Condition
  /-- `DrainAnnotation` is set. -/
  drainRequest : Bool
  /-- `ForcedDrain` is set. -/
  forcedDrain : Bool
  resourceVersion : Nat
  deriving DecidableEq

namespace Node

variable (node : Node)

/-- `IsMaintenanceModePhase`. -/
def isPhase (status : Bool) (reasons : List Reason) : Bool :=
  node.condition.any fun c => c.status = status && c.reason ∈ reasons

/-- `IsMaintenanceModeEngaged`. -/
def isEngaged : Bool := node.condition.any Condition.status

/-- `CanNodeDisableMaintenanceMode`. -/
def canDisable : Bool := node.isPhase true [.evacuating, .completed, .error]

/-- `IsNodeMaintenanceModeDrainComplete`. -/
def isDrainComplete : Bool := node.isPhase true [.evacuating, .completed]

/-- `IsMaintenanceModeError` of the condition. -/
def isError : Bool := node.condition.any fun c => c.reason = .error

/-- The node is being drained, or it was. -/
def isCritical : Bool := node.isPhase true [.draining, .evacuating, .completed, .error]

/-- A write: the API server gives out a new resource version. -/
def written : Node := { node with resourceVersion := node.resourceVersion + 1 }

/-- `UpdateMaintenanceModeCondition`; an unchanged condition is not written. -/
def setCondition (c : Condition) : Node :=
  if node.condition = some c then node else { node with condition := some c }.written

/-- `TransitionMaintenanceModeCondition`: only from the expected phase. -/
def transition (fromStatus : Bool) (fromReason : Reason) (c : Condition) : Node :=
  if node.isPhase fromStatus [fromReason] then node.setCondition c else node

/-- `RemoveMaintenanceModeCondition`, and the write of the status. -/
def removeCondition : Node := { node with condition := none }.written

/-- `SetDrainRequest`, and the write of the node. -/
def setDrainRequest (forced : Bool) : Node :=
  { node with drainRequest := true, forcedDrain := forced }.written

/-- `ClearDrainRequest`, and the write of the node. -/
def clearDrainRequest : Node := { node with drainRequest := false, forcedDrain := false }.written

end Node

/-- What does not change about the nodes: their names and the labels for their roles. -/
structure Roles (N : Type) where
  name : N → String
  controlPlane : N → Bool
  etcd : N → Bool

/-- The nodes with a control-plane or an etcd label. -/
def Roles.isControlPlane {N : Type} (roles : Roles N) (n : N) : Bool :=
  roles.controlPlane n || roles.etcd n

/-- `ErrNodeDrainNotPossible`, with its two reasons. -/
inductive DrainError where
  | singleControlPlaneNode
  | haControlPlaneNode
  deriving DecidableEq, Repr

/-- The text of an error. -/
def DrainError.text : DrainError → String
  | .singleControlPlaneNode => "draining of this node is not possible: " ++
      "single controlplane cluster, cannot place controlplane in maintenance mode"
  | .haControlPlaneNode => "draining of this node is not possible: another controlplane is " ++
      "already in maintenance mode, cannot place current node in maintenance mode"

section

variable {N : Type} [Fintype N] [DecidableEq N] (roles : Roles N)

variable (nodes : N → Node) (node : Node) (n : N)

/-- The nodes other than `n` that `DrainPossible` counts as available. -/
def availableNodes : Finset N :=
  Finset.univ.filter fun m => roles.isControlPlane m = true ∧ m ≠ n ∧ (nodes m).isEngaged = false

/-- `DrainPossible`, on the nodes in the cache. -/
def drainPossible : Except DrainError Unit :=
  if !roles.isControlPlane n then .ok ()
  else if (Finset.univ.filter fun m => roles.isControlPlane m = true).card = 1 then
    .error .singleControlPlaneNode
  else if (availableNodes roles nodes n).card ≠ 2 then .error .haControlPlaneNode
  else .ok ()

/-- The end of `drain`. -/
inductive DrainOutcome where
  /-- The deadline has passed; the timeout in minutes and the error. -/
  | timedOut (minutes : Nat) (err : String)
  | drained
  /-- Any other error: the reconcile is tried again. -/
  | failed
  deriving DecidableEq, Repr

/-- What a reconcile finds out besides the nodes. -/
structure Findings where
  /-- `FindNonMigratableVMS`, by the reason why; `none` when they cannot be listed. -/
  nonMigratableVMs : Option (List (String × List String))
  drain : DrainOutcome

/-- The message of the pre-check. -/
def nonMigratableVMsMessage (vms : List (String × List String)) : String :=
  "enabling maintenance mode is impossible. Non-migratable VMs found: " ++
    "; ".intercalate (vms.map fun v =>
      ",".intercalate v.2 ++ " cannot be migrated due to " ++ v.1) ++
    ". Use 'force drain' to perform a collective shutdown"

/-- The next request of a reconcile. -/
inductive Request where
  /-- `UpdateMaintenanceModeCondition` with `True/Validating`. -/
  | setValidating
  /-- `UpdateMaintenanceModeCondition` with `True/Draining`. -/
  | setDraining
  /-- `failPreCheck`: `UpdateMaintenanceModeCondition` with `False/Error`. -/
  | failPreCheck (message : String)
  /-- `failDrainTimeout`: `TransitionMaintenanceModeCondition` from draining to `True/Error`. -/
  | failDrainTimeout (message : String)
  /-- `TransitionMaintenanceModeCondition` from draining to evacuating. -/
  | finishDrain
  /-- `clearDrainRequest` of a node that was read with this resource version. -/
  | clearDrainRequest (resourceVersion : Nat)
  deriving DecidableEq, Repr

/-- The pre-check. -/
def validate (findings : Findings) (node : Node) (n : N) : Option Request :=
  match drainPossible roles nodes n with
  | .error e => some (.failPreCheck ("enabling maintenance mode is impossible: " ++ e.text))
  | .ok () =>
    match findings.nonMigratableVMs with
    | none => none
    | some vms =>
      if !node.forcedDrain && !vms.isEmpty then
        some (.failPreCheck (nonMigratableVMsMessage vms))
      else some .setDraining

/-- The outcome of a drain. -/
def drain (n : N) : DrainOutcome → Option Request
  | .timedOut minutes err => some (.failDrainTimeout
      ("Maintenance mode timed out while draining node " ++ roles.name n ++ " after " ++
        toString minutes ++ " minutes: " ++ err ++ ". The node remains cordoned and " ++
        "drain-related taints are unchanged. Disable maintenance mode before starting a new " ++
        "attempt."))
  | .drained => some .finishDrain
  | .failed => none

/-- The request that removes the annotations of a node, if there are any. -/
def clearRequest : Option Request :=
  if node.drainRequest || node.forcedDrain then some (.clearDrainRequest node.resourceVersion)
  else none

/-- `OnNodeChange`: the request of a reconcile of `node`, with the other nodes in the cache. -/
def onNodeChange (findings : Findings) (node : Node) (n : N) : Option Request :=
  match node.condition with
  | none => if node.drainRequest then some .setValidating else none
  | some c =>
    match c.reason with
    | .validating => if node.drainRequest then validate roles nodes findings node n else none
    | .draining => drain roles n findings.drain
    | .evacuating => clearRequest node
    | .completed => clearRequest node
    | .error => clearRequest node

/-- The effect of a request on the live node, and the request that follows it. -/
def Request.perform : Request → Node × Option Request
  | .setValidating => (node.setCondition .validating, none)
  | .setDraining => (node.setCondition .draining, none)
  | .failPreCheck message =>
    let updated := node.setCondition (.preCheckError message)
    (updated, clearRequest updated)
  | .failDrainTimeout message =>
    let updated := node.transition true .draining (.drainError message)
    (updated, if updated.isError then clearRequest updated else none)
  | .finishDrain =>
    let updated := node.transition true .draining .evacuating
    (updated, if updated.isDrainComplete then clearRequest updated else none)
  | .clearDrainRequest resourceVersion =>
    -- The API server refuses an old resource version.
    if node.resourceVersion = resourceVersion then (node.clearDrainRequest, none) else (node, none)

end

/-- `enableMaintenanceMode`; `none` when it is refused. -/
def enableMaintenanceMode (node : Node) (forced : Bool) : Option Node :=
  if node.condition.isSome || node.drainRequest then none else some (node.setDrainRequest forced)

/-- `removeMaintenanceModeCondition`; `none` when it is refused. -/
def removeMaintenanceModeCondition (node : Node) (preCheckErrorOnly : Bool) : Option Node :=
  if node.condition.isNone then some node
  else if preCheckErrorOnly then
    if node.drainRequest || node.forcedDrain then none
    else if !node.isPhase false [.error] then none
    else some node.removeCondition
  else if !node.canDisable || node.drainRequest then none
  else some node.removeCondition

end Maintenance

end Harvester
