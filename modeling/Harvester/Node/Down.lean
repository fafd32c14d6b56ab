import Mathlib.Algebra.Order.Ring.Int
import Harvester.Control.Guarded
import Harvester.Control.History
import Harvester.Kube.Basic

/-!
# Nodes that are down

When a node has not been ready for some time the node-down controller taints it so that its virtual
machines migrate, and writes a `Drained` condition from whose transition time it measures the
migration timeout; when that has passed it adds the out-of-service taint.  When the node is ready
again it removes the taints and the condition.

Taints and conditions are written by two requests, `Update` and `UpdateStatus`, each based on some
version of the node from a cache; a request fails with a conflict when there is a newer version.
-/

namespace Harvester

open Control Action

namespace NodeDown

/-- The status of a condition; the API does not restrict it to the first three. -/
inductive ConditionStatus where
  | true
  | false
  | unknown
  | other (s : String)
  deriving DecidableEq, Repr

/-- A condition of a node; times are in nanoseconds. -/
structure NodeCondition where
  type : String
  status : ConditionStatus
  lastTransitionTime : Int
  lastHeartbeatTime : Int
  reason : String
  message : String
  deriving DecidableEq, Repr

/-- A taint of a node. -/
structure Taint where
  key : String
  value : String
  effect : String
  deriving DecidableEq, Repr

/-- What the controller reads and writes of a node. -/
structure Node where
  name : String
  /-- The node has a deletion timestamp. -/
  deleting : Bool
  taints : List Taint
  conditions : List NodeCondition
  deriving DecidableEq, Repr

/-- The type of a condition. -/
def nodeReady : String := "Ready"
/-- The type of a condition. -/
def harvesterNodeCondDrained : String := "Drained"
/-- A reason. -/
def harvesterNodeDrainedCondReasonDraining : String := "HarvesterNodeIsDraining"
/-- A reason. -/
def harvesterNodeDrainedCondReasonDrained : String := "HarvesterNodeIsDrained"
/-- The message. -/
def harvesterNodeDrainedCondMsg : String := "Node is draining due to kubelet/node not ready."

/-- The key of the drain taint. -/
def nodeDrainTaintDefaultKey : String := "kubevirt.io/drain"
/-- The key of the second taint. -/
def taintNodeOutOfService : String := "node.kubernetes.io/out-of-service"

/-- The taint that triggers migration. -/
def kubevirtDrainTaint : Taint := ⟨nodeDrainTaintDefaultKey, "", "NoSchedule"⟩

/-- The out-of-service taint. -/
def nonGracefulTaint : Taint := ⟨taintNodeOutOfService, "", "NoExecute"⟩

/-- The first condition of a type. -/
def findNodeStatusCondition (conditions : List NodeCondition) (conditionType : String) :
    Option NodeCondition :=
  conditions.find? fun c => c.type = conditionType

/-- Add a condition, or replace those of its type by the first one with new values. -/
def setNodeStatusCondition (now : Int) (node : Node) (condType : String) (status : ConditionStatus)
    (reason message : String) : Node :=
  match findNodeStatusCondition node.conditions condType with
  | none =>
    { node with
      conditions := node.conditions ++ [⟨condType, status, now, now, reason, message⟩] }
  | some cond =>
    let lastTransitionTime := if cond.status ≠ status then now else cond.lastTransitionTime
    let cond : NodeCondition := ⟨cond.type, status, lastTransitionTime, now, reason, message⟩
    { node with conditions := node.conditions.map fun c => if c.type = condType then cond else c }

/-- The first taint with a key. -/
def getNodeTaint (taints : List Taint) (taintKey : String) : Option Taint :=
  taints.find? fun t => t.key = taintKey

/-- `vm-force-reset-policy` as it stands in the setting; the numbers are 64 bits wide. -/
structure RawPolicy where
  enable : Bool
  period : Int
  vmMigrationTimeout : Int
  deriving DecidableEq, Repr

/-- A policy that has passed the checks. -/
structure VMForceResetPolicy where
  enable : Bool
  period : Int
  vmMigrationTimeout : Int
  period_pos : 0 < period
  vmMigrationTimeout_pos : 0 < vmMigrationTimeout

/-- The checks and the default of the migration timeout, after the JSON has been read. -/
def decodeVMForceResetPolicy (value : Except Err RawPolicy) : Except Err VMForceResetPolicy :=
  match value with
  | .error e => .error (.other ("unmarshal failed, error: " ++ e.text))
  | .ok policy =>
    if hperiod : policy.period ≤ 0 then
      .error (.other ("period value should be greater than 0, value: " ++ toString policy.period))
    else if hneg : policy.vmMigrationTimeout < 0 then
      .error (.other ("vmMigrationTimeout value should be greater than 0, value: " ++
        toString policy.vmMigrationTimeout))
    else if hzero : policy.vmMigrationTimeout = 0 then
      .ok ⟨policy.enable, policy.period, 180, by omega, by omega⟩
    else .ok ⟨policy.enable, policy.period, policy.vmMigrationTimeout, by omega, by omega⟩

/-- An upgrade of the in-tree controller, with the value of its state label. -/
structure Upgrade where
  state : Option String
  deriving DecidableEq, Repr

/-- What a reconcile finds besides the node. -/
structure Env where
  now : Int
  /-- The value of the setting. -/
  policy : Except Err RawPolicy
  upgrades : Except Err (List Upgrade)
  /-- The current phases of the upgrade plans; there may be no client for them. -/
  upgradePlans : Option (Except Err (List String))
  update : Fault
  updateStatus : Fault
  /-- The error of a request that fails. -/
  failure : Err

variable (env : Env) (v : Version) (cond : NodeCondition)

/-- An upgrade is going on unless its label says that it has ended. -/
def isOnUpgradeV1 : Bool :=
  match env.upgrades with
  | .error _ => false
  | .ok items => items.any fun u => u.state ≠ some "Succeeded" ∧ u.state ≠ some "Failed"

/-- An upgrade plan is not over. -/
def isOnUpgradeV2 : Bool :=
  match env.upgradePlans with
  | none => false
  | some (.error _) => false
  | some (.ok phases) => phases.any fun phase => phase ≠ "Succeeded" ∧ phase ≠ "Failed"

/-- There is an upgrade. -/
def isOnUpgrade : Bool := isOnUpgradeV1 env || isOnUpgradeV2 env

/-- The versions of the node and the delays for which it has been queued again. -/
structure World where
  versions : History Node
  requeued : List Int

/-- A node as it has been read: the number of the version and the object. -/
structure Version where
  number : Nat
  node : Node

/-- A version of the node. -/
def World.version (w : World) (number : Nat) : Version := ⟨number, w.versions.get number⟩

/-- A handler fails with an error, or dereferences a nil pointer. -/
abbrev Handler := Action World (Halt Err)

/-- Write a new version that is based on the current one. -/
def store (node : Node) (number : Nat) (f : Node → Node) : Handler Version := fun w =>
  if number = w.versions.now then
    (.ok ⟨w.versions.now + 1, f w.versions.live⟩,
      { w with versions := w.versions.push (f w.versions.live) })
  else (.error (.error (.conflict ⟨"", node.name⟩)), w)

/-- `Update` writes everything but the status. -/
def update (env : Env) (v : Version) : Handler Version :=
  request env.update (.error env.failure)
    (store v.node v.number fun live => { live with taints := v.node.taints })

/-- `UpdateStatus` writes the status only. -/
def updateStatus (env : Env) (v : Version) : Handler Version :=
  request env.updateStatus (.error env.failure)
    (store v.node v.number fun live => { live with conditions := v.node.conditions })

/-- The node is queued again. -/
def enqueueAfter (interval : Int) : Handler Unit :=
  .modify fun w => { w with requeued := interval :: w.requeued }

/-- `fmt.Errorf("…: %w", err)`; a crash passes through. -/
def wrap (text : String) : Halt Err → Halt Err
  | .error e => .error (.other (text ++ ": " ++ e.text))
  | .crash => .crash

/-- A second. -/
def second : Int := 1000000000

/-- `time.Until` does not leave the range of 64 bits. -/
def saturate (d : Int) : Int := max (-2 ^ 63) (min (2 ^ 63 - 1) d)

/-- The time that is left of a timeout in seconds; the multiplication wraps around. -/
def calculateRequeueInterval (now : Int) (cond : NodeCondition) (timeout : Int) : Int :=
  saturate (cond.lastTransitionTime + (timeout * second).bmod (2 ^ 64) - now)

/-- Taints are added. -/
def addTaints (taints : List Taint) : Handler Version :=
  if v.node.taints ≠ v.node.taints ++ taints then
    update env { v with node := { v.node with taints := v.node.taints ++ taints } }
  else pure v

/-- Taints are removed. -/
def removeTaints (taintKeys : List String) : Handler Unit :=
  let newTaints := v.node.taints.filter fun t => t.key ∉ taintKeys
  if v.node.taints ≠ newTaints then do
    let _ ← update env { v with node := { v.node with taints := newTaints } }
  else pure ()

/-- A condition is written. -/
def createOrUpdateNodeCondition (condType : String) (status : ConditionStatus)
    (reason message : String) : Handler Version :=
  updateStatus env
    { v with node := setNodeStatusCondition env.now v.node condType status reason message }

/-- The condition is removed. -/
def removeHarvesterNodeDrainedCond : Handler Unit := do
  let newConds := v.node.conditions.filter fun c => c.type ≠ harvesterNodeCondDrained
  let _ ← updateStatus env { v with node := { v.node with conditions := newConds } }

/-- The drain taint first, then the condition on the node that the first request has returned. -/
def triggerMigration : Handler Unit := do
  let nodeObj ← mapError (wrap ("failed to add kubevirt drain taint to node " ++ v.node.name))
    (addTaints env v [kubevirtDrainTaint])
  let _ ← mapError (wrap
      ("failed to create or update HarvesterNodeDrained condition (draining) for node " ++
        v.node.name))
    (createOrUpdateNodeCondition env nodeObj harvesterNodeCondDrained .false
      harvesterNodeDrainedCondReasonDraining harvesterNodeDrainedCondMsg)

/-- The second taint is added. -/
def forceNodeCleanup : Handler Unit := do
  let _ ← mapError (wrap ("failed to add non-graceful taint to node " ++ v.node.name))
    (addTaints env v [nonGracefulTaint])

/-- Mark the node as drained. -/
def markDrained : Handler Unit := do
  let _ ← createOrUpdateNodeCondition env v harvesterNodeCondDrained .true
    harvesterNodeDrainedCondReasonDrained harvesterNodeDrainedCondMsg

/-- The first taint is added in time. -/
def addKubevirtTaintAfterExtraTimeout (extraTime : Int) : Handler Unit :=
  if (getNodeTaint v.node.taints nodeDrainTaintDefaultKey).isSome then pure ()
  else if 0 < calculateRequeueInterval env.now cond extraTime then
    enqueueAfter (calculateRequeueInterval env.now cond extraTime)
  else triggerMigration env v

/-- The out-of-service taint and the end of the condition, which is written to the version that has
been read, not to the one that the first request has returned. -/
def cleanup (env : Env) (v : Version) : Handler Unit := do
  mapError (wrap ("failed to cleanup stuck resources for node " ++ v.node.name))
    (forceNodeCleanup env v)
  markDrained env v

/-- The condition is a pointer; computing the interval dereferences it. -/
def waitAndAddOutOfServiceTaint (cond : Option NodeCondition) (vmMigrationTimeout : Int) : Handler
    Unit := do
  let cond ← Action.ofExcept (Guarded.deref cond)
  if 0 < calculateRequeueInterval env.now cond vmMigrationTimeout then
    enqueueAfter (calculateRequeueInterval env.now cond vmMigrationTimeout)
  else cleanup env v

/-- Add the taint that is missing. -/
def addMissingTaint (drainCondition : Option NodeCondition) (policy : VMForceResetPolicy) : Handler
    Unit :=
  if getNodeTaint v.node.taints nodeDrainTaintDefaultKey = none then
    addKubevirtTaintAfterExtraTimeout env v cond policy.period
  else if getNodeTaint v.node.taints taintNodeOutOfService = none then
    waitAndAddOutOfServiceTaint env v drainCondition policy.vmMigrationTimeout
  else pure ()

/-- A node that is down: with both taints its condition, a pointer, is looked at. -/
def drainNode (policy : VMForceResetPolicy) : Handler Unit :=
  let drainCondition := findNodeStatusCondition v.node.conditions harvesterNodeCondDrained
  let hasKubevirtDrainTaint := (getNodeTaint v.node.taints nodeDrainTaintDefaultKey).isSome
  let hasOutOfServiceTaint := (getNodeTaint v.node.taints taintNodeOutOfService).isSome
  if hasKubevirtDrainTaint && hasOutOfServiceTaint then do
    let c ← Action.ofExcept (Guarded.deref drainCondition)
    if c.status = .false then markDrained env v
    else addMissingTaint env v cond drainCondition policy
  else addMissingTaint env v cond drainCondition policy

/-- The branch for the status `Unknown`. -/
def checkNodeUnknown : Handler Unit := do
  let policy ← Action.ofExcept (((decodeVMForceResetPolicy env.policy).mapError Halt.error).mapError
    fun e => wrap "failed to fetch VMForceResetPolicy setting"
      (wrap "failed to decode VMForceResetPolicy setting" e))
  if policy.enable then drainNode env v cond policy else pure ()

/-- The branch for the status `True`. -/
def resetNode : Handler Unit := do
  mapError (wrap ("failed to remove taints [" ++ nodeDrainTaintDefaultKey ++ " " ++
      taintNodeOutOfService ++ "] from node " ++ v.node.name))
    (removeTaints env v [nodeDrainTaintDefaultKey, taintNodeOutOfService])
  if (findNodeStatusCondition v.node.conditions harvesterNodeCondDrained).isSome then
    mapError (wrap ("failed to reset HarvesterNodeFailure condition for node " ++ v.node.name))
      (removeHarvesterNodeDrainedCond env v)
  else pure ()

/-- The case of the status `False` has no statements, and does not fall through. -/
def checkNodeReady : Handler Unit :=
  match findNodeStatusCondition v.node.conditions nodeReady with
  | none => .fail (.error (.other ("can't find Ready condition in node " ++ v.node.name)))
  | some cond =>
    if isOnUpgrade env then pure ()
    else match cond.status with
      | .false => pure ()
      | .unknown => checkNodeUnknown env v cond
      | .true => resetNode env v
      | .other s =>
        .fail (.error (.other ("unknown status " ++ s ++ " for condition Ready in node " ++
          v.node.name)))

/-- A reconcile. -/
def onNodeChanged : Handler Unit :=
  if v.node.deleting then pure ()
  else mapError (wrap ("failed to check node ready for node " ++ v.node.name))
    (checkNodeReady env v)

end NodeDown

end Harvester
