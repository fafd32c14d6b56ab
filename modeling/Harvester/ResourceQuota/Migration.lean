import Harvester.Control.History
import Harvester.Control.Machine
import Harvester.Kube.Basic
import Harvester.ResourceQuota.Calculator

/-!
# The controllers that write a resource quota

* `OnVmimChanged` (`pkg/controller/master/migration/vmim_controller.go`) records the *share* of a
  VMI whose migration is pending in an annotation, compensates a migration that the quota blocks,
  and removes share and compensation when a migration has finished;
* `OnResourceQuotaChanged` (`pkg/controller/master/resourcequota`) recomputes the limits.

Both read the quota from a cache, and their update fails when the version they have read is not the
current one.  A reconcile of a pending migration makes two updates: it is two steps of the system.
-/

namespace Harvester

namespace ResourceQuota

open Control

/-- The phase of a migration. -/
inductive MigrationPhase where
  | unset
  | pending
  | scheduling
  | scheduled
  | preparingTarget
  | targetReady
  | running
  | failed
  | succeeded
  deriving DecidableEq, Repr

/-- `MigrationFailed` or `MigrationSucceeded`. -/
def MigrationPhase.isFinished : MigrationPhase → Bool
  | failed | succeeded => true
  | _ => false

/-- A `VirtualMachineInstanceMigration`. -/
structure Vmim where
  uid : String
  vmiName : String
  phase : MigrationPhase
  abortRequested : Bool
  /-- The condition that the quota blocks the migration is true. -/
  rejectedByResourceQuota : Bool
  deriving DecidableEq, Repr

/-- The quota is not scaled. -/
def isResourceQuotaAutoScalingDisabled (rq : Quota) : Bool :=
  match rq.annotations.lookup .skipResourceQuotaAutoScaling with
  | some (.text s) => s = "true"
  | _ => false

/-- A pass is asked for. -/
def isMigratingScalingResyncNeeded (rq : Quota) : Bool :=
  match rq.annotations.lookup .migratingScalingResyncNeeded with
  | some (.text s) => s = "true"
  | _ => false

/-- Write the resync flag. -/
def setResync (rq : Quota) (value : String) : Quota :=
  { rq with annotations := rq.annotations.insert .migratingScalingResyncNeeded (.text value) }

/-- A pass is to follow. -/
def setAnnotationMigratingScalingResyncNeeded (rq : Quota) : Quota := setResync rq "true"

/-- The pass has been made. -/
def clearAnnotationMigratingScalingResyncNeeded (rq : Quota) : Quota :=
  if isMigratingScalingResyncNeeded rq then setResync rq "false" else rq

/-- A quota is managed when it has limits and the namespace annotation has, too. -/
def managedBy (noLimits : Bool) (limited : NamespaceQuota → Except Error Bool) :
    NamespaceAnnotation → Except Error Bool
  | .empty => .ok false
  | .invalid => if noLimits then .ok false else .error .unmarshalNamespaceQuota
  | .null => .ok false
  | .quota nrq => if noLimits then .ok false else limited nrq

/-- The quota is scaled. -/
def isResourceQuotaManagedByNamespaceAnnotation (rq : Quota) :
    NamespaceAnnotation → Except Error Bool :=
  managedBy (isEmptyResourceQuota rq) fun nrq => do
    let (cpu, mem) ← getCPUMemoryLimitsFromRancherNamespaceResourceQuota (some nrq)
    return cpu ≠ 0 || mem ≠ 0

/-- The memory is scaled. -/
def isResourceQuotaManagedByNamespaceAnnotationWithMemoryLimits (rq : Quota) :
    NamespaceAnnotation → Except Error Bool :=
  managedBy (isMemoryLimitEmpty rq) fun nrq => do
    let mem ← nrq.limitsMemory.parse
    return mem ≠ 0

/-- What the handlers read besides the quota. -/
structure Readings where
  /-- The quota annotation of the namespace. -/
  ns : Except Error NamespaceAnnotation
  /-- The setting for the memory overhead. -/
  ratio : String

section

variable (getMemoryOverhead : VMI → String → Quantity) (read : Readings) (vmi : VMI) (rq : Quota)

/-- `CalculateScaleResourceQuotaWithVMI`; `none` when there is nothing to add. -/
def calculateScaleResourceQuotaWithVMI : Option ResourceList :=
  if isEmptyResourceQuota rq || (vmi.limits.name .cpu = 0 && vmi.limits.name .memory = 0) then none
  else
    let rl := ResourceList.empty
    let rl :=
      if vmi.limits.name .cpu ≠ 0 ∧ (rq.hard .limitsCPU).isSome then
        rl.set .limitsCPU (vmi.limits.name .cpu)
      else rl
    some <|
      if vmi.limits.name .memory ≠ 0 ∧ (rq.hard .limitsMemory).isSome then
        rl.set .limitsMemory (vmi.limits.name .memory + getMemoryOverhead vmi read.ratio)
      else rl

/-- `scaleResourceQuotaWithVMI`: the quota to write, if any. -/
def scaleResourceQuotaWithVMI : Except Error (Option Quota) :=
  if vmi.limits.name .memory = 0 && vmi.limits.name .cpu = 0 then .ok none
  else if isResourceQuotaAutoScalingDisabled rq then .ok none
  else do
    let ns ← read.ns
    let managed ← isResourceQuotaManagedByNamespaceAnnotation rq ns
    if !managed || containsMigratingVM rq vmi.name vmi.uid then return none
    else match calculateScaleResourceQuotaWithVMI getMemoryOverhead read vmi rq with
      | none => return none
      | some rl =>
        return some
          (setAnnotationMigratingScalingResyncNeeded (addMigratingVM rq vmi.name vmi.uid rl))

/-- `compensateResourceQuotaBase`; it is tried again when the share is not recorded or counted yet.
-/
def compensateResourceQuotaBase : Except Error (Option Quota) :=
  if vmi.limits.name .memory = 0 || isResourceQuotaAutoScalingDisabled rq then .ok none
  else do
    let ns ← read.ns
    let managed ← isResourceQuotaManagedByNamespaceAnnotationWithMemoryLimits rq ns
    if !managed || !containsMigratingVM rq vmi.name vmi.uid ||
        isMigratingScalingResyncNeeded rq then
      return none
    else match calculateCompensationResourceQuotaWithVMI getMemoryOverhead rq vmi read.ratio with
      | none => return none
      | some rl =>
        return some (setAnnotationMigratingScalingResyncNeeded (addMigratingCompensation rq rl))

/-- The share of a VMI is removed. -/
def restoreResourceQuotaWithVMI : Option Quota :=
  let (rqCpy, deleted) := deleteMigratingVM rq vmi.name vmi.uid
  if deleted then
    some (setAnnotationMigratingScalingResyncNeeded (deleteMigratingCompensation rqCpy).1)
  else none

/-- The writes of a quota that a reconcile of a migration comes to. -/
inductive Part where
  | scale
  | compensate
  | restore
  deriving DecidableEq, Repr

/-- `OnVmimChanged`: what there is to do for a migration, by its phase. -/
def onVmimChanged (vmim : Vmim) : List Part :=
  match vmim.phase with
  | .unset => []
  | .pending =>
    if vmim.abortRequested then []
    else if vmim.rejectedByResourceQuota then [.scale, .compensate] else [.scale]
  | .scheduling | .scheduled | .preparingTarget | .targetReady | .running => []
  | .failed | .succeeded => [.restore]

/-- The quota that a part writes. -/
def Part.quota : Part → Except Error (Option Quota)
  | .scale => scaleResourceQuotaWithVMI getMemoryOverhead read vmi rq
  | .compensate => compensateResourceQuotaBase getMemoryOverhead read vmi rq
  | .restore => .ok (restoreResourceQuotaWithVMI vmi rq)

/-- `OnResourceQuotaChanged`, with the annotations in the order of the loop. -/
def onResourceQuotaChanged (es : Entries) : Except Error (Option Quota) :=
  if isResourceQuotaAutoScalingDisabled rq then .ok none
  else do
    let ns ← read.ns
    match scaleResourceQuotaOnDemand rq es ns with
    | .error .skipScaling =>
      if isMigratingScalingResyncNeeded rq then
        return some (clearAnnotationMigratingScalingResyncNeeded rq)
      else return none
    | .error e => .error e
    | .ok (rqCopy, update) =>
      if update || isMigratingScalingResyncNeeded rqCopy then
        return some (clearAnnotationMigratingScalingResyncNeeded rqCopy)
      else return none

end

/-- The VMIs, which keep existing; UIDs are unique. -/
structure Cluster where
  vmis : String → Option VMI
  getMemoryOverhead : VMI → String → Quantity
  uid_inj : ∀ {n n' v v'}, vmis n = some v → vmis n' = some v' → v.uid = v'.uid → n = n'

/-- The quota and the migrations. -/
structure System where
  quota : History Quota
  /-- The migrations as they are. -/
  vmims : Store Vmim.uid
  /-- All versions that the migrations have had: what a handler can be called with. -/
  seen : List Vmim

/-- Reconciles, and steps of migrations. -/
inductive Event where
  /-- A part of a reconcile of a migration; the quota is read in version `i`. -/
  | vmim (vmim : Vmim) (part : Part) (read : Readings) (i : Nat) (fault : Fault)
  /-- A reconcile of the quota in version `i`, with the order of its loop. -/
  | resourceQuota (read : Readings) (order : List Nat) (i : Nat) (fault : Fault)
  /-- KubeVirt or a user creates a migration, or KubeVirt moves it on. -/
  | migration (vmim : Vmim)
  | deleteMigration (uid : String)

/-- The update of a quota that was read in version `i`. -/
def System.write (s : System) (i : Nat) (fault : Fault) (rq : Except Error (Option Quota)) :
    System :=
  match rq with
  | .ok (some rq) =>
    if i = s.quota.now ∧ fault ≠ .refused then { s with quota := s.quota.push rq } else s
  | _ => s

/-- The next version of a migration; a finished one stays as it is. -/
def System.migrates (s : System) (vmim : Vmim) : Bool :=
  match s.vmims.get vmim.uid with
  | none => vmim.phase = .unset && s.seen.all fun old => old.uid ≠ vmim.uid
  | some old => !old.phase.isFinished && old.vmiName = vmim.vmiName

/-- The annotations in the given order. -/
def entriesInOrder (rq : Quota) (order : List Nat) : Entries :=
  order.filterMap fun k => rq.annotations.entries[k]?

/-- One step. -/
def next (c : Cluster) (s : System) : Event → Option System
  | .vmim vmim part read i fault =>
    if vmim ∈ s.seen ∧ part ∈ onVmimChanged vmim ∧ i ≤ s.quota.now then
      match c.vmis vmim.vmiName with
      | none => some s
      | some vmi => some (s.write i fault (part.quota c.getMemoryOverhead read vmi (s.quota.get i)))
    else none
  | .resourceQuota read order i fault =>
    if i ≤ s.quota.now ∧
        order.Perm (List.range (s.quota.get i).annotations.entries.length) then
      let rq := s.quota.get i
      some (s.write i fault (onResourceQuotaChanged read rq (entriesInOrder rq order)))
    else none
  | .migration vmim =>
    if s.migrates vmim then some { s with vmims := s.vmims.put vmim, seen := vmim :: s.seen }
    else none
  | .deleteMigration uid => some { s with vmims := s.vmims.delete uid }

/-- The system. -/
def machine (c : Cluster) : Machine System Event := ⟨next c⟩

/-- A quota and no migrations. -/
def System.init (rq : Quota) : System := ⟨.init rq, .empty, []⟩

end ResourceQuota

end Harvester
