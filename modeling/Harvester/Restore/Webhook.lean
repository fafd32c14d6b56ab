import Harvester.Restore.Operator
import Harvester.Kube.Admission

/-!
# The restore webhook

The admission of a new restore (`pkg/webhook/resources/virtualmachinerestore/validator.go`).  A
`Cluster` has the objects as the caches of the validator show them.
-/

namespace Harvester

namespace Restore

open Control

/-- A restore as it is created: without a status. -/
def newRestore (ns name uid : String) (spec : RestoreSpec) : VMRestore where
  ns := ns
  name := name
  uid := uid
  resourceVersion := 0
  deleting := false
  ownerReferences := []
  spec := spec
  status := ⟨none, none, [], none, [], none, 0⟩

/-- The backup target setting, by what `DecodeBackupTarget` makes of it. -/
inductive BackupTargetSetting where
  | missing
  | invalid
  /-- No target is configured. -/
  | default
  | target (endpoint bucketName bucketRegion : String)
  deriving DecidableEq, Repr

/-- The objects that the webhook, and a reconcile with current caches, look at. -/
structure Cluster where
  vms : Store VM.key
  vmBackups : Store VMBackup.key
  vmRestores : Store VMRestore.key
  pvcs : Store PVC.key
  /-- The schedules, and whether they are suspended. -/
  schedules : List (Key × Bool)
  volumeSnapshotClasses : List String
  networkAttachmentDefinitions : List Key
  backupTarget : BackupTargetSetting
  /-- The access reviews for VM backups. -/
  access : AccessReview
  /-- `CheckIfVMCanStartByResourceQuota`: the verdict of the quota calculator on a VM. -/
  checkIfVMCanStartByResourceQuota : VM → Except Err Unit

namespace Cluster

variable (c : Cluster)

section

variable (vmr : VMRestore) (vmb : VMBackup)

/-- `vmRestoreByTargetNamespaceAndName`. -/
def restoreTargetIndex : String := vmr.ns ++ "-" ++ vmr.spec.targetName

/-- `vmRestoreByVMBackupNamespaceAndName`. -/
def restoreBackupIndex : String :=
  vmr.spec.virtualMachineBackupNamespace ++ "-" ++ vmr.spec.virtualMachineBackupName

/-- The key of a backed-up PVC in the snapshot index. -/
def pvcIndexKey (vb : VolumeBackup) : String := vb.pvcNamespace ++ "/" ++ vb.pvcName

/-- `vmBackupSnapshotByPVCNamespaceAndName`. -/
def snapshotIndex : List String :=
  if vmb.type = .backup then [] else vmb.volumeBackups.map pvcIndexKey

/-- `HasActiveRestore`: a failed restore does not count as active. -/
def hasActiveRestore (ns name : String) : Bool :=
  (c.vmRestores.objs.filter fun vmr => restoreTargetIndex vmr = ns ++ "-" ++ name).any fun vmr =>
    !vmr.isFailed && vmr.isProgressing

/-- A field. -/
def fieldTargetName : String := "spec.target.name"
/-- A field. -/
def fieldVirtualMachineBackupName : String := "spec.virtualMachineBackupName"
/-- A field. -/
def fieldNewVM : String := "spec.newVM"
/-- A field. -/
def fieldKeepMacAddress : String := "spec.keepMacAddress"

/-- The user may read the backup. -/
def checkVMBackupAccess (user : String) (vmr : VMRestore) : Except AdmitError Unit :=
  let name := vmr.spec.virtualMachineBackupNamespace ++ "/" ++ vmr.spec.virtualMachineBackupName
  match c.access user vmr.backupKey with
  | .error e =>
    .error (.internal ("failed to check access to VMBackup " ++ name ++ ": " ++ e.text))
  | .ok false =>
    .error (.forbidden
      ("user " ++ quoted user ++ " is not authorized to access VMBackup " ++ name))
  | .ok true => .ok ()

/-- The backup, if it is ready. -/
def getVMBackup : Except String VMBackup :=
  match c.vmBackups.get vmr.backupKey with
  | none => .error ("can't get vmbackup " ++ vmr.spec.virtualMachineBackupNamespace ++ "/" ++
      vmr.spec.virtualMachineBackupName)
  | some vmb =>
    if !vmb.isReady then .error ("VMBackup " ++ vmb.ns ++ "/" ++ vmb.name ++ " is not ready")
    else if vmb.sourceKind ≠ vmKind then
      .error ("unsupported backup source kind: " ++ vmb.sourceKind)
    else if vmb.deleting then .error ("vmbackup " ++ vmb.ns ++ "/" ++ vmb.name ++ " is deleted")
    else .ok vmb

/-- The schedule of a backup exists and is not suspended. -/
def scheduleIsRunning : Bool :=
  vmb.svmBackupID ≠ "" && c.schedules.lookup (splitNamespacedName vmb.svmBackupID) = some false

/-- The snapshot classes exist. -/
def checkVolumeSnapshotClass : Except String Unit :=
  match vmb.csiDriverVolumeSnapshotClassNames.find? fun d =>
      d.2 ∉ c.volumeSnapshotClasses with
  | some d => .error ("can't get volumeSnapshotClass " ++ d.2 ++ " for driver " ++ d.1)
  | none => .ok ()

/-- The networks exist. -/
def checkNetwork : Except String Unit :=
  match vmb.sourceSpec.networks.find? fun n =>
      splitNamespacedName n ∉ c.networkAttachmentDefinitions with
  | some n => .error ("failed to get network attachment definition " ++ n)
  | none => .ok ()

/-- The backup is in the target. -/
def checkBackupTarget : Except String Unit :=
  match c.backupTarget with
  | .missing => .error "can't get backup target setting"
  | .invalid => .error "unmarshal backup target failed"
  | .default => .error "backup target is not set"
  | .target endpoint bucket region =>
    if vmb.backupTarget = some (endpoint, bucket, region) then .ok ()
    else .error ("backup target is not matched in vmBackup " ++ vmb.ns ++ "/" ++ vmb.name)

/-- The snapshots of the PVC with the given index key. -/
def snapshotsOf (pvc : String) : List VMBackup :=
  c.vmBackups.objs.filter fun vmb => pvc ∈ snapshotIndex vmb

/-- The loop of `checkBackup`: no backed-up PVC is the source of a VM snapshot. -/
def checkSnapshotsOfVolumes : List VolumeBackup → Except String Unit
  | [] => .ok ()
  | vb :: vbs =>
    let snapshots := c.snapshotsOf (pvcIndexKey vb)
    if snapshots ≠ [] then
      .error ("can't use delete policy, the volume " ++ quoted (pvcIndexKey vb) ++
        " is used by the VM Snapshot(s) " ++ ", ".intercalate (snapshots.map VMBackup.name))
    else checkSnapshotsOfVolumes vbs

/-- The checks of a backup. -/
def checkBackup : Except String Unit := do
  c.checkBackupTarget vmb
  if vmr.isNewVMOrHasRetainPolicy then .ok ()
  else c.checkSnapshotsOfVolumes vmb.volumeBackups

/-- There are Longhorn backups. -/
def isLHBackupRelated : Except String Unit :=
  match vmb.volumeBackups.zipIdx.find? fun vb => vb.1.longhornBackupName.getD "" = "" with
  | some vb => .error ("vmbackup " ++ vmb.ns ++ "/" ++ vmb.name ++ " vb " ++ vb.1.name.getD "" ++
      " at index " ++ toString vb.2 ++ " not from LH, it can't be recovered")
  | none => .ok ()

/-- The checks of a snapshot. -/
def checkSnapshot : Except String Unit :=
  if vmr.ns ≠ vmb.ns then
    .error "restore to other namespace with backup type snapshot is not supported"
  else if !vmr.spec.newVM && vmr.spec.deletionPolicy ≠ .retain then
    .error "delete policy with backup type snapshot for replacing VM is not supported"
  else .ok ()

/-- `checkVMBackupType`, without the wrapping of its error. -/
def checkVMBackupType : Except String Unit :=
  match vmb.type with
  | .backup => do
    c.checkBackup vmr vmb
    isLHBackupRelated vmb
  | .snapshot => checkSnapshot vmr vmb

/-- The VM can be replaced. -/
def handleExistVM (vm : VM) : Except AdmitError Unit :=
  if vm.ready then
    .error (.invalid ("Please stop the VM " ++ quoted vm.name ++ " before doing a restore")
      fieldTargetName)
  else if c.hasActiveRestore vm.ns vm.name then
    .error (.invalid ("Please wait for the previous VM restore on the " ++ vm.ns ++ "/" ++
      vm.name ++ " to be complete first.") fieldTargetName)
  else match c.checkIfVMCanStartByResourceQuota vm with
    | .error e => .error (.internal ("Failed to restore the exist vm, err: " ++ e.text))
    | .ok () => .ok ()

/-- The VM whose resources `handleNewVM` checks. -/
def newVMForQuota : VM where
  ns := vmr.ns
  name := vmr.spec.targetName
  uid := ""
  resourceVersion := 0
  annotations := ⟨none, none, none, none, none, []⟩
  spec := { vmb.sourceSpec with runStrategy := some .rerunOnFailure }
  ready := false

/-- The new VM can be started. -/
def handleNewVM : Except AdmitError Unit :=
  match c.checkIfVMCanStartByResourceQuota (newVMForQuota vmr vmb) with
  | .error e => .error (.internal ("Failed to restore the new vm, err: " ++ e.text))
  | .ok () =>
    if !vmr.spec.keepMacAddress then .ok ()
    else match (c.vmRestores.objs.filter fun other =>
        restoreBackupIndex other = restoreBackupIndex vmr).find? fun other =>
          other.spec.newVM && other.spec.keepMacAddress with
      | some other => .error (.invalid
          ("can't restore the new vm with the same macaddress as the vmrestore " ++ other.ns ++
            "/" ++ other.name) fieldKeepMacAddress)
      | none => match c.vms.get vmb.sourceKey with
        | none => .ok ()
        | some sourceVM =>
          if vmb.sourceUID = some sourceVM.uid then .error (.invalid
            ("can't restore the new vm with the same macaddress because the source vm is still " ++
              "existent") fieldKeepMacAddress)
          else .ok ()

/-- The VM exists unless it is new. -/
def checkNewVMField : Except AdmitError Unit :=
  match vmr.spec.newVM, c.vms.get vmr.targetKey with
  | true, some vm => .error (.invalid ("VM " ++ vm.name ++ " is already exists") fieldNewVM)
  | true, none => c.handleNewVM vmr vmb
  | false, none =>
    .error (.invalid ("can't replace nonexistent vm " ++ vmr.spec.targetName) fieldTargetName)
  | false, some vm => c.handleExistVM vm

end

/-- An error about the backup, as the webhook reports it. -/
def invalidBackup {α : Type} (x : Except String α) : Except AdmitError α :=
  x.mapError fun message => .invalid message fieldVirtualMachineBackupName

/-- `Create`: the verdict on a new restore. -/
def create (user : String) (vmr : VMRestore) : Except AdmitError Unit := do
  rejectIf (!isDNS1123Subdomain vmr.spec.targetName)
    (.invalid "Target VM name is invalid" fieldTargetName)
  c.checkVMBackupAccess user vmr
  let vmb ← invalidBackup (c.getVMBackup vmr)
  rejectIf (c.scheduleIsRunning vmb)
    (.internal ("Source schedule " ++ vmb.svmBackupID ++ " is running"))
  invalidBackup (c.checkVolumeSnapshotClass vmb)
  invalidBackup (c.checkNetwork vmb)
  invalidBackup (c.checkVMBackupType vmr vmb)
  c.checkNewVMField vmr vmb

variable {c}

theorem invalidBackup_eq_ok {α : Type} {x : Except String α} {a : α} :
    invalidBackup x = .ok a ↔ x = .ok a :=
  except_mapError_eq_ok

/-- What the webhook has found out about the backup of an admitted restore. -/
structure Admissible (c : Cluster) (user : String) (vmr : VMRestore) (vmb : VMBackup) : Prop where
  targetName : isDNS1123Subdomain vmr.spec.targetName = true
  access : c.checkVMBackupAccess user vmr = .ok ()
  backup : c.getVMBackup vmr = .ok vmb
  schedule : c.scheduleIsRunning vmb = false
  volumeSnapshotClass : c.checkVolumeSnapshotClass vmb = .ok ()
  network : c.checkNetwork vmb = .ok ()
  backupType : c.checkVMBackupType vmr vmb = .ok ()

/-- **Inversion of the webhook.** -/
theorem create_eq_ok {user : String} {vmr : VMRestore} :
    c.create user vmr = .ok () ↔
      ∃ vmb, Admissible c user vmr vmb ∧ c.checkNewVMField vmr vmb = .ok () := by
  simp only [create, except_bind_unit_eq_ok, except_bind_eq_ok (α := VMBackup), rejectIf_eq_ok,
    Bool.not_eq_false', invalidBackup_eq_ok]
  constructor
  · rintro ⟨h1, h2, vmb, h3, h4, h5, h6, h7, hvm⟩
    exact ⟨vmb, ⟨h1, h2, h3, h4, h5, h6, h7⟩, hvm⟩
  · rintro ⟨vmb, h, hvm⟩
    exact ⟨h.targetName, h.access, vmb, h.backup, h.schedule, h.volumeSnapshotClass, h.network,
      h.backupType, hvm⟩

theorem getVMBackup_eq_ok {vmr : VMRestore} {vmb : VMBackup} :
    c.getVMBackup vmr = .ok vmb ↔ c.vmBackups.get vmr.backupKey = some vmb ∧
      vmb.isReady = true ∧ vmb.sourceKind = vmKind ∧ vmb.deleting = false := by
  unfold getVMBackup
  rcases c.vmBackups.get vmr.backupKey with _ | vmb'
  · simp
  · dsimp only
    split_ifs with h1 h2 h3
    all_goals grind

theorem create_eq_ok_of_get {user : String} {vmr : VMRestore} {vmb : VMBackup}
    (hb : c.vmBackups.get vmr.backupKey = some vmb) :
    c.create user vmr = .ok () ↔
      Admissible c user vmr vmb ∧ c.checkNewVMField vmr vmb = .ok () := by
  rw [create_eq_ok]
  constructor
  · rintro ⟨vmb', h, hvm⟩
    obtain rfl := Option.some.inj (hb.symm.trans (getVMBackup_eq_ok.1 h.backup).1)
    exact ⟨h, hvm⟩
  · intro h
    exact ⟨vmb, h⟩

theorem checkSnapshotsOfVolumes_eq_ok {vbs : List VolumeBackup} :
    c.checkSnapshotsOfVolumes vbs = .ok () ↔
      ∀ vb ∈ vbs, c.snapshotsOf (pvcIndexKey vb) = [] := by
  induction vbs with
  | nil => simp [checkSnapshotsOfVolumes]
  | cons vb vbs ih =>
    simp only [checkSnapshotsOfVolumes, List.forall_mem_cons, ← ih]
    split
    · next h => simp [h]
    · next h => simp [not_not.1 h]

theorem checkBackup_eq_ok {vmr : VMRestore} {vmb : VMBackup} :
    c.checkBackup vmr vmb = .ok () ↔ c.checkBackupTarget vmb = .ok () ∧
      (vmr.isNewVMOrHasRetainPolicy = false →
        ∀ vb ∈ vmb.volumeBackups, c.snapshotsOf (pvcIndexKey vb) = []) := by
  rw [checkBackup, except_bind_unit_eq_ok, ← checkSnapshotsOfVolumes_eq_ok]
  rcases vmr.isNewVMOrHasRetainPolicy with _ | _ <;> simp

end Cluster

namespace Sample

/-- A cluster with the backup target of `backup`, which everybody may read. -/
def cluster (vms : Store VM.key) (vmBackups : Store VMBackup.key) (pvcs : Store PVC.key) :
    Cluster where
  vms := vms
  vmBackups := vmBackups
  vmRestores := Store.empty
  pvcs := pvcs
  schedules := []
  volumeSnapshotClasses := []
  networkAttachmentDefinitions := []
  backupTarget := .target "s3" "bucket" "region"
  access _ _ := .ok true
  checkIfVMCanStartByResourceQuota _ := .ok ()

end Sample

end Restore

end Harvester
