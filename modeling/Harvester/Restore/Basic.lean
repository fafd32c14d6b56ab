import Harvester.Kube.Basic

/-!
# VM restores: the objects

The restore itself, the backup it is made from, the virtual machine it restores, the volumes and the
secrets.  Fields that neither the restore controller nor its webhook looks at are summed up in one
field (`other`), so that "the spec is replaced" is visible in the model.
-/

namespace Harvester

namespace Restore

/-- The source of a VM volume. -/
inductive VolumeSource where
  | persistentVolumeClaim (claimName : String)
  | cloudInitNoCloud (userDataSecret networkDataSecret : Option String)
  | other (source : String)
  deriving DecidableEq, Repr

/-- A volume of a VM. -/
structure Volume where
  name : String
  source : VolumeSource
  deriving DecidableEq, Repr

/-- The claim of a volume that is backed by a PVC. -/
def Volume.claimName (v : Volume) : Option String :=
  match v.source with
  | .persistentVolumeClaim claim => some claim
  | _ => none

/-- An access credential, with the secret it refers to. -/
inductive AccessCredential where
  | sshPublicKey (secret : Option String)
  | userPassword (secret : Option String)
  deriving DecidableEq, Repr

/-- A network interface. -/
structure Interface where
  name : String
  macAddress : String
  deriving DecidableEq, Repr

/-- The run strategy of a VM. -/
inductive RunStrategy where
  | unknown
  | always
  | halted
  | manual
  | rerunOnFailure
  | once
  | waitAsReceiver
  deriving DecidableEq, Repr

/-- The annotation `harvesterhci.io/dynamic-ssh-key-names`: secret names and their keys. -/
inductive DynamicSSHKeyNames where
  | absent
  | invalid
  | names (keys : List (String × List String))
  deriving DecidableEq, Repr

/-- The spec of a VM. -/
structure VMSpec where
  running : Option Bool
  runStrategy : Option RunStrategy
  volumes : List Volume
  accessCredentials : List AccessCredential
  interfaces : List Interface
  /-- The names of the Multus networks. -/
  networks : List String
  dynamicSSHKeyNames : DynamicSSHKeyNames
  other : String
  deriving DecidableEq, Repr

/-- The PVC spec, split into what a volume claim template keeps and the rest. -/
structure PVCSpec where
  accessModes : List String
  storageClassName : Option String
  volumeMode : Option String
  resources : String
  other : String
  deriving DecidableEq, Repr

/-- One entry of the `volumeClaimTemplates` annotation. -/
structure ClaimTemplate where
  name : String
  imageID : Option String
  spec : PVCSpec
  deriving DecidableEq, Repr

/-- The annotations of a VM. -/
structure VMAnnotations where
  /-- `restore.harvesterhci.io/last-restore-uid`. -/
  lastRestore : Option String
  /-- `restore.harvesterhci.io/name`. -/
  restoreName : Option String
  volumeClaimTemplates : Option (List ClaimTemplate)
  reservedMemory : Option String
  enableCPUAndMemoryHotplug : Option String
  other : List (String × String)
  deriving DecidableEq, Repr

/-- A `VirtualMachine`. -/
structure VM where
  ns : String
  name : String
  uid : String
  resourceVersion : Nat
  annotations : VMAnnotations
  spec : VMSpec
  ready : Bool
  deriving DecidableEq, Repr

/-- The key of a VM. -/
def VM.key (vm : VM) : Key := ⟨vm.ns, vm.name⟩

/-- The claims that the volumes of a VM refer to. -/
def VMSpec.claimNames (spec : VMSpec) : List String := spec.volumes.filterMap Volume.claimName

/-- The phase of a VMI. -/
inductive VMIPhase where
  | unset
  | pending
  | scheduling
  | scheduled
  | running
  | succeeded
  | failed
  | waitingForSync
  | unknown
  deriving DecidableEq, Repr

/-- `vm.RunStrategy()`. -/
def VM.runStrategy (vm : VM) : Except Err RunStrategy :=
  match vm.spec.running, vm.spec.runStrategy with
  | some _, some _ => .error (.other "running and runstrategy are mutually exclusive")
  | some true, none => .ok .always
  | some false, none => .ok .halted
  | none, some strategy => .ok strategy
  | none, none => .ok .halted

/-- The phase of a claim. -/
inductive PVCPhase where
  | pending
  | bound
  | lost
  deriving DecidableEq, Repr

/-- A `PersistentVolumeClaim`. -/
structure PVC where
  ns : String
  name : String
  imageID : Option String
  /-- `restore.harvesterhci.io/name`. -/
  restoreName : Option String
  spec : PVCSpec
  phase : PVCPhase
  deriving DecidableEq, Repr

/-- The key of a claim. -/
def PVC.key (pvc : PVC) : Key := ⟨pvc.ns, pvc.name⟩

/-- A `Secret`. -/
structure Secret where
  ns : String
  name : String
  ownerReferences : List OwnerReference
  data : List (String × String)
  deriving DecidableEq, Repr

/-- The key of a secret. -/
def Secret.key (secret : Secret) : Key := ⟨secret.ns, secret.name⟩

/-- The kind of a backup. -/
inductive BackupType where
  | backup
  | snapshot
  deriving DecidableEq, Repr

/-- One volume of a backup, with the PVC it was taken from. -/
structure VolumeBackup where
  name : Option String
  volumeName : String
  pvcNamespace : String
  pvcName : String
  pvcImageID : Option String
  pvcSpec : PVCSpec
  longhornBackupName : Option String
  deriving DecidableEq, Repr

/-- A secret in a backup. -/
structure SecretBackup where
  name : String
  data : List (String × String)
  deriving DecidableEq, Repr

/-- A `VirtualMachineBackup`; `source…` is `Status.SourceSpec`. -/
structure VMBackup where
  ns : String
  name : String
  deleting : Bool
  /-- The annotation that names the schedule that made the backup; empty without one. -/
  svmBackupID : String
  sourceKind : String
  sourceName : String
  type : BackupType
  readyToUse : Option Bool
  sourceUID : Option String
  sourceAnnotations : VMAnnotations
  sourceSpec : VMSpec
  volumeBackups : List VolumeBackup
  secretBackups : List SecretBackup
  /-- The backup target (endpoint, bucket name and region) the data were sent to. -/
  backupTarget : Option (String × String × String)
  /-- The volume snapshot class of every CSI driver. -/
  csiDriverVolumeSnapshotClassNames : List (String × String)
  deriving DecidableEq, Repr

/-- The key of a backup. -/
def VMBackup.key (vmb : VMBackup) : Key := ⟨vmb.ns, vmb.name⟩

/-- The backup is ready. -/
def VMBackup.isReady (vmb : VMBackup) : Bool := vmb.readyToUse = some true

/-- The key of the VM the backup was taken from. -/
def VMBackup.sourceKey (vmb : VMBackup) : Key := ⟨vmb.ns, vmb.sourceName⟩

/-- What happens to the old volumes.  An empty policy counts as `delete`. -/
inductive DeletionPolicy where
  | delete
  | retain
  deriving DecidableEq, Repr

/-- What the user asks for. -/
structure RestoreSpec where
  targetKind : String
  targetName : String
  virtualMachineBackupName : String
  virtualMachineBackupNamespace : String
  newVM : Bool
  deletionPolicy : DeletionPolicy
  keepMacAddress : Bool
  haltAfterRestore : Bool
  deriving DecidableEq, Repr

/-- One volume of a restore, with the PVC it is restored to. -/
structure VolumeRestore where
  volumeName : String
  pvcNamespace : String
  pvcName : String
  pvcSpec : PVCSpec
  volumeBackupName : String
  longhornEngineName : Option String
  progress : Int
  volumeSize : Int
  deriving DecidableEq, Repr

/-- The two condition types of a restore. -/
inductive ConditionType where
  | ready
  /-- `InProgress`. -/
  | progressing
  deriving DecidableEq, Repr

/-- A condition. -/
structure Condition where
  type : ConditionType
  status : Bool
  reason : String
  message : String
  lastUpdateTime : String
  lastTransitionTime : String
  deriving DecidableEq, Repr

/-- The status of a restore. -/
structure RestoreStatus where
  /-- The field `restores`, which may be missing. -/
  restores : Option (List VolumeRestore)
  restoreTime : Option String
  deletedVolumes : List String
  complete : Option Bool
  conditions : List Condition
  targetUID : Option String
  progress : Int
  deriving DecidableEq, Repr

/-- `VolumeRestores`: the volumes of a restore; there are none when the list is missing. -/
def RestoreStatus.volumeRestores (status : RestoreStatus) : List VolumeRestore :=
  status.restores.getD []

/-- A `VirtualMachineRestore`. -/
structure VMRestore where
  ns : String
  name : String
  uid : String
  resourceVersion : Nat
  deleting : Bool
  ownerReferences : List OwnerReference
  spec : RestoreSpec
  status : RestoreStatus
  deriving DecidableEq, Repr

/-- The key of a restore. -/
def VMRestore.key (vmr : VMRestore) : Key := ⟨vmr.ns, vmr.name⟩

/-- The key of the VM that is restored. -/
def VMRestore.targetKey (vmr : VMRestore) : Key := ⟨vmr.ns, vmr.spec.targetName⟩

/-- The key of the backup that is restored. -/
def VMRestore.backupKey (vmr : VMRestore) : Key :=
  ⟨vmr.spec.virtualMachineBackupNamespace, vmr.spec.virtualMachineBackupName⟩

/-! ### A small restore

One VM with one disk and a backup of it; the witnesses of the theorems are variations of it. -/

namespace Sample

def pvcSpec : PVCSpec := ⟨["ReadWriteOnce"], some "longhorn", some "Block", "10Gi", ""⟩

/-- A bound PVC in namespace `default`. -/
def pvc (name : String) : PVC := ⟨"default", name, none, none, pvcSpec, .bound⟩

/-- A halted VM with one disk on the claim `claim`. -/
def vm (name claim : String) : VM where
  ns := "default"
  name := name
  uid := "uid-" ++ name
  resourceVersion := 1
  annotations := ⟨none, none, none, none, none, []⟩
  spec := ⟨none, some .halted, [⟨"disk", .persistentVolumeClaim claim⟩], [], [], [], .absent, ""⟩
  ready := false

/-- The backup `b` of the VM `default/vm` while its disk was on the claim `old`. -/
def backup : VMBackup where
  ns := "default"
  name := "b"
  deleting := false
  svmBackupID := ""
  sourceKind := "VirtualMachine"
  sourceName := "vm"
  type := .backup
  readyToUse := some true
  sourceUID := some "uid-vm"
  sourceAnnotations := ⟨none, none, none, none, none, []⟩
  sourceSpec := (vm "vm" "old").spec
  volumeBackups := [⟨some "b-disk", "disk", "default", "old", none, pvcSpec, some "lh-b"⟩]
  secretBackups := []
  backupTarget := some ("s3", "bucket", "region")
  csiDriverVolumeSnapshotClassNames := []

/-- The restore `r` of `b` to the VM `default/vm`, with the deletion policy `delete`. -/
def restore : VMRestore where
  ns := "default"
  name := "r"
  uid := "u"
  resourceVersion := 1
  deleting := false
  ownerReferences := []
  spec := ⟨"VirtualMachine", "vm", "b", "default", false, .delete, false, false⟩
  status := ⟨none, none, [], none, [], none, 0⟩

end Sample

end Restore

end Harvester
