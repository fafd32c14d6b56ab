import Harvester.Backup.Controller
import Harvester.Control.Machine
import Harvester.Kube.Admission

/-!
# The initialisation of a backup

`Create` of `pkg/webhook/resources/virtualmachinebackup/validator.go` and `initVolBackups` of
`pkg/backup/common/operator.go`.

A backup counts as initialised when it has a source and volumes, and the volumes of the VM with a
PVC make its entries.  A VM without one is admitted as well: its backup is initialised in every
reconcile.
-/

namespace Harvester

namespace Backup

open Control Control.Guarded

/-- The kind of a backup. -/
inductive BackupType where
  | backup
  | snapshot
  deriving DecidableEq, Repr

/-- The kind as a text. -/
def BackupType.text : BackupType → String
  | .backup => "backup"
  | .snapshot => "snapshot"

/-- The data leave the cluster. -/
def BackupType.usesRemoteBackupTarget (type : BackupType) : Bool := type = .backup

/-- A volume of a VM, with the claim name of its PVC. -/
structure Volume where
  name : String
  claimName : Option String
  deriving DecidableEq, Repr

/-- The VM that is backed up. -/
structure SourceVM where
  key : Key
  /-- The source in the form in which it is to be restored. -/
  spec : String
  volumes : List Volume
  /-- `HasShareableDisk`. -/
  shareableDisk : Option String

/-- A claim with its volume. -/
structure PVC where
  volumeName : String
  storageClassName : Option String

/-- A volume. -/
structure PV where
  name : String
  /-- `Spec.CSI` is set. -/
  csi : Bool
  /-- The storage capacity in bytes. -/
  capacity : Option Int

/-- A new backup. -/
structure VMBackup where
  key : Key
  sourceName : String
  type : BackupType
  /-- In nanoseconds. -/
  fsFreezeDeadline : Option Int
  status : Status

/-- The caches that both sides read. -/
structure Cluster where
  getPVC : Key → Except Err PVC
  getPV : String → Except Err PV

/-- The checks of the webhook that do not look at the list of volumes. -/
structure Findings where
  getVM : Key → Except Err SourceVM
  checkVMInstanceMigration : SourceVM → Except Err Unit
  checkTotalSnapshotSize : SourceVM → Except AdmitError Unit
  loadCSIDriverConfig : Except Err Unit
  checkLonghornV2Volume : SourceVM → PVC → Except Err Unit
  validateProvisionerAndConfig : BackupType → PVC → Except Err Unit
  checkBackupTarget : Except Err Unit

/-- An error of a check that is reported for a field. -/
def onField {α : Type} (field : String) (x : Except Err α) : Except AdmitError α :=
  x.mapError fun e => .invalid e.text field

section

variable (c : Cluster) (f : Findings)

/-- The loop of `checkBackupVolumeSnapshotClass`; other volumes than PVCs are skipped. -/
def checkVolumes (vm : SourceVM) (type : BackupType) : List Volume → Except Err Unit
  | [] => .ok ()
  | volume :: volumes =>
    match volume.claimName with
    | none => checkVolumes vm type volumes
    | some claimName => do
      let key : Key := ⟨vm.key.ns, claimName⟩
      let pvc ← (c.getPVC key).mapError fun e =>
        .other ("failed to get PVC " ++ key.text ++ ": " ++ e.text)
      if type.usesRemoteBackupTarget then
        f.checkLonghornV2Volume vm pvc
      f.validateProvisionerAndConfig type pvc
      checkVolumes vm type volumes

/-- Every claim can be backed up. -/
def checkBackupVolumeSnapshotClass (vm : SourceVM) (vmb : VMBackup) : Except Err Unit := do
  f.loadCSIDriverConfig
  checkVolumes c f vm vmb.type vm.volumes

/-- The checks of the source VM. -/
def validateStandardBackup (vmb : VMBackup) : Except AdmitError Unit := do
  let vm ← onField "spec.source.name" (f.getVM ⟨vmb.key.ns, vmb.sourceName⟩)
  onField "spec.source.name" (f.checkVMInstanceMigration vm)
  match vm.shareableDisk with
  | some diskName =>
    .error (.invalid ("cannot back up VM " ++ vm.key.text ++ ": disk " ++ diskName ++
      " is shareable and may be written by multiple VMs concurrently") "spec.source.name")
  | none => .ok ()
  f.checkTotalSnapshotSize vm
  onField "spec.source.name" (checkBackupVolumeSnapshotClass c f vm vmb)

/-- `IsLHBackupRelated` from an index on. -/
def isLHBackupRelated (key : Key) : Nat → List VolumeBackup → Except AdmitError Unit
  | _, [] => .ok ()
  | index, vb :: vbs =>
    if vb.longhornBackupName.any (· ≠ "") then isLHBackupRelated key (index + 1) vbs
    else .error (.internal ("vmbackup " ++ key.text ++ " vb " ++ vb.name.getD "" ++ " at index " ++
      toString index ++ " not from LH, it can't be recovered"))

/-- The admission of a backup. -/
def create (vmb : VMBackup) : Except AdmitError Unit := do
  rejectIf (vmb.sourceName = "") (.invalid "source VM name is empty" "spec.source.name")
  rejectIf (vmb.fsFreezeDeadline.any (· < 0))
    (.invalid "must not be negative" "spec.fsFreezeDeadline")
  if isMissingStatus vmb.status then validateStandardBackup c f vmb
  else isLHBackupRelated vmb.key 0 vmb.status.volumeBackups
  if vmb.type = .snapshot then return
  onField "spec.type" f.checkBackupTarget

end

/-- Set an entry of a map. -/
def insert (name claimName : String) (pvcs : List (String × String)) : List (String × String) :=
  pvcs.filter (·.1 ≠ name) ++ [(name, claimName)]

/-- The body of the loop of `volumeToPVCMappings`. -/
def mapVolume (pvcs : List (String × String)) (volume : Volume) : List (String × String) :=
  match volume.claimName with
  | some claimName => if claimName ≠ "" then insert volume.name claimName pvcs else pvcs
  | none => pvcs

/-- The volumes with a claim. -/
def volumeToPVCMappings (volumes : List Volume) : List (String × String) :=
  volumes.foldl mapVolume []

namespace Cluster

variable (c : Cluster)

/-- `getPVC`. -/
def getBoundPVC (key : Key) : Except Err PVC := do
  let pvc ← (c.getPVC key).mapError fun e =>
    .other ("failed to get PVC " ++ key.text ++ ": " ++ e.text)
  if pvc.volumeName = "" then
    .error (.other ("PVC " ++ key.text ++ " is not bound to a PV"))
  else if pvc.storageClassName.all (· = "") then
    .error (.other ("PVC " ++ key.text ++ " has no storage class configured"))
  else .ok pvc

/-- The volume is a CSI volume. -/
def validatePVForBackup (pv : PV) (type : BackupType) : Except Err Unit :=
  if pv.csi then .ok ()
  else .error (.other ("PV " ++ pv.name ++ " is not CSI-backed, cannot create " ++ type.text))

/-- The size of a volume. -/
def getVolumeSize (pv : PV) : Except Err Int :=
  match pv.capacity with
  | some capacity => .ok capacity
  | none => .error (.other ("PV " ++ pv.name ++ " has no storage capacity defined"))

/-- A new entry. -/
def buildVolumeBackup (vmbName pvcName : String) (volSize : Int) : VolumeBackup :=
  ⟨some (vmbName ++ "-volume-" ++ pvcName), none, volSize, 0, some false, none⟩

/-- The entry of a volume. -/
def createVolumeBackup (vmb : VMBackup) (volName pvcName ns : String) :
    Except Err VolumeBackup :=
  Except.mapError (fun e => .other ("volume " ++ volName ++ ": " ++ e.text)) do
    let pvc ← c.getBoundPVC ⟨ns, pvcName⟩
    let pv ← (c.getPV pvc.volumeName).mapError fun e =>
      .other ("failed to get PV " ++ pvc.volumeName ++ ": " ++ e.text)
    validatePVForBackup pv vmb.type
    let volSize ← getVolumeSize pv
    return buildVolumeBackup vmb.key.name pvcName volSize

/-- The loop of `initVolBackups`. -/
def createVolumeBackups (vmb : VMBackup) (vm : SourceVM) :
    List (String × String) → Except Err (List VolumeBackup)
  | [] => .ok []
  | (volName, pvcName) :: pvcMappings => do
    let vb ← (c.createVolumeBackup vmb volName pvcName vm.key.ns).mapError fun e =>
      .other ("failed to create volume backup for VM " ++ vm.key.text ++ ": " ++ e.text)
    let vbs ← createVolumeBackups vmb vm pvcMappings
    return vb :: vbs

/-- `initVolBackups`.  Without an entry the list is left as it is, nil. -/
def initVolBackups (vmb : VMBackup) (vm : SourceVM) : Except Err (List VolumeBackup) :=
  c.createVolumeBackups vmb vm (volumeToPVCMappings vm.volumes)

end Cluster

/-- The controller with this initialisation. -/
def Env.forVM (env : Env) (c : Cluster) (vmb : VMBackup) (vm : SourceVM) : Env :=
  { env with initVolBackups := fun _ => c.initVolBackups vmb vm }

/-- Some volume has a PVC. -/
def SourceVM.HasPVC (vm : SourceVM) : Prop :=
  ∃ volume ∈ vm.volumes, ∃ claimName, volume.claimName = some claimName ∧ claimName ≠ ""

theorem foldl_mapVolume_eq_nil {volumes : List Volume} {pvcs : List (String × String)} :
    volumes.foldl mapVolume pvcs = [] ↔ pvcs = [] ∧ ∀ volume ∈ volumes, ∀ claimName,
      volume.claimName = some claimName → claimName = "" := by
  induction volumes generalizing pvcs with
  | nil => simp
  | cons volume volumes ih =>
    rw [List.foldl_cons, ih, List.forall_mem_cons, ← and_assoc]
    cases hclaim : volume.claimName with
    | none => simp [mapVolume, hclaim]
    | some claimName =>
      by_cases hempty : claimName = "" <;> simp [mapVolume, insert, hclaim, hempty]

theorem volumeToPVCMappings_eq_nil {vm : SourceVM} :
    volumeToPVCMappings vm.volumes = [] ↔ ¬ vm.HasPVC := by
  simp [volumeToPVCMappings, foldl_mapVolume_eq_nil, SourceVM.HasPVC]

theorem createVolumeBackups_eq_nil {c : Cluster} {vmb : VMBackup} {vm : SourceVM}
    {pvcMappings : List (String × String)} {vbs : List VolumeBackup}
    (h : c.createVolumeBackups vmb vm pvcMappings = .ok vbs) : vbs = [] ↔ pvcMappings = [] := by
  rcases pvcMappings with _ | ⟨⟨volName, pvcName⟩, pvcMappings⟩
  · cases h
    simp
  obtain ⟨vb, -, h⟩ := except_bind_eq_ok.1 h
  obtain ⟨vbs', -, h⟩ := except_bind_eq_ok.1 h
  cases h
  simp

variable {env : Env} {s s' : Status}

theorem isMissingStatus_initVMBackup {c : Cluster} {vmb : VMBackup} {vm : SourceVM}
    (h : initVMBackup (env.forVM c vmb vm) vm.spec = .ok s) :
    isMissingStatus s = false ↔ vm.HasPVC := by
  obtain ⟨vbs, hvbs, rfl⟩ := initVMBackup_eq_ok h
  have hnil := (createVolumeBackups_eq_nil hvbs).trans volumeToPVCMappings_eq_nil
  simp [isMissingStatus, initStatus, hnil]

/-- The status after a reconcile; when it fails, nothing is written. -/
def Status.reconcile (s : Status) (env : Env) : Status :=
  match onBackupChange env s with
  | .ok s' => s'
  | .error _ => s

/-- The later reconciles. -/
def reconciles : Machine Status Env := ⟨fun s env => some (s.reconcile env)⟩

theorem isMissingStatus_reconcile (h : isMissingStatus s = false) :
    isMissingStatus (s.reconcile env) = false := by
  unfold Status.reconcile
  split
  · next hs' => exact isMissingStatus_onBackupChange h hs'
  · exact h

/-- **A backup is initialised once and for all** if and only if the VM has a PVC. -/
theorem initialised_once_iff {c : Cluster} {vmb : VMBackup} {vm : SourceVM}
    (h : initVMBackup (env.forVM c vmb vm) vm.spec = .ok s) :
    (∀ envs s', reconciles.run s envs = some s' → isMissingStatus s' = false) ↔ vm.HasPVC := by
  rw [← isMissingStatus_initVMBackup h]
  refine ⟨fun hruns => hruns [] s rfl, fun hs envs s' hrun => ?_⟩
  refine Machine.run_invariant (I := (isMissingStatus · = false)) (fun t env t' ht _ hnext => ?_) hs
    (Machine.along_true s envs) hrun
  cases hnext
  exact isMissingStatus_reconcile ht

namespace Sample

def cluster : Cluster where
  getPVC _ := .ok ⟨"pv", some "longhorn"⟩
  getPV name := .ok ⟨name, true, some 10⟩

/-- A VM with a cloud-init disk and the given claims. -/
def vmWith (claims : List String) : SourceVM where
  key := ⟨"default", "vm"⟩
  spec := "vm"
  volumes := ⟨"cloudinit", none⟩ :: claims.map fun claim => ⟨claim, some claim⟩
  shareableDisk := none

def findings (vm : SourceVM) : Findings where
  getVM _ := .ok vm
  checkVMInstanceMigration _ := .ok ()
  checkTotalSnapshotSize _ := .ok ()
  loadCSIDriverConfig := .ok ()
  checkLonghornV2Volume _ _ := .ok ()
  validateProvisionerAndConfig _ _ := .ok ()
  checkBackupTarget := .ok ()

def newBackup : VMBackup := ⟨⟨"default", "vmb"⟩, "vm", .backup, none, .empty⟩

/-- Every request succeeds; the engine has nothing to do. -/
def envFor (vm : SourceVM) : Env where
  now := 0
  resolveSourceVM := .ok vm.spec
  initVolBackups _ := cluster.initVolBackups newBackup vm
  initSecretBackups := .ok ()
  initVSCNames := .ok ()
  initBackupTarget := .ok ()
  buildCSIDriverMap := .ok ()
  reconcile _ vb := .done vb
  updateProgress vb := .ok vb.progress
  metadataUploaded := false
  update := .ok ()

end Sample

open Sample in
theorem initialised_once_iff_onePVC : ∃ s,
    initVMBackup ((envFor (vmWith ["root"])).forVM cluster newBackup
      (vmWith ["root"])) "vm" = .ok s ∧
    ∀ envs s', reconciles.run s envs = some s' → isMissingStatus s' = false :=
  ⟨_, rfl, (@initialised_once_iff (envFor (vmWith ["root"])) _ cluster
    newBackup (vmWith ["root"]) rfl).2
    ⟨⟨"root", some "root"⟩, by decide, "root", rfl, by decide⟩⟩

open Sample in
/-- **The backup of a VM without a PVC is initialised over and over.** -/
theorem never_initialised : ∃ s,
    create cluster (findings (vmWith [])) newBackup = .ok () ∧
    initVMBackup ((envFor (vmWith [])).forVM cluster newBackup
      (vmWith [])) "vm" = .ok s ∧ isMissingStatus s = true ∧
    reconciles.run s [envFor (vmWith []), envFor (vmWith [])] =
      some s :=
  ⟨_, rfl, rfl, rfl, rfl⟩

end Backup

end Harvester
