import Harvester.Restore.Basic

/-!
# The restore operator

`pkg/restore/common/operator.go`: the predicates on a restore, the changes to its status, and the
requests to the API server.  What the controller reads from its caches, and which of its requests
fail, is the environment `Env` of one reconcile.
-/

namespace Harvester

namespace Restore

open Control Action

/-- What a reconcile does that the model keeps a record of. -/
inductive Event where
  /-- The target VM as the reconcile has it. -/
  | observedVM (vm : VM)
  | startVM (key : Key)
  | deletedPVC (key : Key)
  | updatedVMRestore (vmr : VMRestore)
  /-- A VM was created or updated. -/
  | wroteVM (vm : VM)
  deriving DecidableEq, Repr

/-- The state of the API server, with a record of what was done to it. -/
structure Server where
  vmRestores : Store VMRestore.key
  vms : Store VM.key
  pvcs : Store PVC.key
  secrets : Store Secret.key
  /-- The last resource version that was given out. -/
  resourceVersion : Nat
  trace : List Event

/-- The places where a restore is written. -/
inductive UpdateSite where
  | initVMRestore
  | initVolumesStatus
  /-- `UpdateError` for an error of `ResolveVMBackup` or `reconcileResources`. -/
  | reconcileError
  | ownerReference
  | volumesNotReady
  /-- `UpdateError` for an error of `StartVM`. -/
  | startError
  | waitingForVM
  /-- `UpdateError` for an error of `DeleteOldPVCs`. -/
  | cleanupError
  | complete
  deriving DecidableEq, Repr

/-- The requests of a reconcile; the volumes and secrets are numbered. -/
inductive Call where
  | updateVMRestore (site : UpdateSite)
  | createPVC (volume : Nat)
  | createVM
  | updateVM
  | writeSecret (secret : Nat)
  | startVM
  | deletePVC (volume : Nat)
  deriving DecidableEq, Repr

/-- What one reconcile reads, and what happens to its requests. -/
structure Env where
  vmBackup : Key → Except Err VMBackup
  vm : Key → Except Err VM
  vmi : Key → Except Err VMIPhase
  pvc : Key → Except Err PVC
  secret : Key → Except Err Secret
  /-- `getSnapshotName` of the snapshot engine, `getOrCreateVolumeSnapshot` of the Longhorn engine.
  -/
  volumeSnapshot : Nat → Except Err String
  /-- The engine's check of a bound volume (`checkLonghornVolumeRestore`). -/
  volumeCheck : Nat → Except Err Unit
  /-- The engine's `UpdateProgress`. -/
  progress : Nat → Except Err Int
  /-- What happens to each request. -/
  fault : Call → Fault
  /-- The UID that the API server gives to a VM it creates. -/
  newUID : String
  now : String

/-- A controller action on the server. -/
abbrev Act := Action Server Err

/-- The error of a request that fails without a reason of its own. -/
def requestFailed : Err := .other "request failed"

/-- A request to the API server. -/
def Env.request {α : Type} (env : Env) (call : Call) (m : Act α) : Act α :=
  Action.request (env.fault call) requestFailed m

/-- Add an event to the record. -/
def record (e : Event) : Act Unit := Action.modify fun s => { s with trace := s.trace ++ [e] }

namespace VMRestore

variable (vmr : VMRestore)

/-- The restore is complete. -/
def isComplete : Bool := vmr.status.complete = some true

/-- The restore goes on. -/
def isProgressing : Bool := vmr.status.complete ≠ some true

/-- `restoreReasonError`. -/
def reasonError : String := "Error"

/-- `IsFailed`: the restore has reached a terminal failure state. -/
def isFailed : Bool :=
  !vmr.isComplete && vmr.status.conditions.any fun c =>
    c.type = .progressing && !c.status && c.reason = reasonError

/-- No volume is deleted. -/
def isNewVMOrHasRetainPolicy : Bool :=
  vmr.spec.newVM || vmr.spec.deletionPolicy = .retain

/-- The volumes have to be initialised. -/
def isMissingVolumes : Bool :=
  vmr.status.volumeRestores.isEmpty ||
    (!vmr.isNewVMOrHasRetainPolicy && vmr.status.deletedVolumes.isEmpty)

/-- There is a status. -/
def hasStatus : Bool := vmr.status.complete.isSome

/-- The restore has an owner. -/
def hasOwnerReference : Bool := !vmr.ownerReferences.isEmpty

/-- `GetRestoreID`. -/
def restoreID : String := vmr.name ++ "-" ++ vmr.uid

end VMRestore

/-- The entry of a condition type, after `c` is applied to it: the transition time changes only with
the status. -/
def applyToEntry (c old : Condition) : Condition :=
  if old.status = c.status ∧ old.reason = c.reason ∧ old.message = c.message then old
  else if old.status = c.status then { c with lastTransitionTime := old.lastTransitionTime }
  else c

/-- The first entry of the type is changed, or the condition is appended. -/
def applyCondition (c : Condition) : List Condition → List Condition
  | [] => [c]
  | old :: rest => if old.type = c.type then applyToEntry c old :: rest
    else old :: applyCondition c rest

namespace VMRestore

variable (vmr : VMRestore)

/-- Apply a condition of each type. -/
def withConditions (progressing ready : Bool) (reason message now : String) : VMRestore :=
  let p : Condition := ⟨.progressing, progressing, reason, message, now, now⟩
  let r : Condition := ⟨.ready, ready, reason, message, now, now⟩
  { vmr with status := { vmr.status with
      conditions := applyCondition r (applyCondition p vmr.status.conditions) } }

/-- The restore goes on. -/
def setProcessingCondition (message now : String) : VMRestore :=
  vmr.withConditions true false "" message now

/-- The restore has failed. -/
def setErrorCondition (err : Err) (now : String) : VMRestore :=
  vmr.withConditions false false reasonError err.text now

/-- The restore is complete. -/
def setCompleteCondition (now : String) : VMRestore :=
  let status := { vmr.status with
    restoreTime := some now
    complete := some true
    progress := 100
    restores := vmr.status.restores.map (List.map fun vr => { vr with progress := 100 }) }
  withConditions { vmr with status } false true "" "Operation complete" now

/-- `SetProgress`: the overall progress never goes back. -/
def setProgress (progress : Int) : VMRestore :=
  if vmr.status.progress < progress then
    { vmr with status := { vmr.status with progress } }
  else vmr

/-- `RestoreProgressBeforeVMStart`. -/
def progressBeforeVMStart : Int := 90

/-- `RectifyProgressBeforeVMStart`, by way of `SetProgress`. -/
def rectifyProgressBeforeVMStart : VMRestore :=
  if vmr.status.progress ≤ progressBeforeVMStart then vmr
  else vmr.setProgress progressBeforeVMStart

end VMRestore

variable (env : Env) (vmr : VMRestore) (vmb : VMBackup) (vm : VM)

/-- The restore as it is sent: an empty list of volumes is left out (`omitempty`). -/
def VMRestore.marshalled : VMRestore :=
  { vmr with status := { vmr.status with restores := vmr.status.restores.filter (· ≠ []) } }

/-- The `Update` request for a restore: the API server refuses an old resource version. -/
def putVMRestore : Act Unit := fun s =>
  match s.vmRestores.get vmr.key with
  | none => (.error (.notFound vmr.key), s)
  | some cur =>
    if cur.resourceVersion = vmr.resourceVersion then
      let new := { vmr.marshalled with resourceVersion := s.resourceVersion + 1 }
      (.ok (), { s with
        vmRestores := s.vmRestores.put new
        resourceVersion := s.resourceVersion + 1
        trace := s.trace ++ [.updatedVMRestore new] })
    else (.error (.conflict vmr.key), s)

/-- `Update`: nothing is sent when nothing has changed. -/
def update (site : UpdateSite) (old new : VMRestore) : Act Unit :=
  if old = new then pure () else env.request (.updateVMRestore site) (putVMRestore new)

/-- `UpdateError`: no error is returned when the error has been reported. -/
def updateError (site : UpdateSite) (old : VMRestore) (err : Err) : Act Unit :=
  update env site old (old.setErrorCondition err env.now)

/-- The restore with a new status, as `InitVMRestore` writes it. -/
def VMRestore.withNewStatus (now : String) : VMRestore :=
  { vmr with status := ⟨none, none, [], some false, [], none, 0⟩ }.setProcessingCondition
    "Initializing VirtualMachineRestore" now

/-- The first status is written. -/
def initVMRestore (env : Env) (old : VMRestore) : Act Unit :=
  update env .initVMRestore old (old.withNewStatus env.now)

/-- The VM as the owner. -/
def buildVMOwnerReferences : List OwnerReference :=
  [⟨"VirtualMachine", vm.name, vm.uid, true, true⟩]

/-- The target VM is noted. -/
def updateOwnerRefAndTargetUID : Act Unit :=
  let ownerRefs := buildVMOwnerReferences vm
  if vmr.status.targetUID.isSome && vmr.ownerReferences = ownerRefs then pure ()
  else do
    let new := { vmr with
      ownerReferences := ownerRefs
      status := { vmr.status with targetUID := some (vmr.status.targetUID.getD vm.uid) } }
    match ← (update env .ownerReference vmr new).attempt with
    | .ok () => pure ()
    | .error e => fail (.other
        ("failed to update VMRestore owner reference and target UID: " ++ e.text))

/-- The kind of a virtual machine. -/
def vmKind : String := "VirtualMachine"

/-- The backup, if it is ready. -/
def resolveVMBackup : Except Err VMBackup :=
  match env.vmBackup vmr.backupKey with
  | .error e => .error e
  | .ok vmb =>
    if !vmb.isReady then
      .error (.other ("VMBackup " ++ vmb.ns ++ "/" ++ vmb.name ++ " is not ready"))
    else if vmb.sourceKind ≠ vmKind then
      .error (.other ("unsupported backup source kind: " ++ vmb.sourceKind))
    else .ok vmb

/-- `ResolveTargetVM`; `none` when the VM does not exist. -/
def resolveTargetVM : Except Err (Option VM) :=
  if vmr.spec.targetKind ≠ vmKind then
    .error (.other ("unsupported target kind: " ++ vmr.spec.targetKind))
  else match env.vm vmr.targetKey with
    | .ok vm => .ok (some vm)
    | .error e => if e.isNotFound then .ok none
      else .error (.other ("failed to get target VM " ++ vmr.ns ++ "/" ++ vmr.spec.targetName ++
        ": " ++ e.text))

/-- The start is requested. -/
def startVMSubresource : Act Unit :=
  env.request .startVM (record (.startVM vm.key))

/-- The VMI is running. -/
def isVMIRunning (phase : VMIPhase) : Bool :=
  phase ≠ .failed && phase ≠ .succeeded && phase ≠ .unknown && phase ≠ .unset

/-- Start with `RerunOnFailure`. -/
def handleRerunOnFailure : Act Unit :=
  match env.vmi vm.key with
  | .error e => if e.isNotFound then startVMSubresource env vm else fail e
  | .ok phase => if phase = .succeeded then startVMSubresource env vm else pure ()

/-- Start with `Manual`. -/
def handleManualStrategy : Act Unit :=
  match env.vmi vm.key with
  | .ok phase => if isVMIRunning phase then pure () else startVMSubresource env vm
  | .error _ => startVMSubresource env vm

/-- The VM is started. -/
def startVM : Act Unit :=
  match vm.runStrategy with
  | .error e => fail e
  | .ok .rerunOnFailure => handleRerunOnFailure env vm
  | .ok .manual => handleManualStrategy env vm
  | .ok .halted => startVMSubresource env vm
  | .ok _ => pure ()

/-- `getDeletedVolumes`: the claims of the VM that the backup was taken from. -/
def getDeletedVolumes : Except Err (List String) :=
  if vmb.sourceKind ≠ vmKind then
    .error (.other ("unsupported backup source kind: " ++ vmb.sourceKind ++
      ", expected " ++ vmKind))
  else match env.vm vmb.sourceKey with
    | .ok vm => .ok vm.spec.claimNames
    | .error e => if e.isNotFound then .ok [] else .error e

/-- The name of a restored claim. -/
def getRestorePVCName (volumeName : String) : String :=
  "restore-" ++ vmr.spec.virtualMachineBackupName ++ "-" ++ vmr.uid ++ "-" ++ volumeName

/-- The entry of a volume. -/
def createNewVolumeRestore (vb : VolumeBackup) : Except Err VolumeRestore :=
  match vb.name with
  | none => .error (.other "VolumeSnapshotName missing")
  | some name => .ok ⟨vb.volumeName, vmr.ns, getRestorePVCName vmr vb.volumeName, vb.pvcSpec, name,
      none, 0, 0⟩

/-- The entries of all volumes. -/
def buildVolumeRestoresFromBackup (vmr : VMRestore) :
    List VolumeBackup → Except Err (List VolumeRestore)
  | [] => .ok []
  | vb :: vbs => do
    let vr ← match vmr.status.volumeRestores.find? fun vr => vb.volumeName = vr.volumeName with
      | some vr => .ok vr
      | none => createNewVolumeRestore vmr vb
    return vr :: (← buildVolumeRestoresFromBackup vmr vbs)

/-- The volume restores of `InitVolumesStatus`; a list that is there is kept. -/
def initVolumeRestores : Except Err (List VolumeRestore) :=
  match vmr.status.restores with
  | none => buildVolumeRestoresFromBackup vmr vmb.volumeBackups
  | some volumeRestores => .ok volumeRestores

/-- The deleted volumes that `InitVolumesStatus` writes. -/
def initDeletedVolumes : Except Err (List String) :=
  if !vmr.isNewVMOrHasRetainPolicy && vmr.status.deletedVolumes.isEmpty then
    getDeletedVolumes env vmb
  else .ok vmr.status.deletedVolumes

/-- The restore with the volumes that `InitVolumesStatus` adds to its status. -/
def withVolumesStatus : Except Err VMRestore := do
  let volumeRestores ← initVolumeRestores vmr vmb
  let deletedVolumes ← initDeletedVolumes env vmr vmb
  return { vmr with status := { vmr.status with restores := some volumeRestores, deletedVolumes } }

/-- The volumes are initialised. -/
def initVolumesStatus (env : Env) (old : VMRestore) (vmb : VMBackup) : Act Unit := do
  let new ← Action.ofExcept (withVolumesStatus env old vmb)
  update env .initVolumesStatus old new

/-- `findRestoredPVCName`; the empty name when the volume is not restored. -/
def findRestoredPVCName (vol : Volume) (vrs : List VolumeRestore) : String :=
  match vrs.find? fun vr => vr.volumeName = vol.name with
  | some vr => vr.pvcName
  | none => ""

/-- The volume, with the claim of its restored PVC when it has one. -/
def mapVolume (vrs : List VolumeRestore) (vol : Volume) : Volume :=
  match vol.claimName with
  | none => vol
  | some _ =>
    let restored := findRestoredPVCName vol vrs
    if restored = "" then vol else { vol with source := .persistentVolumeClaim restored }

/-- The volumes of the restored VM. -/
def mapVolumesToRestoredPVCs (spec : VMSpec) : List Volume :=
  spec.volumes.map (mapVolume vmr.status.volumeRestores)

/-- The `Delete` request for a PVC. -/
def removePVC (key : Key) : Act Unit := fun s =>
  match s.pvcs.get key with
  | none => (.error (.notFound key), s)
  | some _ => (.ok (), { s with
      pvcs := s.pvcs.delete key
      trace := s.trace ++ [.deletedPVC key] })

/-- One round of `DeleteOldPVCs`. -/
def deleteOldPVC (ns : String) (pvcName : String × Nat) : Act Unit :=
  match env.pvc ⟨ns, pvcName.1⟩ with
  | .error e => if e.isNotFound then pure ()
    else fail (.other ("failed to get PVC " ++ ns ++ "/" ++ pvcName.1 ++ ": " ++ e.text))
  | .ok pvc => do
    match ← (env.request (.deletePVC pvcName.2) (removePVC pvc.key)).attempt with
    | .ok () => pure ()
    | .error e =>
      if e.isNotFound then pure ()
      else fail (.other
        ("failed to delete PVC " ++ pvc.ns ++ "/" ++ pvc.name ++ ": " ++ e.text))

/-- The volumes in the status are deleted in the namespace of the VM. -/
def deleteOldPVCs : Act Unit :=
  if vmr.spec.newVM || vmr.spec.deletionPolicy = .retain then pure ()
  else forEach (deleteOldPVC env vm.ns) vmr.status.deletedVolumes.zipIdx

/-- The new name of a secret. -/
def buildSecretRefName (targetVMName originalSecretName : String) : String :=
  targetVMName ++ "-" ++ originalSecretName

/-- The request that creates a secret. -/
def createSecret (secret : Secret) : Act Unit := fun s =>
  match s.secrets.get secret.key with
  | some _ => (.error (.alreadyExists secret.key), s)
  | none => (.ok (), { s with secrets := s.secrets.put secret })

/-- The request that updates a secret. -/
def putSecret (secret : Secret) : Act Unit := fun s =>
  match s.secrets.get secret.key with
  | none => (.error (.notFound secret.key), s)
  | some _ => (.ok (), { s with secrets := s.secrets.put secret })

/-- `buildAndApplySecret`: an existing secret gets the data of the backup. -/
def buildAndApplySecret (ns : String) (ownerRefs : List OwnerReference) (name : String)
    (data : List (String × String)) (i : Nat) : Act Unit :=
  match env.secret ⟨ns, name⟩ with
  | .error e =>
    if e.isNotFound then env.request (.writeSecret i) (createSecret ⟨ns, name, ownerRefs, data⟩)
    else fail e
  | .ok secret =>
    if secret.data = data then pure ()
    else env.request (.writeSecret i) (putSecret { secret with data })

/-- `RestoreSecrets`: for a new VM the secrets get new names. -/
def restoreSecrets : Act Unit :=
  forEach (fun sb : SecretBackup × Nat =>
    let name := if vmr.spec.newVM then buildSecretRefName vmr.spec.targetName sb.1.name
      else sb.1.name
    buildAndApplySecret env vmr.ns (buildVMOwnerReferences vm) name sb.1.data sb.2)
    vmb.secretBackups.zipIdx

/-- `SanitizeVMSpec` and `SanitizeVMAnnotations`: a new VM refers to secrets by their new names. -/
def sanitizeVMSpec (spec : VMSpec) : Except Err VMSpec := do
  let rename := buildSecretRefName vmr.spec.targetName
  let dynamicSSHKeyNames ← match spec.dynamicSSHKeyNames with
    | .invalid => .error (.other "invalid dynamic-ssh-key-names")
    | .absent => .ok .absent
    | .names keys => .ok (.names (keys.map fun k => (rename k.1, k.2)))
  return { spec with
    dynamicSSHKeyNames
    accessCredentials := spec.accessCredentials.map fun
      | .sshPublicKey secret => .sshPublicKey (secret.map rename)
      | .userPassword secret => .userPassword (secret.map rename)
    volumes := spec.volumes.map fun vol => match vol.source with
      | .cloudInitNoCloud user network =>
        { vol with source := .cloudInitNoCloud (user.map rename) (network.map rename) }
      | _ => vol }

end Restore

end Harvester
