import Harvester.Restore.Operator

/-!
# The restore controller

One reconcile of a `VirtualMachineRestore` (`pkg/controller/master/backup/restore.go`).  It creates
the restored volumes, points the target VM at them, waits for the VM to be ready, deletes the old
volumes and marks the restore as complete.
-/

namespace Harvester

namespace Restore

open Control Action

/-- The outcome of an engine's `Reconcile` for one volume. -/
inductive VolumeState where
  | ready
  /-- `engine.ErrRetryLater`. -/
  | retryLater
  deriving DecidableEq, Repr

variable (env : Env) (vm : VM) (vmr : VMRestore) (vmb : VMBackup)

/-- The PVC of a restored volume (`buildPVC`); it starts out as pending. -/
def buildPVC (vr : VolumeRestore) (vb : VolumeBackup) : PVC :=
  ⟨vmr.ns, vr.pvcName, vb.pvcImageID, some vmr.name, vb.pvcSpec, .pending⟩

/-- The `Create` request for a PVC. -/
def createPVC (pvc : PVC) : Act Unit := fun s =>
  match s.pvcs.get pvc.key with
  | some _ => (.error (.alreadyExists pvc.key), s)
  | none => (.ok (), { s with pvcs := s.pvcs.put pvc })

/-- `Reconcile` of the restore engines, for volume `i`. -/
def engineReconcile (vr : VolumeRestore) (i : Nat) : Act VolumeState :=
  match env.pvc ⟨vmr.ns, vr.pvcName⟩ with
  | .error e =>
    if e.isNotFound then
      match vmb.volumeBackups[i]? with
      | none => fail (.other "volume backup not found")
      | some vb => do
        let _ ← Action.ofExcept (env.volumeSnapshot i)
        env.request (.createPVC i) (createPVC (buildPVC vmr vr vb))
        return .retryLater
    else fail (.other
      ("failed to get PVC " ++ vmr.ns ++ "/" ++ vr.pvcName ++ ": " ++ e.text))
  | .ok pvc =>
    match pvc.phase with
    | .pending => pure .retryLater
    | .lost => fail (.other ("PVC " ++ pvc.ns ++ "/" ++ pvc.name ++ " in status Lost"))
    | .bound => do
      Action.ofExcept (env.volumeCheck i)
      return .ready

/-- Whether all volumes are ready; the loop ends at the first error. -/
def reconcileVolumeRestores (env : Env) (vmr : VMRestore) (vmb : VMBackup) :
    List (VolumeRestore × Nat) → Act Bool
  | [] => pure true
  | (vr, i) :: vrs => do
    let state ← engineReconcile env vmr vmb vr i
    let rest ← reconcileVolumeRestores env vmr vmb vrs
    return state = .ready && rest

/-- `buildVolumeClaimTemplates`: the entries are built from the restored PVCs. -/
def buildVolumeClaimTemplates (env : Env) (vmr : VMRestore) :
    List VolumeRestore → Except Err (List ClaimTemplate)
  | [] => .ok []
  | vr :: vrs =>
    match env.pvc ⟨vmr.ns, vr.pvcName⟩ with
    | .error e => .error (.other ("failed to build volumeClaimTemplates annotation: " ++
        "failed to get restored PVC " ++ vmr.ns ++ "/" ++ vr.pvcName ++ ": " ++ e.text))
    | .ok pvc => do
      let entries ← buildVolumeClaimTemplates env vmr vrs
      -- `sanitizeVolumeClaimTemplateSpec` keeps only part of the spec.
      return ⟨pvc.name, pvc.imageID, { pvc.spec with other := "" }⟩ :: entries

/-- The VM has been restored. -/
def isVMAlreadyRestored : Bool :=
  vm.annotations.lastRestore = some vmr.restoreID

/-- The `Update` request for a VM. -/
def putVM : Act VM := fun s =>
  match s.vms.get vm.key with
  | none => (.error (.notFound vm.key), s)
  | some cur =>
    if cur.resourceVersion = vm.resourceVersion then
      let new := { vm with resourceVersion := s.resourceVersion + 1 }
      (.ok new, { s with
        vms := s.vms.put new
        resourceVersion := s.resourceVersion + 1
        trace := s.trace ++ [.wroteVM new] })
    else (.error (.conflict vm.key), s)

/-- The `Create` request for a VM. -/
def createVM (uid : String) (vm : VM) : Act VM := fun s =>
  match s.vms.get vm.key with
  | some _ => (.error (.alreadyExists vm.key), s)
  | none =>
    let new := { vm with uid, resourceVersion := s.resourceVersion + 1 }
    (.ok new, { s with
      vms := s.vms.put new
      resourceVersion := s.resourceVersion + 1
      trace := s.trace ++ [.wroteVM new] })

/-- The VM that `updateExistingVM` writes: the spec of the backup with the restored volumes. -/
def restoredVM (templates : List ClaimTemplate) (vm : VM) : VM :=
  { vm with
    spec := { vmb.sourceSpec with
      runStrategy := some .halted
      volumes := mapVolumesToRestoredPVCs vmr vmb.sourceSpec }
    annotations := { vm.annotations with
      lastRestore := some vmr.restoreID
      restoreName := some vmr.name
      volumeClaimTemplates := some templates } }

/-- The VM is replaced. -/
def updateExistingVM : Act VM := do
  let templates ← Action.ofExcept (buildVolumeClaimTemplates env vmr vmr.status.volumeRestores)
  env.request .updateVM (putVM (restoredVM vmr vmb templates vm))

/-- The VM that `buildVMFromRestore` constructs. -/
def buildVMFromRestore : Except Err VM := do
  let spec ← sanitizeVMSpec vmr vmb.sourceSpec
  let templates ← buildVolumeClaimTemplates env vmr vmr.status.volumeRestores
  return {
    ns := vmr.ns
    name := vmr.spec.targetName
    uid := ""
    resourceVersion := 0
    annotations := {
      lastRestore := some vmr.restoreID
      restoreName := some vmr.name
      volumeClaimTemplates := some templates
      reservedMemory := vmb.sourceAnnotations.reservedMemory
      enableCPUAndMemoryHotplug := vmb.sourceAnnotations.enableCPUAndMemoryHotplug
      other := [] }
    spec := { spec with
      running := none
      runStrategy := some .halted
      volumes := mapVolumesToRestoredPVCs vmr spec }
    ready := false }

/-- The VM gets new addresses. -/
def removeMacAddresses : VM :=
  { vm with spec := { vm.spec with
      interfaces := vm.spec.interfaces.map fun i => { i with macAddress := "" } } }

/-- A new VM is created. -/
def createNewVM : Act VM := do
  let vm ← Action.ofExcept (buildVMFromRestore env vmr vmb)
  env.request .createVM
    (createVM env.newUID (if vmr.spec.keepMacAddress then vm else removeMacAddresses vm))

/-- The target VM is restored. -/
def reconcileVM : Act VM := do
  match ← Action.ofExcept (resolveTargetVM env vmr) with
  | none => createNewVM env vmr vmb
  | some vm =>
    if isVMAlreadyRestored vm vmr then pure vm
    else updateExistingVM env vm vmr vmb

/-- `reconcileResources`: the target VM and whether all volumes are ready. -/
def reconcileResources : Act (VM × Bool) := do
  let isVolumesReady ← reconcileVolumeRestores env vmr vmb vmr.status.volumeRestores.zipIdx
  let vm ← reconcileVM env vmr vmb
  record (.observedVM vm)
  restoreSecrets env vmr vmb vm
  return (vm, isVolumesReady)

/-- The loop of `updateProgressMetrics`: the volumes with their progress, the sum of the sizes and
the weighted sum of the progress.  An error ends the loop; the volumes before it keep what was
written. -/
def updateVolumeProgress (env : Env) (volumeSizeSum progressWeightSum : Int) :
    List (VolumeRestore × Nat) → List VolumeRestore × Option (Int × Int)
  | [] => ([], some (volumeSizeSum, progressWeightSum))
  | (vr, i) :: vrs =>
    match env.progress i with
    | .error _ => (vr :: vrs.map Prod.fst, none)
    | .ok progress =>
      let vr := if vr.progress < progress then { vr with progress } else vr
      let rest := updateVolumeProgress env (int64 (volumeSizeSum + vr.volumeSize))
        (int64 (progressWeightSum + int64 (progress * vr.volumeSize))) vrs
      (vr :: rest.1, rest.2)

/-- `updateProgressMetrics`; its errors are only logged. -/
def updateProgressMetrics : VMRestore :=
  let out := updateVolumeProgress env 0 0 vmr.status.volumeRestores.zipIdx
  let vmr := { vmr with status := { vmr.status with
    restores := vmr.status.restores.map fun _ => out.1 } }
  match out.2 with
  | some (sizes, weighted) => if 0 < sizes then vmr.setProgress (weighted.tdiv sizes) else vmr
  | none => vmr

/-- The volumes are waited for. -/
def handleVolumesNotReady (vmr vmrCpy : VMRestore) : Act Unit :=
  update env .volumesNotReady vmr
    (vmrCpy.rectifyProgressBeforeVMStart.setProcessingCondition "Creating new PVCs" env.now)

/-- The error that is reported when the VM cannot be started. -/
def startError (e : Err) : Err := .other ("failed to start vm, err:" ++ e.text)

/-- The VM is started. -/
def ensureVMStartedAndReady (vmr vmrCpy : VMRestore) (vm : VM) : Act Unit :=
  if vmr.spec.haltAfterRestore then pure ()
  else if vm.ready then pure ()
  else do
    match ← (startVM env vm).attempt with
    | .error e => updateError env .startError vmr (startError e)
    | .ok () =>
      update env .waitingForVM vmr (vmrCpy.rectifyProgressBeforeVMStart.setProcessingCondition
        "Waiting for target vm to be ready" env.now)
      fail (.other ("vm " ++ vm.ns ++ "/" ++ vm.name ++ " is not ready yet"))

/-- The old volumes are deleted. -/
def finalizeRestore (vmr vmrCpy : VMRestore) (vm : VM) : Act Unit := do
  match ← (deleteOldPVCs env vmrCpy vm).attempt with
  | .error e => updateError env .cleanupError vmr (.other ("error cleaning up: " ++ e.text))
  | .ok () => update env .complete vmr (vmrCpy.setCompleteCondition env.now)

/-- The second half of a reconcile. -/
def updateStatus (vmr vmrCpy : VMRestore) (vm : VM) (isVolumesReady : Bool) : Act Unit :=
  if !isVolumesReady then handleVolumesNotReady env vmr vmrCpy
  else do
    ensureVMStartedAndReady env vmr vmrCpy vm
    finalizeRestore env vmr vmrCpy vm

/-- The part of `RestoreOnChanged` that follows the initialisation of the status. -/
def reconcileRestore : Act Unit := do
  let result ← (reconcileResources env vmr vmb).attempt
  let vmrCpy := updateProgressMetrics env vmr
  match result with
  | .error e => updateError env .reconcileError vmrCpy e
  | .ok (vm, isVolumesReady) =>
    if !vmrCpy.hasOwnerReference then updateOwnerRefAndTargetUID env vmrCpy vm
    else updateStatus env vmr vmrCpy vm isVolumesReady

/-- `RestoreOnChanged`, the reconcile of a restore as it is found in the cache. -/
def restoreOnChanged : Act Unit :=
  if vmr.deleting then pure ()
  else if !vmr.isProgressing then pure ()
  else if !vmr.hasStatus then initVMRestore env vmr
  else match resolveVMBackup env vmr with
    | .error e => updateError env .reconcileError vmr e
    | .ok vmb =>
      if vmr.isMissingVolumes then initVolumesStatus env vmr vmb
      else reconcileRestore env vmr vmb

end Restore

end Harvester
