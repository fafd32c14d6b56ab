import Harvester.VirtualMachine.Volumes

/-!
# The VM validator

`pkg/webhook/resources/virtualmachine/validator.go` with the disks, volumes, interfaces and networks
of a VM: the request checks of `Volumes.validate`, whose verdicts on everything but the images are
computed here.

* `checkGoldenImage`, `checkOccupiedPVCs` and `checkShareableVolumes` look at the PVCs of the
  volumes and at the other VMs that use them (`pkg/util/virtualmachine`, `pkg/util/indexeres`);
* `checkTargetVolumes` looks at the targets of storage migrations;
* `checkForDuplicateMacAddrs` compares the MAC addresses per cluster network.

The checks of memory, quotas, backups and the templates' sizes enter by their verdicts (`Rest`).
-/

namespace Harvester

namespace VirtualMachine

namespace Validator

open Control
open Volumes (Template StorageClass Backend)

/-! ### Objects -/

/-- An access mode. -/
inductive AccessMode where
  | readWriteOnce
  | readOnlyMany
  | readWriteMany
  | readWriteOncePod
  deriving DecidableEq, Repr

/-- A volume mode. -/
inductive VolumeMode where
  | block
  | filesystem
  deriving DecidableEq, Repr

/-- A claim. -/
structure PVC extends Volumes.PVC where
  accessModes : List AccessMode
  volumeMode : Option VolumeMode
  /-- The annotation `volume.beta.kubernetes.io/storage-provisioner`. -/
  betaProvisioner : Option String
  /-- The annotation `volume.kubernetes.io/storage-provisioner`. -/
  provisioner : Option String
  /-- The golden image annotation. -/
  goldenImage : Option String
  deriving DecidableEq, Repr

/-- Its key. -/
def PVC.key (pvc : PVC) : Key := ⟨pvc.ns, pvc.name⟩

/-- One entry of the `volumeClaimTemplates` annotation (`VolumeClaimTemplateEntry`). -/
structure Entry extends Template where
  accessModes : List AccessMode
  volumeMode : Option VolumeMode
  /-- The PVC that the volume is to be migrated to; empty without one. -/
  targetVolume : String
  deriving DecidableEq, Repr

/-- A disk. -/
structure Disk where
  name : String
  /-- `shareable` is set to true. -/
  shareable : Bool
  bootOrder : Option Nat
  /-- The cache mode; empty without one. -/
  cache : String
  /-- The bus of a CD-ROM. -/
  cdRom : Option String
  deriving DecidableEq, Repr

/-- The PVC source of a volume. -/
structure ClaimSource where
  claimName : String
  readOnly : Bool
  hotpluggable : Bool
  deriving DecidableEq, Repr

/-- A volume. -/
structure Volume where
  name : String
  claim : Option ClaimSource
  /-- The name of the data volume. -/
  dataVolume : Option String
  deriving DecidableEq, Repr

/-- An interface. -/
structure Interface where
  name : String
  /-- Empty without one. -/
  macAddress : String
  /-- The other fields, which are only compared. -/
  rest : String
  deriving DecidableEq, Repr

/-- A network. -/
structure Network where
  name : String
  /-- The NAD of a Multus network. -/
  multus : Option String
  deriving DecidableEq, Repr

/-- The VMI template of a VM. -/
structure Spec where
  disks : List Disk
  volumes : List Volume
  interfaces : List Interface
  networks : List Network
  deriving DecidableEq, Repr

/-- The status of a VM. -/
inductive PrintableStatus where
  | running
  | migrating
  | other
  deriving DecidableEq, Repr

/-- How volumes are updated. -/
inductive UpdateVolumesStrategy where
  | migration
  | replacement
  deriving DecidableEq, Repr

/-- A VM. -/
structure VM extends Volumes.VM where
  spec : Option Spec
  updateVolumesStrategy : Option UpdateVolumesStrategy
  /-- The annotation that the storage migration has not started yet. -/
  waitingStorageMigration : Option String
  /-- The label of the VM import controller is true. -/
  imported : Bool
  /-- The maintain-mode-strategy label. -/
  maintainModeStrategy : Option String
  printableStatus : PrintableStatus
  deriving DecidableEq, Repr

/-- Its key. -/
def VM.key (vm : VM) : Key := ⟨vm.ns, vm.name⟩

/-- The volumes of the template. -/
def VM.volumes (vm : VM) : List Volume := vm.spec.elim [] Spec.volumes

/-- The disks of the template. -/
def VM.disks (vm : VM) : List Disk := vm.spec.elim [] Spec.disks

/-- The claims of the PVC volumes. -/
def VM.claims (vm : VM) : List String :=
  vm.volumes.filterMap fun volume => volume.claim.map ClaimSource.claimName

/-- What the validator looks up and no request changes. -/
structure Cluster where
  /-- `UnmarshalVolumeClaimTemplates` for a text that is not empty. -/
  unmarshal : String → Except Err (List Entry)
  storageClasses : String → Except Err StorageClass
  backingImages : String → Except Err String
  images : Key → Except Err Backend
  access : AccessReview
  defaultStorageClass : Except Err StorageClass
  /-- The cluster network label of a NAD. -/
  nads : Key → Except Err (Option String)

/-- The cluster as the image checks see it. -/
def Cluster.volumes (c : Cluster) : Volumes.Cluster where
  unmarshal data := (c.unmarshal data).map (List.map Entry.toTemplate)
  storageClasses := c.storageClasses
  backingImages := c.backingImages
  images := c.images
  access := c.access
  defaultStorageClass := c.defaultStorageClass

/-- The annotation is read. -/
def Cluster.unmarshalVolumeClaimTemplates (c : Cluster) (data : String) : Except Err (List Entry) :=
  if data = "" then .ok [] else c.unmarshal data

/-- The caches of the PVCs and the VMs. -/
structure Caches where
  pvcs : Lookup Err PVC.key
  vms : List VM

/-- The error of a request that ends in a panic. -/
def nilDereference : AdmitError := .internal "invalid memory address or nil pointer dereference"

/-! ### Volumes that are shared -/

section

variable (c : Cluster) (caches : Caches)

/-- The provisioner of a claim. -/
def getProvisionedPVCProvisioner (pvc : PVC) : String :=
  let provisioner := (pvc.betaProvisioner.or pvc.provisioner).getD ""
  if provisioner ≠ "" then provisioner
  else match pvc.storageClassName with
    | none => ""
    | some scName => ((c.storageClasses scName).map StorageClass.provisioner).toOption.getD ""

/-- VMs can share the volume. -/
def volumeSupportRWXForVM (accessModes : List AccessMode) (provisioner : String) : Bool :=
  provisioner ≠ "driver.longhorn.io" && accessModes.contains .readWriteMany

/-- The PVC can be used by several VMs. -/
def shareable (pvc : PVC) : Bool :=
  volumeSupportRWXForVM pvc.accessModes (getProvisionedPVCProvisioner c pvc)

/-- `VMByNonShareablePVC`, the claims under which a VM is indexed. -/
def vmByNonShareablePVC (vm : VM) : List String :=
  let nonShareableDisks := (vm.disks.filter fun disk => !disk.shareable).map Disk.name
  vm.volumes.filterMap fun volume => do
    let claim ← volume.claim
    guard (claim.claimName ≠ "" ∧ volume.name ∈ nonShareableDisks)
    return claim.claimName

/-- What `CheckBlockRWXVolumeForVM` returns. -/
inductive BlockError where
  /-- `ErrVolumeIsUsedByOtherVM`. -/
  | usedByOtherVM
  | failed (message : String)

/-- `CheckBlockRWXVolumeForVM` for a PVC in the namespace of the VM. -/
def checkBlockRWXVolumeForVM (pvcName : String) (target : Key) : Except BlockError Unit :=
  match caches.pvcs.find ⟨target.ns, pvcName⟩ with
  | .error e =>
    -- A PVC that does not exist is taken for one that is created at runtime.
    if e.isNotFound then .ok ()
    else .error (.failed
      ("failed to get PVC " ++ Key.text ⟨target.ns, pvcName⟩ ++ ", err: " ++ e.text))
  | .ok pvc =>
    if shareable c pvc then .ok ()
    else
      let vms := caches.vms.filter fun vm => vm.ns = target.ns ∧ pvcName ∈ vmByNonShareablePVC vm
      if vms.any fun otherVM => otherVM.key ≠ target then .error .usedByOtherVM else .ok ()

/-- The body of the loop of `checkOccupiedPVCs`. -/
def checkOccupiedPVC (vm : VM) (volume : Volume) : Except AdmitError Unit :=
  match volume.claim with
  | none => .ok ()
  | some claim =>
    (checkBlockRWXVolumeForVM c caches claim.claimName vm.key).mapError fun
      | .usedByOtherVM => .invalid ("PVC " ++ Key.text ⟨vm.ns, claim.claimName⟩ ++
          " is already used by other VM, please use a shareable RWX volume.")
          "spec.templates.spec.volumes"
      | .failed message => .internal message

/-- `checkOccupiedPVCs`; a VM without a template makes it panic. -/
def checkOccupiedPVCs (vm : VM) : Except AdmitError Unit :=
  match vm.spec with
  | none => .error nilDereference
  | some spec => checkEach (checkOccupiedPVC c caches vm) spec.volumes

/-- The claim can be shared. -/
def checkShareableVolume (key : Key) : Except String Unit :=
  match caches.pvcs.find key with
  | .error e =>
    if e.isNotFound then .error ("PVC " ++ key.text ++
      " does not exist: a shareable disk requires an existing volume")
    else .error ("failed to get PVC " ++ key.text ++ ", err: " ++ e.text)
  | .ok pvc =>
    if !shareable c pvc then .error ("PVC " ++ key.text ++ " cannot back a shareable disk: a " ++
      "ReadWriteMany volume from a provisioner other than Longhorn is required")
    else if pvc.volumeMode ≠ some .block then .error ("PVC " ++ key.text ++
      " cannot back a shareable disk: volumeMode must be Block")
    else .ok ()

/-- The claim of the volume with the given name (`volumesByName`); of several, the last. -/
def claimByName (volumes : List Volume) (name : String) : Option String :=
  (volumes.reverse.find? fun volume => volume.claim.isSome ∧ volume.name = name).bind fun volume =>
    volume.claim.map ClaimSource.claimName

/-- The disk is the one that the VM boots from; `i` is its index. -/
def isBootDisk (disks : List Disk) (disk : Disk) (i : Nat) : Bool :=
  disk.bootOrder = some 1 || ((disks.all fun disk => disk.bootOrder.isNone) && i = 0)

/-- The body of the loop of `checkShareableVolumes`. -/
def checkShareableDisk (ns : String) (spec : Spec) (disk : Disk) (i : Nat) :
    Except AdmitError Unit :=
  if !disk.shareable then .ok ()
  else do
    let reject := fun message field =>
      AdmitError.invalid ("disk " ++ disk.name ++ " cannot be shareable: " ++ message) field
    rejectIf (isBootDisk spec.disks disk i)
      (reject "a shareable disk cannot be used as the boot disk"
        "spec.template.spec.domain.devices.disks")
    rejectIf (disk.cache ≠ "" && disk.cache ≠ "none")
      (reject ("a shareable disk requires cache mode none, got " ++ disk.cache)
        "spec.template.spec.domain.devices.disks")
    match claimByName spec.volumes disk.name with
    | none => .error (reject "a shareable disk must be backed by a persistent volume claim"
        "spec.template.spec.volumes")
    | some claimName =>
      (checkShareableVolume c caches ⟨ns, claimName⟩).mapError fun message =>
        .invalid message "spec.template.spec.volumes"

/-- Shareable disks have such claims. -/
def checkShareableVolumes (vm : VM) : Except AdmitError Unit :=
  match vm.spec with
  | none => .ok ()
  | some spec => checkEach (fun disk => checkShareableDisk c caches vm.ns spec disk.1 disk.2)
      spec.disks.zipIdx

/-- The body of the loop of `checkGoldenImage`. -/
def checkGoldenVolume (vm : VM) (volume : Volume) : Except AdmitError Unit :=
  match volume.claim with
  | none => .ok ()
  | some claim =>
    let key : Key := ⟨vm.ns, claim.claimName⟩
    match caches.pvcs.find key with
    | .error e =>
      if e.isNotFound then .ok ()
      else .error (.internal ("failed to get PVC " ++ key.text ++ ", err: " ++ e.text))
    | .ok pvc => rejectIf (!vm.imported && pvc.goldenImage = some "true") (.invalid
        ("PVC " ++ pvc.key.text ++ " is a golden image, it can't be used as a volume in VM")
        "spec.templates.spec.volumes")

/-- No volume is a golden image. -/
def checkGoldenImage (vm : VM) : Except AdmitError Unit :=
  checkEach (checkGoldenVolume caches vm) vm.volumes

/-! ### Targets of storage migrations -/

/-- The field of the annotation. -/
def fieldVolumeClaimTemplates : String :=
  "metadata.annotations[harvesterhci.io/volumeClaimTemplates]"

/-- The target of an entry. -/
def validateTargetVolumeEntry (vm : VM) (entry : Entry) : Except AdmitError Unit := do
  let reject := fun message => AdmitError.invalid message fieldVolumeClaimTemplates
  rejectIf (entry.name = "") (reject "PVC content must not be empty when targetVolume is set")
  -- The migration is taken to be in progress already.
  if entry.targetVolume ∈ vm.claims then return ()
  else do
    rejectIf (vm.volumes.any fun volume => volume.dataVolume = some entry.name)
      (reject ("source volume " ++ entry.name ++
        " is a DataVolume, only PVC sources are supported for storage migration"))
    rejectIf (!vm.claims.contains entry.name)
      (reject ("PVC " ++ entry.name ++ " is not attached to the VM"))
    rejectIf (vm.printableStatus ≠ .running)
      (reject "VM must be running to set targetVolume for volume migration")
    let key : Key := ⟨vm.ns, entry.targetVolume⟩
    let targetPVC ← (caches.pvcs.find key).mapError fun e =>
      if e.isNotFound then reject ("targetVolume PVC " ++ key.text ++ " not found")
      else .internal ("failed to get targetVolume PVC " ++ key.text ++ ": " ++ e.text)
    rejectIf (targetPVC.storage < entry.storage)
      (reject ("targetVolume " ++ entry.targetVolume ++ " size (" ++ toString targetPVC.storage ++
        ") must not be less than source volume " ++ entry.name ++ " size (" ++
        toString entry.storage ++ ")"))

/-- The loop of `checkTargetVolumes`; `count` targets have been seen. -/
def checkTargetVolumeEntries (vm : VM) (count : Nat) : List Entry → Except AdmitError Unit
  | [] => .ok ()
  | entry :: entries =>
    if entry.targetVolume = "" then checkTargetVolumeEntries vm count entries
    else do
      rejectIf (count + 1 > 1) (.invalid "only one volume migration is allowed at a time"
        fieldVolumeClaimTemplates)
      validateTargetVolumeEntry caches vm entry
      checkTargetVolumeEntries vm (count + 1) entries

/-- `checkTargetVolumes`, for the entries of the annotation. -/
def checkTargetVolumes (vm : VM) : Except AdmitError Unit := do
  let entries ← (c.unmarshalVolumeClaimTemplates vm.templates).mapError fun e =>
    .invalid ("failed to unmarshal volumeClaimTemplates annotation: " ++ e.text)
      fieldVolumeClaimTemplates
  checkTargetVolumeEntries caches vm 0 entries

/-! ### MAC addresses -/

/-- `getClusterNetworkForNad`; empty for a NAD without the label. -/
def getClusterNetworkForNad (nwName : String) : Except Err String :=
  match nwName.toList.splitOn '/' with
  | [name] => (c.nads ⟨"default", String.ofList name⟩).map fun label => label.getD ""
  | [ns, name] => (c.nads ⟨String.ofList ns, String.ofList name⟩).map fun label => label.getD ""
  | _ => .error (.other ("invalid network name " ++ nwName))

/-- The cluster networks of the Multus networks, by their names. -/
def vmCluster : List Network → Except Err (List (String × String))
  | [] => .ok []
  | network :: networks =>
    match network.multus with
    | none | some "" => vmCluster networks
    | some nwName => do
      let cn ← getClusterNetworkForNad c nwName
      let rest ← vmCluster networks
      return (network.name, cn) :: rest

/-- The cluster network of an interface, by the last network with its name. -/
def clusterNetworkOf (networks : List (String × String)) (iface : Interface) : String :=
  ((networks.reverse.find? fun network => network.1 = iface.name).map Prod.snd).getD ""

/-- A MAC address of a cluster network, as `MacAddrPerCluster` records it. -/
structure MacInfo where
  clusterNetwork : String
  mac : String
  /-- The interface and the VM. -/
  owner : String
  deriving DecidableEq, Repr

/-- The part of `getVMInterfaceInfo` for one VM, in the order in which it is recorded. -/
def vmInterfaceInfo (vm : VM) : Except Err (List MacInfo) :=
  match vm.spec with
  | none => .error (.other ("vm " ++ vm.name ++ " template is nil"))
  | some spec => do
    let networks ← vmCluster c spec.networks
    return (spec.interfaces.filter fun iface => iface.macAddress ≠ "").map fun iface =>
      ⟨clusterNetworkOf networks iface, iface.macAddress, iface.name ++ "+" ++ vm.key.text⟩

/-- `getVMInterfaceInfo`.  A later entry takes the place of the earlier ones, see `ownerOf`. -/
def getVMInterfaceInfo : List VM → Except Err (List MacInfo)
  | [] => .ok []
  | vm :: vms => do
    let info ← vmInterfaceInfo c vm
    let rest ← getVMInterfaceInfo vms
    return info ++ rest

/-- What `MacAddrPerCluster` holds for a cluster network and a MAC address. -/
def ownerOf (info : List MacInfo) (cn mac : String) : Option String :=
  (info.reverse.find? fun entry => entry.clusterNetwork = cn ∧ entry.mac = mac).map MacInfo.owner

/-- `comparemacs`, for one MAC address of the new VM. -/
def duplicate (newInfo oldInfo : List MacInfo) (entry : MacInfo) : Bool :=
  (ownerOf oldInfo entry.clusterNetwork entry.mac).any fun oldOwner =>
    some oldOwner ≠ ownerOf newInfo entry.clusterNetwork entry.mac

/-- `vmByMacaddrs`, the MAC addresses under which a VM is indexed. -/
def vmByMacaddrs (vm : VM) : List String :=
  ((vm.spec.elim [] Spec.interfaces).filter fun iface => iface.macAddress ≠ "").map
    Interface.macAddress

/-- The VMs that share a MAC address with the VM, once for each of its interfaces. -/
def vmsByMac (vm : VM) : List VM :=
  (vm.spec.elim [] Spec.interfaces).flatMap fun iface =>
    caches.vms.filter fun oldVM => iface.macAddress ∈ vmByMacaddrs oldVM

/-- `checkForDuplicateMacAddrs`; here the error names the first cluster network with a duplicate. -/
def checkForDuplicateMacAddrs (vm : VM) : Except AdmitError Unit := do
  let info := fun vms => (getVMInterfaceInfo c vms).mapError fun e => AdmitError.internal e.text
  let newInfo ← info [vm]
  if newInfo = [] ∨ vmsByMac caches vm = [] then return ()
  else do
    let oldInfo ← info (vmsByMac caches vm)
    match newInfo.find? (duplicate newInfo oldInfo) with
    | none => .ok ()
    | some entry => .error (.internal ("duplicate mac address present for vm " ++ vm.name ++
        " for cluster network " ++ entry.clusterNetwork))

/-! ### The other checks -/

/-- The strategies. -/
def maintenanceModeStrategyValidValues : List String :=
  ["Migrate", "ShutdownAndRestartAfterEnable", "ShutdownAndRestartAfterDisable", "Shutdown"]

/-- An invalid strategy that was there before is accepted. -/
def checkMaintenanceModeStrategyIsValid (newVM : VM) (oldVM : Option VM) :
    Except AdmitError Unit :=
  match newVM.maintainModeStrategy with
  | none => .ok ()
  | some newStrategy =>
    rejectIf (newStrategy ∉ maintenanceModeStrategyValidValues &&
        !oldVM.any fun vm => vm.maintainModeStrategy = some newStrategy)
      (.invalid ("invalid maintenance mode strategy: " ++ newStrategy)
        "metadata.labels[harvesterhci.io/maintain-mode-strategy]")

/-- The CD-ROMs without a volume, and those with a hotpluggable one, have the SATA bus. -/
def checkCdRomVolumeIsValid (vm : VM) : Except AdmitError Unit :=
  match vm.spec with
  | none => .error nilDereference
  | some spec => do
    let notSata := spec.disks.filter fun disk => disk.cdRom.any (· ≠ "sata")
    let hotpluggable := spec.volumes.filter fun volume => volume.claim.any ClaimSource.hotpluggable
    rejectIf (notSata.any fun disk => disk.name ∉ spec.volumes.map Volume.name)
      (.internal "empty cd-rom device should connect via SATA bus")
    rejectIf (notSata.any fun disk => disk.name ∈ hotpluggable.map Volume.name)
      (.internal "hotpluggable cd-rom volume should connect via SATA bus")

/-! ### Requests -/

/-- The verdicts of the checks of memory, quotas, backups and the sizes of the templates. -/
structure Rest where
  /-- The checks of `checkVMSpec` after `checkShareableVolumes`. -/
  checkVMSpec : Except AdmitError Unit
  checkVolumeReq : Except AdmitError Unit
  checkStorageResourceQuota : Except AdmitError Unit
  checkVMBackup : Except AdmitError Unit
  checkVolumeAnnotations : Except AdmitError Unit

/-- A request to the webhook. -/
inductive Request where
  | create (vm : VM)
  | update (oldVM newVM : VM)

/-- The VM after the request. -/
def Request.vm : Request → VM
  | create vm => vm
  | update _ newVM => newVM

/-- The VM before the request. -/
def Request.oldVM : Request → Option VM
  | create _ => none
  | update oldVM _ => some oldVM

/-- The request as the image checks see it. -/
def Request.volumes : Request → Volumes.Request
  | create vm => .create vm.toVM
  | update oldVM newVM => .update oldVM.toVM newVM.toVM

/-- The request updates a VM and leaves its interfaces as they were. -/
def Request.sameInterfaces (r : Request) : Bool :=
  r.oldVM.any fun oldVM =>
    oldVM.spec.isSome && oldVM.spec.map Spec.interfaces = r.vm.spec.map Spec.interfaces

/-- `checkVMSpec` after the check of the annotation. -/
def checkVMSpec (rest : Rest) (vm : VM) : Except AdmitError Unit := do
  checkGoldenImage caches vm
  checkOccupiedPVCs c caches vm
  checkShareableVolumes c caches vm
  rest.checkVMSpec

/-- The verdicts on a request that `Volumes.validate` asks for. -/
def otherChecks (rest : Rest) (r : Request) : Volumes.OtherChecks where
  checkVMSpec := checkVMSpec c caches rest r.vm
  checkVolumeReq := rest.checkVolumeReq
  checkStorageResourceQuota := rest.checkStorageResourceQuota
  checkVMBackup := rest.checkVMBackup
  checkVolumeAnnotations := rest.checkVolumeAnnotations
  checkTargetVolumes := checkTargetVolumes c caches r.vm
  checkMaintenanceModeStrategyIsValid := checkMaintenanceModeStrategyIsValid r.vm r.oldVM
  sameInterfaces := r.sameInterfaces
  checkForDuplicateMacAddrs := checkForDuplicateMacAddrs c caches r.vm
  checkCdRomVolumeIsValid := checkCdRomVolumeIsValid r.vm

/-- `Create` and `Update` of the validator. -/
def validate (rest : Rest) (user : String) (r : Request) : Except AdmitError Unit :=
  Volumes.validate c.volumes (otherChecks c caches rest r) user r.volumes

variable {c caches} {rest : Rest} {user : String} {r : Request}

/-- **The volumes of every admitted VM have been checked.** -/
theorem checkVMSpec_of_validate (h : validate c caches rest user r = .ok ()) :
    checkOccupiedPVCs c caches r.vm = .ok () ∧ checkShareableVolumes c caches r.vm = .ok () := by
  have hspec : checkVMSpec c caches rest r.vm = .ok () := by
    cases r <;> simp only [validate, Request.volumes, Volumes.validate, except_bind_unit_eq_ok] at h
      <;> exact h.2.1
  simp only [checkVMSpec, except_bind_unit_eq_ok] at hspec
  exact ⟨hspec.2.1, hspec.2.2.1⟩

/-- **The MAC addresses of an admitted VM have been checked**, unless an update leaves the
interfaces. -/
theorem checkForDuplicateMacAddrs_of_validate (h : validate c caches rest user r = .ok ())
    (hsame : r.sameInterfaces = false) : checkForDuplicateMacAddrs c caches r.vm = .ok () := by
  cases r with
  | create vm =>
    simp only [validate, Request.volumes, Volumes.validate, except_bind_unit_eq_ok] at h
    exact h.2.2.2.2.1
  | update oldVM newVM =>
    simp only [validate, Request.volumes, Volumes.validate, except_bind_unit_eq_ok] at h
    obtain ⟨-, -, -, -, -, -, -, -, -, hlast⟩ := h
    rw [if_neg (by simpa [otherChecks] using hsame)] at hlast
    exact (except_bind_unit_eq_ok.1 hlast).1

end

namespace BaseSample

/-- The template of a claim, to be used by one node at a time. -/
def entry (name targetVolume : String) : Entry where
  name := name
  imageID := none
  storageClassName := none
  storage := 10
  accessModes := [.readWriteOnce]
  volumeMode := some .block
  targetVolume := targetVolume

/-- A cluster without storage classes, images and networks. -/
def cluster : Cluster where
  unmarshal _ := .ok []
  storageClasses name := .error (.notFound ⟨"", name⟩)
  backingImages name := .error (.notFound ⟨"", name⟩)
  images key := .error (.notFound key)
  access _ _ := .ok true
  defaultStorageClass := .ok ⟨"driver.longhorn.io", ""⟩
  nads key := .error (.notFound key)

def vm (name templates : String) (spec : Spec) : VM where
  ns := "default"
  name := name
  deleting := false
  templates := templates
  spec := some spec
  updateVolumesStrategy := none
  waitingStorageMigration := none
  imported := false
  maintainModeStrategy := none
  printableStatus := .other

def rest : Rest := ⟨.ok (), .ok (), .ok (), .ok (), .ok ()⟩

end BaseSample

end Validator

end VirtualMachine

end Harvester
