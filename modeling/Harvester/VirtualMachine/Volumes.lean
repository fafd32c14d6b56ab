import Harvester.Image.Cdi

/-!
# The volumes of a VM

The annotation `volumeClaimTemplates` of a VM lists the volumes that are made for it.

* The webhook (`pkg/webhook/resources/virtualmachine/validator.go`) checks each template that is new
  or has changed: a template whose storage class leads to a VM image must name this image or none,
  and the user must have access to the image.
* The VM controller (`createPVCsFromAnnotation`) looks at the image that the template names: for an
  image with the CDI backend it creates a data volume that clones the image, otherwise a PVC.
-/

namespace Harvester

namespace VirtualMachine

namespace Volumes

open Control Action
open Image.Cdi (DataVolume)

/-- One entry of the `volumeClaimTemplates` annotation. -/
structure Template where
  name : String
  /-- The image ID annotation. -/
  imageID : Option String
  storageClassName : Option String
  /-- The requested storage in bytes. -/
  storage : Int
  deriving DecidableEq, Repr

/-- A VM, as far as its volume claim templates go. -/
structure VM where
  ns : String
  name : String
  deleting : Bool
  /-- The text of the `volumeClaimTemplates` annotation; empty without one. -/
  templates : String
  deriving DecidableEq, Repr

/-- A storage class. -/
structure StorageClass where
  provisioner : String
  /-- The `backingImage` parameter; empty without one. -/
  backingImage : String
  deriving DecidableEq, Repr

/-- The backend of an image. -/
inductive Backend where
  | backingImage
  | cdi
  deriving DecidableEq, Repr

/-- What the webhook and the controller look up. -/
structure Cluster where
  /-- `UnmarshalVolumeClaimTemplates` for a text that is not empty. -/
  unmarshal : String → Except Err (List Template)
  storageClasses : String → Except Err StorageClass
  /-- The image ID annotation of a backing image; empty without one. -/
  backingImages : String → Except Err String
  images : Key → Except Err Backend
  /-- The access reviews for images. -/
  access : AccessReview
  /-- Looking for the default storage class. -/
  defaultStorageClass : Except Err StorageClass

/-- The annotation is read. -/
def Cluster.unmarshalVolumeClaimTemplates (c : Cluster) (data : String) :
    Except Err (List Template) :=
  if data = "" then .ok [] else c.unmarshal data

/-- The field of the annotation. -/
def fieldVolumeClaimTemplates : String :=
  "metadata.annotations[harvesterhci.io/volumeClaimTemplates]"

section

variable (c : Cluster)

/-- The image of a storage class. -/
def getVMImageIDFromSC (scName : String) : Except AdmitError String := do
  let sc ← (c.storageClasses scName).mapError fun e =>
    .internal ("failed to get storage class " ++ scName ++ ": " ++ e.text)
  if sc.provisioner ≠ "driver.longhorn.io" then return ""
  else if sc.backingImage = "" then return ""
  else (c.backingImages sc.backingImage).mapError fun e =>
    .internal ("failed to get backing image " ++ sc.backingImage ++ ": " ++ e.text)

/-- The access check for the image with the given ID; an ID without a slash is not checked. -/
def checkImageAccess (user imageID : String) : Except AdmitError Unit :=
  match splitSlash imageID with
  | none => .ok ()
  | some (imageNS, imageName) => do
    let image := imageNS ++ "/" ++ imageName
    let allowed ← (c.access user ⟨imageNS, imageName⟩).mapError fun e =>
      .internal ("failed to check access to image " ++ image ++ ": " ++ e.text)
    rejectIf (!allowed)
      (.forbidden ("user " ++ quoted user ++ " is not authorized to access image " ++ image))

/-- The part of `checkVolumeClaimTemplateEntry` for an entry with a storage class. -/
def checkImageOfStorageClass (user scName : String) (entry : Template) :
    Except AdmitError Unit := do
  let vmImageID ← getVMImageIDFromSC c scName
  if vmImageID = "" then return ()
  else do
    let entryImageID := entry.imageID.getD ""
    rejectIf (entryImageID ≠ "" && vmImageID ≠ entryImageID) (.invalid
      ("imageId " ++ quoted entryImageID ++ " in volume template does not match backing image of " ++
        "storage class " ++ quoted scName ++ " (expected " ++ quoted vmImageID ++ ")")
      fieldVolumeClaimTemplates)
    checkImageAccess c user vmImageID

/-- The check of a template. -/
def checkVolumeClaimTemplateEntry (user : String) (entry : Template) : Except AdmitError Unit :=
  match entry.storageClassName with
  | none => .ok ()
  | some scName => checkImageOfStorageClass c user scName entry

/-- Check the entries in turn. -/
def checkEntries (user : String) : List Template → Except AdmitError Unit
  | [] => .ok ()
  | entry :: entries => do
    checkVolumeClaimTemplateEntry c user entry
    checkEntries user entries

/-- The entries of an annotation; an error of `json.Unmarshal` ends the admission. -/
def entriesOf (vm : VM) : Except AdmitError (List Template) :=
  (c.unmarshalVolumeClaimTemplates vm.templates).mapError fun e => .internal e.text

/-- The check of a new VM. -/
def checkAllVolumeClaimTemplateEntries (user : String) (vm : VM) : Except AdmitError Unit :=
  if vm.templates = "" then .ok ()
  else do
    let entries ← entriesOf c vm
    checkEntries c user entries

/-- The last old entry of that name has the same image. -/
def unchanged (oldEntries : List Template) (entry : Template) : Bool :=
  (oldEntries.reverse.find? fun old => old.name = entry.name).any fun old =>
    old.imageID.getD "" = entry.imageID.getD "" && old.storageClassName = entry.storageClassName

/-- The check of an update. -/
def checkChangedVolumeClaimTemplateEntries (user : String) (oldVM newVM : VM) :
    Except AdmitError Unit :=
  if newVM.templates = "" ∨ oldVM.templates = newVM.templates then .ok ()
  else do
    let newEntries ← entriesOf c newVM
    let oldEntries ← entriesOf c oldVM
    checkEntries c user (newEntries.filter fun entry => !unchanged oldEntries entry)

/-- The annotation is valid. -/
def checkVolumeClaimTemplatesAnnotation (vm : VM) : Except AdmitError Unit := do
  let reject := fun message => AdmitError.invalid
    ("the volumeClaimTemplates annotaion is invalid: " ++ message) "metadata.annotations"
  let entries ← (c.unmarshalVolumeClaimTemplates vm.templates).mapError fun e => reject e.text
  rejectIf (entries.any fun entry => entry.name = "") (reject "PVC name is required")

/-- The verdicts of the checks that have nothing to do with images. -/
structure OtherChecks where
  /-- The rest of `checkVMSpec`. -/
  checkVMSpec : Except AdmitError Unit
  checkVolumeReq : Except AdmitError Unit
  checkStorageResourceQuota : Except AdmitError Unit
  /-- `checkVMBackup`, when the VM is being stopped. -/
  checkVMBackup : Except AdmitError Unit
  checkVolumeAnnotations : Except AdmitError Unit
  checkTargetVolumes : Except AdmitError Unit
  checkMaintenanceModeStrategyIsValid : Except AdmitError Unit
  /-- An update that does not change the interfaces is not checked any further. -/
  sameInterfaces : Bool
  checkForDuplicateMacAddrs : Except AdmitError Unit
  checkCdRomVolumeIsValid : Except AdmitError Unit

/-- A request to the webhook. -/
inductive Request where
  | create (vm : VM)
  | update (oldVM newVM : VM)

/-- The VM after the request. -/
def Request.vm : Request → VM
  | create vm => vm
  | update _ newVM => newVM

/-- The last checks. -/
def checkInterfaces (other : OtherChecks) : Except AdmitError Unit := do
  other.checkForDuplicateMacAddrs
  other.checkCdRomVolumeIsValid

/-- `Create` and `Update` of the validator. -/
def validate (other : OtherChecks) (user : String) : Request → Except AdmitError Unit
  | .create vm => do
    checkVolumeClaimTemplatesAnnotation c vm
    other.checkVMSpec
    checkAllVolumeClaimTemplateEntries c user vm
    other.checkStorageResourceQuota
    other.checkForDuplicateMacAddrs
    other.checkMaintenanceModeStrategyIsValid
    other.checkCdRomVolumeIsValid
  | .update oldVM newVM => do
    checkVolumeClaimTemplatesAnnotation c newVM
    other.checkVMSpec
    other.checkVolumeReq
    checkChangedVolumeClaimTemplateEntries c user oldVM newVM
    other.checkStorageResourceQuota
    other.checkVMBackup
    other.checkVolumeAnnotations
    other.checkTargetVolumes
    other.checkMaintenanceModeStrategyIsValid
    if other.sameInterfaces then .ok () else checkInterfaces other

end

/-- A claim. -/
structure PVC where
  ns : String
  name : String
  storageClassName : Option String
  storage : Int
  deriving DecidableEq, Repr

/-- Its key. -/
def PVC.key (pvc : PVC) : Key := ⟨pvc.ns, pvc.name⟩

/-- The controller has created a volume for a template. -/
inductive Event where
  /-- A data volume that clones the image. -/
  | dataVolume (template : Template) (image : Key)
  | pvc (template : Template)
  deriving DecidableEq, Repr

/-- The objects. -/
structure Server where
  dvs : Store DataVolume.key
  pvcs : Store PVC.key
  trace : List Event

/-- The requests. -/
inductive ServerRequest where
  | getDV (key : Key)
  | createDV (key : Key)
  | createPVC (key : Key)
  | updatePVC (key : Key)
  deriving DecidableEq, Repr

/-- What a call meets. -/
structure Env where
  pvcs : Lookup Err PVC.key
  fault : ServerRequest → Fault × Err
  /-- The error text contains `PVC_EXPAND`. -/
  isExpandError : Err → Bool

/-- Calls of the controller. -/
abbrev Act (α : Type) := Action Server Err α

/-- A request with its fault. -/
def Env.request {α : Type} (env : Env) (r : ServerRequest) (m : Act α) : Act α :=
  Action.request (env.fault r).1 (env.fault r).2 m

/-- A data volume is read. -/
def getDV (key : Key) : Act DataVolume := fun s =>
  match s.dvs.get key with
  | none => (.error (.notFound key), s)
  | some dv => (.ok dv, s)

/-- The `Create` request for a data volume, which is made for a template. -/
def addDV (dv : DataVolume) (template : Template) (image : Key) : Act Unit := fun s =>
  match s.dvs.get dv.key with
  | some _ => (.error (.alreadyExists dv.key), s)
  | none => (.ok (), { s with
      dvs := s.dvs.put dv
      trace := s.trace ++ [.dataVolume template image] })

/-- The `Create` request for a PVC, which is made for a template. -/
def addPVC (pvc : PVC) (template : Template) : Act Unit := fun s =>
  match s.pvcs.get pvc.key with
  | some _ => (.error (.alreadyExists pvc.key), s)
  | none => (.ok (), { s with
      pvcs := s.pvcs.put pvc
      trace := s.trace ++ [.pvc template] })

/-- A claim is updated. -/
def putPVC (pvc : PVC) : Act Unit := fun s =>
  match s.pvcs.get pvc.key with
  | none => (.error (.notFound pvc.key), s)
  | some _ => (.ok (), { s with pvcs := s.pvcs.put pvc })

/-- `strings.Split(imageID, "/")` when it has two parts. -/
def splitImageID (imageID : String) : Option Key :=
  match splitSlash imageID with
  | none => none
  | some (ns, name) => if '/' ∈ name.toList then none else some ⟨ns, name⟩

/-- The image that a template names, as the controller sees it. -/
inductive ImageRef where
  /-- None, or one with the backing-image backend. -/
  | plain
  | missing
  | cdi (image : Key)
  deriving DecidableEq, Repr

/-- The image of a template. -/
def imageRef (c : Cluster) (template : Template) : ImageRef :=
  match template.imageID.bind splitImageID with
  | none => .plain
  | some key =>
    match c.images key with
    | .error _ => .missing
    | .ok .cdi => .cdi key
    | .ok .backingImage => .plain

section

variable (c : Cluster) (env : Env) (vm : VM) (template : Template)

/-- The storage class of a template. -/
def getPVCStorageClass : Except Err StorageClass :=
  match template.storageClassName with
  | none => c.defaultStorageClass
  | some scName => (c.storageClasses scName).mapError fun e =>
      .other ("failed to get StorageClass " ++ scName ++ ": " ++ e.text)

/-- The error of the caller of `getPVCStorageClass`. -/
def storageClassError (e : Err) : Err :=
  match template.storageClassName with
  | none => .other "invalid memory address or nil pointer dereference"
  | some scName => .other ("failed to get StorageClass " ++ scName ++ ": " ++ e.text)

/-- Create the data volume that clones the image. -/
def createDataVolume (image : Key) : Act Unit := do
  let key : Key := ⟨vm.ns, template.name⟩
  let _ ← (Action.ofExcept (getPVCStorageClass c template)).mapError (storageClassError template)
  let dv : DataVolume := ⟨vm.ns, template.name, [], .other, ""⟩
  (env.request (.createDV key) (addDV dv template image)).mapError
    fun e => .other ("failed to create DataVolume " ++ key.text ++ ": " ++ e.text)

/-- Expand the PVC when the template asks for more storage. -/
def expandPVC (pvc : PVC) : Act Unit :=
  if template.storage ≤ pvc.storage then pure ()
  else do
    match ← attempt
      (env.request (.updatePVC pvc.key) (putPVC { pvc with storage := template.storage })) with
    | .ok () => pure ()
    | .error e => if env.isExpandError e then pure () else fail e

/-- Look at the PVC of the template, unless there is a data volume. -/
def checkPVC (withDataVolume : Bool) : Act Unit :=
  match env.pvcs.find ⟨vm.ns, template.name⟩ with
  | .ok pvc => expandPVC env template pvc
  | .error e =>
    if e.isNotFound then
      if withDataVolume then pure ()
      else
        let pvc : PVC := ⟨vm.ns, template.name, template.storageClassName, template.storage⟩
        env.request (.createPVC pvc.key) (addPVC pvc template)
    else fail e

/-- The body of the loop of `createPVCsFromAnnotation`. -/
def createVolume : Act Unit :=
  match imageRef c template with
  | .missing => pure ()
  | .plain => checkPVC env vm template false
  | .cdi image => do
    match ← attempt (env.request (.getDV ⟨vm.ns, template.name⟩)
      (getDV ⟨vm.ns, template.name⟩)) with
    | .ok _ => checkPVC env vm template true
    | .error e =>
      if e.isNotFound then createDataVolume c env vm template image else fail e

/-- The volumes are created. -/
def createPVCsFromAnnotation : Act Unit :=
  if vm.deleting ∨ vm.templates = "" then pure ()
  else do
    let templates ← Action.ofExcept (c.unmarshalVolumeClaimTemplates vm.templates)
    forEach (createVolume c env vm) templates

end

end Volumes

end VirtualMachine

end Harvester
