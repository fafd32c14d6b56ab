import Harvester.Image.Names

/-!
# The CDI backend

`pkg/image/cdi` and `pkg/controller/master/image/vm_image_controller.go`.  An image with the CDI
backend lives in a data volume with the same namespace and name.  `Initialize` creates it unless
there is one, `Check` waits for it and marks the image as imported, `Delete` deletes it.

The controller is called with the image as its cache shows it; an update with an old resource
version is refused.  What the backend learns from elsewhere is part of `Env`, like the fate of its
requests.
-/

namespace Harvester

namespace Image

namespace Cdi

open Control Action

/-! ### Objects -/

/-- The status of a condition. -/
inductive CondStatus where
  | unset
  | unknown
  | isFalse
  | isTrue
  deriving DecidableEq, Repr

/-- `LastFailedTime`, in seconds. -/
inductive Timestamp where
  | never
  | malformed
  | time (t : Nat)
  deriving DecidableEq, Repr

/-- What the user asks for. -/
structure Spec where
  displayName : String
  sourceType : SourceType
  url : String
  targetStorageClassName : String
  pvcNamespace : String
  pvcName : String
  retry : Nat
  deriving DecidableEq, Repr

/-- What the backend writes. -/
structure Status where
  size : Int
  virtualSize : Int
  progress : Int
  failed : Nat
  lastFailedTime : Timestamp
  initialized : CondStatus
  initializedMessage : String
  imported : CondStatus
  importedReason : String
  importedMessage : String
  retryLimitExceeded : CondStatus
  retryLimitExceededMessage : String
  deriving DecidableEq, Repr

/-- A `VirtualMachineImage` with the CDI backend. -/
structure VMImage where
  ns : String
  name : String
  uid : String
  resourceVersion : Nat
  deleting : Bool
  storageClassAnnotation : Option String
  spec : Spec
  status : Status
  deriving DecidableEq, Repr

/-- The key of an image. -/
def VMImage.key (vmi : VMImage) : Key := ⟨vmi.ns, vmi.name⟩

/-- The phases of a data volume that the code tells apart. -/
inductive Phase where
  | succeeded
  | uploadReady
  | other
  deriving DecidableEq, Repr

/-- A data volume. -/
structure DataVolume where
  ns : String
  name : String
  ownerReferences : List OwnerReference
  phase : Phase
  progress : String
  deriving DecidableEq, Repr

namespace DataVolume

/-- The key of a data volume. -/
def key (dv : DataVolume) : Key := ⟨dv.ns, dv.name⟩

/-- The data volume has the owner reference of the image with this UID. -/
def CreatedFor (uid : String) (dv : DataVolume) : Prop :=
  ∃ r ∈ dv.ownerReferences, r.kind = "VirtualMachineImage" ∧ r.uid = uid
  deriving Decidable

end DataVolume

/-- What the backend does. -/
inductive Event where
  /-- The image became imported, because of this data volume. -/
  | imported (dv : DataVolume)
  | deleted (dv : DataVolume)
  deriving DecidableEq, Repr

/-- The data volume of an event. -/
def Event.dv : Event → DataVolume
  | imported dv | deleted dv => dv

/-- The API server: the image, and all data volumes. -/
structure Server where
  image : VMImage
  dvs : Store DataVolume.key
  trace : List Event

/-- The requests of the controller and the upload handler. -/
inductive Request where
  | getDV
  | createDV
  | deleteDV
  | updateSize
  | importing
  | imported
  | initialized
  | failInitial
  | updateLastFailedTime
  | failUpload
  deriving DecidableEq, Repr

/-- What a call meets. -/
structure Env where
  fault : Request → Fault × Err
  now : Nat
  fetchImageVirtualSize : Except Err Int
  fetchImageSize : Except Err Int
  /-- `ensureAdditionalCAConfigMap`. -/
  additionalCA : Except Err Unit
  targetStorageClass : Except Err Unit
  /-- The capacity of the exported PVC. -/
  sourcePVC : Except Err Int
  /-- The sizes that the upload handler finds in the request. -/
  uploadSizes : Except Err (Int × Int)
  /-- Waiting for the image to show the sizes. -/
  waitVMImageStatus : Except Err Unit
  /-- The transfer: the error that is recorded, and the one that is returned. -/
  transfer : Except (Option Err × Err) Unit

/-- Calls of the backend. -/
abbrev Act (α : Type) := Action Server Err α

/-- A request with its fault. -/
def Env.request {α : Type} (env : Env) (r : Request) (m : Act α) : Act α :=
  Action.request (env.fault r).1 (env.fault r).2 m

/-- `fmt.Errorf("<message>: %v", err)`. -/
def wrap (message : String) (e : Err) : Err := .other (message ++ ": " ++ e.text)

/-! ### Requests -/

/-- A data volume is read. -/
def getDV (key : Key) : Act DataVolume := fun s =>
  match s.dvs.get key with
  | none => (.error (.notFound key), s)
  | some dv => (.ok dv, s)

/-- A data volume is created. -/
def addDV (dv : DataVolume) : Act Unit := fun s =>
  match s.dvs.get dv.key with
  | some _ => (.error (.alreadyExists dv.key), s)
  | none => (.ok (), { s with dvs := s.dvs.put dv })

/-- A data volume is deleted. -/
def removeDV (key : Key) : Act Unit := fun s =>
  match s.dvs.get key with
  | none => (.error (.notFound key), s)
  | some dv => (.ok (), { s with dvs := s.dvs.delete key, trace := s.trace ++ [.deleted dv] })

/-- The image is updated. -/
def putImage (vmi : VMImage) : Act VMImage := fun s =>
  if vmi.resourceVersion = s.image.resourceVersion then
    let new := { s.image with resourceVersion := s.image.resourceVersion + 1, status := vmi.status }
    (.ok new, { s with image := new })
  else (.error (.conflict vmi.key), s)

/-- An update that marks the image as imported because of `dv`. -/
def putImported (dv : DataVolume) (vmi : VMImage) : Act VMImage := do
  let new ← putImage vmi
  Action.modify fun s => { s with trace := s.trace ++ [.imported dv] }
  return new

/-- `UpdateVMI`: nothing is sent when nothing has changed. -/
def updateVMI (env : Env) (r : Request) (put : VMImage → Act VMImage) (old new : VMImage) :
    Act VMImage :=
  if old = new then pure new else env.request r (put new)

/-! ### State transitions of the image -/

namespace VMImage

variable (vmi : VMImage)

/-- `VMImageStateInitialized`. -/
def initialized : VMImage :=
  { vmi with status := { vmi.status with
    progress := 0
    imported := .unknown
    importedReason := "Importing"
    initialized := .isTrue
    initializedMessage := "" } }

/-- `VMImageStateImporting`: the progress is not shown as complete before the image is. -/
def importing (message : String) (progress : Int) : VMImage :=
  { vmi with status := { vmi.status with
    progress := if progress = 100 then 99 else progress
    imported := .unknown
    importedReason := "Importing"
    importedMessage := message } }

/-- `VMImageStateImported`. -/
def imported (message : String) (progress size virtualSize : Int) : VMImage :=
  { vmi with status := { vmi.status with
    progress
    size
    virtualSize
    imported := .isTrue
    importedReason := "Imported"
    importedMessage := message
    retryLimitExceeded := .isFalse
    retryLimitExceededMessage := "" } }

/-- `failStateTransit` with the initialized condition. -/
def failInitial (now : Nat) (e : Err) : VMImage :=
  let failed := vmi.status.failed + 1
  let message := "failed due to error: " ++ e.text
  let message := if 1 < failed then
      "retry attempted " ++ toString (failed - 1) ++ "/" ++
        toString vmi.spec.retry ++ " " ++ message
    else message
  { vmi with status :=
    if vmi.spec.retry < failed then
      { vmi.status with
        failed
        lastFailedTime := .time now
        progress := 0
        retryLimitExceeded := .isTrue
        retryLimitExceededMessage := message
        initialized := .isFalse
        initializedMessage := message }
    else
      { vmi.status with
        failed
        lastFailedTime := .time now
        progress := 0
        retryLimitExceeded := .isFalse
        retryLimitExceededMessage := message } }

/-- The upload fails. -/
def failUpload (message : String) : VMImage :=
  { vmi with status := { vmi.status with
    imported := .isFalse
    importedReason := "UploadFailed"
    importedMessage := message } }

/-- `UpdateVirtualSizeAndSize`. -/
def withSizes (virtualSize size : Int) : VMImage :=
  { vmi with status := { vmi.status with virtualSize, size } }

end VMImage

section

variable (env : Env) (vmi : VMImage)

/-! ### `Initialize` -/

/-- Actions of `Initialize`; its error comes with the image as it is by then. -/
abbrev Init (α : Type) := Action Server (VMImage × Err) α

/-- A failure with the image and a message. -/
def failed (message : String) (e : Err) : VMImage × Err := (vmi, wrap message e)

/-- Fail with the image and a message. -/
def orFail {α : Type} (message : String) (m : Act α) : Init α := m.mapError (failed vmi message)

/-- The namespace and the name of the data volume, for messages. -/
def targetDV : String := vmi.ns ++ "/" ++ vmi.name

/-- There is a data volume. -/
def isDataVolumeCreated : Act Bool := do
  match ← attempt (env.request .getDV (getDV vmi.key)) with
  | .ok _ => return true
  | .error e =>
    if e.isNotFound then return false
    else fail (wrap ("failed to get DataVolume " ++ targetDV vmi) e)

/-- The data volume of an image. -/
def newDataVolume : DataVolume where
  ns := vmi.ns
  name := vmi.name
  ownerReferences := [⟨"VirtualMachineImage", vmi.name, vmi.uid, false, true⟩]
  phase := .other
  progress := ""

/-- `generateDVTargetStorage`, as far as it can fail: the data volume must have a size. -/
def generateDVTargetStorage : Except Err Unit :=
  if max 0 (max vmi.status.virtualSize vmi.status.size) = 0 then
    .error (.other "vm image size is zero")
  else .ok ()

/-- The last part of `initializeDownload`, `initializeExportFromVolume` and `DoUpload`, by what
becomes of an error before the creation and of one of the creation. -/
def createDataVolume {ε : Type} (before creation : String → Err → ε) : Action Server ε Unit := do
  (Action.ofExcept env.targetStorageClass).mapError
    (before ("failed to get StorageClass " ++ vmi.spec.targetStorageClassName))
  (Action.ofExcept (generateDVTargetStorage vmi)).mapError
    (before "failed to generate DV target storage")
  (env.request .createDV (addDV (newDataVolume vmi))).mapError
    (creation ("failed to create DataVolume " ++ targetDV vmi))

/-- Update the sizes before the data volume is created, if they are not known yet. -/
def ensureSizes (virtualSize size : Int) : Init VMImage :=
  if vmi.status.size = 0 ∧ vmi.status.virtualSize = 0 then
    orFail vmi "failed to update VM Image size and virtual size"
      (updateVMI env .updateSize putImage vmi (vmi.withSizes virtualSize size))
  else pure vmi

/-- An image that is downloaded. -/
def initializeDownload : Init VMImage := do
  let virtualSize ← orFail vmi "failed to fetch image virtual size"
    (Action.ofExcept env.fetchImageVirtualSize)
  let size ← orFail vmi "failed to fetch image size" (Action.ofExcept env.fetchImageSize)
  -- A virtual size of zero means that the image is not in qcow format.
  let vmi ← ensureSizes env vmi (if virtualSize = 0 then size else virtualSize) size
  orFail vmi "failed to read or create the additional CA ConfigMap"
    (Action.ofExcept env.additionalCA)
  createDataVolume env vmi (failed vmi) (failed vmi)
  return vmi

/-- An image of a volume. -/
def initializeExportFromVolume : Init VMImage := do
  let size ← orFail vmi
    ("failed to get source PVC " ++ vmi.spec.pvcNamespace ++ "/" ++ vmi.spec.pvcName)
    (Action.ofExcept env.sourcePVC)
  let vmi ← ensureSizes env vmi size size
  createDataVolume env vmi (failed vmi) (failed vmi)
  return vmi

/-- The name of a source type. -/
def sourceTypeName : SourceType → String
  | .download => "download"
  | .upload => "upload"
  | .exportVolume => "export-from-volume"
  | .restore => "restore"
  | .clone => "clone"

/-- `Initialize` when there is no data volume yet. -/
def initializeSource : Init VMImage :=
  match vmi.spec.sourceType with
  | .download => initializeDownload env vmi
  | .upload => pure vmi
  | .exportVolume => initializeExportFromVolume env vmi
  | .restore | .clone =>
    fail (vmi, .other ("unsupported source type: " ++ sourceTypeName vmi.spec.sourceType))

/-- `Initialize`. -/
def initializeVMI : Init VMImage := do
  let created ← orFail vmi "failed to check DataVolume" (isDataVolumeCreated env vmi)
  if created then return vmi else initializeSource env vmi

/-! ### `Check` -/

/-- The errors of `Check`. -/
inductive CheckErr where
  /-- `common.ErrRetryLater`. -/
  | retryLater
  | err (e : Err)
  deriving DecidableEq, Repr

/-- `strconv.Atoi` on digits. -/
def digits (cs : List Char) : Option Nat :=
  if cs ≠ [] ∧ cs.all Char.isDigit then
    some (cs.foldl (fun n c => 10 * n + (c.toNat - '0'.toNat)) 0)
  else none

/-- `strconv.Atoi`. -/
def atoi : List Char → Option Int
  | '-' :: cs => (digits cs).map fun n => -(n : Int)
  | '+' :: cs => (digits cs).map fun n => (n : Int)
  | cs => (digits cs).map fun n => (n : Int)

/-- Show the progress of a download or an export.  An update that fails is only logged. -/
def showProgress (dv : DataVolume) : Action Server CheckErr Unit :=
  if vmi.spec.sourceType = .download ∨ vmi.spec.sourceType = .exportVolume then
    if dv.progress ≠ "N/A" ∧ dv.progress ≠ "" then
      let whole := dv.progress.toList.takeWhile (· ≠ '.')
      match atoi whole with
      | none => fail (.err (.other ("failed to convert progress to int: " ++
          "strconv.Atoi: parsing " ++ quoted (String.ofList whole) ++ ": invalid syntax")))
      | some progress => do
        let _ ← attempt
          (updateVMI env .importing putImage vmi (vmi.importing "Image Importing" progress))
    else pure ()
  else pure ()

/-- `handleDataVolumeError`: not found is an error that starts the initialization. -/
def handleDataVolumeError (e : Err) : CheckErr :=
  if e.isNotFound then .err e else .err (wrap ("failed to get DataVolume " ++ targetDV vmi) e)

/-- Mark the image as imported because of `dv`. -/
def markImported (dv : DataVolume) : Act VMImage :=
  updateVMI env .imported (putImported dv) vmi
    (vmi.imported "" 100 vmi.status.size vmi.status.virtualSize)

/-- `Check` of the backend. -/
def check : Action Server CheckErr Unit := do
  let dv ← (env.request .getDV (getDV vmi.key)).mapError (handleDataVolumeError vmi)
  showProgress env vmi dv
  if dv.phase ≠ .succeeded then fail .retryLater
  else do
    let _ ← (markImported env vmi dv).mapError fun e =>
      .err (wrap "failed to update VM Image status to Imported" e)

/-! ### `Delete` -/

/-- `Delete` of the backend. -/
def delete : Act Unit := do
  match ← attempt (env.request .getDV (getDV vmi.key)) with
  | .error e =>
    if e.isNotFound then pure ()
    else fail (wrap ("failed to get DataVolume " ++ targetDV vmi) e)
  | .ok _ =>
    (env.request .deleteDV (removeDV vmi.key)).mapError
      (wrap ("failed to delete DataVolume " ++ targetDV vmi))

/-! ### The image controller -/

/-- `initialize` of the image handler. -/
def startVMI : Act Unit := do
  match ← attempt (initializeVMI env vmi) with
  | .error (vmi, e) =>
    let _ ← env.request .failInitial (putImage (vmi.failInitial env.now e))
  | .ok vmi =>
    let _ ← env.request .initialized (putImage vmi.initialized)

/-- `handleRetry`: at most one attempt in ten seconds. -/
def handleRetry : Act Unit :=
  match vmi.status.lastFailedTime with
  | .never => startVMI env vmi
  | .malformed => do
    let _ ← env.request .updateLastFailedTime
      (putImage { vmi with status := { vmi.status with lastFailedTime := .time env.now } })
  | .time t => if env.now < t + 10 then pure () else startVMI env vmi

/-- An image that is initialized. -/
def processVMImage : Act Unit := do
  match ← attempt (check env vmi) with
  | .ok () => pure ()
  | .error .retryLater => pure ()
  | .error (.err e) => if e.isNotFound then handleRetry env vmi else fail e

/-- `OnChanged`; the virtual size of an imported image needs no update with this backend. -/
def onChanged : Act Unit :=
  if vmi.deleting ∨ vmi.status.retryLimitExceeded = .isTrue then pure ()
  else if vmi.status.imported = .isTrue then pure ()
  else processVMImage env vmi

/-! ### The upload handler -/

/-- An error in the variable `err` when `DoUpload` ends, and the one that is returned. -/
def recorded (message : String) (e : Err) : Option Err × Err := (some e, wrap message e)

/-- An error in a variable of the same name of an inner block. -/
def shadowed (message : String) (e : Err) : Option Err × Err := (none, wrap message e)

/-- `DoUpload` without its deferred function, on the image as the cache shows it then. -/
def upload : Action Server (Option Err × Err) Unit := do
  let (virtualSize, size) ← (Action.ofExcept env.uploadSizes).mapError
    (recorded "failed to parse file size")
  let _ ← (env.request .updateSize (putImage (vmi.withSizes virtualSize size))).mapError fun e =>
    let e := wrap "failed to update VM Image size and virtual size" e
    (some e, e)
  (Action.ofExcept env.waitVMImageStatus).mapError (shadowed "failed to wait for VMImage status")
  createDataVolume env (vmi.withSizes virtualSize size) recorded shadowed
  Action.ofExcept env.transfer

/-- `DoUpload`; the error that is recorded is written to the image. -/
def doUpload : Act Unit := do
  match ← attempt (upload env vmi) with
  | .ok () => pure ()
  | .error (none, e) => fail e
  | .error (some err, e) => do
    let _ ← attempt (env.request .failUpload fun s => putImage (s.image.failUpload err.text) s)
    fail e

/-- One round of `updateVMImageProgress`, with the given progress of the transfer. -/
def updateVMImageProgress (progress : Int) : Act Unit := do
  match ← attempt (env.request .getDV (getDV vmi.key)) with
  | .error _ => pure ()
  | .ok dv =>
    if dv.phase = .succeeded then do
      let _ ← markImported env vmi dv
    else do
      let _ ← updateVMI env .importing putImage vmi
        (vmi.importing "Image Importing" (min progress 99))

end

/-! ### The webhook

`pkg/image/cdi/validate.go`: the admission of a new image. -/

/-- What the validator looks at. -/
structure Cluster where
  /-- The images of a namespace with a display name. -/
  images : String → String → Except Err (List VMImage)
  /-- The complaint of `url.Parse`. -/
  urlError : String → Option String
  /-- The pods that use a PVC, by the key of the index. -/
  podsByPVC : String → Except Err (List Key)
  /-- The access reviews for PVCs. -/
  access : AccessReview
  pvcs : Key → Except Err Unit

/-- The field of a display name. -/
def fieldDisplayName : String := "spec.displayName"

/-- `[A-Za-z0-9]`. -/
def isAlphanum (c : Char) : Bool := c.isUpper || c.isLower || c.isDigit

/-- `(([A-Za-z0-9][-A-Za-z0-9_.]*)?[A-Za-z0-9])?`. -/
def isLabelValue (cs : List Char) : Bool :=
  cs.isEmpty || cs.head?.any isAlphanum && cs.getLast?.any isAlphanum &&
    cs.all fun c => isAlphanum c || c = '-' || c = '_' || c = '.'

/-- What is wrong with a label. -/
def isValidLabelValue (value : String) : List String :=
  (if 63 < value.length then ["must be no more than 63 characters"] else []) ++
    if isLabelValue value.toList then []
    else ["a valid label must be an empty string or consist of alphanumeric characters, '-', '_' " ++
      "or '.', and must start and end with an alphanumeric character (e.g. 'MyValue',  or " ++
      "'my_value',  or '12345', regex used for validation is " ++
      "'(([A-Za-z0-9][-A-Za-z0-9_.]*)?[A-Za-z0-9])?')"]

/-- Reject with the error of a lookup. -/
def orReject {α : Type} (reject : Err → AdmitError) : Except Err α → Except AdmitError α :=
  Except.mapError reject

section

variable (c : Cluster) (vmi : VMImage)

/-- The display name is a new label. -/
def checkDisplayName : Except AdmitError Unit := do
  let errs := isValidLabelValue vmi.spec.displayName
  rejectIf (!errs.isEmpty) (.invalid ("displayName is not a valid Kubernetes label value: " ++
    "; ".intercalate errs) fieldDisplayName)
  rejectIf (vmi.spec.displayName = "") (.invalid "displayName is required" fieldDisplayName)
  let same ← orReject (fun e => .internal e.text) (c.images vmi.ns vmi.spec.displayName)
  rejectIf (same.any fun image => image.uid ≠ vmi.uid)
    (.conflict "A resource with the same name exists")

/-- The storage classes agree. -/
def scConsistencyCreation : Except AdmitError Unit :=
  let annotated := vmi.storageClassAnnotation.getD ""
  rejectIf (annotated ≠ "" && vmi.spec.targetStorageClassName ≠ "" &&
      annotated ≠ vmi.spec.targetStorageClassName)
    (.invalid "storageClassName should keep the consistency" "spec.targetStorageClassName")

/-- There is a URL if one is needed. -/
def checkURL : Except AdmitError Unit :=
  if vmi.spec.sourceType = .download ∨ vmi.spec.sourceType = .restore then do
    rejectIf (vmi.spec.url = "") (.invalid "url is required" "spec.url")
    rejectIf (c.urlError vmi.spec.url).isSome
      (.invalid ("url is invalid: " ++ (c.urlError vmi.spec.url).getD "") "spec.url")
  else
    rejectIf (vmi.spec.url ≠ "") (.invalid ("url should be empty when image source type is " ++
      quoted (sourceTypeName vmi.spec.sourceType)) "spec.url")

/-- `CheckPVCInUse`; the check is skipped when the index cannot be read. -/
def checkPVCInUse : Except AdmitError Unit :=
  match c.podsByPVC (vmi.spec.pvcNamespace ++ "-" ++ vmi.spec.pvcName) with
  | .error _ => .ok ()
  | .ok pods => rejectIf (!pods.isEmpty) (.internal ("PVC " ++ vmi.spec.pvcName ++
      " is used by Pods [" ++ " ".intercalate (pods.map fun pod => pod.ns ++ "/" ++ pod.name) ++
      "], cannot export volume when it's running"))

/-- The volume can be exported. -/
def checkImagePVC (user : String) : Except AdmitError Unit :=
  if vmi.spec.sourceType ≠ .exportVolume then .ok ()
  else do
    let pvc := vmi.spec.pvcNamespace ++ "/" ++ vmi.spec.pvcName
    rejectIf (vmi.spec.pvcNamespace = "") (.invalid
      "pvcNamespace is required when image source type is \"export-from-volume\""
      "spec.pvcNamespace")
    rejectIf (vmi.spec.pvcName = "") (.invalid
      "pvcName is required when image source type is \"export-from-volume\"" "spec.pvcName")
    let allowed ← orReject
      (fun e => .internal ("failed to check user permission for pvc " ++ pvc ++ ": " ++ e.text))
      (c.access user ⟨vmi.spec.pvcNamespace, vmi.spec.pvcName⟩)
    rejectIf (!allowed)
      (.forbidden ("user " ++ quoted user ++ " is not authorized to access PVC " ++ pvc))
    orReject (fun e => .invalid ("failed to get pvc " ++ vmi.spec.pvcName ++ "/" ++
      vmi.spec.pvcNamespace ++ ", error: " ++ e.text) "")
      (c.pvcs ⟨vmi.spec.pvcNamespace, vmi.spec.pvcName⟩)

/-- `Create` of the validator: no check looks at data volumes. -/
def create (user : String) : Except AdmitError Unit := do
  checkDisplayName c vmi
  scConsistencyCreation vmi
  checkURL c vmi
  checkPVCInUse c vmi
  checkImagePVC c vmi user

end

end Cdi

end Image

end Harvester
