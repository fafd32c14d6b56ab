import Harvester.Control.Action
import Harvester.Control.Store
import Harvester.Image.Names

/-!
# The backing-image backend

`pkg/image/backingimage/backingimage.go`.  `Initialize` deletes the backing image and storage class
it finds under the names of the image, and creates new ones; `Delete` deletes them; `Check` looks
whether they are there.  Objects are found in caches, whose readings may fail or be stale.

Which image an object was created for is recorded in the model only (`createdFor`).  The trace of
the server says which objects each image takes for its own or deletes.
-/

namespace Harvester

namespace Image

open Control Action

section

variable (checksum : String → String)

/-- A Longhorn `BackingImage`. -/
structure BackingImage where
  name : String
  /-- The image that it was created for, if any. -/
  createdFor : Option VMImage
  /-- The image ID annotation. -/
  imageID : String
  /-- The deletion timestamp is set. -/
  deleting : Bool
  /-- A disk file is in state `failed`. -/
  failed : Bool
  named : ∀ vmi ∈ createdFor, name ∈ backingImageNames checksum vmi

/-- A `StorageClass`. -/
structure StorageClass where
  name : String
  /-- The image that it was created for, if any. -/
  createdFor : Option VMImage
  /-- The `backingImage` parameter. -/
  backingImage : String
  /-- The deletion timestamp is set. -/
  deleting : Bool
  named : ∀ vmi ∈ createdFor, name ∈ storageClassNames checksum vmi

/-- What an image does to the objects that it finds. -/
inductive Event where
  /-- `GetBackingImage` of the image gives the backing image. -/
  | resolvedBI (vmi : VMImage) (bi : BackingImage checksum)
  /-- `GetStorageClassName` of the image gives the name of the storage class. -/
  | resolvedSC (vmi : VMImage) (sc : StorageClass checksum)
  | deletedBI (vmi : VMImage) (bi : BackingImage checksum)
  | deletedSC (vmi : VMImage) (sc : StorageClass checksum)

/-- The API server. -/
structure Server where
  bis : Store (@BackingImage.name checksum)
  scs : Store (@StorageClass.name checksum)
  trace : List (Event checksum)

/-- A place where the backend reads a cache. -/
inductive Site where
  | delete
  | create
  | createName
  | cloneSource
  | parameters
  | check
  deriving DecidableEq, Repr

/-- A write request of the backend. -/
inductive Request where
  | deleteBI
  | deleteSC
  | createBI
  | createSC
  deriving DecidableEq, Repr

/-- What the backend meets in one call: caches, the fate of its requests, and other outcomes. -/
structure Env where
  bis : Site → Lookup Err (@BackingImage.name checksum)
  scs : Site → Lookup Err (@StorageClass.name checksum)
  fault : Request → Fault × Err
  /-- The replica count of the storage class parameters can be parsed. -/
  numOfCopies : Except Err Nat
  /-- The PVC that is exported can be read. -/
  pvc : Except Err Unit
  /-- The source image of a clone. -/
  sourceImage : Except Err VMImage
  checkURLAndUpdate : Except Err Unit
  updateVMI : Except Err Unit
  deleteVMImageMetadata : Except Err Unit

end

/-- Actions on the server. -/
abbrev Act (checksum : String → String) (α : Type) := Action (Server checksum) Err α

/-- Make a request. -/
def Env.request {checksum : String → String} {α : Type} (env : Env checksum) (r : Request)
    (m : Act checksum α) : Act checksum α :=
  Action.request (env.fault r).1 (env.fault r).2 m

section

variable {checksum : String → String}

/-- `getBackingImageByNames`.  The last name is never empty: the answer for it is the outcome when
all other names are empty or not found. -/
def getBackingImageByNames (cache : Lookup Err (@BackingImage.name checksum)) (last : String) :
    List String → Except Err (BackingImage checksum)
  | [] => cache.find last
  | name :: names =>
    if name = "" then getBackingImageByNames cache last names
    else match cache.find name with
      | .ok bi => .ok bi
      | .error e => if e.isNotFound then getBackingImageByNames cache last names else .error e

section

variable (cache : Lookup Err (@BackingImage.name checksum)) (vmi : VMImage)

/-- The backing image under one of its names. -/
def getBackingImage : Except Err (BackingImage checksum) :=
  getBackingImageByNames cache (defaultBackingImageName checksum vmi)
    ((restoreBackingImageName vmi).toList ++
      [backingImageLegacyName vmi, backingImageLegacyNameV2 checksum vmi])

/-- `getSCByNames`.  Every error counts as not found. -/
def getSCByNames (cache : Lookup Err (@StorageClass.name checksum)) :
    List String → Option (StorageClass checksum)
  | [] => none
  | name :: names =>
    if name = "" then getSCByNames cache names
    else match cache.find name with
      | .ok sc => some sc
      | .error _ => getSCByNames cache names

theorem mem_names_cons {n name : String} {names : List String} (h : n ∈ names.filter (· ≠ "")) :
    n ∈ (name :: names).filter (· ≠ "") :=
  ((List.sublist_cons_self _ _).filter _).subset h

theorem getBackingImageByNames_ok {cache : Lookup Err (@BackingImage.name checksum)}
    {last : String} {names : List String} {bi : BackingImage checksum} (hlast : last ≠ "")
    (h : getBackingImageByNames cache last names = .ok bi) :
    bi.name ∈ (names ++ [last]).filter (· ≠ "") := by
  fun_induction getBackingImageByNames cache last names with
  | case1 => simpa [cache.key_of_find h] using hlast
  | case2 names ih => exact mem_names_cons (ih h)
  | case3 name names hne found hfind =>
    cases h
    simp [cache.key_of_find hfind, hne]
  | case4 name names hne e hfind hnotFound ih => exact mem_names_cons (ih h)
  | case5 => cases h

theorem getBackingImage_ok {cache : Lookup Err (@BackingImage.name checksum)} {vmi : VMImage}
    {bi : BackingImage checksum} (h : getBackingImage cache vmi = .ok bi) :
    bi.name ∈ backingImageNames checksum vmi := by
  have hmem := getBackingImageByNames_ok (defaultBackingImageName_ne_empty checksum vmi) h
  rwa [List.append_assoc] at hmem

theorem getSCByNames_eq_some {cache : Lookup Err (@StorageClass.name checksum)}
    {names : List String} {sc : StorageClass checksum} (h : getSCByNames cache names = some sc) :
    sc.name ∈ names.filter (· ≠ "") := by
  fun_induction getSCByNames cache names with
  | case1 => cases h
  | case2 names ih => exact mem_names_cons (ih h)
  | case3 name names hne found hfind =>
    cases h
    simp [cache.key_of_find hfind, hne]
  | case4 name names hne e hfind ih => exact mem_names_cons (ih h)

/-- The name that `GetBackingImageName` gives for what `GetBackingImage` has found. -/
def backingImageNameOf (found : Except Err (BackingImage checksum))
    (hfound : ∀ bi, found = .ok bi → bi.name ∈ backingImageNames checksum vmi) : Except Err
    { name // name ∈ backingImageNames checksum vmi } :=
  match found, hfound with
  | .ok bi, hfound => .ok ⟨bi.name, hfound bi rfl⟩
  | .error e, _ =>
    if e.isNotFound then
      .ok ⟨backingImageNameForCreate checksum vmi, backingImageNameForCreate_mem checksum vmi⟩
    else .error e

/-- The name that `GetStorageClassName` gives for what `getSCByNames` has found. -/
def storageClassNameOf (found : Option (StorageClass checksum))
    (hfound : ∀ sc, found = some sc → sc.name ∈ storageClassNames checksum vmi) :
    { name // name ∈ storageClassNames checksum vmi } :=
  match found, hfound with
  | some sc, hfound => ⟨sc.name, hfound sc rfl⟩
  | none, _ => ⟨newStorageClassName checksum vmi, newStorageClassName_mem checksum vmi⟩

/-- Note what an image takes for its own. -/
def note {ε : Type} (event : Option (Event checksum)) : Action (Server checksum) ε Unit :=
  Action.modify fun s => { s with trace := s.trace ++ event.toList }

/-- The name of the backing image. -/
def getBackingImageName : Act checksum { name // name ∈ backingImageNames checksum vmi } := do
  note ((getBackingImage cache vmi).toOption.map (.resolvedBI vmi))
  Action.ofExcept (backingImageNameOf vmi (getBackingImage cache vmi) fun _ => getBackingImage_ok)

/-- The name of the storage class. -/
def getStorageClassName {ε : Type} (cache : Lookup Err (@StorageClass.name checksum))
    (vmi : VMImage) :
    Action (Server checksum) ε { name // name ∈ storageClassNames checksum vmi } := do
  note ((getSCByNames cache (storageClassCandidates checksum vmi)).map (.resolvedSC vmi))
  return storageClassNameOf vmi (getSCByNames cache (storageClassCandidates checksum vmi))
    fun _ => getSCByNames_eq_some

/-- The `Delete` request for a backing image, which stays, marked as being deleted, for a while. -/
def removeBI (name : String) : Act checksum Unit := fun s =>
  match s.bis.get name with
  | none => (.error (.notFound ⟨"longhorn-system", name⟩), s)
  | some bi => (.ok (), { s with
      bis := s.bis.put { bi with deleting := true }
      trace := s.trace ++ [.deletedBI vmi bi] })

/-- The `Delete` request for a storage class. -/
def removeSC (name : String) : Act checksum Unit := fun s =>
  match s.scs.get name with
  | none => (.error (.notFound ⟨"", name⟩), s)
  | some sc => (.ok (), { s with
      scs := s.scs.delete name
      trace := s.trace ++ [.deletedSC vmi sc] })

end

variable (env : Env checksum) (vmi : VMImage)

/-- The backing image is deleted. -/
def deleteBackingImage : Act checksum Unit := do
  let biName ← getBackingImageName (env.bis .delete) vmi
  env.request .deleteBI (removeBI vmi biName)

/-- The storage class is deleted. -/
def deleteStorageClass : Act checksum Unit := do
  let storageClassName ← getStorageClassName (env.scs .delete) vmi
  env.request .deleteSC (removeSC vmi storageClassName)

/-- Go on unless there is an error that does not count. -/
def ignoring (counts : Err → Bool) : Except Err Unit → Act checksum Unit
  | .error e => if counts e then fail e else pure ()
  | .ok () => pure ()

/-- Both are deleted. -/
def deleteBackingImageAndStorageClass : Act checksum Unit := do
  let deletedBI ← attempt (deleteBackingImage env vmi)
  ignoring (fun e => !e.isNotFound) deletedBI
  let deletedSC ← attempt (deleteStorageClass env vmi)
  ignoring (fun e => !e.isNotFound) deletedSC

/-- The `Create` request for the backing image of an image. -/
def addBI (name : { name // name ∈ backingImageNames checksum vmi }) : Act checksum Unit := fun s =>
  match s.bis.get name with
  | some _ => (.error (.alreadyExists ⟨"longhorn-system", name⟩), s)
  | none => (.ok (), { s with
      bis := s.bis.put ⟨name, some vmi, vmi.ns ++ "/" ++ vmi.name, false, false,
        fun _ h => Option.some.inj h ▸ name.2⟩ })

/-- The `Create` request for the storage class of an image. -/
def addSC (name : { name // name ∈ storageClassNames checksum vmi }) (backingImage : String) :
    Act checksum Unit := fun s =>
  match s.scs.get name with
  | some _ => (.error (.alreadyExists ⟨"", name⟩), s)
  | none => (.ok (), { s with
      scs := s.scs.put ⟨name, some vmi, backingImage, false,
        fun _ h => Option.some.inj h ▸ name.2⟩ })

/-- Stop when the backing image in the cache is being deleted. -/
def refuseDeletingBI (found : Except Err (BackingImage checksum)) : Act checksum Unit :=
  match found with
  | .ok bi =>
    if bi.deleting then
      fail (.other ("backing image " ++ bi.name ++ " is being deleted"))
    else pure ()
  | .error _ => pure ()

/-- Stop when the storage class in the cache is being deleted. -/
def refuseDeletingSC (found : Except Err (StorageClass checksum)) : Act checksum Unit :=
  match found with
  | .ok sc =>
    if sc.deleting then
      fail (.other ("storage class " ++ sc.name ++ " is being deleted"))
    else pure ()
  | .error _ => pure ()

/-- The lookups for the source parameters of the backing image. -/
def sourceParameters : Act checksum Unit :=
  match vmi.sourceType with
  | .download | .upload | .restore => pure ()
  | .exportVolume => Action.ofExcept env.pvc
  | .clone => do
    let source ← Action.ofExcept env.sourceImage
    let _ ← getBackingImageName (env.bis .cloneSource) source

/-- The backing image is created. -/
def createBackingImage : Act checksum Unit := do
  note ((getBackingImage (env.bis .create) vmi).toOption.map (.resolvedBI vmi))
  refuseDeletingBI (getBackingImage (env.bis .create) vmi)
  let biName ← getBackingImageName (env.bis .createName) vmi
  let _ ← Action.ofExcept env.numOfCopies
  sourceParameters env vmi
  env.request .createBI (addBI vmi biName)

/-- The storage class is created. -/
def createStorageClass : Act checksum Unit := do
  let storageClassName ← getStorageClassName (env.scs .createName) vmi
  refuseDeletingSC ((env.scs .create).find storageClassName)
  let biName ← getBackingImageName (env.bis .parameters) vmi
  env.request .createSC (addSC vmi storageClassName biName)

/-- Both are created. -/
def createBackingImageAndStorageClass : Act checksum Unit := do
  let createdBI ← attempt (createBackingImage env vmi)
  ignoring (fun e => !e.isAlreadyExists) createdBI
  let createdSC ← attempt (createStorageClass env vmi)
  ignoring (fun e => !e.isAlreadyExists) createdSC

/-- `Initialize`. -/
def initializeVMI : Act checksum Unit := do
  deleteBackingImageAndStorageClass env vmi
  Action.ofExcept env.checkURLAndUpdate
  createBackingImageAndStorageClass env vmi
  Action.ofExcept env.updateVMI

/-- `Delete` of the backend. -/
def delete : Act checksum Unit := do
  deleteBackingImageAndStorageClass env vmi
  Action.ofExcept env.deleteVMImageMetadata

/-- The errors of `Check`. -/
inductive CheckErr where
  /-- `common.ErrRetryAble`: the image is initialized again. -/
  | retryAble
  /-- `common.ErrRetryLater`: the image is checked again. -/
  | retryLater
  | backingImage
  | storageClass
  | storageClassNotFound (e : Err)
  deriving DecidableEq, Repr

/-- The part of `Check` about the storage class. -/
def checkStorageClass : Action (Server checksum) CheckErr Unit := do
  let storageClassName ← getStorageClassName (env.scs .check) vmi
  match (env.scs .check).find storageClassName with
  | .error e =>
    if e.isNotFound then fail (.storageClassNotFound e) else fail .storageClass
  | .ok sc => if sc.deleting then fail .retryLater else pure ()

/-- `Check` of the backend. -/
def check : Action (Server checksum) CheckErr Unit := do
  note ((getBackingImage (env.bis .check) vmi).toOption.map (.resolvedBI vmi))
  match getBackingImage (env.bis .check) vmi with
  | .error e => if e.isNotFound then fail .retryAble else fail .backingImage
  | .ok bi =>
    if bi.deleting then fail .retryLater
    else if bi.failed then fail .retryAble
    else checkStorageClass env vmi

end

end Image

end Harvester
