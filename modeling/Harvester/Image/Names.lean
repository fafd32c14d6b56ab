import Harvester.Kube.Admission

/-!
# The names of an image's objects

`pkg/util/image.go` and `GetStorageClassName` of `pkg/image/common/operator.go`.  The Longhorn
backing image and the storage class of a VM image are found by name: the current names are made from
the UID of the image or taken from its spec, and earlier versions had others (`legacy`).

`backingImageNames` and `storageClassNames` list the candidates; the names for new objects are among
them (`backingImageNameForCreate_mem`, `newStorageClassName_mem`).
-/

namespace Harvester

namespace Image

/-- The source types of an image. -/
inductive SourceType where
  | download
  | upload
  | exportVolume
  | restore
  | clone
  deriving DecidableEq, Repr

/-- A `VirtualMachineImage` with the backing-image backend, as far as names go. -/
structure VMImage where
  ns : String
  name : String
  uid : String
  sourceType : SourceType
  /-- `Spec.BackingImageName`. -/
  backingImageName : String
  /-- The name in the query of `Spec.URL`; `none` when the URL cannot be parsed. -/
  urlBackingImage : Option String
  deriving DecidableEq, Repr

/-- `strings.ToLower`, for names. -/
def toLower (s : String) : List Char := s.toList.map Char.toLower

/-- `strings.TrimRight(s, "-")`. -/
def trimRightDash (cs : List Char) : List Char := (cs.reverse.dropWhile (· = '-')).reverse

/-- The longest name. -/
def nameMaximumLength : Nat := 40

/-- `AutoCorrectName`: a name that is too long is cut and gets a checksum. -/
def autoCorrectName (checksum : String → String) (name : String) : String :=
  if nameMaximumLength < name.length then
    let suffix := '-' :: (checksum name).toList.take 8
    String.ofList
      (trimRightDash ((toLower name).take (nameMaximumLength - suffix.length)) ++ suffix)
  else String.ofList (toLower name)

/-- `ValidateName`: `^[a-z0-9][a-z0-9_.-]+$`. -/
def validateName (name : String) : Bool :=
  match name.toList with
  | c :: d :: cs => isLowerAlphanum c &&
      (d :: cs).all fun c => isLowerAlphanum c || c = '_' || c = '.' || c = '-'
  | _ => false

theorem autoCorrectName_ne_empty (checksum : String → String) {name : String} (h : name ≠ "") :
    autoCorrectName checksum name ≠ "" := by
  have hlist : name.toList ≠ [] := by simpa using h
  unfold autoCorrectName
  split
  · simp
  · simp [toLower, hlist]

section

variable (checksum : String → String) (vmi : VMImage)

/-- The first names. -/
def backingImageLegacyName : String := vmi.ns ++ "-" ++ vmi.name

/-- The same, shortened. -/
def backingImageLegacyNameV2 : String := autoCorrectName checksum (backingImageLegacyName vmi)

/-- The name that is given now. -/
def defaultBackingImageName : String :=
  if vmi.backingImageName ≠ "" then vmi.backingImageName
  else autoCorrectName checksum ("vmi-" ++ vmi.uid)

/-- The name of a restored image. -/
def restoreBackingImageName : Option String :=
  if vmi.sourceType ≠ .restore then none
  else match vmi.urlBackingImage with
    | none => none
    | some name => if name = "" ∨ validateName name = false then none else some name

/-- The name of a new one. -/
def backingImageNameForCreate : String :=
  match restoreBackingImageName vmi with
  | some name => name
  | none => defaultBackingImageName checksum vmi

/-- The names under which `GetBackingImage` looks, in this order. -/
def backingImageCandidates : List String :=
  (restoreBackingImageName vmi).toList ++
    [backingImageLegacyName vmi, backingImageLegacyNameV2 checksum vmi,
      defaultBackingImageName checksum vmi]

/-- The names that a backing image of the image can have. -/
def backingImageNames : List String := (backingImageCandidates checksum vmi).filter (· ≠ "")

/-- The storage class of a restored image. -/
def getRestoreSCName : Option String :=
  match restoreBackingImageName vmi with
  | none => none
  | some name =>
    if "vmi-".toList.isPrefixOf name.toList then
      some (autoCorrectName checksum ("lh-" ++ String.ofList (name.toList.drop 4)))
    else some (autoCorrectName checksum name)

/-- The name of a storage class that is made from the UID. -/
def storageClassUIDName : String := autoCorrectName checksum ("lh-" ++ vmi.uid)

/-- The name that earlier versions gave to the storage class. -/
def legacyStorageClassName : String := "longhorn-" ++ vmi.name

/-- The names under which `GetStorageClassName` looks, in this order. -/
def storageClassCandidates : List String :=
  [(getRestoreSCName checksum vmi).getD "", storageClassUIDName checksum vmi,
    legacyStorageClassName vmi, vmi.backingImageName]

/-- The names that a storage class of the image can have. -/
def storageClassNames : List String := (storageClassCandidates checksum vmi).filter (· ≠ "")

/-- The name of the storage class when there is none yet. -/
def newStorageClassName : String :=
  match getRestoreSCName checksum vmi with
  | some name => name
  | none =>
    if vmi.backingImageName ≠ "" then vmi.backingImageName else storageClassUIDName checksum vmi

theorem defaultBackingImageName_ne_empty : defaultBackingImageName checksum vmi ≠ "" := by
  unfold defaultBackingImageName
  split
  · next h => exact h
  · exact autoCorrectName_ne_empty checksum (by simp)

theorem restoreBackingImageName_ne_empty {name : String}
    (h : restoreBackingImageName vmi = some name) : name ≠ "" := by
  unfold restoreBackingImageName at h
  split at h
  · simp at h
  split at h
  · simp at h
  split at h
  · simp at h
  · next hname =>
    cases h
    exact fun hempty => hname (.inl hempty)

theorem getRestoreSCName_ne_empty {name : String} (h : getRestoreSCName checksum vmi = some name) :
    name ≠ "" := by
  unfold getRestoreSCName at h
  split at h
  · simp at h
  next biName hbi =>
  split at h <;> rw [← Option.some.inj h]
  · exact autoCorrectName_ne_empty checksum (by simp)
  · exact autoCorrectName_ne_empty checksum (restoreBackingImageName_ne_empty vmi hbi)

theorem backingImageNameForCreate_mem :
    backingImageNameForCreate checksum vmi ∈ backingImageNames checksum vmi := by
  unfold backingImageNameForCreate
  split
  · next name h =>
    have hmem : name ∈ backingImageCandidates checksum vmi := by simp [backingImageCandidates, h]
    exact List.mem_filter.2 ⟨hmem, decide_eq_true (restoreBackingImageName_ne_empty vmi h)⟩
  · have hmem : defaultBackingImageName checksum vmi ∈ backingImageCandidates checksum vmi := by
      simp [backingImageCandidates]
    exact List.mem_filter.2 ⟨hmem, decide_eq_true (defaultBackingImageName_ne_empty checksum vmi)⟩

theorem newStorageClassName_mem :
    newStorageClassName checksum vmi ∈ storageClassNames checksum vmi := by
  unfold newStorageClassName
  split
  · next name h =>
    have hmem : name ∈ storageClassCandidates checksum vmi := by simp [storageClassCandidates, h]
    exact List.mem_filter.2 ⟨hmem, decide_eq_true (getRestoreSCName_ne_empty checksum vmi h)⟩
  split
  · next hne => exact List.mem_filter.2 ⟨by simp [storageClassCandidates], decide_eq_true hne⟩
  · have hne : storageClassUIDName checksum vmi ≠ "" :=
      autoCorrectName_ne_empty checksum (by simp)
    exact List.mem_filter.2 ⟨by simp [storageClassCandidates], decide_eq_true hne⟩

end

end Image

end Harvester
