import Mathlib.Data.List.AList
import Mathlib.Algebra.BigOperators.Group.List.Basic
import Mathlib.Data.Int.Basic

/-!
# Resource quotas and their migration annotations

The Kubernetes `ResourceQuota` of a namespace, and the annotation helpers of
`pkg/util/resourcequota/utils.go`.  While a VM migrates, its resource deltas are recorded in an
annotation of the quota, keyed by the VM's UID (or, before v1.5.0, by its name); a further
annotation holds the *compensation* that is granted when a migration is blocked by the quota.

Every `range` over a Go map may take another order, so a function that iterates over the annotations
takes the list of entries in the order of that loop.
-/

namespace Harvester

namespace ResourceQuota

/-- A `resource.Quantity`, counted in units of `10⁻⁹`, the smallest scale it can hold. -/
abbrev Quantity := ℤ

/-- `n` whole units (`resource.NewQuantity`). -/
def newQuantity (n : ℤ) : Quantity := n * 10 ^ 9

/-- The resource names that quota scaling looks at. -/
inductive ResourceName where
  | cpu
  | memory
  | limitsCPU
  | limitsMemory
  | requestsStorage
  | other (name : String)
  deriving DecidableEq, Repr

/-- A `corev1.ResourceList`. -/
def ResourceList := ResourceName → Option Quantity

namespace ResourceList

/-- The empty list, also what a nil list reads as. -/
def empty : ResourceList := fun _ => none

variable (rl : ResourceList) (r : ResourceName)

/-- `ResourceList.Name`: the quantity of a resource, zero when it is not listed. -/
def name : Quantity := (rl r).getD 0

/-- `rl[r] = q`. -/
def set (q : Quantity) : ResourceList :=
  fun r' => if r' = r then some q else rl r'

@[simp] theorem name_set_self (q : Quantity) : (rl.set r q).name r = q := by simp [name, set]

end ResourceList

/-- The annotation keys of a quota; those of the migrating VMs without their prefix
(`harvesterhci.io/migrating-` or `harvesterhci.io/migratingUID-`). -/
inductive AnnotationKey where
  /-- `AnnotationMigratingNamePrefix + name`. -/
  | migratingName (name : String)
  /-- `AnnotationMigratingUIDPrefix + uid`. -/
  | migratingUID (uid : String)
  /-- `harvesterhci.io/migratingCompensation`. -/
  | migratingCompensation
  /-- `harvesterhci.io/migratingScalingResyncNeeded`. -/
  | migratingScalingResyncNeeded
  /-- `harvesterhci.io/skipResourceQuotaAutoScaling`. -/
  | skipResourceQuotaAutoScaling
  | other (key : String)
  deriving DecidableEq, Repr

/-- The key without the prefix of a migrating VM; `none` for the other keys. -/
def AnnotationKey.migrating : AnnotationKey → Option String
  | .migratingName name => some name
  | .migratingUID uid => some uid
  | _ => none

/-- The value of an annotation, by what `json.Unmarshal` makes of its text. -/
inductive AnnotationValue where
  | resources (rl : ResourceList)
  | text (s : String)

/-- The annotation map; its keys are distinct. -/
abbrev Annotations := AList fun _ : AnnotationKey => AnnotationValue

/-- The entries of an annotation map in the order of some loop over it. -/
abbrev Entries := List (Sigma fun _ : AnnotationKey => AnnotationValue)

/-- The quota object: annotations, `Spec.Hard` and `Status.Used`. -/
structure Quota where
  annotations : Annotations
  hard : ResourceList
  used : ResourceList

/-- The errors of quota scaling. -/
inductive Error where
  /-- `failed to unmarshal vm … quantity …`. -/
  | unmarshalVM (key : AnnotationKey)
  /-- `failed to unmarshal compensation quantity …`. -/
  | unmarshalCompensation
  /-- The namespace annotation is not valid JSON. -/
  | unmarshalNamespaceQuota
  /-- `resource.ParseQuantity` failed. -/
  | parseQuantity
  /-- `errSkipScaling`. -/
  | skipScaling
  deriving DecidableEq, Repr

/-- `ContainsMigratingVM`: the VM is recorded under one of its two possible keys. -/
def containsMigratingVM (rq : Quota) (vmName vmUID : String) : Bool :=
  (rq.annotations.lookup (.migratingName vmName)).isSome ||
    (rq.annotations.lookup (.migratingUID vmUID)).isSome

/-- `AddMigratingVM`: the old name key is removed and the UID key is written. -/
def addMigratingVM (rq : Quota) (vmName vmUID : String) (rl : ResourceList) : Quota :=
  { rq with annotations :=
      (rq.annotations.erase (.migratingName vmName)).insert (.migratingUID vmUID) (.resources rl) }

/-- `DeleteMigratingVM`, which also reports whether an annotation was removed. -/
def deleteMigratingVM (rq : Quota) (vmName vmUID : String) : Quota × Bool :=
  let annotations := (rq.annotations.erase (.migratingName vmName)).erase (.migratingUID vmUID)
  ({ rq with annotations }, annotations.entries.length != rq.annotations.entries.length)

/-- The resource lists of the migrating VMs, by the annotation key *without its prefix*. -/
def getResourceListFromMigratingVMs :
    Entries → (vms : AList fun _ : String => ResourceList) →
      Except Error (AList fun _ : String => ResourceList)
  | [], vms => .ok vms
  | ⟨k, v⟩ :: es, vms =>
    match k.migrating, v with
    | some vm, .resources rl => getResourceListFromMigratingVMs es (vms.insert vm rl)
    | some _, .text _ => .error (.unmarshalVM k)
    | none, _ => getResourceListFromMigratingVMs es vms

/-- `AddMigratingCompensation`: the annotation is overwritten. -/
def addMigratingCompensation (rq : Quota) (rl : ResourceList) : Quota :=
  { rq with annotations := rq.annotations.insert .migratingCompensation (.resources rl) }

/-- The compensation is removed. -/
def deleteMigratingCompensation (rq : Quota) : Quota × Bool :=
  let annotations := rq.annotations.erase .migratingCompensation
  ({ rq with annotations }, annotations.entries.length != rq.annotations.entries.length)

/-- `getResourceListOfMigratingCompensation`; `none` is the nil list. -/
def getResourceListOfMigratingCompensation (rq : Quota) : Except Error (Option ResourceList) :=
  match rq.annotations.lookup .migratingCompensation with
  | none => .ok none
  | some (.resources rl) => .ok (some rl)
  | some (.text s) => if s = "" then .ok none else .error .unmarshalCompensation

end ResourceQuota

end Harvester
