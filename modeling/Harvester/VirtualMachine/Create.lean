import Harvester.Control.Guarded
import Harvester.VirtualMachine.Mutator

/-!
# Creating a VM

The way of a new VM through the mutator, the patches, and `Create` of the validator
(`pkg/webhook/resources/virtualmachine/validator.go`) with the checks of memory and quotas
(`pkg/util/resourcequota/calculator.go`).  These follow pointers without a test:

* `checkEmptyMemory` follows the guest memory of a VM that has a `memory` section;
* `getNamespaceResourceQuota` follows the quota of the namespace annotation, which is nil when the
  annotation is the JSON text `null`;
* `containsEnoughResourceQuotaToStartVM` follows the memory overhead, which is nil for a VM without
  limits.

`create_survives_iff` says exactly which requests get past all three: the pointers are those of the
VM of the request and of the cluster before it, and which of them a request gets to is said with the
VM as the mutator leaves it.  `settle_validate` connects the checks to `Validator.validate`, which
takes their verdicts as they come.
-/

namespace Harvester

namespace VirtualMachine

namespace Create

open Control Control.Guarded
open ResourceQuota (Quantity ResourceName Quota Entries LimitText newQuantity)

/-! ### What the validator looks up -/

/-- The limits of a Rancher `NamespaceResourceQuota`. -/
structure QuotaLimit where
  limitsCPU : LimitText
  limitsMemory : LimitText
  requestsStorage : LimitText
  /-- The limits that the calculator only converts. -/
  others : List LimitText

/-- What the quota calculator looks up. -/
structure QuotaEnv where
  /-- The quota annotation of a namespace. -/
  namespaces : String → Except Err (Option String)
  /-- `json.Unmarshal` of the annotation into a pointer; the text `null` leaves it nil. -/
  unmarshalQuota : String → Except Err (Option QuotaLimit)
  /-- The VM has a pod. -/
  vmPodsExist : Key → Except Err Bool
  /-- The default resource quotas of a namespace. -/
  resourceQuotas : String → Except Err (List Quota)
  /-- The annotations of a quota in the order in which a loop meets them. -/
  order : Quota → Entries
  order_perm : ∀ rq, (order rq).Perm rq.annotations.entries
  /-- KubeVirt's estimate for a VMI with these limits. -/
  getMemoryOverhead : Resources → Quantity
  errorText : ResourceQuota.Error → String

/-- What the webhooks look up. -/
structure Env where
  mutator : MutatorEnv
  quota : QuotaEnv
  cluster : Validator.Cluster
  caches : Validator.Caches
  user : String

/-! ### The quota calculator -/

section Quota

variable (env : QuotaEnv)

/-- Errors of the calculator, which reach the user as internal errors. -/
def quotaError {α : Type} (x : Except ResourceQuota.Error α) : Except AdmitError α :=
  x.mapError fun e => .internal (env.errorText e)

/-- `getNamespaceResourceQuota`: the quota is followed without a test. -/
def getNamespaceResourceQuota (ns : String) : Guarded AdmitError (Option QuotaLimit) := do
  match ← ofExcept (internalError (env.namespaces ns)) with
  | none => return none
  | some rqStr => do
    let resourceQuota ← ofExcept (internalError (env.unmarshalQuota rqStr))
    let limit ← deref resourceQuota
    if limit.limitsCPU = .empty ∧ limit.limitsMemory = .empty ∧ limit.requestsStorage = .empty then
      return none
    else return some limit

/-- The namespace quota and the first default resource quota; none when a check is to be skipped. -/
def getQuotas (ns : String) : Guarded AdmitError (Option (QuotaLimit × Quota)) := do
  match ← getNamespaceResourceQuota env ns with
  | none => return none
  | some limit => do
    let rqs ← ofExcept (internalError (env.resourceQuotas ns))
    return rqs.head?.map fun rq => (limit, rq)

variable (c : Validator.Cluster) (t : Template) (vm : VM) (limit : QuotaLimit)

/-- `convertNamespaceResourceLimitToResourceList`: CPU, memory and storage. -/
def convertNamespaceResourceLimitToResourceList : Except ResourceQuota.Error
    (Quantity × Quantity × Quantity) := do
  let _ ← limit.others.mapM LimitText.parse
  let cpu ← limit.limitsCPU.parse
  let mem ← limit.limitsMemory.parse
  let storage ← limit.requestsStorage.parse
  return (cpu, mem, storage)

/-- `newInsufficientResourceError`. -/
def insufficientResourceError (t : String) : AdmitError :=
  .internal (t ++ " insufficient resources due to resource quota")

/-- `calculateVMActualOverhead`: nil for a VM without limits. -/
def calculateVMActualOverhead : Option Quantity := t.limits.map env.getMemoryOverhead

/-- The comparison at the end of `containsEnoughResourceQuotaToStartVM`. -/
def compareQuota (usedCPU usedMem memOverhead : Quantity) : Except AdmitError Unit := do
  let vmCPU := quantityOf t.limits .cpu
  let vmMem := quantityOf t.limits .memory + memOverhead
  let actual ← quotaError env (convertNamespaceResourceLimitToResourceList limit)
  rejectIf (actual.1 ≠ 0 && actual.1 - usedCPU < vmCPU) (insufficientResourceError "cpu")
  rejectIf (actual.2.1 ≠ 0 && actual.2.1 - usedMem < vmMem) (insufficientResourceError "memory")

/-- `containsEnoughResourceQuotaToStartVM`: the overhead is followed without a test. -/
def containsEnoughResourceQuotaToStartVM (rq : Quota) : Guarded AdmitError Unit := do
  let vmims ← ofExcept (quotaError env
    (ResourceQuota.getVMIMResourcesFromRQAnnotation (env.order rq)))
  let usedCPU := rq.used.name .limitsCPU - vmims.1
  let usedMem := rq.used.name .limitsMemory - vmims.2.1
  let memOverhead ← deref (calculateVMActualOverhead env t)
  ofExcept (compareQuota env t limit usedCPU usedMem memOverhead)

/-- The first tests of `CheckIfVMCanStartByResourceQuota`: the VM is to be started. -/
def toBeStarted : Except AdmitError Bool :=
  if vm.printableStatus = "" then .ok false
  else do
    let strategy ← vm.strategy.mapError AdmitError.internal
    if strategy = .halted then return false
    else do
      let exist ← internalError (env.vmPodsExist ⟨vm.ns, vm.name⟩)
      return !exist

/-- The quota allows the start. -/
def checkIfVMCanStartByResourceQuota : Guarded AdmitError Unit := do
  if ← ofExcept (toBeStarted env vm) then
    match ← getQuotas env vm.ns with
    | none => return ()
    | some quotas => containsEnoughResourceQuotaToStartVM env vm.template quotas.1 quotas.2
  else return ()

/-- The storage of a VM. -/
def calculateVMStorageQuantity : Except AdmitError Quantity := do
  let entries ← (c.unmarshalVolumeClaimTemplates vm.volumeClaimTemplates).mapError fun e =>
    .internal ("failed to unmarshal the volumeClaimTemplates annotation: " ++ e.text)
  return newQuantity (entries.map fun entry => entry.storage).sum

/-- `CheckStorageResourceQuota` for a new VM, once the quotas are known. -/
def compareStorageQuota (rq : Quota) : Except AdmitError Unit := do
  let vmims ← quotaError env (ResourceQuota.getVMIMResourcesFromRQAnnotation (env.order rq))
  let usedStorage := rq.used.name .requestsStorage - vmims.2.2
  let vmStorage ← calculateVMStorageQuantity c vm
  let actual ← quotaError env (convertNamespaceResourceLimitToResourceList limit)
  rejectIf (actual.2.2 ≠ 0 && actual.2.2 - usedStorage < vmStorage)
    (insufficientResourceError "storage")

/-- `CheckStorageResourceQuota` for a new VM. -/
def checkStorageResourceQuota : Guarded AdmitError Unit := do
  match ← getQuotas env vm.ns with
  | none => return ()
  | some quotas => ofExcept (compareStorageQuota env c vm quotas.1 quotas.2)

end Quota

/-! ### The validator -/

section

variable (env : Env)

variable (vm : VM) (t : Template)

/-- The period is not negative. -/
def checkTerminationGracePeriodSeconds : Except AdmitError Unit :=
  rejectIf (t.terminationGracePeriodSeconds.any (· < 0)) (.invalid
    "Termination grace period can't be negative" "spec.Template.Spec.TerminationGracePeriodSeconds")

/-- The quantity behind `guestMem`, which is followed without a test. -/
def guestMem : Guarded AdmitError Quantity :=
  match t.memory with
  | none => .ok 0
  | some memory => deref memory.guest

/-- The VM has memory. -/
def checkEmptyMemory : Guarded AdmitError Unit := do
  let guestMem ← guestMem t
  ofExcept (rejectIf (guestMem = 0 && quantityOf t.limits .memory = 0) (.invalid
    "either memory.guest or resources.limits.memory must be set" "spec.template.spec.domain"))

/-- The reserved memory is valid. -/
def checkReservedMemoryAnnotation : Except AdmitError Unit :=
  let mem := quantityOf vm.template.limits .memory
  let field := "metadata.annotations[harvesterhci.io/reservedMemory]"
  if mem = 0 ∨ vm.reservedMemory = "" then .ok ()
  else do
    let reserved ← (env.mutator.parseQuantity vm.reservedMemory).mapError fun e =>
      .invalid e.text field
    rejectIf (reserved ≥ mem)
      (.invalid "reservedMemory cannot be equal or greater than limits.memory" field)
    let guest := vm.template.memory.bind Memory.guest
    rejectIf (guest.any fun guest => guest + reserved > mem) (.invalid
      ("guest memory " ++ toString (value (guest.getD 0)) ++ " plus reservedMemory " ++
        toString (value reserved) ++ " cannot be greater than limits.memory " ++
        toString (value mem)) field)
    rejectIf (reserved < 0) (.invalid "reservedMemory cannot be less than 0" field)

/-- The checks of `checkVMSpec` before the one of the memory. -/
def checkVolumes : Except AdmitError Unit := do
  Volumes.checkVolumeClaimTemplatesAnnotation env.cluster.volumes vm.validated.toVM
  Validator.checkGoldenImage env.caches vm.validated
  Validator.checkOccupiedPVCs env.cluster env.caches vm.validated
  Validator.checkShareableVolumes env.cluster env.caches vm.validated
  checkTerminationGracePeriodSeconds vm.template

/-- The checks after the one of the storage quota. -/
def checkDevices : Except AdmitError Unit := do
  Validator.checkForDuplicateMacAddrs env.cluster env.caches vm.validated
  Validator.checkMaintenanceModeStrategyIsValid vm.validated none
  Validator.checkCdRomVolumeIsValid vm.validated

/-- `Create` of the validator. -/
def validate : Guarded AdmitError Unit := do
  ofExcept (checkVolumes env vm)
  checkEmptyMemory vm.template
  ofExcept <| checkReservedMemoryAnnotation env vm
  checkIfVMCanStartByResourceQuota env.quota vm
  ofExcept (Volumes.checkAllVolumeClaimTemplateEntries env.cluster.volumes env.user
    vm.validated.toVM)
  checkStorageResourceQuota env.quota env.cluster vm
  ofExcept (checkDevices env vm)

/-- The VM after the patches of the mutator; patches that do not apply end the request. -/
def mutated : Except AdmitError VM := do
  let ops ← mutate env.mutator vm
  match vm.template.applyAll ops with
  | none => .error (.internal "the patches do not apply")
  | some t => return { vm with template := t }

/-- The request to create a VM. -/
def create : Guarded AdmitError Unit := do
  let vm' ← ofExcept (mutated env vm)
  validate env vm'

end

/-! ### The checks as verdicts -/

section

variable (env : Env)

/-- The verdicts of the checks of memory and quotas, with a crash as one more error. -/
def rest (vm : VM) : Validator.Rest where
  checkVMSpec := Guarded.settle Validator.nilDereference do
    ofExcept (checkTerminationGracePeriodSeconds vm.template)
    checkEmptyMemory vm.template
    ofExcept <| checkReservedMemoryAnnotation env vm
    checkIfVMCanStartByResourceQuota env.quota vm
  checkVolumeReq := .ok ()
  checkStorageResourceQuota :=
    (checkStorageResourceQuota env.quota env.cluster vm).settle Validator.nilDereference
  checkVMBackup := .ok ()
  checkVolumeAnnotations := .ok ()

/-- **`Create` is the validator with these verdicts.** -/
theorem settle_validate (vm : VM) : (validate env vm).settle Validator.nilDereference =
    Validator.validate env.cluster env.caches (rest env vm) env.user (.create vm.validated) := by
  simp [validate, Validator.validate, Validator.Request.volumes, Volumes.validate,
    Validator.otherChecks, Validator.checkVMSpec, Validator.Request.vm, Validator.Request.oldVM,
    rest, checkVolumes, checkDevices, settle_bind]

end

/-! ### Where a request can crash -/

section

variable (env : Env) (vm : VM)

/-- The quota annotation of the namespace is the text `null`. -/
def NullQuota (env : QuotaEnv) (ns : String) : Prop :=
  ∃ rqStr, env.namespaces ns = .ok (some rqStr) ∧ env.unmarshalQuota rqStr = .ok none

/-- The request gets to the check of the memory. -/
def ReachesMemory : Prop := ∃ vm', mutated env vm = .ok vm' ∧ checkVolumes env vm' = .ok ()

/-- The request gets past the checks of the memory, with the VM as it is after the patches. -/
structure PassesMemory (vm' : VM) : Prop where
  mutated : mutated env vm = .ok vm'
  volumes : checkVolumes env vm' = .ok ()
  memory : checkEmptyMemory vm'.template = .ok ()
  reserved : checkReservedMemoryAnnotation env vm' = .ok ()

/-- The VM is to be started, or the check of the storage is made. -/
def ReachesQuota : Prop :=
  ∃ vm', PassesMemory env vm vm' ∧ (toBeStarted env.quota vm' = .ok true ∨
    checkIfVMCanStartByResourceQuota env.quota vm' = .ok () ∧
      Volumes.checkAllVolumeClaimTemplateEntries env.cluster.volumes env.user vm'.validated.toVM =
        .ok ())

/-- The VM is to be started in a namespace with quotas. -/
def ReachesOverhead : Prop :=
  ∃ vm', PassesMemory env vm vm' ∧ toBeStarted env.quota vm' = .ok true ∧
    ∃ limit rq, getQuotas env.quota vm.ns = .ok (some (limit, rq)) ∧
      ResourceQuota.Readable rq.annotations.entries

/-- Each pointer that the request gets to is there. -/
structure Safe : Prop where
  guest : ReachesMemory env vm → HasGuest vm.template.memory ∨ PatchesGuest env.mutator vm
  quota : ReachesQuota env vm → ¬ NullQuota env.quota vm.ns
  limits : ReachesOverhead env vm → (patchMissingForkliftLimits vm).1.limits.isSome

variable {env vm}

theorem crashes_checkEmptyMemory {t : Template} :
    Crashes (checkEmptyMemory t) ↔ ¬ HasGuest t.memory := by
  rcases hmemory : t.memory with - | memory
  · simp [checkEmptyMemory, guestMem, hmemory, crashes_bind, HasGuest]
  · simp [checkEmptyMemory, guestMem, hmemory, crashes_bind, HasGuest]

theorem crashes_getNamespaceResourceQuota {quota : QuotaEnv} {ns : String} :
    Crashes (getNamespaceResourceQuota quota ns) ↔ NullQuota quota ns := by
  simp [getNamespaceResourceQuota, crashes_bind, Option.exists, apply_ite, internalError,
    except_mapError_eq_ok, NullQuota]

theorem crashes_getQuotas {quota : QuotaEnv} {ns : String} :
    Crashes (getQuotas quota ns) ↔ NullQuota quota ns := by
  simp [getQuotas, crashes_bind, Option.exists, crashes_getNamespaceResourceQuota]

theorem crashes_containsEnoughResourceQuotaToStartVM {quota : QuotaEnv} {t : Template}
    {limit : QuotaLimit} {rq : Quota} :
    Crashes (containsEnoughResourceQuotaToStartVM quota t limit rq) ↔
      ResourceQuota.Readable rq.annotations.entries ∧ t.limits = none := by
  have hreadable : ResourceQuota.Readable (quota.order rq) ↔
      ResourceQuota.Readable rq.annotations.entries :=
    ⟨fun h => h.perm (quota.order_perm rq), fun h => h.perm (quota.order_perm rq).symm⟩
  simp [containsEnoughResourceQuotaToStartVM, crashes_bind, quotaError, except_mapError_eq_ok,
    ResourceQuota.getVMIMResourcesFromRQAnnotation_eq_ok, hreadable, calculateVMActualOverhead]

theorem crashes_checkIfVMCanStartByResourceQuota {quota : QuotaEnv} :
    Crashes (checkIfVMCanStartByResourceQuota quota vm) ↔ toBeStarted quota vm = .ok true ∧
      (NullQuota quota vm.ns ∨ ∃ limit rq, getQuotas quota vm.ns = .ok (some (limit, rq)) ∧
        ResourceQuota.Readable rq.annotations.entries ∧ vm.template.limits = none) := by
  simp [checkIfVMCanStartByResourceQuota, crashes_bind, Option.exists, crashes_getQuotas,
    crashes_containsEnoughResourceQuotaToStartVM]

theorem crashes_checkStorageResourceQuota {quota : QuotaEnv} {c : Validator.Cluster} :
    Crashes (checkStorageResourceQuota quota c vm) ↔ NullQuota quota vm.ns := by
  simp [checkStorageResourceQuota, crashes_bind, Option.exists, crashes_getQuotas]

theorem crashes_validate : Crashes (validate env vm) ↔ checkVolumes env vm = .ok () ∧
    (¬ HasGuest vm.template.memory ∨
      checkEmptyMemory vm.template = .ok () ∧ checkReservedMemoryAnnotation env vm = .ok () ∧
        (Crashes (checkIfVMCanStartByResourceQuota env.quota vm) ∨
          checkIfVMCanStartByResourceQuota env.quota vm = .ok () ∧
          Volumes.checkAllVolumeClaimTemplateEntries env.cluster.volumes env.user
            vm.validated.toVM = .ok () ∧ NullQuota env.quota vm.ns)) := by
  simp [validate, crashes_bind_unit, crashes_checkEmptyMemory, crashes_checkStorageResourceQuota]

theorem mutated_eq_ok {vm' : VM} (h : mutated env vm = .ok vm') :
    ∃ ops t, mutate env.mutator vm = .ok ops ∧ vm.template.applyAll ops = some t ∧
      vm' = { vm with template := t } := by
  obtain ⟨ops, hops, h⟩ := except_bind_eq_ok.1 h
  rcases ht : vm.template.applyAll ops with - | t
  · simp [ht] at h
  · simp only [ht] at h
    exact ⟨ops, t, hops, ht, (Except.ok.inj h).symm⟩

theorem mutated_keeps {vm' : VM} (h : mutated env vm = .ok vm') : vm'.ns = vm.ns ∧
    (HasGuest vm'.template.memory ↔ HasGuest vm.template.memory ∨ PatchesGuest env.mutator vm) ∧
    vm'.template.limits = (patchMissingForkliftLimits vm).1.limits := by
  obtain ⟨ops, t, hops, ht, rfl⟩ := mutated_eq_ok h
  exact ⟨rfl, memory_of_mutated hops ht, limits_of_mutated hops ht⟩

/-- **A request to create a VM gets its verdict without a nil dereference exactly when each pointer
that it gets to is there.** -/
theorem create_survives_iff : ¬ Crashes (create env vm) ↔ Safe env vm := by
  have hcreate : Crashes (create env vm) ↔
      ∃ vm', mutated env vm = .ok vm' ∧ Crashes (validate env vm') := by
    simp [create, crashes_bind]
  rw [hcreate]
  constructor
  · intro hno
    refine ⟨?_, ?_, ?_⟩
    · rintro ⟨vm', hm, hvolumes⟩
      by_contra hguest
      rw [← (mutated_keeps hm).2.1] at hguest
      exact hno ⟨vm', hm, crashes_validate.2 ⟨hvolumes, .inl hguest⟩⟩
    · rintro ⟨vm', ⟨hm, hvolumes, hmemory, hreserved⟩, hreaches⟩ hnull
      rw [← (mutated_keeps hm).1] at hnull
      refine hno ⟨vm', hm, crashes_validate.2 ⟨hvolumes, .inr ⟨hmemory, hreserved, ?_⟩⟩⟩
      obtain hstart | ⟨hstart, hentries⟩ := hreaches
      · exact .inl (crashes_checkIfVMCanStartByResourceQuota.2 ⟨hstart, .inl hnull⟩)
      · exact .inr ⟨hstart, hentries, hnull⟩
    · rintro ⟨vm', ⟨hm, hvolumes, hmemory, hreserved⟩, hstart, limit, rq, hquotas, hreadable⟩
      obtain ⟨hns, -, hlimits⟩ := mutated_keeps hm
      rw [← hns] at hquotas
      rw [Option.isSome_iff_ne_none, ← hlimits]
      intro hnone
      refine hno ⟨vm', hm, crashes_validate.2 ⟨hvolumes, .inr ⟨hmemory, hreserved, .inl ?_⟩⟩⟩
      exact crashes_checkIfVMCanStartByResourceQuota.2
        ⟨hstart, .inr ⟨limit, rq, hquotas, hreadable, hnone⟩⟩
  · rintro hsafe ⟨vm', hm, hcrash⟩
    obtain ⟨hns, hguest, hlimits⟩ := mutated_keeps hm
    obtain ⟨hvolumes, hno | ⟨hmemory, hreserved, hquota⟩⟩ := crashes_validate.1 hcrash
    · exact hno (hguest.2 (hsafe.guest ⟨vm', hm, hvolumes⟩))
    · have hpasses : PassesMemory env vm vm' := ⟨hm, hvolumes, hmemory, hreserved⟩
      obtain hcrash | ⟨hstart, hentries, hnull⟩ := hquota
      · obtain ⟨hstart, hnull | ⟨limit, rq, hquotas, hreadable, hnone⟩⟩ :=
          crashes_checkIfVMCanStartByResourceQuota.1 hcrash
        · exact hsafe.quota ⟨vm', hpasses, .inl hstart⟩ (hns ▸ hnull)
        · have hsome := hsafe.limits ⟨vm', hpasses, hstart, limit, rq, hns ▸ hquotas, hreadable⟩
          rw [← hlimits, hnone] at hsome
          exact absurd hsome (by simp)
      · exact hsafe.quota ⟨vm', hpasses, .inr ⟨hstart, hentries⟩⟩ (hns ▸ hnull)

end

namespace Sample

/-- The default overcommit setting; no reserved memory, no network, no Kube-OVN. -/
def mutator : MutatorEnv where
  isFromController := false
  overcommitConfig := .ok ⟨"", "default"⟩
  unmarshalOvercommit _ := .ok ⟨1600, 150, by decide, by decide⟩
  additionalGuestMemoryOverheadRatio := .ok ⟨"", "1.5"⟩
  ratioIsEmpty _ := .ok false
  defaultVMTerminationGracePeriodSeconds := .ok ⟨"", "120"⟩
  decodeInteger _ := some 120
  defaultArchitecture := .ok "amd64"
  parseQuantity _ := .error (.other "")
  nads key := .error (.notFound key)
  subnets := none
  unmarshalMacAddresses _ := []
  generateMac _ := .error (.other "")

/-- The quota annotation of `reset` is `null`, that of `team` limits the memory. -/
def quota : QuotaEnv where
  namespaces ns := .ok (if ns = "reset" ∨ ns = "team" then some ns else none)
  unmarshalQuota text :=
    .ok (if text = "reset" then none
      else some ⟨.empty, .quantity (newQuantity 8589934592), .empty, []⟩)
  vmPodsExist _ := .ok false
  resourceQuotas _ := .ok [⟨∅, .empty, .empty⟩]
  order rq := rq.annotations.entries
  order_perm _ := .refl _
  getMemoryOverhead _ := 0
  errorText _ := ""

def env : Env where
  mutator := mutator
  quota := quota
  cluster := {
    unmarshal := fun _ => .error (.other "")
    storageClasses := fun name => .error (.notFound ⟨"", name⟩)
    backingImages := fun name => .error (.notFound ⟨"", name⟩)
    images := fun key => .error (.notFound key)
    access := fun _ _ => .ok false
    defaultStorageClass := .error (.other "")
    nads := fun key => .error (.notFound key) }
  caches := ⟨Store.empty.lookup .notFound, []⟩
  user := "alice"

/-- A VM that is to run, with one CPU and the given memory and limits. -/
def vm (ns printableStatus : String) (memory : Option Memory) (limits : Option Resources) : VM where
  ns := ns
  name := "vm"
  template :=
    ⟨some ⟨1, 1, 1, 0, false⟩, memory, limits, none, [], [], [], [], [], [], none, none, ""⟩
  running := none
  runStrategy := some .always
  printableStatus := printableStatus
  volumeClaimTemplates := ""
  reservedMemory := ""
  enableCPUAndMemoryHotplug := ""
  macAddresses := none
  forkliftLabels := (false, false, false)
  imported := false
  maintainModeStrategy := none

/-- 4 GiB of guest memory. -/
def guest : Memory := ⟨some (newQuantity 4294967296), none⟩

/-- Huge pages without a guest memory. -/
def hugepages : Memory := ⟨none, some "1Gi"⟩

/-- 4 GiB. -/
def limits : Resources := (∅ : Resources).insert .memory (newQuantity 4294967296)

end Sample

open Sample in
/-- **A VM with a `memory` section without guest memory and without limits crashes the validator.**
So do every new VM of a namespace whose quota annotation is `null`, and a VM without limits that
comes with a status and is to be started under a quota. -/
theorem create_crashes :
    Crashes (create env (vm "default" "" (some hugepages) none)) ∧
    create env (vm "default" "" (some hugepages) (some limits)) =
      .ok () ∧
    Crashes (create env (vm "reset" "" (some guest) (some limits))) ∧
    Crashes (create env (vm "team" "Stopped" (some guest) none)) ∧
    create env (vm "team" "Stopped" (some guest) (some limits)) =
      .ok () := by
  decide +kernel

end Create

end VirtualMachine

end Harvester
