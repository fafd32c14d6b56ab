import Harvester.Control.Action
import Harvester.ResourceQuota.Basic
import Mathlib.Tactic.Ring

/-!
# The quota calculator and the scaling pass

`pkg/util/resourcequota/calculator.go` and `scaleResourceQuotaOnDemand`, which recomputes the hard
limits of a quota from the base limits in the namespace annotation, the deltas of the migrating VMs
and the compensation:

* `scaleResourceQuotaOnDemand_eq_ok` says when a pass is not skipped and what it computes;
* `countedDelta_add_shadowedDelta` splits the deltas into the *counted* and the *shadowed* ones,
  which are lost because another annotation has the same key behind its prefix;
* `shadowedDelta_eq_zero`: nothing is shadowed when these keys are distinct.
-/

namespace Harvester

namespace ResourceQuota

/-- A limit of the namespace quota, by what `resource.ParseQuantity` makes of its text. -/
inductive LimitText where
  | empty
  | invalid
  | quantity (q : Quantity)
  deriving DecidableEq, Repr

/-- The limits of a Rancher `NamespaceResourceQuota` that scaling reads. -/
structure NamespaceQuota where
  limitsCPU : LimitText
  limitsMemory : LimitText
  deriving DecidableEq, Repr

/-- The namespace annotation `field.cattle.io/resourceQuota`; the text `null` is a nil quota. -/
inductive NamespaceAnnotation where
  | empty
  | invalid
  | null
  | quota (nrq : NamespaceQuota)
  deriving DecidableEq, Repr

/-- A limit that is not set counts as zero. -/
def LimitText.parse : LimitText → Except Error Quantity
  | .empty => .ok 0
  | .invalid => .error .parseQuantity
  | .quantity q => .ok q

/-- The base limits. -/
def getCPUMemoryLimitsFromRancherNamespaceResourceQuota :
    Option NamespaceQuota → Except Error (Quantity × Quantity)
  | none => .ok (0, 0)
  | some nrq => do
    let cpu ← nrq.limitsCPU.parse
    let mem ← nrq.limitsMemory.parse
    return (cpu, mem)

/-- The sum of one resource over a map of resource lists. -/
def sumName (vms : AList fun _ : String => ResourceList) (r : ResourceName) : Quantity :=
  (vms.entries.map fun e => e.2.name r).sum

variable (r : ResourceName) (rq : Quota) (es : Entries)

/-- `getVMIMResourcesFromRQAnnotation`: CPU, memory and storage deltas of the migrating VMs. -/
def getVMIMResourcesFromRQAnnotation : Except Error (Quantity × Quantity × Quantity) := do
  let vms ← getResourceListFromMigratingVMs es ∅
  return (sumName vms .limitsCPU, sumName vms .limitsMemory, sumName vms .requestsStorage)

/-- `GetCompensationFromResourceQuota`: only memory is compensated. -/
def getCompensationFromResourceQuota : Except Error Quantity := do
  match ← getResourceListOfMigratingCompensation rq with
  | none => return 0
  | some rl => return rl.name .limitsMemory

/-- `isEmpty`: neither CPU nor memory is limited. -/
def isEmptyResourceQuota : Bool :=
  rq.hard.name .limitsCPU = 0 && rq.hard.name .limitsMemory = 0

/-- There is no memory limit. -/
def isMemoryLimitEmpty : Bool := rq.hard.name .limitsMemory = 0

/-- One half of `CalculateNewResourceQuotaFromBaseDelta`, for a base that is not zero. -/
def setFromBaseDelta (base delta : Quantity) (x : Quota × Bool) : Quota × Bool :=
  if base = 0 then x
  else if x.1.hard.name r = base + delta then x
  else ({ x.1 with hard := x.1.hard.set r (base + delta) }, true)

/-- `CalculateNewResourceQuotaFromBaseDelta`: the scaled quota and whether it has changed. -/
def calculateNewResourceQuotaFromBaseDelta
    (cpuBase memBase cpuDelta memDelta memCompensation : Quantity) : Quota × Bool :=
  setFromBaseDelta .limitsMemory memBase (memDelta + memCompensation)
    (setFromBaseDelta .limitsCPU cpuBase cpuDelta (rq, false))

/-- `scaleResourceQuotaOnDemand`.  `es` are the annotations of `rq` in the order in which the pass
meets them. -/
def scaleResourceQuotaOnDemand : NamespaceAnnotation → Except Error (Quota × Bool)
  | .empty => .error .skipScaling
  | .invalid => .error .unmarshalNamespaceQuota
  | .null => scale none
  | .quota nrq => scale (some nrq)
where
  /-- The pass, once the namespace annotation has been read. -/
  scale (rqBase : Option NamespaceQuota) : Except Error (Quota × Bool) :=
    if isEmptyResourceQuota rq then .error .skipScaling
    else match getCPUMemoryLimitsFromRancherNamespaceResourceQuota rqBase with
      | .error _ => .error .skipScaling
      | .ok (cpuBase, memBase) =>
        match getVMIMResourcesFromRQAnnotation es with
        | .error _ => .error .skipScaling
        | .ok (cpuDelta, memDelta, _) =>
          match getCompensationFromResourceQuota rq with
          | .error _ => .error .skipScaling
          | .ok memCompensation =>
            .ok (calculateNewResourceQuotaFromBaseDelta rq cpuBase memBase cpuDelta memDelta
              memCompensation)

/-- The VMI of a migrating VM: its names and the limits of its domain. -/
structure VMI where
  name : String
  uid : String
  limits : ResourceList

/-- `additionalCompensationMemory`: 128 MiB. -/
def additionalCompensationMemory : Quantity := newQuantity (128 * 2 ^ 20)

/-- `some rl` is `(true, rl)` and `none` is `(false, nil)`.  `getMemoryOverhead` is KubeVirt's
estimate of the memory a VMI needs besides its guest memory. -/
def calculateCompensationResourceQuotaWithVMI
    (getMemoryOverhead : VMI → String → Quantity) (rq : Quota) (vmi : VMI)
    (ratio : Option String) : Option ResourceList :=
  match ratio with
  | none => none
  | some ratio =>
    if isMemoryLimitEmpty rq || vmi.limits.name .memory = 0 then none
    else
      let mem := vmi.limits.name .memory + getMemoryOverhead vmi ratio
      let limitMem := rq.hard.name .limitsMemory
      let usedMem := rq.used.name .limitsMemory + mem
      if limitMem < usedMem then
        some (ResourceList.empty.set .limitsMemory
          (usedMem - limitMem + additionalCompensationMemory))
      else none

/-- The delta of resource `r` that one annotation records. -/
def delta : (Sigma fun _ : AnnotationKey => AnnotationValue) → Quantity
  | ⟨k, .resources rl⟩ => if k.migrating.isSome then rl.name r else 0
  | ⟨_, .text _⟩ => 0

/-- The deltas of all migrating VMs together. -/
def totalDelta : Quantity := (es.map (delta r)).sum

/-- The keys of the migrating VMs, without their prefixes. -/
def migratingKeys : List String := es.filterMap fun e => e.1.migrating

/-- Every migrating annotation holds a resource list. -/
def Readable : Prop :=
  ∀ e ∈ es, e.1.migrating.isSome → ∃ rl, e.2 = .resources rl

/-- The part of the deltas that a pass over `es` adds up. -/
def countedDelta : Quantity :=
  match getResourceListFromMigratingVMs es ∅ with
  | .ok vms => sumName vms r
  | .error _ => 0

/-- The part of the deltas that a pass over `es` loses: the map of
`getResourceListFromMigratingVMs` has one place for a VM named like another VM's UID. -/
def shadowedDelta : Quantity :=
  totalDelta r es - countedDelta r es

theorem countedDelta_add_shadowedDelta : countedDelta r es + shadowedDelta r es = totalDelta r
    es := by
  simp [shadowedDelta]

theorem totalDelta_perm {r : ResourceName} {es es' : Entries} (h : es.Perm es') :
    totalDelta r es = totalDelta r es' :=
  (h.map (delta r)).sum_eq

theorem Readable.perm {es es' : Entries} (hr : Readable es) (h : es.Perm es') : Readable es' :=
  fun e he => hr e (h.mem_iff.2 he)

theorem Readable.tail {e : Sigma fun _ : AnnotationKey => AnnotationValue} {es : Entries}
    (h : Readable (e :: es)) : Readable es :=
  fun e' he' => h e' (List.mem_cons_of_mem e he')

theorem getResourceListFromMigratingVMs_ok {es : Entries} (h : Readable es)
    (vms : AList fun _ : String => ResourceList) :
    ∃ vms', getResourceListFromMigratingVMs es vms = .ok vms' := by
  fun_induction getResourceListFromMigratingVMs es vms with
  | case1 vms => exact ⟨vms, rfl⟩
  | case2 k es vms vm rl hk ih => exact ih h.tail
  | case3 k es vms vm text hk => simpa [hk] using h ⟨k, .text text⟩ (by simp)
  | case4 k v es vms hk ih => exact ih h.tail

theorem readable_of_getResourceListFromMigratingVMs {es : Entries}
    {vms vms' : AList fun _ : String => ResourceList}
    (h : getResourceListFromMigratingVMs es vms = .ok vms') : Readable es := by
  fun_induction getResourceListFromMigratingVMs es vms with
  | case1 vms => simp [Readable]
  | case2 k es vms vm rl hk ih => exact List.forall_mem_cons.2 ⟨fun _ => ⟨rl, rfl⟩, ih h⟩
  | case3 k es vms vm text hk => cases h
  | case4 k v es vms hk ih => exact List.forall_mem_cons.2 ⟨by simp [hk], ih h⟩

theorem getVMIMResourcesFromRQAnnotation_eq_ok {es : Entries}
    {deltas : Quantity × Quantity × Quantity} :
    getVMIMResourcesFromRQAnnotation es = .ok deltas ↔ Readable es ∧
      (countedDelta .limitsCPU es, countedDelta .limitsMemory es,
        countedDelta .requestsStorage es) = deltas := by
  constructor
  · intro h
    obtain ⟨vms, hvms, h⟩ := Control.except_bind_eq_ok.1 h
    refine ⟨readable_of_getResourceListFromMigratingVMs hvms, ?_⟩
    simp only [countedDelta, hvms]
    exact Except.ok.inj h
  · rintro ⟨hread, rfl⟩
    obtain ⟨vms, hvms⟩ := getResourceListFromMigratingVMs_ok hread ∅
    simp only [countedDelta, hvms, getVMIMResourcesFromRQAnnotation]
    rfl

/-- With distinct keys behind the prefixes the loop adds every delta to the map. -/
theorem sumName_getResourceListFromMigratingVMs {es : Entries}
    {vms vms' : AList fun _ : String => ResourceList} (hnd : (migratingKeys es).Nodup)
    (hdis : ∀ vm ∈ migratingKeys es, vm ∉ vms)
    (h : getResourceListFromMigratingVMs es vms = .ok vms') : sumName vms' r = sumName vms r +
    totalDelta r es := by
  fun_induction getResourceListFromMigratingVMs es vms with
  | case1 vms =>
    cases h
    simp [totalDelta]
  | case2 k es vms vm rl hk ih =>
    simp only [migratingKeys, List.filterMap_cons, hk, List.nodup_cons, List.mem_cons] at hnd hdis
    -- The key is new, so that the insertion adds an entry and replaces none.
    have hvm : vm ∉ vms := hdis vm (.inl rfl)
    have hdis' : ∀ vm' ∈ migratingKeys es, vm' ∉ vms.insert vm rl := by
      intro vm' hvm' hin
      rcases (AList.mem_insert vms).1 hin with rfl | hin
      · exact hnd.1 hvm'
      · exact hdis vm' (.inr hvm') hin
    have hd : delta r ⟨k, .resources rl⟩ = rl.name r := by simp [delta, hk]
    have hs : sumName (vms.insert vm rl) r = rl.name r + sumName vms r := by
      rw [sumName, AList.entries_insert_of_notMem hvm, List.map_cons, List.sum_cons, sumName]
    rw [ih hnd.2 hdis' h, hs, totalDelta, totalDelta, List.map_cons, List.sum_cons, hd]
    ring
  | case3 k es vms vm text hk => cases h
  | case4 k v es vms hk ih =>
    simp only [migratingKeys, List.filterMap_cons, hk] at hnd hdis
    have hd : delta r ⟨k, v⟩ = 0 := by cases v <;> simp [delta, hk]
    rw [ih hnd hdis h, totalDelta, totalDelta, List.map_cons, List.sum_cons, hd, zero_add]

/-- **Nothing is shadowed when no VM is named like another VM's UID.** -/
theorem shadowedDelta_eq_zero {es : Entries} (hr : Readable es) (hnd : (migratingKeys es).Nodup) :
    shadowedDelta r es = 0 := by
  obtain ⟨vms, h⟩ := getResourceListFromMigratingVMs_ok hr ∅
  have hs := sumName_getResourceListFromMigratingVMs r hnd (by simp) h
  have h0 : sumName ∅ r = 0 := by simp [sumName]
  simp only [shadowedDelta, countedDelta, h, hs, h0]
  ring

/-- The base limits of CPU and memory. -/
def NamespaceAnnotation.limits : NamespaceAnnotation → Except Error (Quantity × Quantity)
  | .empty => .error .skipScaling
  | .invalid => .error .unmarshalNamespaceQuota
  | .null => getCPUMemoryLimitsFromRancherNamespaceResourceQuota none
  | .quota nrq => getCPUMemoryLimitsFromRancherNamespaceResourceQuota (some nrq)

theorem scaleResourceQuotaOnDemand_eq_ok {rq : Quota} {es : Entries} {ns : NamespaceAnnotation}
    {x : Quota × Bool} : scaleResourceQuotaOnDemand rq es ns = .ok x ↔
      isEmptyResourceQuota rq = false ∧ Readable es ∧ ∃ cpuBase memBase comp,
        ns.limits = .ok (cpuBase, memBase) ∧ getCompensationFromResourceQuota rq = .ok comp ∧
        x = calculateNewResourceQuotaFromBaseDelta rq cpuBase memBase
          (countedDelta .limitsCPU es) (countedDelta .limitsMemory es) comp := by
  cases ns with
  | empty | invalid => simp [scaleResourceQuotaOnDemand, NamespaceAnnotation.limits]
  | null | quota nrq =>
    simp only [scaleResourceQuotaOnDemand, scaleResourceQuotaOnDemand.scale,
      NamespaceAnnotation.limits]
    by_cases hempty : isEmptyResourceQuota rq = true
    · simp [hempty]
    rw [if_neg hempty]
    split
    · next hlimits => simp [hlimits]
    next cpuBase memBase hlimits =>
    split
    · next hdeltas =>
      have hread : ¬ Readable es := fun hread => by
        simp [getVMIMResourcesFromRQAnnotation_eq_ok.2 ⟨hread, rfl⟩] at hdeltas
      simp [hread]
    next cpuDelta memDelta _ hdeltas =>
    obtain ⟨hread, hdeltas⟩ := getVMIMResourcesFromRQAnnotation_eq_ok.1 hdeltas
    cases hdeltas
    split
    · next hcomp => simp [hcomp]
    · next hcomp => simp [hempty, hread, hlimits, hcomp, eq_comm]

theorem hard_calculateNewResourceQuotaFromBaseDelta
    (cpuBase cpuDelta memDelta memCompensation : Quantity) {memBase : Quantity}
    (h : memBase ≠ 0) :
    (calculateNewResourceQuotaFromBaseDelta rq cpuBase memBase cpuDelta memDelta
      memCompensation).1.hard.name .limitsMemory = memBase + memDelta + memCompensation := by
  simp only [calculateNewResourceQuotaFromBaseDelta, setFromBaseDelta]
  split_ifs with h' <;> simp_all [add_assoc]

end ResourceQuota

end Harvester
