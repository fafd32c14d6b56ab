import Harvester.ResourceQuota.Calculator
import Mathlib.Algebra.Order.BigOperators.Group.List
import Mathlib.Tactic.Linarith

/-!
# Exactness of the scaling pass

A pass is to set each limit to the base of the namespace, plus the deltas of all migrating VMs, plus
the compensation.  The loop of `getResourceListFromMigratingVMs` drops the prefixes of the migration
annotations and collects the deltas by what is left.

`scaling_exact_iff`: whatever the quantities are, a pass is exact if and only if no VM is recorded
under a name that is the recorded UID of another.
-/

namespace Harvester

namespace ResourceQuota

theorem forall_getResourceListFromMigratingVMs {P : String → ResourceList → Prop} {es : Entries}
    {vms vms' : AList fun _ : String => ResourceList}
    (h : getResourceListFromMigratingVMs es vms = .ok vms')
    (hes : ∀ e ∈ es, ∀ vm rl, e.1.migrating = some vm → e.2 = .resources rl → P vm rl)
    (hvms : ∀ e ∈ vms.entries, P e.1 e.2 ∨ e.1 ∈ migratingKeys es) :
    ∀ e ∈ vms'.entries, P e.1 e.2 := by
  fun_induction getResourceListFromMigratingVMs es vms with
  | case1 vms =>
    cases h
    intro e he
    exact (hvms e he).resolve_right (by simp [migratingKeys])
  | case2 k es vms vm rl hk ih =>
    obtain ⟨hfirst, hes⟩ := List.forall_mem_cons.1 hes
    refine ih h hes fun e he => ?_
    rw [AList.entries_insert, List.mem_cons] at he
    rcases he with rfl | he
    · exact .inl (hfirst vm rl hk rfl)
    · -- An entry that is still there has another key than the one that is inserted.
      have hold := hvms e (List.kerase_sublist vm vms.entries |>.subset he)
      have hne : e.1 ≠ vm := by
        rintro rfl
        exact List.notMem_keys_kerase _ vms.nodupKeys (List.mem_keys_of_mem he)
      simpa [migratingKeys, hk, hne] using hold
  | case3 k es vms vm text hk => cases h
  | case4 k v es vms hk ih =>
    refine ih h (List.forall_mem_cons.1 hes).2 fun e he => ?_
    simpa [migratingKeys, hk] using hvms e he

theorem getResourceListFromMigratingVMs_append (es es' : Entries)
    (vms : AList fun _ : String => ResourceList) :
    getResourceListFromMigratingVMs (es ++ es') vms =
      (getResourceListFromMigratingVMs es vms).bind (getResourceListFromMigratingVMs es') := by
  fun_induction getResourceListFromMigratingVMs es vms with
  | case1 vms => rfl
  | case2 k es vms vm rl hk ih => simpa [getResourceListFromMigratingVMs, hk] using ih
  | case3 k es vms vm text hk => simp [getResourceListFromMigratingVMs, hk, Except.bind]
  | case4 k v es vms hk ih => simpa [getResourceListFromMigratingVMs, hk] using ih

/-- No VM is recorded under a name that is the recorded UID of another. -/
def Unshadowed (rq : Quota) : Prop :=
  ∀ vm, ¬ (.migratingName vm ∈ rq.annotations ∧ .migratingUID vm ∈ rq.annotations)

theorem Unshadowed.nodup_migratingKeys {rq : Quota} (h : Unshadowed rq) {es : Entries}
    (hes : es.Perm rq.annotations.entries) : (migratingKeys es).Nodup := by
  have hkeys : ∀ e ∈ es, e.1 ∈ rq.annotations :=
    fun e he => List.mem_keys_of_mem (hes.mem_iff.1 he)
  have hnodup : es.NodupKeys := (List.perm_nodupKeys hes).2 rq.annotations.nodupKeys
  have hpair : (migratingKeys es).Pairwise (· ≠ ·) := by
    rw [migratingKeys, List.pairwise_filterMap]
    refine (List.pairwise_map.1 hnodup).imp_of_mem fun {e e'} he he' hne vm hvm vm' hvm' => ?_
    rintro rfl
    rcases e with ⟨k, v⟩
    rcases e' with ⟨k', v'⟩
    have hk := hkeys _ he
    have hk' := hkeys _ he'
    cases k <;> cases k' <;> simp_all [AnnotationKey.migrating]
    · exact h _ ⟨hk, hk'⟩
    · exact h _ ⟨hk', hk⟩
  exact hpair

theorem Unshadowed.countedDelta_eq {rq : Quota} (h : Unshadowed rq) {es : Entries}
    (hes : es.Perm rq.annotations.entries) (hr : Readable es) (r : ResourceName) :
    countedDelta r es = totalDelta r rq.annotations.entries := by
  have hsum := countedDelta_add_shadowedDelta r es
  rw [shadowedDelta_eq_zero r hr (h.nodup_migratingKeys hes), add_zero] at hsum
  rw [hsum, totalDelta_perm hes]

/-- The limits that a pass has to set. -/
structure ScaledTo (rq : Quota) (cpuBase memBase comp : Quantity) (rq' : Quota) : Prop where
  cpu : cpuBase ≠ 0 → rq'.hard.name .limitsCPU =
    cpuBase + totalDelta .limitsCPU rq.annotations.entries
  memory : memBase ≠ 0 → rq'.hard.name .limitsMemory =
    memBase + totalDelta .limitsMemory rq.annotations.entries + comp
  cpuUnlimited : cpuBase = 0 → rq'.hard .limitsCPU = rq.hard .limitsCPU
  memoryUnlimited : memBase = 0 → rq'.hard .limitsMemory = rq.hard .limitsMemory
  other : ∀ r, r ≠ .limitsCPU → r ≠ .limitsMemory → rq'.hard r = rq.hard r

/-- A pass that is not skipped sets the right limits, whatever the order of its loop. -/
def Exact (ns : NamespaceAnnotation) (rq : Quota) : Prop :=
  ∀ es, es.Perm rq.annotations.entries → ∀ rq' update,
    scaleResourceQuotaOnDemand rq es ns = .ok (rq', update) →
      (∃ cpuBase memBase comp, ns.limits = .ok (cpuBase, memBase) ∧
        getCompensationFromResourceQuota rq = .ok comp ∧ ScaledTo rq cpuBase memBase comp rq') ∧
      ∀ es', es'.Perm rq.annotations.entries →
        scaleResourceQuotaOnDemand rq es' ns = .ok (rq', update)

section

variable {r : ResourceName} {base δ : Quantity} {x : Quota × Bool}

theorem name_setFromBaseDelta (h : base ≠ 0) :
    (setFromBaseDelta r base δ x).1.hard.name r = base + δ := by
  rw [setFromBaseDelta, if_neg h]
  split
  · next hsame => exact hsame
  · exact ResourceList.name_set_self ..

theorem setFromBaseDelta_of_ne {r' : ResourceName} (h : r' ≠ r) :
    (setFromBaseDelta r base δ x).1.hard r' = x.1.hard r' := by
  rw [setFromBaseDelta]
  split
  · rfl
  · split
    · rfl
    · exact if_neg h

theorem name_setFromBaseDelta_of_ne {r' : ResourceName} (h : r' ≠ r) :
    (setFromBaseDelta r base δ x).1.hard.name r' = x.1.hard.name r' := by
  rw [ResourceList.name, setFromBaseDelta_of_ne h, ResourceList.name]

end

theorem scaledTo_calculateNewResourceQuotaFromBaseDelta (rq : Quota)
    (cpuBase memBase comp : Quantity) :
    ScaledTo rq cpuBase memBase comp (calculateNewResourceQuotaFromBaseDelta rq cpuBase memBase
      (totalDelta .limitsCPU rq.annotations.entries)
      (totalDelta .limitsMemory rq.annotations.entries) comp).1 where
  cpu h := by
    rw [calculateNewResourceQuotaFromBaseDelta, name_setFromBaseDelta_of_ne (by decide),
      name_setFromBaseDelta h]
  memory h := hard_calculateNewResourceQuotaFromBaseDelta rq cpuBase _ _ comp h
  cpuUnlimited h := by
    rw [calculateNewResourceQuotaFromBaseDelta, setFromBaseDelta_of_ne (by decide), h,
      setFromBaseDelta, if_pos rfl]
  memoryUnlimited h := by
    rw [calculateNewResourceQuotaFromBaseDelta, h, setFromBaseDelta, if_pos rfl,
      setFromBaseDelta_of_ne (by decide)]
  other r hcpu hmem := by
    rw [calculateNewResourceQuotaFromBaseDelta, setFromBaseDelta_of_ne hmem,
      setFromBaseDelta_of_ne hcpu]

theorem Unshadowed.exact {rq : Quota} (h : Unshadowed rq) (ns : NamespaceAnnotation) :
    Exact ns rq := by
  intro es hes rq' update hscale
  obtain ⟨hempty, hread, cpuBase, memBase, comp, hlimits, hcomp, heq⟩ :=
    scaleResourceQuotaOnDemand_eq_ok.1 hscale
  rw [h.countedDelta_eq hes hread, h.countedDelta_eq hes hread] at heq
  refine ⟨⟨cpuBase, memBase, comp, hlimits, hcomp, ?_⟩, fun es' hes' => ?_⟩
  · rw [show rq' = _ from congrArg Prod.fst heq]
    exact scaledTo_calculateNewResourceQuotaFromBaseDelta rq cpuBase memBase comp
  have hread' : Readable es' := hread.perm (hes.trans hes'.symm)
  refine scaleResourceQuotaOnDemand_eq_ok.2
    ⟨hempty, hread', cpuBase, memBase, comp, hlimits, hcomp, ?_⟩
  rw [h.countedDelta_eq hes' hread', h.countedDelta_eq hes' hread', heq]

/-- One unit of memory for the VM of this name, and nothing for the others. -/
def oneUnit (vm : String) (k : AnnotationKey) : AnnotationValue :=
  .resources (ResourceList.empty.set .limitsMemory (if k = .migratingName vm then 1 else 0))

/-- A quota with the annotations of `rq` and these values. -/
def withValues (rq : Quota) (value : AnnotationKey → AnnotationValue) : Quota where
  annotations := ⟨rq.annotations.keys.map fun k => ⟨k, value k⟩, by
    rw [List.NodupKeys, List.keys, List.map_map]
    simpa [Function.comp_def] using rq.annotations.keys_nodup⟩
  hard := ResourceList.empty.set .limitsMemory 1
  used := .empty

theorem keys_withValues (rq : Quota) (value : AnnotationKey → AnnotationValue) :
    (withValues rq value).annotations.keys = rq.annotations.keys := by
  simp [withValues, AList.keys, List.keys]

theorem mem_withValues {rq : Quota} {value : AnnotationKey → AnnotationValue}
    {e : Sigma fun _ : AnnotationKey => AnnotationValue} :
    e ∈ (withValues rq value).annotations.entries ↔ e.1 ∈ rq.annotations ∧ e.2 = value e.1 := by
  constructor
  · intro he
    obtain ⟨k, hk, rfl⟩ := List.mem_map.1 he
    exact ⟨hk, rfl⟩
  · rintro ⟨hk, hv⟩
    refine List.mem_map.2 ⟨e.1, hk, ?_⟩
    rw [← hv]

section

variable {rq : Quota} {vm : String}

theorem one_le_totalDelta_oneUnit (hname : .migratingName vm ∈ rq.annotations) :
    1 ≤ totalDelta .limitsMemory (withValues rq (oneUnit vm)).annotations.entries := by
  have hdelta : ∀ q ∈ (withValues rq (oneUnit vm)).annotations.entries.map (delta .limitsMemory),
      0 ≤ q := by
    intro q hq
    obtain ⟨⟨k, v⟩, he, rfl⟩ := List.mem_map.1 hq
    obtain rfl : v = oneUnit vm k := (mem_withValues.1 he).2
    simp only [delta, oneUnit]
    split_ifs <;> simp
  have hunit : delta .limitsMemory ⟨.migratingName vm, oneUnit vm (.migratingName vm)⟩ = 1 := by
    simp [delta, oneUnit, AnnotationKey.migrating]
  refine List.single_le_sum hdelta 1 (List.mem_map.2 ⟨_, ?_, hunit⟩)
  exact mem_withValues.2 ⟨hname, rfl⟩

/-- The loop meets the annotation with the name before the one with the UID. -/
theorem countedDelta_oneUnit (huid : .migratingUID vm ∈ rq.annotations) :
    ∃ es, es.Perm (withValues rq (oneUnit vm)).annotations.entries ∧ Readable es ∧
      countedDelta .limitsMemory es = 0 := by
  let named := (withValues rq (oneUnit vm)).annotations.entries.filter
    fun e => e.1 = .migratingName vm
  let rest := (withValues rq (oneUnit vm)).annotations.entries.filter
    fun e => !decide (e.1 = .migratingName vm)
  have hperm : (named ++ rest).Perm (withValues rq (oneUnit vm)).annotations.entries :=
    List.filter_append_perm _ _
  have hread : Readable (named ++ rest) :=
    fun e he _ => ⟨_, (mem_withValues.1 (hperm.mem_iff.1 he)).2⟩
  obtain ⟨vms, hvms⟩ := getResourceListFromMigratingVMs_ok
    (fun e he => hread e (List.mem_append_left rest he)) ∅
  obtain ⟨vms', hvms'⟩ := getResourceListFromMigratingVMs_ok
    (fun e he => hread e (List.mem_append_right named he)) vms
  have hboth : getResourceListFromMigratingVMs (named ++ rest) ∅ = .ok vms' := by
    rw [getResourceListFromMigratingVMs_append, hvms]
    exact hvms'
  have hvm : ∀ e ∈ vms.entries, e.1 = vm := by
    refine forall_getResourceListFromMigratingVMs (P := fun y _ => y = vm) hvms ?_ (by simp)
    intro e he y rl hy _
    have hkey : e.1 = .migratingName vm := by simpa using (List.mem_filter.1 he).2
    simpa [hkey, AnnotationKey.migrating, eq_comm] using hy
  have hzero : ∀ e ∈ vms'.entries, e.2.name .limitsMemory = 0 := by
    refine forall_getResourceListFromMigratingVMs
      (P := fun _ rl => rl.name .limitsMemory = 0) hvms' ?_ fun e he => .inr ?_
    · intro e he y rl _ hrl
      obtain ⟨hmem, hkey⟩ := List.mem_filter.1 he
      rw [(mem_withValues.1 hmem).2] at hrl
      rw [← AnnotationValue.resources.inj hrl]
      simpa using hkey
    · rw [hvm e he]
      exact List.mem_filterMap.2 ⟨⟨.migratingUID vm, oneUnit vm (.migratingUID vm)⟩,
        List.mem_filter.2 ⟨mem_withValues.2 ⟨huid, rfl⟩, by simp⟩, rfl⟩
  refine ⟨named ++ rest, hperm, hread, ?_⟩
  simp only [countedDelta, hboth]
  refine List.sum_eq_zero fun q hq => ?_
  obtain ⟨e, he, rfl⟩ := List.mem_map.1 hq
  exact hzero e he

theorem getCompensation_oneUnit (rq : Quota) (vm : String) :
    getCompensationFromResourceQuota (withValues rq (oneUnit vm)) = .ok 0 := by
  have hlookup : getResourceListOfMigratingCompensation (withValues rq (oneUnit vm)) = .ok none ∨
      getResourceListOfMigratingCompensation (withValues rq (oneUnit vm)) =
        .ok (some (ResourceList.empty.set .limitsMemory 0)) := by
    rw [getResourceListOfMigratingCompensation]
    split
    · exact .inl rfl
    · next rl hlookup =>
      have hvalue : AnnotationValue.resources rl = oneUnit vm .migratingCompensation :=
        (mem_withValues.1 (AList.mem_lookup_iff.1 hlookup)).2
      rw [AnnotationValue.resources.inj hvalue]
      exact .inr rfl
    · next text hlookup =>
      have hvalue := (mem_withValues.1 (AList.mem_lookup_iff.1 hlookup)).2
      simp [oneUnit] at hvalue
  rcases hlookup with hnone | hsome
  · rw [getCompensationFromResourceQuota, hnone]
    rfl
  · rw [getCompensationFromResourceQuota, hsome]
    rfl

/-- **A name that is the UID of another VM hides its delta.** -/
theorem not_exact_of_shadowed (hname : .migratingName vm ∈ rq.annotations)
    (huid : .migratingUID vm ∈ rq.annotations) :
    ¬ Exact (.quota ⟨.empty, .quantity 1⟩) (withValues rq (oneUnit vm)) := by
  intro hexact
  obtain ⟨es, hperm, hread, hcounted⟩ := @countedDelta_oneUnit rq vm huid
  have hlimits : NamespaceAnnotation.limits (.quota ⟨.empty, .quantity 1⟩) = .ok (0, 1) := rfl
  have hscale := scaleResourceQuotaOnDemand_eq_ok.2
    ⟨rfl, hread, 0, 1, 0, hlimits, getCompensation_oneUnit rq vm, Prod.eta _⟩
  obtain ⟨⟨cpuBase, memBase, comp, hlimits', hcomp, hscaled⟩, -⟩ := hexact _ hperm _ _ hscale
  obtain ⟨-, rfl⟩ := Prod.mk.inj (Except.ok.inj (hlimits.symm.trans hlimits'))
  obtain rfl := Except.ok.inj ((getCompensation_oneUnit rq vm).symm.trans hcomp)
  have hmemory := hscaled.memory one_ne_zero
  rw [hard_calculateNewResourceQuotaFromBaseDelta _ _ _ _ _ one_ne_zero] at hmemory
  have htotal := one_le_totalDelta_oneUnit hname
  linarith

end

/-- **When the scaling pass is exact.**  Whatever the quantities are, every pass is exact, if and
only if no VM is recorded under a name that is the recorded UID of another. -/
theorem scaling_exact_iff (rq : Quota) :
    (∀ rq' : Quota, rq'.annotations.keys = rq.annotations.keys → ∀ ns, Exact ns rq') ↔
      Unshadowed rq := by
  constructor
  · rintro hexact vm ⟨hname, huid⟩
    exact not_exact_of_shadowed hname huid (hexact _ (keys_withValues rq _) _)
  intro h rq' hkeys ns
  have hmem : ∀ k, k ∈ rq'.annotations → k ∈ rq.annotations := by
    intro k hk
    exact AList.mem_keys.2 (hkeys ▸ AList.mem_keys.1 hk)
  exact Unshadowed.exact (fun vm hvm => h vm ⟨hmem _ hvm.1, hmem _ hvm.2⟩) ns

namespace ScalingSample

/-- The UID of a VM, which is also the name of another one. -/
def uid : String := "0b7c7a6e-2f4c-4f0b-9a57-4a4f6c3f1d11"

/-- A delta of `n` units of memory. -/
def memory (n : ℤ) : AnnotationValue :=
  .resources (ResourceList.empty.set .limitsMemory (newQuantity n))

/-- Two migrating VMs, one recorded by its name and one by its UID. -/
def shadowedQuota : Quota where
  annotations := ⟨[⟨.migratingName uid, memory 1⟩, ⟨.migratingUID uid, memory 2⟩],
    by simp [List.NodupKeys, List.keys]⟩
  hard := ResourceList.empty.set .limitsMemory (newQuantity 10)
  used := .empty

end ScalingSample

open ScalingSample in
/-- **The order of the loop decides**: the limit becomes 12 or 11, and never 13. -/
theorem shadowed_delta_lost :
    (∃ x, scaleResourceQuotaOnDemand shadowedQuota shadowedQuota.annotations.entries
        (.quota ⟨.empty, .quantity (newQuantity 10)⟩) = .ok x ∧
      x.1.hard.name .limitsMemory = newQuantity 12) ∧
    ∃ x, scaleResourceQuotaOnDemand shadowedQuota shadowedQuota.annotations.entries.reverse
        (.quota ⟨.empty, .quantity (newQuantity 10)⟩) = .ok x ∧
      x.1.hard.name .limitsMemory = newQuantity 11 :=
  ⟨⟨_, rfl, by decide⟩, _, rfl, by decide⟩

end ResourceQuota

end Harvester
