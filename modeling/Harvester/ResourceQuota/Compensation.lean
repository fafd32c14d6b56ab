import Harvester.ResourceQuota.Calculator
import Mathlib.Tactic.Linarith

/-!
# Does a compensation unblock the migration?

When the target pod of a migration does not fit into the quota, the migration controller records a
compensation and the next scaling pass adds it to the memory limit.  It is computed against the
current limit, which contains the compensation recorded before, while the annotation is overwritten
and the limit is recomputed from its base:

* `compensation_fits_iff`: after the pass the target pod fits **iff** what the pass no longer
  counts, the earlier compensation above all, is at most the additional 128 MiB;
* `compensation_gt_additional`: a compensation that the code has recorded is larger than that.
-/

namespace Harvester

namespace ResourceQuota

/-- The quota as the resource quota controller leaves it. -/
structure Synced (ns : NamespaceAnnotation) (rq : Quota) (memBase comp : Quantity) : Prop where
  /-- The namespace annotation holds valid limits. -/
  base : ∃ nrq cpuBase, ns = .quota nrq ∧
    getCPUMemoryLimitsFromRancherNamespaceResourceQuota (some nrq) = .ok (cpuBase, memBase)
  base_ne_zero : memBase ≠ 0
  readable : Readable rq.annotations.entries
  compensation : getCompensationFromResourceQuota rq = .ok comp
  hard : rq.hard.name .limitsMemory =
    memBase + totalDelta .limitsMemory rq.annotations.entries + comp

section

variable {getMemoryOverhead : VMI → String → Quantity} {rq : Quota} {vmi : VMI} {ratio : String}
  {rl : ResourceList}

theorem calculateCompensation_eq_some
    (h : calculateCompensationResourceQuotaWithVMI getMemoryOverhead rq vmi (some ratio) =
      some rl) :
    rq.hard.name .limitsMemory ≠ 0 ∧
    rq.hard.name .limitsMemory <
      rq.used.name .limitsMemory + (vmi.limits.name .memory + getMemoryOverhead vmi ratio) ∧
    rl.name .limitsMemory =
      rq.used.name .limitsMemory + (vmi.limits.name .memory + getMemoryOverhead vmi ratio) -
        rq.hard.name .limitsMemory + additionalCompensationMemory := by
  simp only [calculateCompensationResourceQuotaWithVMI] at h
  split_ifs at h with h0 hlt
  cases h
  refine ⟨fun h' => h0 (by simp [isMemoryLimitEmpty, h']), hlt, by simp⟩

/-- **Every compensation that the code records exceeds the additional 128 MiB.** -/
theorem compensation_gt_additional
    (h : calculateCompensationResourceQuotaWithVMI getMemoryOverhead rq vmi (some ratio) =
      some rl) :
    additionalCompensationMemory < rl.name .limitsMemory := by
  obtain ⟨-, hlt, hrl⟩ := calculateCompensation_eq_some h
  linarith

theorem delta_migratingCompensation (r : ResourceName) (v : AnnotationValue) :
    delta r ⟨.migratingCompensation, v⟩ = 0 := by
  cases v <;> rfl

theorem totalDelta_kerase (r : ResourceName) {k : AnnotationKey}
    (hk : ∀ v, delta r ⟨k, v⟩ = 0) (es : Entries) :
    totalDelta r (es.kerase k) = totalDelta r es := by
  induction es with
  | nil => rfl
  | cons e es ih =>
    obtain ⟨k', v⟩ := e
    by_cases h : k = k'
    · subst h
      simp [totalDelta, hk]
    · rw [List.kerase_cons_ne (by simpa using h)]
      simpa [totalDelta] using ih

theorem totalDelta_addMigratingCompensation (r : ResourceName) :
    totalDelta r (addMigratingCompensation rq rl).annotations.entries =
      totalDelta r rq.annotations.entries := by
  have h := totalDelta_kerase r (delta_migratingCompensation r) rq.annotations.entries
  simpa [addMigratingCompensation, totalDelta, delta_migratingCompensation] using h

theorem Readable.addMigratingCompensation (h : Readable rq.annotations.entries) :
    Readable (addMigratingCompensation rq rl).annotations.entries := by
  intro e he
  simp only [ResourceQuota.addMigratingCompensation, AList.entries_insert, List.mem_cons] at he
  rcases he with rfl | he
  · simp
  · exact h e ((List.kerase_sublist _ _).subset he)

theorem getCompensation_addMigratingCompensation :
    getCompensationFromResourceQuota (addMigratingCompensation rq rl) =
      .ok (rl.name .limitsMemory) := by
  rfl

theorem hard_after_compensation {ns : NamespaceAnnotation} {memBase comp : Quantity}
    {es : Entries} (hs : Synced ns rq memBase comp)
    (hrl : calculateCompensationResourceQuotaWithVMI getMemoryOverhead rq vmi (some ratio) =
      some rl)
    (hes : es.Perm (addMigratingCompensation rq rl).annotations.entries) :
    ∃ rq' update,
      scaleResourceQuotaOnDemand (addMigratingCompensation rq rl) es ns = .ok (rq', update) ∧
      rq'.hard.name .limitsMemory + comp + shadowedDelta .limitsMemory es =
        rq.used.name .limitsMemory + vmi.limits.name .memory + getMemoryOverhead vmi ratio +
          additionalCompensationMemory := by
  obtain ⟨nrq, cpuBase, rfl, hbase⟩ := hs.base
  obtain ⟨hne, -, hval⟩ := calculateCompensation_eq_some hrl
  have hr : Readable es := hs.readable.addMigratingCompensation.perm hes.symm
  have hempty : isEmptyResourceQuota (addMigratingCompensation rq rl) = false := by
    simp [isEmptyResourceQuota, addMigratingCompensation, hne]
  have htotal : totalDelta .limitsMemory es =
      totalDelta .limitsMemory rq.annotations.entries := by
    rw [totalDelta_perm hes, totalDelta_addMigratingCompensation]
  have hlimits : NamespaceAnnotation.limits (.quota nrq) = .ok (cpuBase, memBase) := hbase
  have hpass := scaleResourceQuotaOnDemand_eq_ok.2 ⟨hempty, hr, cpuBase, memBase, _, hlimits,
    getCompensation_addMigratingCompensation, rfl⟩
  have hnew := hard_calculateNewResourceQuotaFromBaseDelta (addMigratingCompensation rq rl)
    cpuBase (countedDelta .limitsCPU es) (countedDelta .limitsMemory es) (rl.name .limitsMemory)
    hs.base_ne_zero
  -- The pass counts the base, the counted deltas and the new compensation; the old compensation,
  -- which `hs.hard` has in the limit before, is nowhere in it.
  generalize calculateNewResourceQuotaFromBaseDelta _ _ _ _ _ _ = out at hpass hnew
  refine ⟨out.1, out.2, hpass, ?_⟩
  have hsplit := countedDelta_add_shadowedDelta .limitsMemory es
  have hhard := hs.hard
  linarith

end

/-- **After the compensation the target pod fits iff what the pass no longer counts is at most the
additional 128 MiB**: the compensation recorded before and the shadowed deltas. -/
theorem compensation_fits_iff (getMemoryOverhead : VMI → String → Quantity)
    (ns : NamespaceAnnotation) (rq : Quota) (memBase comp : Quantity) (vmi : VMI)
    (ratio : String) (rl : ResourceList) (es : Entries)
    (hs : Synced ns rq memBase comp)
    (hrl : calculateCompensationResourceQuotaWithVMI getMemoryOverhead rq vmi (some ratio) =
      some rl)
    (hes : es.Perm (addMigratingCompensation rq rl).annotations.entries) :
    ∃ rq' update,
      scaleResourceQuotaOnDemand (addMigratingCompensation rq rl) es ns = .ok (rq', update) ∧
      (rq.used.name .limitsMemory + vmi.limits.name .memory + getMemoryOverhead vmi ratio ≤
          rq'.hard.name .limitsMemory ↔
        comp + shadowedDelta .limitsMemory es ≤ additionalCompensationMemory) := by
  obtain ⟨rq', update, hpass, hhard⟩ := hard_after_compensation hs hrl hes
  refine ⟨rq', update, hpass, ?_, ?_⟩ <;> intro h <;> linarith

/-- `n` MiB. -/
def mebi (n : ℤ) : Quantity := newQuantity (n * 2 ^ 20)

/-- A namespace with a memory limit of 10 GiB. -/
def tenGibi : NamespaceAnnotation := .quota ⟨.empty, .quantity (mebi 10240)⟩

/-- A VM with 1 GiB of memory, which runs with 256 MiB of overhead. -/
def blockedVMI : VMI := ⟨"vm", "uid", ResourceList.empty.set .memory (mebi 1024)⟩

/-- The quota while the VM migrates, with `comp` as compensation and `used` in use. -/
def migratingQuota (comp used : Quantity) : Quota where
  annotations := AList.insert .migratingCompensation
    (.resources (ResourceList.empty.set .limitsMemory comp))
    (AList.singleton (.migratingUID "uid")
      (.resources (ResourceList.empty.set .limitsMemory (mebi 2048))))
  hard := ResourceList.empty.set .limitsMemory (mebi 12288 + comp)
  used := ResourceList.empty.set .limitsMemory used

theorem migratingQuota_synced (comp used : Quantity) :
    Synced tenGibi (migratingQuota comp used) (mebi 10240) comp where
  base := ⟨⟨.empty, .quantity (mebi 10240)⟩, 0, rfl, rfl⟩
  base_ne_zero := by decide
  readable := by
    rintro e he -
    rcases List.mem_cons.1 he with rfl | he
    · exact ⟨_, rfl⟩
    · obtain rfl := List.mem_singleton.1 he
      exact ⟨_, rfl⟩
  compensation := rfl
  hard := by
    simp [migratingQuota, totalDelta, delta, AnnotationKey.migrating, mebi, newQuantity]

/-- With nothing compensated before: 12 GiB of limit, 11.5 GiB in use and a pod of 1.25 GiB. -/
theorem compensation_fits_iff_first : ∃ rq' update, scaleResourceQuotaOnDemand
      (addMigratingCompensation (migratingQuota 0 (mebi 11776))
        (ResourceList.empty.set .limitsMemory (mebi 896)))
      (addMigratingCompensation (migratingQuota 0 (mebi 11776))
        (ResourceList.empty.set .limitsMemory (mebi 896))).annotations.entries tenGibi =
        .ok (rq', update) ∧
    ((migratingQuota 0 (mebi 11776)).used.name .limitsMemory +
        blockedVMI.limits.name .memory + mebi 256 ≤ rq'.hard.name .limitsMemory ↔
      0 + shadowedDelta .limitsMemory
        (addMigratingCompensation (migratingQuota 0 (mebi 11776))
          (ResourceList.empty.set .limitsMemory (mebi 896))).annotations.entries ≤
        additionalCompensationMemory) :=
  compensation_fits_iff (fun _ _ => mebi 256) tenGibi (migratingQuota 0 (mebi 11776))
    (mebi 10240) 0 blockedVMI "1.5" _ _ (migratingQuota_synced 0 (mebi 11776)) rfl
    (List.Perm.refl _)

/-- **A second compensation leaves the migration blocked**: 768 MiB replace 1152 MiB, and the limit
falls from 13.125 GiB to 12.75 GiB. -/
theorem second_compensation_does_not_fit :
    Synced tenGibi (migratingQuota (mebi 1152) (mebi 12800)) (mebi 10240) (mebi 1152) ∧
    containsMigratingVM (migratingQuota (mebi 1152) (mebi 12800)) blockedVMI.name
      blockedVMI.uid = true ∧
    ∃ rl rq' update,
      calculateCompensationResourceQuotaWithVMI (fun _ _ => mebi 256)
        (migratingQuota (mebi 1152) (mebi 12800)) blockedVMI (some "1.5") = some rl ∧
      scaleResourceQuotaOnDemand
        (addMigratingCompensation (migratingQuota (mebi 1152) (mebi 12800)) rl)
        (addMigratingCompensation (migratingQuota (mebi 1152) (mebi 12800)) rl).annotations.entries
        tenGibi = .ok (rq', update) ∧
      rq'.hard.name .limitsMemory <
        (migratingQuota (mebi 1152) (mebi 12800)).used.name .limitsMemory +
          blockedVMI.limits.name .memory + mebi 256 :=
  ⟨migratingQuota_synced _ _, rfl, _, _, _, rfl, rfl, by decide⟩

end ResourceQuota

end Harvester
