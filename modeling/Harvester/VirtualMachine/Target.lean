import Harvester.VirtualMachine.Validator

/-!
# Storage migration

A user asks for the migration of a volume by the target volume of its entry in the
`volumeClaimTemplates` annotation; the validator checks it (`checkTargetVolumes`).  The VM
controller (`pkg/controller/master/virtualmachine/vm_controller.go`) then puts the target in the
place of the source, sets the update strategy and marks the VM as waiting; the mark goes when the VM
migrates.

The validator takes a target that is mounted for a migration in progress, even when the source is
mounted beside it.  The controller then mounts the target twice (`target_mounted_twice`).
`swap_correct_iff` says exactly when the swap does what it should.
-/

namespace Harvester

namespace VirtualMachine

namespace Validator

open Control

/-! ### The controller -/

section

variable (entries : List Entry) (volume : Volume)

/-- The entries with a target. -/
def withTarget : List Entry :=
  entries.filter fun entry => entry.targetVolume ≠ ""

/-- The target for a claim (`targetVolumes`); of several entries for it, the last counts. -/
def targetOf (claimName : String) : Option String :=
  ((withTarget entries).reverse.find? fun entry => entry.name = claimName).map Entry.targetVolume

/-- The claim of a volume. -/
def getVolumeBackingRef : String × Bool :=
  match volume.claim with
  | none => ("", false)
  | some claim => (claim.claimName, claim.hotpluggable)

/-- A volume with the source that `buildPVCVolumeSource` makes. -/
def buildPVCVolumeSource (name : String) (hotpluggable : Bool) : Volume :=
  { volume with claim := some ⟨name, false, hotpluggable⟩, dataVolume := none }

/-- The body of the loop of `SetTargetVolumeStrategy`. -/
def swapVolume : Volume :=
  let (oldName, hotpluggable) := getVolumeBackingRef volume
  if oldName = "" then volume
  else match targetOf entries oldName with
    | none => volume
    | some newName => buildPVCVolumeSource volume newName hotpluggable

/-- The VM with its volumes swapped and the update strategy set (`vmCopy`). -/
def swapVolumes (vm : VM) : VM :=
  { vm with
    spec := vm.spec.map fun spec => { spec with volumes := spec.volumes.map (swapVolume entries) }
    updateVolumesStrategy := some .migration }

end

section

variable (c : Cluster) (update : VM → Except Err VM)

/-- `clearMigrationWait`; a VM that does not migrate yet is looked at again later. -/
def clearMigrationWait (vm : VM) : Except Err VM :=
  if vm.printableStatus = .migrating then
    if vm.waitingStorageMigration.isSome then update { vm with waitingStorageMigration := none }
    else .ok vm
  else .ok vm

/-- The volumes are swapped. -/
def setTargetVolumeStrategy (vm : VM) : Except Err VM :=
  if vm.deleting ∨ vm.spec = none ∨ vm.templates = "" then .ok vm
  else do
    let entries ← c.unmarshalVolumeClaimTemplates vm.templates
    if withTarget entries = [] then return vm
    else if swapVolumes entries vm = vm then clearMigrationWait update vm
    else update { swapVolumes entries vm with waitingStorageMigration := some "true" }

end

/-! ### What the validator makes sure of -/

/-- What the check of an entry with a target makes sure of. -/
structure TargetChecked (vm : VM) (entry : Entry) : Prop where
  name_ne : entry.name ≠ ""
  mounted : entry.targetVolume ∈ vm.claims ∨ entry.name ∈ vm.claims ∧ vm.printableStatus = .running

section

variable {c : Cluster} {caches : Caches} {vm : VM} {entry : Entry} {entries : List Entry}

theorem targetChecked_of_ok (h : validateTargetVolumeEntry caches vm entry = .ok ()) :
    TargetChecked vm entry := by
  simp only [validateTargetVolumeEntry, except_bind_unit_eq_ok, rejectIf_eq_ok,
    decide_eq_false_iff_not] at h
  refine ⟨h.1, ?_⟩
  by_cases hmem : entry.targetVolume ∈ vm.claims
  · exact .inl hmem
  have hchecks := h.2
  rw [if_neg hmem] at hchecks
  simp only [except_bind_unit_eq_ok, rejectIf_eq_ok, Bool.not_eq_false', List.contains_iff_mem,
    decide_eq_false_iff_not, not_not] at hchecks
  exact .inr ⟨hchecks.2.1, hchecks.2.2.1⟩

theorem checkTargetVolumeEntries_eq_ok {count : Nat}
    (h : checkTargetVolumeEntries caches vm count entries = .ok ()) :
    withTarget entries = [] ∨
      ∃ entry, count = 0 ∧ withTarget entries = [entry] ∧ TargetChecked vm entry := by
  induction entries generalizing count with
  | nil => exact .inl rfl
  | cons entry entries ih =>
    by_cases htarget : entry.targetVolume = ""
    · rw [checkTargetVolumeEntries, if_pos htarget] at h
      have hskip : withTarget (entry :: entries) = withTarget entries := by
        simp [withTarget, htarget]
      exact hskip ▸ ih h
    · rw [checkTargetVolumeEntries, if_neg htarget] at h
      simp only [except_bind_unit_eq_ok, rejectIf_eq_ok, decide_eq_false_iff_not] at h
      obtain ⟨hcount, hentry, hrest⟩ := h
      rcases ih hrest with hnil | ⟨_, hcount', -⟩
      · refine .inr ⟨entry, by omega, ?_, targetChecked_of_ok hentry⟩
        simpa [withTarget, htarget] using hnil
      · omega

/-- **At most one entry of an admitted annotation has a target**, and this entry has been checked.
-/
theorem checkTargetVolumes_eq_ok (h : checkTargetVolumes c caches vm = .ok ()) :
    ∃ entries, c.unmarshalVolumeClaimTemplates vm.templates = .ok entries ∧
      (withTarget entries = [] ∨
        ∃ entry, withTarget entries = [entry] ∧ TargetChecked vm entry) := by
  obtain ⟨entries, hentries, hloop⟩ := except_bind_eq_ok.1 h
  refine ⟨entries, except_mapError_eq_ok.1 hentries, ?_⟩
  rcases checkTargetVolumeEntries_eq_ok hloop with hnil | ⟨entry, -, hone, hchecked⟩
  · exact .inl hnil
  · exact .inr ⟨entry, hone, hchecked⟩

end

/-! ### Swapping one volume -/

theorem map_eq_self {α : Type} {f : α → α} {l : List α} :
    l.map f = l ↔ ∀ a ∈ l, f a = a := by
  simpa using List.map_inj_left (g := id)

theorem nodup_map_replace {l : List String} (hl : l.Nodup) {a b : String} :
    (l.map fun x => if x = a then b else x).Nodup ↔ (b ∈ l → a ∈ l → a = b) := by
  rw [List.nodup_map_iff_inj_on hl]
  constructor
  · intro hinj hb ha
    refine hinj a ha b hb ?_
    by_cases hba : b = a <;> simp
  · intro himp x hx y hy hxy
    by_cases hxa : x = a <;> by_cases hya : y = a
    · rw [hxa, hya]
    · subst hxa
      simp only [hya] at hxy
      subst hxy
      exact himp hy hx
    · subst hya
      simp only [hxa, if_false] at hxy
      subst hxy
      exact (himp hx hy).symm
    · simpa [hxa, hya] using hxy

section

variable {entries : List Entry} {entry : Entry}

theorem volumes_swapVolumes (vm : VM) :
    (swapVolumes entries vm).volumes = vm.volumes.map (swapVolume entries) := by
  cases hspec : vm.spec <;> simp [swapVolumes, VM.volumes, hspec]

theorem targetOf_of_withTarget (hone : withTarget entries = [entry]) (claimName : String) :
    targetOf entries claimName =
      if entry.name = claimName then some entry.targetVolume else none := by
  by_cases h : entry.name = claimName <;> simp [targetOf, hone]

variable (hone : withTarget entries = [entry]) (hname : entry.name ≠ "")

include hone hname

/-- What the swap does to a volume, when the only target is the one for `entry`. -/
theorem swapVolume_of_withTarget (volume : Volume) :
    swapVolume entries volume =
      match volume.claim with
      | none => volume
      | some claim =>
        if claim.claimName = entry.name then
          { volume with
            claim := some ⟨entry.targetVolume, false, claim.hotpluggable⟩, dataVolume := none }
        else volume := by
  cases hclaim : volume.claim with
  | none => simp [swapVolume, getVolumeBackingRef, hclaim]
  | some claim =>
    simp only [swapVolume, getVolumeBackingRef, hclaim, targetOf_of_withTarget hone]
    by_cases h : claim.claimName = entry.name
    · simp [h, hname, buildPVCVolumeSource]
    · simp [h, Ne.symm h]

theorem claims_swapVolumes (vm : VM) :
    (swapVolumes entries vm).claims =
      vm.claims.map fun claimName =>
        if claimName = entry.name then entry.targetVolume else claimName := by
  rw [VM.claims, VM.claims, volumes_swapVolumes, List.filterMap_map, List.map_filterMap]
  congr 1
  funext volume
  rw [Function.comp_apply, swapVolume_of_withTarget hone hname]
  cases hclaim : volume.claim with
  | none => simp [hclaim]
  | some claim => by_cases h : claim.claimName = entry.name <;> simp [h, hclaim]

theorem swapVolume_idem (volume : Volume) :
    swapVolume entries (swapVolume entries volume) = swapVolume entries volume := by
  rw [swapVolume_of_withTarget hone hname volume]
  cases hclaim : volume.claim with
  | none => simp [swapVolume_of_withTarget hone hname, hclaim]
  | some claim =>
    by_cases h : claim.claimName = entry.name
    · -- The volume is now the target; it is the source again only when the two are the same.
      by_cases hself : entry.targetVolume = entry.name <;>
        simp [swapVolume_of_withTarget hone hname, h]
    · simp [swapVolume_of_withTarget hone hname, h, hclaim]

theorem swapVolumes_idem (vm : VM) :
    swapVolumes entries (swapVolumes entries vm) = swapVolumes entries vm := by
  have hcomp : swapVolume entries ∘ swapVolume entries = swapVolume entries :=
    funext fun volume => swapVolume_idem hone hname volume
  cases hspec : vm.spec <;> simp [swapVolumes, hspec, hcomp]

end

/-! ### The reconcile -/

/-- The VM is as the controller wants it: nothing is left to swap. -/
def Settled (entries : List Entry) (vm : VM) : Prop :=
  vm.updateVolumesStrategy = some .migration ∧
    ∀ volume ∈ vm.volumes, swapVolume entries volume = volume

/-- The VM after a reconcile with a target. -/
def reconciled (entries : List Entry) (vm : VM) : VM :=
  if swapVolumes entries vm = vm then
    if vm.printableStatus = .migrating then { vm with waitingStorageMigration := none } else vm
  else { swapVolumes entries vm with waitingStorageMigration := some "true" }

section

variable {c : Cluster} {vm : VM} {entries : List Entry} {entry : Entry}

theorem reconciled_of_eq (h : swapVolumes entries vm = vm) :
    reconciled entries vm =
      if vm.printableStatus = .migrating then { vm with waitingStorageMigration := none } else vm :=
  if_pos h

theorem swapVolumes_eq_self : swapVolumes entries vm = vm ↔ Settled entries vm := by
  obtain ⟨base, spec, strategy, waiting, imported, label, status⟩ := vm
  cases spec with
  | none => simp [swapVolumes, Settled, VM.volumes, eq_comm]
  | some spec =>
    obtain ⟨disks, volumes, interfaces, networks⟩ := spec
    simp only [swapVolumes, Settled, VM.volumes, Option.map_some, Option.elim_some, VM.mk.injEq,
      Option.some.injEq, Spec.mk.injEq, map_eq_self, true_and, and_true]
    rw [and_comm, eq_comm]

theorem templates_ne_of_withTarget
    (hentries : c.unmarshalVolumeClaimTemplates vm.templates = .ok entries)
    (htarget : withTarget entries ≠ []) : vm.templates ≠ "" := by
  intro hempty
  rw [Cluster.unmarshalVolumeClaimTemplates, if_pos hempty] at hentries
  cases hentries
  exact htarget rfl

theorem setTargetVolumeStrategy_eq (hlive : vm.deleting = false) (hspec : vm.spec ≠ none)
    (hentries : c.unmarshalVolumeClaimTemplates vm.templates = .ok entries)
    (htarget : withTarget entries ≠ []) :
    setTargetVolumeStrategy c .ok vm = .ok (reconciled entries vm) := by
  have htext := templates_ne_of_withTarget hentries htarget
  rw [setTargetVolumeStrategy, if_neg (by simp [hlive, hspec, htext]), hentries]
  show (if withTarget entries = [] then _ else _) = _
  rw [if_neg htarget]
  unfold reconciled clearMigrationWait
  by_cases hsame : swapVolumes entries vm = vm
  · rw [if_pos hsame, if_pos hsame]
    by_cases hmigrating : vm.printableStatus = .migrating
    · rw [if_pos hmigrating, if_pos hmigrating]
      cases hwait : vm.waitingStorageMigration with
      | none => simp [← hwait]
      | some mark => simp
    · rw [if_neg hmigrating, if_neg hmigrating]
  · rw [if_neg hsame, if_neg hsame]

theorem reconciled_printableStatus :
    (reconciled entries vm).printableStatus = vm.printableStatus := by
  unfold reconciled
  split
  · split <;> rfl
  · rfl

theorem reconciled_spec : (reconciled entries vm).spec = (swapVolumes entries vm).spec := by
  unfold reconciled
  split
  next hsame =>
    rw [hsame]
    split <;> rfl
  · rfl

section

variable (hone : withTarget entries = [entry]) (hname : entry.name ≠ "")

include hone hname

theorem reconciled_claims :
    (reconciled entries vm).claims = vm.claims.map fun claimName =>
      if claimName = entry.name then entry.targetVolume else claimName := by
  rw [← claims_swapVolumes hone hname vm, VM.claims, VM.volumes, reconciled_spec]
  rfl

theorem swapVolumes_reconciled :
    swapVolumes entries (reconciled entries vm) = reconciled entries vm := by
  unfold reconciled
  split
  next hsame =>
    split
    · exact congrArg (fun vm : VM => { vm with waitingStorageMigration := none }) hsame
    · exact hsame
  · exact congrArg (fun vm : VM => { vm with waitingStorageMigration := some "true" })
      (swapVolumes_idem hone hname vm)

theorem reconciled_twice :
    reconciled entries (reconciled entries vm) = reconciled entries vm ↔
      (vm.printableStatus = .migrating → Settled entries vm) := by
  rw [← swapVolumes_eq_self]
  have hsecond : reconciled entries (reconciled entries vm) =
      if vm.printableStatus = .migrating then
        { reconciled entries vm with waitingStorageMigration := none }
      else reconciled entries vm := by
    rw [reconciled_of_eq (swapVolumes_reconciled hone hname)]
    simp only [reconciled_printableStatus]
  rw [hsecond]
  by_cases hmigrating : vm.printableStatus = .migrating
  · rw [if_pos hmigrating]
    by_cases hsame : swapVolumes entries vm = vm
    · simp [reconciled_of_eq hsame, hsame, hmigrating]
    · have hwait : (reconciled entries vm).waitingStorageMigration = some "true" := by
        rw [reconciled, if_neg hsame]
      refine iff_of_false (fun heq => ?_) (fun himp => hsame (himp hmigrating))
      have := congrArg VM.waitingStorageMigration heq
      simp [hwait] at this
  · simp [hmigrating]

end

/-! ### When the swap is correct -/

/-- What the swap is for. -/
structure SwapCorrect (c : Cluster) (vm vm' : VM) : Prop where
  distinct : vm'.claims.Nodup
  mounted : ∀ entries, c.unmarshalVolumeClaimTemplates vm.templates = .ok entries →
    ∀ entry ∈ withTarget entries, entry.targetVolume ∈ vm'.claims
  /-- A second reconcile makes no further change. -/
  stable : setTargetVolumeStrategy c .ok vm' = .ok vm'

/-- The target is not mounted beside its source, and a VM that is migrating has been swapped before.
A VM that is being deleted is left alone. -/
def SwapSafe (entries : List Entry) (vm : VM) (entry : Entry) : Prop :=
  if vm.deleting then entry.targetVolume ∈ vm.claims
  else (entry.targetVolume ∈ vm.claims → entry.name ∈ vm.claims → entry.name = entry.targetVolume) ∧
    (vm.printableStatus = .migrating → Settled entries vm)

theorem TargetChecked.spec_ne (h : TargetChecked vm entry) : vm.spec ≠ none := by
  intro hspec
  have hclaims : vm.claims = [] := by simp [VM.claims, VM.volumes, hspec]
  rcases h.mounted with hmem | ⟨hmem, -⟩ <;> simp [hclaims] at hmem

theorem TargetChecked.mounted_reconciled (h : TargetChecked vm entry)
    (hone : withTarget entries = [entry]) :
    entry.targetVolume ∈ (reconciled entries vm).claims := by
  rw [reconciled_claims hone h.name_ne]
  rcases h.mounted with hmem | ⟨hmem, -⟩
  · exact List.mem_map.2 ⟨_, hmem, by simp⟩
  · exact List.mem_map.2 ⟨_, hmem, by simp⟩

theorem swapCorrect_self (hself : setTargetVolumeStrategy c .ok vm = .ok vm)
    (hdistinct : vm.claims.Nodup) :
    (∃ vm', setTargetVolumeStrategy c .ok vm = .ok vm' ∧ SwapCorrect c vm vm') ↔
      ∀ entries, c.unmarshalVolumeClaimTemplates vm.templates = .ok entries →
        ∀ entry ∈ withTarget entries, entry.targetVolume ∈ vm.claims := by
  constructor
  · rintro ⟨vm', hvm', hcorrect⟩
    obtain rfl : vm = vm' := Except.ok.inj (hself.symm.trans hvm')
    exact hcorrect.mounted
  · exact fun hmounted => ⟨vm, hself, hdistinct, hmounted, hself⟩

theorem swapCorrect_one (hlive : vm.deleting = false) (hdistinct : vm.claims.Nodup)
    (hentries : c.unmarshalVolumeClaimTemplates vm.templates = .ok entries)
    (hone : withTarget entries = [entry]) (hchecked : TargetChecked vm entry) :
    (∃ vm', setTargetVolumeStrategy c .ok vm = .ok vm' ∧ SwapCorrect c vm vm') ↔
      (entry.targetVolume ∈ vm.claims → entry.name ∈ vm.claims → entry.name = entry.targetVolume) ∧
        (vm.printableStatus = .migrating → Settled entries vm) := by
  have htarget : withTarget entries ≠ [] := by simp [hone]
  have hfirst := setTargetVolumeStrategy_eq hlive hchecked.spec_ne hentries htarget
  have hkeep : (reconciled entries vm).toVM = vm.toVM ∧
      ((reconciled entries vm).spec = none ↔ vm.spec = none) := by
    unfold reconciled
    split
    · split <;> exact ⟨rfl, Iff.rfl⟩
    · simp [swapVolumes]
  have hsecond : setTargetVolumeStrategy c .ok (reconciled entries vm) =
      .ok (reconciled entries (reconciled entries vm)) := by
    refine setTargetVolumeStrategy_eq (by rw [hkeep.1, hlive]) ?_ (by rw [hkeep.1, hentries])
      htarget
    exact fun hspec => hchecked.spec_ne (hkeep.2.1 hspec)
  rw [← nodup_map_replace hdistinct, ← reconciled_claims hone hchecked.name_ne,
    ← reconciled_twice hone hchecked.name_ne]
  constructor
  · rintro ⟨vm', hvm', hcorrect⟩
    obtain rfl : reconciled entries vm = vm' := Except.ok.inj (hfirst.symm.trans hvm')
    exact ⟨hcorrect.distinct, Except.ok.inj (hsecond.symm.trans hcorrect.stable)⟩
  · rintro ⟨hnodup, htwice⟩
    refine ⟨_, hfirst, hnodup, fun entries' hentries' entry' hentry' => ?_, by rw [hsecond, htwice]⟩
    obtain rfl : entries = entries' := Except.ok.inj (hentries.symm.trans hentries')
    rw [hone, List.mem_singleton] at hentry'
    exact hentry' ▸ hchecked.mounted_reconciled hone

/-- **When the swap of an admitted target is correct.** -/
theorem swap_correct_iff {caches : Caches} (hdistinct : vm.claims.Nodup)
    (hadmitted : checkTargetVolumes c caches vm = .ok ()) :
    (∃ vm', setTargetVolumeStrategy c .ok vm = .ok vm' ∧ SwapCorrect c vm vm') ↔
      ∀ entries, c.unmarshalVolumeClaimTemplates vm.templates = .ok entries →
        ∀ entry ∈ withTarget entries, SwapSafe entries vm entry := by
  obtain ⟨entries, hentries, hnil | ⟨entry, hone, hchecked⟩⟩ := checkTargetVolumes_eq_ok hadmitted
  · -- No entry has a target.
    have hself : setTargetVolumeStrategy c .ok vm = .ok vm := by
      unfold setTargetVolumeStrategy
      split
      · rfl
      · rw [hentries]
        exact if_pos hnil
    rw [swapCorrect_self hself hdistinct]
    simp [hentries, hnil]
  · have hforall : ∀ P : List Entry → Entry → Prop,
        (∀ entries', c.unmarshalVolumeClaimTemplates vm.templates = .ok entries' →
          ∀ entry' ∈ withTarget entries', P entries' entry') ↔ P entries entry := by
      simp [hentries, hone]
    rw [hforall fun entries entry => SwapSafe entries vm entry]
    cases hdel : vm.deleting with
    | true =>
      have hself : setTargetVolumeStrategy c .ok vm = .ok vm := by
        rw [setTargetVolumeStrategy, if_pos (.inl hdel)]
      rw [swapCorrect_self hself hdistinct, hforall fun _ entry => entry.targetVolume ∈ vm.claims]
      simp [SwapSafe, hdel]
    | false =>
      rw [swapCorrect_one hdel hdistinct hentries hone hchecked]
      simp [SwapSafe, hdel]

end

namespace TargetSample

/-- The entry for `a`, which is to be migrated to `b`. -/
def entry : Entry := BaseSample.entry "a" "b"

def cluster : Cluster :=
  { BaseSample.cluster with
    unmarshal data := .ok (if data = "a to b" then [entry]
      else [{ entry with targetVolume := "" }]) }

def volume (claimName : String) : Volume := ⟨claimName, some ⟨claimName, false, false⟩, none⟩

/-- A running VM with the claims as volumes. -/
def vm (claims : List String) (templates : String) : VM :=
  { BaseSample.vm "vm" templates
      { disks := claims.map fun claim => ⟨claim, false, none, "", none⟩
        volumes := claims.map volume
        interfaces := []
        networks := [] } with
    printableStatus := .running }

/-- The PVC `a` or `b`. -/
def pvc (name : String) : PVC where
  ns := "default"
  name := name
  storageClassName := none
  storage := 10
  accessModes := [.readWriteOnce]
  volumeMode := some .block
  betaProvisioner := none
  provisioner := none
  goldenImage := none

/-- Both PVCs exist. -/
def pvcs : Store PVC.key := (Store.empty.put (pvc "a")).put (pvc "b")

/-- The caches before the update of the VM. -/
def caches (claims : List String) : Caches := ⟨pvcs.lookup .notFound, [vm claims "a"]⟩

end TargetSample

open TargetSample in
/-- The migration of the only volume `a` to `b`. -/
theorem swap_correct_iff_sample :
    ∃ vm', setTargetVolumeStrategy cluster .ok (TargetSample.vm ["a"] "a to b") = .ok vm' ∧
      SwapCorrect cluster (TargetSample.vm ["a"] "a to b") vm' := by
  have hadmitted : checkTargetVolumes cluster (caches ["a"])
      (TargetSample.vm ["a"] "a to b") = .ok () := by decide
  refine (swap_correct_iff (by decide) hadmitted).2 ?_
  intro entries hentries entry hentry
  obtain rfl : [TargetSample.entry] = entries := Except.ok.inj hentries
  obtain rfl : entry = TargetSample.entry := by simpa using List.mem_of_mem_filter hentry
  exact ⟨by decide, fun hmigrating => by cases hmigrating⟩

open TargetSample in
/-- **A VM that mounts `a` and `b`, with the target `b` for `a`, ends up with `b` mounted twice.**
-/
theorem target_mounted_twice :
    validate cluster (caches ["a", "b"]) BaseSample.rest "user"
      (.update (vm ["a", "b"] "a") (vm ["a", "b"] "a to b")) = .ok () ∧
    checkTargetVolumes cluster (caches ["a", "b"])
      (vm ["a", "b"] "a to b") = .ok () ∧
    (vm ["a", "b"] "a to b").claims.Nodup ∧
    (setTargetVolumeStrategy cluster .ok (vm ["a", "b"] "a to b")).map
      VM.claims = .ok ["b", "b"] := by
  decide

end Validator

end VirtualMachine

end Harvester
