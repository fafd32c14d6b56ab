import Harvester.Control.Machine
import Harvester.VirtualMachine.Validator

/-!
# Who uses a volume

VMs are created and updated one after the other, each request being admitted by the validator with
caches that are up to date, while PVCs come into being.  A PVC that is not shareable is to be used
by one VM only.

A PVC that does not exist yet is taken for one that the controller will create for the VM, and two
VMs can name it (`two_vms_name_a_claim`).  When two VMs use a PVC that is not shareable, it was
created after both of them were admitted (`shared_claim_created_last`).  Each VM is dated by its
last admission and each PVC by its creation.
-/

namespace Harvester

namespace VirtualMachine

namespace Validator

open Control

/-- The VM uses the claim through one of its disks. -/
def VM.Uses (vm : VM) (claimName : String) : Prop :=
  ∃ disk ∈ vm.disks, claimByName vm.volumes disk.name = some claimName
  deriving Decidable

theorem exists_volume_of_claimByName {volumes : List Volume} {name claimName : String}
    (h : claimByName volumes name = some claimName) :
    ∃ volume ∈ volumes, volume.name = name ∧
      ∃ claim, volume.claim = some claim ∧ claim.claimName = claimName := by
  obtain ⟨volume, hfind, hclaim⟩ := Option.bind_eq_some_iff.1 h
  obtain ⟨claim, hclaim, hname⟩ := Option.map_eq_some_iff.1 hclaim
  have hvolume := List.find?_some hfind
  simp only [decide_eq_true_eq] at hvolume
  exact ⟨volume, List.mem_reverse.1 (List.mem_of_find?_eq_some hfind), hvolume.2, claim, hclaim,
    hname⟩

/-- A VM that uses a claim is in the index of the claim, or has a shareable disk for it. -/
theorem VM.Uses.indexed_or_shareable {vm : VM} {claimName : String} (h : vm.Uses claimName)
    (hne : claimName ≠ "") :
    claimName ∈ vmByNonShareablePVC vm ∨
      ∃ disk ∈ vm.disks, disk.shareable = true ∧
        claimByName vm.volumes disk.name = some claimName := by
  obtain ⟨disk, hdisk, hclaim⟩ := h
  by_cases hshare : disk.shareable = true
  · exact .inr ⟨disk, hdisk, hshare, hclaim⟩
  obtain ⟨volume, hvolume, hname, claim, hsource, rfl⟩ := exists_volume_of_claimByName hclaim
  refine .inl (List.mem_filterMap.2 ⟨volume, hvolume, ?_⟩)
  have hmem : volume.name ∈ (vm.disks.filter fun disk => !disk.shareable).map Disk.name :=
    hname ▸ List.mem_map_of_mem (List.mem_filter.2 ⟨hdisk, by simpa using hshare⟩)
  simp [hsource, hne, hmem]

section

variable {c : Cluster} {caches : Caches} {vm : VM}

/-- **No other VM is in the index of a PVC of an admitted VM**, unless the PVC is shareable. -/
theorem checkOccupiedPVCs_eq_ok (h : checkOccupiedPVCs c caches vm = .ok ()) {claimName : String}
    (huses : vm.Uses claimName) {pvc : PVC} (hpvc : caches.pvcs.find ⟨vm.ns, claimName⟩ = .ok pvc)
    (hshare : shareable c pvc = false) {other : VM} (hother : other ∈ caches.vms)
    (hns : other.ns = vm.ns) (hindex : claimName ∈ vmByNonShareablePVC other) :
    other.key = vm.key := by
  obtain ⟨disk, -, hclaim⟩ := huses
  obtain ⟨volume, hvolume, -, claim, hsource, rfl⟩ := exists_volume_of_claimByName hclaim
  unfold checkOccupiedPVCs at h
  cases hspec : vm.spec with
  | none => simp [hspec] at h
  | some spec =>
    simp only [hspec] at h
    have hcheck := checkEach_eq_ok.1 h volume (by simpa [VM.volumes, hspec] using hvolume)
    simp only [checkOccupiedPVC, hsource] at hcheck
    have hblock := except_mapError_eq_ok.1 hcheck
    rw [checkBlockRWXVolumeForVM,
      show caches.pvcs.find ⟨vm.key.ns, _⟩ = .ok pvc from hpvc] at hblock
    simp only [hshare, Bool.false_eq_true, if_false] at hblock
    split at hblock
    · cases hblock
    next hany =>
    by_contra hne
    refine hany (List.any_eq_true.2 ⟨other, List.mem_filter.2 ⟨hother, ?_⟩, by simpa using hne⟩)
    simpa using ⟨hns, hindex⟩

/-- **The PVC of a shareable disk of an admitted VM exists and is shareable.** -/
theorem checkShareableVolumes_eq_ok (h : checkShareableVolumes c caches vm = .ok ()) {disk : Disk}
    (hdisk : disk ∈ vm.disks) (hshare : disk.shareable = true) {claimName : String}
    (hclaim : claimByName vm.volumes disk.name = some claimName) :
    ∃ pvc, caches.pvcs.find ⟨vm.ns, claimName⟩ = .ok pvc ∧ shareable c pvc = true := by
  cases hspec : vm.spec with
  | none => simp [VM.disks, hspec] at hdisk
  | some spec =>
    simp only [checkShareableVolumes, hspec] at h
    simp only [VM.disks, VM.volumes, hspec, Option.elim_some] at hdisk hclaim
    obtain ⟨i, hi⟩ := List.mem_iff_getElem?.1 hdisk
    have hcheck := checkEach_eq_ok.1 h (disk, i) (List.mk_mem_zipIdx_iff_getElem?.2 hi)
    simp only [checkShareableDisk, hshare, Bool.not_true, Bool.false_eq_true, if_false, hclaim,
      except_bind_unit_eq_ok] at hcheck
    have hvolume := except_mapError_eq_ok.1 hcheck.2.2
    unfold checkShareableVolume at hvolume
    split at hvolume
    · split at hvolume <;> cases hvolume
    next pvc hpvc =>
    refine ⟨pvc, hpvc, ?_⟩
    by_contra hnot
    rw [if_pos (by simpa using hnot)] at hvolume
    cases hvolume

end

/-- A VM with the date of its last admission. -/
structure Admitted where
  vm : VM
  date : Nat
  deriving DecidableEq, Repr

/-- The key of a VM. -/
def Admitted.key (a : Admitted) : Key := a.vm.key

/-- A PVC with the date of its creation. -/
structure Created where
  pvc : PVC
  date : Nat
  deriving DecidableEq, Repr

/-- The key of a PVC. -/
def Created.key (p : Created) : Key := p.pvc.key

/-- VMs, PVCs and the time. -/
structure System where
  vms : Store Admitted.key
  pvcs : Store Created.key
  clock : Nat

/-- Nothing exists. -/
def System.init : System := ⟨.empty, .empty, 0⟩

/-- Caches that are up to date. -/
def System.caches (s : System) : Caches where
  pvcs := {
    find k := (s.pvcs.get k).elim (.error (.notFound k)) fun p => .ok p.pvc
    key_of_find {k pvc} h := by
      cases hget : s.pvcs.get k with
      | none => simp [hget] at h
      | some p =>
        simp only [hget, Option.elim_some, Except.ok.injEq] at h
        have hkey : p.key = k := Store.key_of_get hget
        exact h ▸ hkey }
  vms := s.vms.objs.map Admitted.vm

/-- The PVC that the VM controller creates for an entry of the annotation. -/
def Entry.pvc (entry : Entry) (ns : String) : PVC where
  ns := ns
  name := entry.name
  storageClassName := entry.storageClassName
  storage := entry.storage
  accessModes := entry.accessModes
  volumeMode := entry.volumeMode
  betaProvisioner := none
  provisioner := none
  goldenImage := none

/-- Requests and creations. -/
inductive Event where
  | request (rest : Rest) (user : String) (r : Request)
  | deleteVM (key : Key)
  /-- The VM controller, or anyone else, creates a PVC. -/
  | createPVC (pvc : PVC)

/-- The request is about the VM as it is stored. -/
def System.matches (s : System) : Request → Bool
  | .create vm => (s.vms.get vm.key).isNone
  | .update oldVM newVM =>
    oldVM.key = newVM.key && (s.vms.get oldVM.key).map Admitted.vm = some oldVM

/-- A request is carried out when it is admitted and the API server accepts the object. -/
def next (c : Cluster) (s : System) : Event → Option System
  | .request rest user r =>
    match validate c s.caches rest user r with
    | .error _ => none
    | .ok () =>
      if s.matches r then some { s with vms := s.vms.put ⟨r.vm, s.clock⟩, clock := s.clock + 1 }
      else none
  | .deleteVM key => some { s with vms := s.vms.delete key }
  | .createPVC pvc =>
    if pvc.name ≠ "" ∧ (s.pvcs.get pvc.key).isNone then
      some { s with pvcs := s.pvcs.put ⟨pvc, s.clock⟩, clock := s.clock + 1 }
    else none

/-- The system. -/
def machine (c : Cluster) : Machine System Event := ⟨next c⟩

section

variable {c : Cluster} {s s' : System}

/-- Two VMs of the namespace of a PVC use it, and it is not shareable. -/
structure Shared (c : Cluster) (s : System) (a b : Admitted) (p : Created) : Prop where
  fst_mem : a ∈ s.vms.objs
  snd_mem : b ∈ s.vms.objs
  pvc_mem : p ∈ s.pvcs.objs
  ne : a.key ≠ b.key
  fst_ns : a.vm.ns = p.pvc.ns
  snd_ns : b.vm.ns = p.pvc.ns
  fst_uses : a.vm.Uses p.pvc.name
  snd_uses : b.vm.Uses p.pvc.name
  not_shareable : shareable c p.pvc = false

theorem Shared.symm {a b : Admitted} {p : Created} (h : Shared c s a b p) : Shared c s b a p :=
  ⟨h.snd_mem, h.fst_mem, h.pvc_mem, h.ne.symm, h.snd_ns, h.fst_ns, h.snd_uses, h.fst_uses,
    h.not_shareable⟩

/-- What holds after every run. -/
structure Inv (c : Cluster) (s : System) : Prop where
  admitted_lt : ∀ a ∈ s.vms.objs, a.date < s.clock
  named : ∀ p ∈ s.pvcs.objs, p.pvc.name ≠ ""
  /-- The PVC of a shareable disk exists and is shareable. -/
  disks : ∀ a ∈ s.vms.objs, ∀ disk ∈ a.vm.disks, disk.shareable = true → ∀ claimName,
    claimByName a.vm.volumes disk.name = some claimName →
    ∃ p, s.pvcs.get ⟨a.vm.ns, claimName⟩ = some p ∧ shareable c p.pvc = true
  created_last : ∀ a b p, Shared c s a b p → a.date < p.date

theorem find_caches {k : Key} {pvc : PVC} :
    s.caches.pvcs.find k = .ok pvc ↔ ∃ p, s.pvcs.get k = some p ∧ p.pvc = pvc := by
  cases hget : s.pvcs.get k <;> simp [System.caches, hget]

theorem Inv.indexed (h : Inv c s) {a : Admitted} (ha : a ∈ s.vms.objs) {p : Created}
    (hp : p ∈ s.pvcs.objs) (hns : a.vm.ns = p.pvc.ns) (huses : a.vm.Uses p.pvc.name)
    (hshare : shareable c p.pvc = false) : p.pvc.name ∈ vmByNonShareablePVC a.vm := by
  rcases huses.indexed_or_shareable (h.named p hp) with hindex | ⟨disk, hdisk, hdshare, hclaim⟩
  · exact hindex
  obtain ⟨q, hq, hqshare⟩ := h.disks a ha disk hdisk hdshare _ hclaim
  have hget : s.pvcs.get ⟨a.vm.ns, p.pvc.name⟩ = some p := hns ▸ Store.get_of_mem hp
  obtain rfl : p = q := Option.some.inj (hget.symm.trans hq)
  simp [hshare] at hqshare

theorem Inv.not_occupied (h : Inv c s) {vm : VM} (hvm : checkOccupiedPVCs c s.caches vm = .ok ())
    {b : Admitted} (hb : b ∈ s.vms.objs) (hne : b.key ≠ vm.key) {p : Created}
    (hp : p ∈ s.pvcs.objs) (hns : vm.ns = p.pvc.ns) (hbns : b.vm.ns = p.pvc.ns)
    (huses : vm.Uses p.pvc.name) (hbuses : b.vm.Uses p.pvc.name) : shareable c p.pvc = true := by
  by_contra hshare
  rw [Bool.not_eq_true] at hshare
  have hget : s.pvcs.get ⟨vm.ns, p.pvc.name⟩ = some p := hns ▸ Store.get_of_mem hp
  exact hne (checkOccupiedPVCs_eq_ok hvm huses (find_caches.2 ⟨p, hget, rfl⟩) hshare
    (List.mem_map_of_mem hb) (hbns.trans hns.symm) (h.indexed hb hp hbns hbuses hshare))

theorem Inv.request (h : Inv c s) {vm : VM} (hocc : checkOccupiedPVCs c s.caches vm = .ok ())
    (hshare : checkShareableVolumes c s.caches vm = .ok ()) :
    Inv c { s with vms := s.vms.put ⟨vm, s.clock⟩, clock := s.clock + 1 } where
  admitted_lt a ha := by
    rcases Store.mem_put.1 ha with rfl | ⟨ha, -⟩
    · exact Nat.lt_succ_self _
    · exact Nat.lt_succ_of_lt (h.admitted_lt a ha)
  named := h.named
  disks a ha disk hdisk hdshare claimName hclaim := by
    rcases Store.mem_put.1 ha with rfl | ⟨ha, -⟩
    · obtain ⟨pvc, hfind, hpvc⟩ := checkShareableVolumes_eq_ok hshare hdisk hdshare hclaim
      obtain ⟨p, hget, rfl⟩ := find_caches.1 hfind
      exact ⟨p, hget, hpvc⟩
    · exact h.disks a ha disk hdisk hdshare claimName hclaim
  created_last a b p hab := by
    -- Only a pair of VMs that were both there before can share the PVC.
    rcases Store.mem_put.1 hab.fst_mem with rfl | ⟨ha, hane⟩
    · rcases Store.mem_put.1 hab.snd_mem with rfl | ⟨hb, hbne⟩
      · exact absurd rfl hab.ne
      · have := h.not_occupied hocc hb hbne hab.pvc_mem hab.fst_ns hab.snd_ns hab.fst_uses
          hab.snd_uses
        simp [hab.not_shareable] at this
    · rcases Store.mem_put.1 hab.snd_mem with rfl | ⟨hb, -⟩
      · have := h.not_occupied hocc ha hane hab.pvc_mem hab.snd_ns hab.fst_ns hab.snd_uses
          hab.fst_uses
        simp [hab.not_shareable] at this
      · exact h.created_last a b p { hab with fst_mem := ha, snd_mem := hb }

theorem Inv.createPVC (h : Inv c s) {pvc : PVC} (hname : pvc.name ≠ "")
    (hnew : s.pvcs.get pvc.key = none) :
    Inv c { s with pvcs := s.pvcs.put ⟨pvc, s.clock⟩, clock := s.clock + 1 } where
  admitted_lt a ha := Nat.lt_succ_of_lt (h.admitted_lt a ha)
  named p hp := by
    rcases Store.mem_put.1 hp with rfl | ⟨hp, -⟩
    · exact hname
    · exact h.named p hp
  disks a ha disk hdisk hdshare claimName hclaim := by
    obtain ⟨p, hget, hpshare⟩ := h.disks a ha disk hdisk hdshare claimName hclaim
    refine ⟨p, ?_, hpshare⟩
    rw [Store.get_put_of_ne _ fun hkey => ?_]
    · exact hget
    · rw [hkey] at hget
      cases hget.symm.trans hnew
  created_last a b p hab := by
    rcases Store.mem_put.1 hab.pvc_mem with rfl | ⟨hp, -⟩
    · exact h.admitted_lt a hab.fst_mem
    · exact h.created_last a b p { hab with pvc_mem := hp }

theorem Inv.deleteVM (h : Inv c s) (key : Key) : Inv c { s with vms := s.vms.delete key } where
  admitted_lt a ha := h.admitted_lt a (List.mem_of_mem_filter ha)
  named := h.named
  disks a ha := h.disks a (List.mem_of_mem_filter ha)
  created_last a b p hab := h.created_last a b p
    { hab with
      fst_mem := List.mem_of_mem_filter hab.fst_mem
      snd_mem := List.mem_of_mem_filter hab.snd_mem }

theorem Inv.next (h : Inv c s) {e : Event} (hnext : next c s e = some s') : Inv c s' := by
  cases e with
  | request rest user r =>
    simp only [Validator.next] at hnext
    split at hnext
    · cases hnext
    next hvalid =>
    obtain ⟨hocc, hshare⟩ := checkVMSpec_of_validate hvalid
    obtain ⟨-, rfl⟩ := Machine.guarded_eq_some.1 hnext
    exact h.request hocc hshare
  | deleteVM key => exact Option.some.inj hnext ▸ h.deleteVM key
  | createPVC pvc =>
    obtain ⟨hnew, rfl⟩ := Machine.guarded_eq_some.1 hnext
    exact h.createPVC hnew.1 (Option.isNone_iff_eq_none.1 hnew.2)

theorem inv_init (c : Cluster) : Inv c .init where
  admitted_lt a ha := by cases ha
  named p hp := by cases hp
  disks a ha := by cases ha
  created_last a b p hab := by cases hab.fst_mem

/-- **A PVC that is not shareable and that two VMs use was created after both VMs were admitted.**
-/
theorem shared_claim_created_last {es : List Event} (hrun : (machine c).run .init es = some s)
    {a b : Admitted} {p : Created} (hab : Shared c s a b p) :
    a.date < p.date ∧ b.date < p.date := by
  have hinv : Inv c s := Machine.run_invariant
    (fun s e s' hs _ hnext => hs.next hnext) (inv_init c) (Machine.along_true _ _) hrun
  exact ⟨hinv.created_last a b p hab, hinv.created_last b a p hab.symm⟩

end

namespace SharedSample

/-- A template for the claim `data`, to be used by one node at a time. -/
def entry : Entry := BaseSample.entry "data" ""

def cluster : Cluster := { BaseSample.cluster with unmarshal _ := .ok [entry] }

/-- A VM with one disk, whose volume is the claim `data`. -/
def vm (name : String) : VM :=
  BaseSample.vm name "data"
    { disks := [⟨"root", false, some 1, "", none⟩]
      volumes := [⟨"root", some ⟨"data", false, false⟩, none⟩]
      interfaces := []
      networks := [] }

/-- Two VMs with the template are created, then the controller creates the PVC. -/
def events : List Event :=
  [.request BaseSample.rest "user" (.create (vm "a")),
    .request BaseSample.rest "user" (.create (vm "b")),
    .createPVC (entry.pvc "default")]

theorem run_shared : ∃ s, (machine cluster).run .init events = some s ∧
    Shared cluster s ⟨vm "a", 0⟩ ⟨vm "b", 1⟩ ⟨entry.pvc "default", 2⟩ := by
  exact ⟨_, Machine.run_get (by decide), by decide, by decide,
    by decide, by decide, rfl, rfl, by decide, by decide, by decide⟩

end SharedSample

open SharedSample in
/-- The PVC of the sample run was created after both VMs were admitted. -/
theorem shared_claim_created_last_sample :
    ∃ s a b p, (machine cluster).run .init events = some s ∧
      Shared cluster s a b p ∧ a.date < p.date ∧ b.date < p.date := by
  obtain ⟨s, hs, hab⟩ := run_shared
  exact ⟨s, _, _, _, hs, hab, shared_claim_created_last hs hab⟩

open SharedSample in
/-- **Two VMs name a claim before it exists, and both use it once it has been created.** -/
theorem two_vms_name_a_claim :
    ∃ s a b p, (machine cluster).run .init events = some s ∧
      Shared cluster s a b p ∧ p.pvc.name ∈ a.vm.claims ∧
      p.pvc.name ∈ b.vm.claims := by
  obtain ⟨s, hs, hab⟩ := run_shared
  exact ⟨s, _, _, _, hs, hab, by decide, by decide⟩

end Validator

end VirtualMachine

end Harvester
