import Harvester.Restore.Lifecycle
import Harvester.Restore.Webhook

/-!
# Which volumes a restore deletes

A restore with the deletion policy `delete` writes the volumes it is going to delete to its status
when it is initialised (`InitVolumesStatus`), and deletes them when it completes (`DeleteOldPVCs`).
The names are those of the VM *the backup was taken from*, in the namespace of the *target* VM.

The status of a restore comes from its creation, from one reconcile (`Cluster.initialised`) or from
later ones (`VMRestore.Evolves`), and VMs may change in between.

* `deletes_exactly_referenced_iff`: what is deleted is what the target VM referenced **iff** the
  names that were listed first are those of its claims just before it was replaced;
* `deletes_no_snapshot_source_iff`: no volume of a VM snapshot is deleted **iff** the names that are
  listed are in the backup.
-/

namespace Harvester

namespace Restore

open Control Action

/-- The answer of a cache that is up to date. -/
def lookup {V : Type} {key : V → Key} (store : Store key) (k : Key) : Except Err V :=
  match store.get k with
  | some v => .ok v
  | none => .error (.notFound k)

namespace Cluster

/-- A reconcile with current caches and without failures. -/
def env (c : Cluster) : Env where
  vmBackup := lookup c.vmBackups
  vm := lookup c.vms
  vmi k := .error (.notFound k)
  pvc := lookup c.pvcs
  secret k := .error (.notFound k)
  volumeSnapshot _ := .ok ""
  volumeCheck _ := .ok ()
  progress _ := .ok 100
  fault _ := .none
  newUID := ""
  now := ""

/-- The cluster as an API server. -/
def server (c : Cluster) : Server where
  vmRestores := c.vmRestores
  vms := c.vms
  pvcs := c.pvcs
  secrets := Store.empty
  resourceVersion := 0
  trace := []

/-- The restore after its initialisation (`InitVMRestore` and `InitVolumesStatus`). -/
def initialised (c : Cluster) (vmr : VMRestore) (vmb : VMBackup) : Except Err VMRestore :=
  let vmr := if vmr.hasStatus then vmr else vmr.withNewStatus c.env.now
  if vmr.isMissingVolumes then withVolumesStatus c.env vmr vmb else .ok vmr

/-- The claims of the VM that a backup was taken from, as the VM is now. -/
def sourceClaims (c : Cluster) (vmb : VMBackup) : List String :=
  match c.vms.get vmb.sourceKey with
  | some vm => vm.spec.claimNames
  | none => []

/-- The names that are going to be deleted: those that the restore was created with, or else the
claims of the VM that the backup was taken from. -/
def listed (c : Cluster) (vmr : VMRestore) (vmb : VMBackup) : List String :=
  if vmr.hasStatus ∧ vmr.status.deletedVolumes ≠ [] then vmr.status.deletedVolumes
  else c.sourceClaims vmb

/-- `DeleteOldPVCs` for `vmr`, with the VM `vm`, deletes exactly the volumes that `before` refers
to. -/
def DeletesExactly (c : Cluster) (vmr : VMRestore) (vm before : VM) : Prop :=
  ∀ k, (c.pvcs.get k).isSome →
    (((deleteOldPVCs c.env vmr vm).run c.server).2.pvcs.get k = none ↔
      k.ns = before.ns ∧ k.name ∈ before.spec.claimNames)

end Cluster

section

variable {c : Cluster}

theorem removePVC_pvcs (key k : Key) (s : Server) :
    ((removePVC key).run s).2.pvcs.get k = if k = key then none else s.pvcs.get k := by
  simp only [run, removePVC]
  split
  · next h =>
    split
    · next hk => rw [hk, h]
    · rfl
  · split
    · next hk => rw [hk]; exact Store.get_delete_self _ _
    · next hk => exact Store.get_delete_of_ne _ hk

theorem deleteOldPVC_run (ns : String) (pvcName : String × Nat) (s : Server)
    (hs : c.pvcs.get ⟨ns, pvcName.1⟩ = none → s.pvcs.get ⟨ns, pvcName.1⟩ = none) :
    ((deleteOldPVC c.env ns pvcName).run s).1 = .ok () ∧
    ∀ k, ((deleteOldPVC c.env ns pvcName).run s).2.pvcs.get k =
      if k = ⟨ns, pvcName.1⟩ then none else s.pvcs.get k := by
  rcases hc : c.pvcs.get ⟨ns, pvcName.1⟩ with _ | pvc
  · have hrun : (deleteOldPVC c.env ns pvcName).run s = (.ok (), s) := by
      simp only [deleteOldPVC, Cluster.env, lookup, hc]
      rfl
    refine ⟨by rw [hrun], fun k => ?_⟩
    rw [hrun]
    split
    · next hk => rw [hk, hs hc]
    · rfl
  · have hkey := Store.key_of_get hc
    have hrun : ((deleteOldPVC c.env ns pvcName).run s) =
        (.ok (), ((removePVC ⟨ns, pvcName.1⟩).run s).2) := by
      simp only [deleteOldPVC, Cluster.env, lookup, hc, hkey, Env.request, request,
        run, removePVC, bind, attempt]
      rcases s.pvcs.get ⟨ns, pvcName.1⟩ with _ | _ <;> rfl
    exact ⟨by rw [hrun], fun k => by rw [hrun]; exact removePVC_pvcs _ k s⟩

theorem forEach_deleteOldPVC_run (ns : String) (names : List (String × Nat)) (s : Server)
    (hs : ∀ k, c.pvcs.get k = none → s.pvcs.get k = none) (k : Key) :
    ((forEach (deleteOldPVC c.env ns) names).run s).2.pvcs.get k =
      if k.ns = ns ∧ k.name ∈ names.map Prod.fst then none else s.pvcs.get k := by
  induction names generalizing s with
  | nil => simp [forEach, run, pure]
  | cons n names ih =>
    obtain ⟨hok, hget⟩ := deleteOldPVC_run ns n s (hs _)
    rw [forEach, run_bind_of_ok hok, ih _ fun k hk => ?_, hget]
    · by_cases hk : k = ⟨ns, n.1⟩
      · subst hk
        simp
      · have hne : ¬ (k.ns = ns ∧ k.name = n.1) := fun h => hk (by cases k; simp_all)
        simp only [List.map_cons, List.mem_cons, hk, if_false, and_or_left, hne, false_or]
    · rw [hget]
      split
      · rfl
      · exact hs k hk

/-- `DeleteOldPVCs` for a restore that replaces a VM and deletes the old volumes. -/
theorem deleteOldPVCs_run {vmr : VMRestore} (hnew : vmr.spec.newVM = false)
    (hpolicy : vmr.spec.deletionPolicy = .delete) (vm : VM) (k : Key) :
    ((deleteOldPVCs c.env vmr vm).run c.server).2.pvcs.get k =
      if k.ns = vm.ns ∧ k.name ∈ vmr.status.deletedVolumes then none else c.pvcs.get k := by
  have hloop : deleteOldPVCs c.env vmr vm =
      forEach (deleteOldPVC c.env vm.ns) vmr.status.deletedVolumes.zipIdx := by
    simp [deleteOldPVCs, hnew, hpolicy]
  have h := forEach_deleteOldPVC_run vm.ns vmr.status.deletedVolumes.zipIdx c.server
    (fun _ h => h) k
  rwa [← hloop, List.zipIdx_map_fst] at h

end

section

variable {c : Cluster} {vmr vmr' : VMRestore} {vmb : VMBackup}

theorem deletedVolumes_ne_nil (hpolicy : vmr.isNewVMOrHasRetainPolicy = false)
    (h : vmr.isMissingVolumes = false) : vmr.status.deletedVolumes ≠ [] := by
  have hdeleted := (Bool.or_eq_false_iff.1 h).2
  simpa [hpolicy] using hdeleted

theorem getDeletedVolumes_env {names : List String} (h : getDeletedVolumes c.env vmb = .ok names) :
    names = c.sourceClaims vmb := by
  unfold getDeletedVolumes at h
  split at h
  · simp at h
  simp only [Cluster.env, lookup] at h
  unfold Cluster.sourceClaims
  rcases hget : c.vms.get vmb.sourceKey with _ | vm <;> rw [hget] at h <;>
    exact (Except.ok.inj h).symm

theorem deletedVolumes_withVolumesStatus (hpolicy : vmr.isNewVMOrHasRetainPolicy = false)
    (h : withVolumesStatus c.env vmr vmb = .ok vmr') : vmr'.status.deletedVolumes =
      if vmr.status.deletedVolumes = [] then c.sourceClaims vmb else vmr.status.deletedVolumes := by
  obtain ⟨vrs, -, h⟩ := except_bind_eq_ok.1 h
  obtain ⟨names, hnames, h⟩ := except_bind_eq_ok.1 h
  cases h
  rw [initDeletedVolumes, hpolicy] at hnames
  split
  · next hempty =>
    rw [hempty] at hnames
    exact getDeletedVolumes_env hnames
  · next hne =>
    rw [List.isEmpty_eq_false_iff.2 hne] at hnames
    exact (Except.ok.inj hnames).symm

/-- **The initialisation of a restore that replaces a VM and deletes its volumes.** -/
theorem initialised_eq_ok (hpolicy : vmr.isNewVMOrHasRetainPolicy = false)
    (h : c.initialised vmr vmb = .ok vmr') : vmr.Evolves vmr' ∧ vmr'.hasStatus = true ∧
      vmr'.status.deletedVolumes = c.listed vmr vmb := by
  unfold Cluster.initialised at h
  unfold Cluster.listed
  rcases hstatus : vmr.hasStatus
  · -- The new status has no volumes, so they are missing.
    rw [hstatus] at h
    replace h : withVolumesStatus c.env (vmr.withNewStatus c.env.now) vmb = .ok vmr' := h
    have hreset : vmr.Evolves (vmr.withNewStatus c.env.now) :=
      PreparesVMRestore.evolves (.init hstatus)
    have hvolumes := VMRestore.evolves_withVolumesStatus h
    exact ⟨hreset.trans hvolumes, hvolumes.hasStatus rfl,
      deletedVolumes_withVolumesStatus (by exact hpolicy) h⟩
  · rw [hstatus, if_pos rfl] at h
    dsimp only at h
    split at h
    · have hvolumes := VMRestore.evolves_withVolumesStatus h
      refine ⟨hvolumes, hvolumes.hasStatus hstatus, ?_⟩
      rw [deletedVolumes_withVolumesStatus hpolicy h]
      by_cases hempty : vmr.status.deletedVolumes = [] <;> simp [hempty]
    · next hmissing =>
      cases h
      refine ⟨.refl vmr, hstatus, ?_⟩
      have hne := deletedVolumes_ne_nil hpolicy (by simpa using hmissing)
      simp [hne]

end

/-- A bound PVC. -/
def barePVC (k : Key) : PVC := ⟨k.ns, k.name, none, none, ⟨[], none, none, "", ""⟩, .bound⟩

/-- **The deleted volumes are those of the target VM, whatever volumes there are, iff the names that
were listed are those of its claims.**  The restore was initialised in the cluster `c`, `vmr''` is a
later version of it, `before` is the target VM just before its volumes are replaced and `vm`
afterwards. -/
theorem deletes_exactly_referenced_iff (c : Cluster) (vmr vmr' vmr'' : VMRestore)
    (vmb : VMBackup) (before vm : VM) (hnew : vmr.spec.newVM = false)
    (hdelete : vmr.spec.deletionPolicy = .delete) (hinit : c.initialised vmr vmb = .ok vmr')
    (hready : vmr'.isMissingVolumes = false) (hlater : vmr'.Evolves vmr'')
    (hns : vm.ns = before.ns) :
    (∀ later : Cluster, later.DeletesExactly vmr'' vm before) ↔
      ∀ n, n ∈ c.listed vmr vmb ↔ n ∈ before.spec.claimNames := by
  have hpolicy : vmr.isNewVMOrHasRetainPolicy = false := by
    simp [VMRestore.isNewVMOrHasRetainPolicy, hnew, hdelete]
  obtain ⟨hevolves, hstatus, hvolumes⟩ := initialised_eq_ok hpolicy hinit
  have hspec : vmr''.spec = vmr.spec := by rw [hlater.spec, hevolves.spec]
  -- The list stays as it is once it is there.
  have hlisted : vmr''.status.deletedVolumes = c.listed vmr vmb := by
    rw [← hvolumes]
    refine hlater.deletedVolumes hstatus (deletedVolumes_ne_nil ?_ hready)
    rw [VMRestore.isNewVMOrHasRetainPolicy, hevolves.spec]
    exact hpolicy
  have hdeleted : ∀ (later : Cluster) (k : Key), (later.pvcs.get k).isSome →
      (((deleteOldPVCs later.env vmr'' vm).run later.server).2.pvcs.get k = none ↔
        k.ns = before.ns ∧ k.name ∈ c.listed vmr vmb) := by
    intro later k hk
    rw [deleteOldPVCs_run (by rw [hspec, hnew]) (by rw [hspec, hdelete]), hlisted, hns]
    split
    · next hin => simp [hin]
    · next hin => simp [hin, Option.isSome_iff_ne_none.1 hk]
  constructor
  · intro hall n
    -- A cluster with the volume `n` in the namespace of the VM.
    let later : Cluster := { c with pvcs := Store.empty.put (barePVC ⟨before.ns, n⟩) }
    have hk : (later.pvcs.get ⟨before.ns, n⟩).isSome :=
      Option.isSome_of_mem (Store.get_put_self _ (barePVC ⟨before.ns, n⟩))
    have hiff := hall later ⟨before.ns, n⟩ hk
    rw [hdeleted later _ hk] at hiff
    simpa using hiff
  · intro hsame later k hk
    rw [hdeleted later k hk, hsame]

namespace Sample

/-- The VMs `vm`, on the claim `old`, and `other`, on the claim `p`, with the backup of `vm`. -/
def twoVMs : Cluster :=
  cluster ((Store.empty.put (vm "vm" "old")).put (vm "other" "p")) (Store.empty.put backup)
    ((Store.empty.put (pvc "old")).put (pvc "p"))

/-- The VM `vm` is on the claim `new` now. -/
def moved : Cluster :=
  cluster (Store.empty.put (vm "vm" "new")) (Store.empty.put backup)
    ((Store.empty.put (pvc "old")).put (pvc "new"))

/-- A new restore of the backup of `vm` to the VM `target`. -/
def restoreTo (target : String) : VMRestore :=
  newRestore "default" "r" "u" { restore.spec with targetName := target }

end Sample

open Sample in
/-- The backup of a VM that is on another claim by now. -/
theorem deletes_exactly_referenced_iff_same_vm :
    moved.create "alice" (restoreTo "vm") = .ok () ∧
    ∃ vmr', moved.initialised (restoreTo "vm") backup = .ok vmr' ∧
      ∀ later : Cluster, later.DeletesExactly vmr' (vm "vm" "restored") (vm "vm" "new") :=
  ⟨by decide, _, rfl, (deletes_exactly_referenced_iff moved (restoreTo "vm") _ _ backup
    (vm "vm" "new") (vm "vm" "restored") rfl rfl rfl (by decide) (.refl _) rfl).2
      fun _ => Iff.rfl⟩

open Sample in
/-- The claim of `vm` is deleted, that of the target VM `other` is kept. -/
theorem restore_to_another_vm_deletes_wrong_volume :
    twoVMs.create "alice" (restoreTo "other") = .ok () ∧
    ∃ vmr', twoVMs.initialised (restoreTo "other") backup = .ok vmr' ∧
      let after := ((deleteOldPVCs twoVMs.env vmr' (vm "other" "p")).run
        twoVMs.server).2
      after.pvcs.get ⟨"default", "old"⟩ = none ∧
      after.pvcs.get ⟨"default", "p"⟩ = some (pvc "p") :=
  ⟨by decide, _, rfl, by decide, by decide⟩

namespace Cluster

/-- The volume `k` is the source of a VM snapshot. -/
def SnapshotSource (c : Cluster) (k : Key) : Prop :=
  ∃ vmb ∈ c.vmBackups.objs, vmb.type = .snapshot ∧
    ∃ vb ∈ vmb.volumeBackups, (⟨vb.pvcNamespace, vb.pvcName⟩ : Key) = k

/-- No volume that the initialised status lists for deletion is the source of a VM snapshot. -/
def SparesSnapshots (c : Cluster) (vmr : VMRestore) (vmb : VMBackup) : Prop :=
  ∀ vmr', c.initialised vmr vmb = .ok vmr' →
    ∀ n ∈ vmr'.status.deletedVolumes, ¬ c.SnapshotSource ⟨vmr.ns, n⟩

theorem snapshotsOf_ne_nil {c : Cluster} {k : Key} (h : c.SnapshotSource k) :
    c.snapshotsOf (k.ns ++ "/" ++ k.name) ≠ [] := by
  obtain ⟨vmb, hmem, htype, vb, hvb, rfl⟩ := h
  refine List.ne_nil_of_mem (List.mem_filter.2 ⟨hmem, ?_⟩)
  simp only [snapshotIndex, htype, decide_eq_true_eq]
  exact List.mem_map.2 ⟨vb, hvb, rfl⟩

/-- A snapshot of the volume `k`, under the key `at`. -/
def snapshotOf (k key : Key) : VMBackup where
  ns := key.ns
  name := key.name
  deleting := false
  svmBackupID := ""
  sourceKind := vmKind
  sourceName := ""
  type := .snapshot
  readyToUse := some true
  sourceUID := none
  sourceAnnotations := ⟨none, none, none, none, none, []⟩
  sourceSpec := ⟨none, none, [], [], [], [], .absent, ""⟩
  volumeBackups := [⟨none, "", k.ns, k.name, none, ⟨[], none, none, "", ""⟩, none⟩]
  secretBackups := []
  backupTarget := none
  csiDriverVolumeSnapshotClassNames := []

/-- The cluster with one more snapshot, of the volume `k`. -/
def withSnapshot (c : Cluster) (k key : Key) : Cluster :=
  { c with vmBackups := c.vmBackups.put (snapshotOf k key) }

theorem snapshotSource_withSnapshot (c : Cluster) (k key : Key) :
    (c.withSnapshot k key).SnapshotSource k :=
  ⟨snapshotOf k key, Store.mem_of_get (Store.get_put_self _ (snapshotOf k key)), rfl, _,
    List.mem_singleton.2 rfl, rfl⟩

theorem snapshotsOf_withSnapshot {c : Cluster} {k key : Key} {pvc : String}
    (h : c.snapshotsOf pvc = []) (hne : pvc ≠ k.ns ++ "/" ++ k.name) :
    (c.withSnapshot k key).snapshotsOf pvc = [] := by
  simp only [snapshotsOf, List.filter_eq_nil_iff] at h ⊢
  intro vmb hmem
  rcases Store.mem_put.1 hmem with rfl | ⟨hmem, -⟩
  · simpa [snapshotIndex, snapshotOf, pvcIndexKey] using hne
  · exact h vmb hmem

end Cluster

section

variable {c : Cluster} {user : String} {vmr : VMRestore} {vmb : VMBackup}

theorem create_withSnapshot (hb : c.vmBackups.get vmr.backupKey = some vmb)
    (htype : vmb.type = .backup) (hcreate : c.create user vmr = .ok ()) {k key : Key}
    (hkey : vmr.backupKey ≠ key)
    (hk : ∀ vb ∈ vmb.volumeBackups, Cluster.pvcIndexKey vb ≠ k.ns ++ "/" ++ k.name) :
    (c.withSnapshot k key).vmBackups.get vmr.backupKey = some vmb ∧
      (c.withSnapshot k key).create user vmr = .ok () := by
  have hb' : (c.withSnapshot k key).vmBackups.get vmr.backupKey = some vmb := by
    rw [← hb]
    exact Store.get_put_of_ne _ hkey
  obtain ⟨h, hvm⟩ := (Cluster.create_eq_ok_of_get hb).1 hcreate
  have htype' : (c.withSnapshot k key).checkVMBackupType vmr vmb = .ok () := by
    have h := h.backupType
    simp only [Cluster.checkVMBackupType, htype, except_bind_unit_eq_ok,
      Cluster.checkBackup_eq_ok] at h ⊢
    obtain ⟨⟨htarget, hnone⟩, hlh⟩ := h
    exact ⟨⟨htarget, fun hpol vb hvb => Cluster.snapshotsOf_withSnapshot (hnone hpol vb hvb)
      (hk vb hvb)⟩, hlh⟩
  have hbackup : (c.withSnapshot k key).getVMBackup vmr = .ok vmb :=
    Cluster.getVMBackup_eq_ok.2 ⟨hb', (Cluster.getVMBackup_eq_ok.1 h.backup).2⟩
  refine ⟨hb', Cluster.create_eq_ok.2 ⟨vmb, ⟨h.targetName, h.access, hbackup, h.schedule,
    h.volumeSnapshotClass, h.network, htype'⟩, ?_⟩⟩
  -- A restore that replaces a VM is not compared with other restores of its backup.
  exact hvm

end

/-- **No volume of a VM snapshot is deleted, whatever snapshots there are, iff every volume that is
going to be listed is in the backup.**  `names` are those of the status that the restore was created
with, or else the claims of the source VM. -/
theorem deletes_no_snapshot_source_iff (vmr : VMRestore) (vmb : VMBackup) (names : List String)
    (hnew : vmr.spec.newVM = false) (hdelete : vmr.spec.deletionPolicy = .delete)
    (htype : vmb.type = .backup)
    (hadm : ∃ (c : Cluster) (user : String) (vmr' : VMRestore),
      c.vmBackups.get vmr.backupKey = some vmb ∧ c.listed vmr vmb = names ∧
      c.create user vmr = .ok () ∧ c.initialised vmr vmb = .ok vmr') :
    (∀ (c : Cluster) (user : String), c.vmBackups.get vmr.backupKey = some vmb →
      c.listed vmr vmb = names → c.create user vmr = .ok () → c.SparesSnapshots vmr vmb) ↔
    ∀ n ∈ names, ∃ vb ∈ vmb.volumeBackups, Cluster.pvcIndexKey vb = vmr.ns ++ "/" ++ n := by
  have hpolicy : vmr.isNewVMOrHasRetainPolicy = false := by
    simp [VMRestore.isNewVMOrHasRetainPolicy, hnew, hdelete]
  constructor
  · intro hall n hn
    by_contra hnone
    push Not at hnone
    obtain ⟨c, user, vmr', hb, rfl, hcreate, hinit⟩ := hadm
    -- A snapshot of the claim `n`, under a key that is not the backup's, goes unnoticed.
    let key : Key := ⟨"", vmr.backupKey.name ++ "-"⟩
    have hkey : vmr.backupKey ≠ key := by
      intro h
      have hlen : vmr.backupKey.name.length = (vmr.backupKey.name ++ "-").length :=
        congrArg (fun k => k.name.length) h
      simp at hlen
    obtain ⟨hb', hcreate'⟩ :=
      create_withSnapshot (k := ⟨vmr.ns, n⟩) hb htype hcreate hkey hnone
    refine hall (c.withSnapshot ⟨vmr.ns, n⟩ key) user hb' rfl hcreate' vmr' hinit n ?_
      (Cluster.snapshotSource_withSnapshot c ⟨vmr.ns, n⟩ key)
    rwa [(initialised_eq_ok hpolicy hinit).2.2]
  · rintro hrec c user hb rfl hcreate vmr' hinit n hn hsource
    obtain ⟨h, -⟩ := (Cluster.create_eq_ok_of_get hb).1 hcreate
    rw [(initialised_eq_ok hpolicy hinit).2.2] at hn
    obtain ⟨vb, hvb, hidx⟩ := hrec n hn
    have hcheck := h.backupType
    simp only [Cluster.checkVMBackupType, htype, except_bind_unit_eq_ok,
      Cluster.checkBackup_eq_ok] at hcheck
    have hnone := hcheck.1.2 hpolicy vb hvb
    rw [hidx] at hnone
    exact Cluster.snapshotsOf_ne_nil hsource hnone

namespace Sample

/-- `vm` moved from `old` to `new` after the backup, and then a snapshot of it was taken. -/
def swapped : Cluster := moved.withSnapshot ⟨"default", "new"⟩ ⟨"default", "s"⟩

end Sample

open Sample in
/-- The claim of another VM is the source of a snapshot. -/
theorem deletes_no_snapshot_source_iff_unchanged :
    let c := twoVMs.withSnapshot ⟨"default", "p"⟩ ⟨"default", "s"⟩
    c.listed (restoreTo "vm") backup = ["old"] ∧ c.create "alice" (restoreTo "vm") = .ok () ∧
      c.SparesSnapshots (restoreTo "vm") backup := by
  have hcreate : (twoVMs.withSnapshot ⟨"default", "p"⟩ ⟨"default", "s"⟩).create "alice"
      (restoreTo "vm") = .ok () := by decide
  have hiff := deletes_no_snapshot_source_iff (restoreTo "vm") backup ["old"] rfl rfl rfl
    ⟨_, "alice", _, rfl, rfl, hcreate, rfl⟩
  exact ⟨rfl, hcreate, hiff.2 (by decide) _ "alice" rfl rfl hcreate⟩

open Sample in
/-- The volume `new` is listed for deletion, deleted, and the source of the snapshot `s`. -/
theorem restore_deletes_snapshot_source :
    swapped.create "alice" (restoreTo "vm") = .ok () ∧
    swapped.SnapshotSource ⟨"default", "new"⟩ ∧
    ∃ vmr', swapped.initialised (restoreTo "vm") backup = .ok vmr' ∧
      "new" ∈ vmr'.status.deletedVolumes ∧
      ((deleteOldPVCs swapped.env vmr' (vm "vm" "new")).run
        swapped.server).2.pvcs.get ⟨"default", "new"⟩ = none :=
  ⟨by decide, Cluster.snapshotSource_withSnapshot _ _ _, _, rfl, by decide, by decide⟩

end Restore

end Harvester
