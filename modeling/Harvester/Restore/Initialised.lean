import Harvester.Restore.Effects
import Harvester.Restore.OldVolumes

/-!
# When the volumes of a restore are initialised

The controller initialises the volumes of a restore (`InitVolumesStatus`) as long as they are
missing (`IsMissingVolumes`).  But the initialisation may leave both lists of the status empty: the
backup may have no volumes, and the VM it was taken from may be gone or have no claims.  Nor do the
two agree on a restore that was created with an empty list of volumes.  `initialised_iff` says when
a restore whose initialisation has succeeded is initialised.
-/

namespace Harvester

namespace Restore

open Control Action

/-- There is a volume to restore, and one to delete if the restore deletes any.  The volumes of the
backup count only when the status has no list of volumes, not even an empty one. -/
def HasVolumes (env : Env) (vmr : VMRestore) (vmb : VMBackup) : Prop :=
  (vmr.status.volumeRestores ≠ [] ∨ vmr.status.restores = none ∧ vmb.volumeBackups ≠ []) ∧
    (vmr.isNewVMOrHasRetainPolicy = true ∨ vmr.status.deletedVolumes ≠ [] ∨
      ∃ vm, env.vm vmb.sourceKey = .ok vm ∧ vm.spec.claimNames ≠ [])

variable {env : Env} {vmr new : VMRestore} {vmb : VMBackup}

theorem buildVolumeRestoresFromBackup_eq_nil {vbs : List VolumeBackup} {vrs : List VolumeRestore}
    (h : buildVolumeRestoresFromBackup vmr vbs = .ok vrs) : vrs = [] ↔ vbs = [] := by
  cases vbs with
  | nil => simp [← Except.ok.inj h]
  | cons vb vbs =>
    unfold buildVolumeRestoresFromBackup at h
    split at h
    all_goals
      obtain ⟨vr, -, h⟩ := except_bind_eq_ok.1 h
      obtain ⟨rest, -, h⟩ := except_bind_eq_ok.1 h
      simp [← Except.ok.inj h]

theorem initVolumeRestores_ne_nil {vrs : List VolumeRestore}
    (h : initVolumeRestores vmr vmb = .ok vrs) :
    vrs ≠ [] ↔ vmr.status.volumeRestores ≠ [] ∨
      vmr.status.restores = none ∧ vmb.volumeBackups ≠ [] := by
  unfold initVolumeRestores at h
  split at h
  · next hnone =>
    simp [RestoreStatus.volumeRestores, hnone, buildVolumeRestoresFromBackup_eq_nil h]
  · next hsome =>
    cases h
    simp [RestoreStatus.volumeRestores, hsome]

theorem getDeletedVolumes_eq_nil {names : List String} (h : getDeletedVolumes env vmb = .ok names) :
    names = [] ↔ ¬ ∃ vm, env.vm vmb.sourceKey = .ok vm ∧ vm.spec.claimNames ≠ [] := by
  unfold getDeletedVolumes at h
  split at h
  · simp at h
  split at h
  · next vm hvm => simp [← Except.ok.inj h, hvm]
  · next e hvm =>
    split at h
    · simp [← Except.ok.inj h, hvm]
    · simp at h

theorem isMissingVolumes_withVolumesStatus (h : withVolumesStatus env vmr vmb = .ok new) :
    new.isMissingVolumes = false ↔ HasVolumes env vmr vmb := by
  obtain ⟨vrs, hvrs, h⟩ := except_bind_eq_ok.1 h
  obtain ⟨names, hnames, h⟩ := except_bind_eq_ok.1 h
  have hnew : new.isMissingVolumes = false ↔
      vrs ≠ [] ∧ (vmr.isNewVMOrHasRetainPolicy = true ∨ names ≠ []) := by
    cases h
    simp [VMRestore.isMissingVolumes, VMRestore.isNewVMOrHasRetainPolicy, or_iff_not_imp_left,
      RestoreStatus.volumeRestores]
  rw [hnew, initVolumeRestores_ne_nil hvrs]
  refine and_congr_right fun _ => or_congr_right' fun hpolicy => ?_
  unfold initDeletedVolumes at hnames
  split at hnames
  · next hempty =>
    have hempty : vmr.status.deletedVolumes = [] := by simpa [hpolicy] using hempty
    rw [ne_eq, getDeletedVolumes_eq_nil hnames, hempty]
    simp
  · next hne =>
    have hne : vmr.status.deletedVolumes ≠ [] := by simpa [hpolicy] using hne
    cases hnames
    simp [hne]

theorem run_initVolumesStatus_eq_ok (h : withVolumesStatus env vmr vmb = .ok new)
    {fault : Call → Fault} {s s' : Server} :
    (initVolumesStatus { env with fault } vmr vmb).run s = (.ok (), s') ↔
      vmr = new ∧ s = s' ∨ vmr ≠ new ∧ fault (.updateVMRestore .initVolumesStatus) = .none ∧
        (putVMRestore new).run s = (.ok (), s') := by
  have h : withVolumesStatus { env with fault } vmr vmb = .ok new := h
  rw [initVolumesStatus, h, ofExcept_ok_bind, update]
  split
  · next heq => simp [heq, run, Pure.pure]
  · next hne => simp [hne, Env.request, run_request_eq_ok]

/-- Leaving out an empty list changes nothing. -/
theorem isMissingVolumes_marshalled (vmr : VMRestore) :
    vmr.marshalled.isMissingVolumes = vmr.isMissingVolumes := by
  rw [VMRestore.isMissingVolumes, vmr.volumeRestores_marshalled]
  rfl

theorem key_withVolumesStatus (h : withVolumesStatus env vmr vmb = .ok new) : new.key = vmr.key ∧
    new.resourceVersion = vmr.resourceVersion := by
  obtain ⟨vrs, -, h⟩ := except_bind_eq_ok.1 h
  obtain ⟨names, -, h⟩ := except_bind_eq_ok.1 h
  exact Except.ok.inj h ▸ ⟨rfl, rfl⟩

/-- **A restore whose volumes are missing has them after every initialisation that succeeds**, if
and only if there is a volume to restore, and one to delete if the restore deletes any. -/
theorem initialised_iff (hmissing : vmr.isMissingVolumes = true)
    (h : withVolumesStatus env vmr vmb = .ok new) :
    (∀ fault s s', (initVolumesStatus { env with fault } vmr vmb).run s = (.ok (), s') →
      ∀ cur ∈ s'.vmRestores.get vmr.key, cur.isMissingVolumes = false) ↔
    HasVolumes env vmr vmb := by
  rw [← isMissingVolumes_withVolumesStatus h]
  obtain ⟨hkey, hversion⟩ := key_withVolumesStatus h
  constructor
  · intro hall
    -- The server stores the restore as it is.
    let s : Server := ⟨Store.empty.put vmr, Store.empty, Store.empty, Store.empty, 0, []⟩
    have hs : s.vmRestores.get vmr.key = some vmr := Store.get_put_self _ _
    by_cases heq : vmr = new
    · exact heq ▸ hall env.fault s s ((run_initVolumesStatus_eq_ok h).2 (.inl ⟨heq, rfl⟩)) vmr hs
    · have hput : (putVMRestore new).run s = (.ok (), s.wroteVMRestore new) := by
        simp [run, putVMRestore, hkey, hs, hversion, Server.wroteVMRestore]
      let stored : VMRestore := { new.marshalled with resourceVersion := 1 }
      rw [← isMissingVolumes_marshalled]
      refine hall (fun _ => .none) s _ ((run_initVolumesStatus_eq_ok h).2 (.inr ⟨heq, rfl, hput⟩))
        stored ?_
      exact hkey ▸ Store.get_put_self s.vmRestores stored
  · intro hnew fault s s' hrun cur hcur
    rcases (run_initVolumesStatus_eq_ok h).1 hrun with ⟨rfl, -⟩ | ⟨-, -, hput⟩
    · simp [hmissing] at hnew
    · simp only [run, putVMRestore] at hput
      split at hput
      · simp at hput
      split at hput
      · obtain rfl := (Prod.mk.inj hput).2
        rw [← hkey] at hcur
        have hstored := (Store.get_put_self s.vmRestores
          { new.marshalled with resourceVersion := s.resourceVersion + 1 }).symm.trans hcur
        cases hstored
        rwa [← isMissingVolumes_marshalled] at hnew
      · simp at hput

open Sample in
/-- The restore of a backup with one volume. -/
theorem initialised_iff_volume : restore.isMissingVolumes = true ∧
    ∀ fault s s', (initVolumesStatus { twoVMs.env with fault } restore
        backup).run s = (.ok (), s') →
      ∀ cur ∈ s'.vmRestores.get restore.key, cur.isMissingVolumes = false :=
  ⟨rfl, (initialised_iff rfl rfl).2 ⟨.inr ⟨rfl, by decide⟩, .inr (.inr ⟨_, rfl, by decide⟩)⟩⟩

namespace Sample

/-- The backup of a VM without volumes. -/
def emptyBackup : VMBackup := { backup with volumeBackups := [] }

/-- A cluster with this backup. -/
def emptied : Cluster :=
  cluster (Store.empty.put (vm "vm" "old")) (Store.empty.put emptyBackup) Store.empty

/-- A restore to a new VM that is created with an empty list of volumes. -/
def emptyList : VMRestore :=
  { newRestore "default" "r" "u" { restore.spec with targetName := "new", newVM := true } with
    status := ⟨some [], none, [], some false, [], none, 0⟩ }

end Sample

open Sample in
/-- **Never initialised**: the restore of a backup without volumes, and one to a new VM that is
created with an empty list of volumes. -/
theorem volumes_never_initialised :
    (emptied.create "alice" (restoreTo "vm") = .ok () ∧
      ∃ s', (initVolumesStatus emptied.env (restoreTo "vm") emptyBackup).run
          { emptied.server with vmRestores := Store.empty.put (restoreTo "vm") } = (.ok (), s') ∧
        ∃ cur ∈ s'.vmRestores.get (restoreTo "vm").key, cur.isMissingVolumes = true) ∧
    (twoVMs.create "alice" emptyList = .ok () ∧ emptyList.hasStatus = true ∧
      ∃ s', (initVolumesStatus twoVMs.env emptyList backup).run
          { twoVMs.server with vmRestores := Store.empty.put emptyList } = (.ok (), s') ∧
        ∃ cur ∈ s'.vmRestores.get emptyList.key, cur.isMissingVolumes = true) :=
  ⟨⟨by decide, _, rfl, _, rfl, rfl⟩, by decide, rfl, _, rfl, _, rfl, rfl⟩

end Restore

end Harvester
