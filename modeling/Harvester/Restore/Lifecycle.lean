import Harvester.Restore.Effects

/-!
# How a restore and its VM change in one reconcile

`Reconciled env vmr s s'` says all that later proofs need to know about the reconcile of the restore
`vmr` that leads from `s` to `s'`:

* no other restore is written, and `vmr` itself only moves on (`VMRestore.Evolves`);
* no VM but the target VM is written, and that one only with the volumes of the backup, on the PVCs
  of the restore (`RestoredBy`);
* the restore becomes complete only with the target VM restored.

`restoreOnChanged_reconciled` proves it for every pattern of failing requests.
-/

namespace Harvester

namespace Restore

open Control

namespace VMRestore

/-- Which volume is restored to which PVC. -/
def names (vmr : VMRestore) : List (String × String) :=
  vmr.status.volumeRestores.map fun vr => (vr.volumeName, vr.pvcName)

/-- The claim of a volume after the restore: the restored PVC, or else the claim it had. -/
def claimOf (vmr : VMRestore) (vol : Volume) : Option String :=
  vol.claimName.map fun claim => ((vmr.names.lookup vol.name).filter (· ≠ "")).getD claim

/-- The restore `vmr'` is a later version of `vmr`. -/
structure Evolves (vmr vmr' : VMRestore) : Prop where
  key : vmr'.key = vmr.key
  uid : vmr'.uid = vmr.uid
  spec : vmr'.spec = vmr.spec
  hasStatus : vmr.hasStatus = true → vmr'.hasStatus = true
  names : vmr.hasStatus = true → vmr.names ≠ [] → vmr'.names = vmr.names
  deletedVolumes : vmr.hasStatus = true → vmr.status.deletedVolumes ≠ [] →
    vmr'.status.deletedVolumes = vmr.status.deletedVolumes

namespace Evolves

variable {vmr vmr' vmr'' : VMRestore}

theorem refl (vmr : VMRestore) : Evolves vmr vmr :=
  ⟨rfl, rfl, rfl, id, fun _ _ => rfl, fun _ _ => rfl⟩

theorem trans (h : Evolves vmr vmr') (h' : Evolves vmr' vmr'') : Evolves vmr vmr'' where
  key := h'.key.trans h.key
  uid := h'.uid.trans h.uid
  spec := h'.spec.trans h.spec
  hasStatus hs := h'.hasStatus (h.hasStatus hs)
  names hs hn := by
    have h1 := h.names hs hn
    rw [h'.names (h.hasStatus hs) (h1 ▸ hn), h1]
  deletedVolumes hs hd := by
    have h1 := h.deletedVolumes hs hd
    rw [h'.deletedVolumes (h.hasStatus hs) (h1 ▸ hd), h1]

theorem targetKey (h : Evolves vmr vmr') : vmr'.targetKey = vmr.targetKey := by
  have hns : vmr'.ns = vmr.ns := congrArg Key.ns h.key
  rw [VMRestore.targetKey, VMRestore.targetKey, hns, h.spec]

theorem restoreID (h : Evolves vmr vmr') : vmr'.restoreID = vmr.restoreID := by
  have hname : vmr'.name = vmr.name := congrArg Key.name h.key
  rw [VMRestore.restoreID, VMRestore.restoreID, hname, h.uid]

theorem backupKey (h : Evolves vmr vmr') : vmr'.backupKey = vmr.backupKey := by
  rw [VMRestore.backupKey, VMRestore.backupKey, h.spec]

end Evolves

variable (vmr : VMRestore)

theorem evolves_setErrorCondition (e : Err) (now : String) : Evolves vmr
    (vmr.setErrorCondition e now) :=
  ⟨rfl, rfl, rfl, id, fun _ _ => rfl, fun _ _ => rfl⟩

theorem evolves_setProcessingCondition (message now : String) : Evolves vmr
    (vmr.setProcessingCondition message now) :=
  ⟨rfl, rfl, rfl, id, fun _ _ => rfl, fun _ _ => rfl⟩

theorem evolves_setCompleteCondition (now : String) : Evolves vmr
    (vmr.setCompleteCondition now) := by
  refine ⟨rfl, rfl, rfl, fun _ => rfl, fun _ _ => ?_, fun _ _ => rfl⟩
  simp only [VMRestore.names, RestoreStatus.volumeRestores, setCompleteCondition, withConditions]
  cases vmr.status.restores <;> simp

theorem evolves_setProgress (progress : Int) : Evolves vmr (vmr.setProgress progress) := by
  unfold setProgress
  split
  · exact ⟨rfl, rfl, rfl, id, fun _ _ => rfl, fun _ _ => rfl⟩
  · exact .refl vmr

theorem evolves_rectifyProgress : Evolves vmr vmr.rectifyProgressBeforeVMStart := by
  unfold rectifyProgressBeforeVMStart
  split
  · exact .refl vmr
  · exact evolves_setProgress _ _

theorem map_updateVolumeProgress (env : Env) (sizes weights : Int)
    (vrs : List (VolumeRestore × Nat)) :
    (updateVolumeProgress env sizes weights vrs).1.map (fun vr => (vr.volumeName, vr.pvcName)) =
      vrs.map fun vr => (vr.1.volumeName, vr.1.pvcName) := by
  induction vrs generalizing sizes weights with
  | nil => rfl
  | cons vr vrs ih =>
    simp only [updateVolumeProgress]
    split
    · simp
    · simp only [List.map_cons, ih]
      split <;> rfl

theorem evolves_updateProgressMetrics (env : Env) (vmr : VMRestore) :
    Evolves vmr (updateProgressMetrics env vmr) := by
  let out := updateVolumeProgress env 0 0 vmr.status.volumeRestores.zipIdx
  have hout : out.1.map (fun vr => (vr.volumeName, vr.pvcName)) = vmr.names := by
    rw [map_updateVolumeProgress, VMRestore.names, ← List.zipIdx_map_fst 0
      vmr.status.volumeRestores, List.map_map]
    simp
  have hstep : Evolves vmr { vmr with status := { vmr.status with
      restores := vmr.status.restores.map fun _ => out.1 } } := by
    refine ⟨rfl, rfl, rfl, id, fun _ hne => ?_, fun _ _ => rfl⟩
    rw [← hout]
    rcases h : vmr.status.restores with _ | vrs
    · simp [VMRestore.names, RestoreStatus.volumeRestores, h] at hne
    · simp [VMRestore.names, RestoreStatus.volumeRestores]
  unfold updateProgressMetrics
  dsimp only
  split
  · split
    · exact hstep.trans (evolves_setProgress _ _)
    · exact hstep
  · exact hstep

theorem evolves_withVolumesStatus {env : Env} {vmr new : VMRestore} {vmb : VMBackup}
    (h : withVolumesStatus env vmr vmb = .ok new) : Evolves vmr new := by
  obtain ⟨vrs, hvrs, h⟩ := except_bind_eq_ok.1 h
  obtain ⟨deleted, hdel, h⟩ := except_bind_eq_ok.1 h
  cases h
  refine ⟨rfl, rfl, rfl, id, fun _ hne => ?_, fun _ hne => ?_⟩
  · rcases h : vmr.status.restores with _ | vrs'
    · simp [VMRestore.names, RestoreStatus.volumeRestores, h] at hne
    rw [initVolumeRestores, h] at hvrs
    simp [VMRestore.names, RestoreStatus.volumeRestores, h, Except.ok.inj hvrs]
  · have hne' : vmr.status.deletedVolumes.isEmpty = false := by simpa using hne
    rw [initDeletedVolumes, hne', Bool.and_false] at hdel
    exact (Except.ok.inj hdel).symm

theorem volumeRestores_marshalled :
    vmr.marshalled.status.volumeRestores = vmr.status.volumeRestores := by
  simp only [marshalled, RestoreStatus.volumeRestores]
  rcases vmr.status.restores with _ | _ | _ <;> simp [Option.filter]

theorem evolves_marshalled : Evolves vmr vmr.marshalled :=
  ⟨rfl, rfl, rfl, id, fun _ _ => by rw [VMRestore.names, volumeRestores_marshalled]; rfl,
    fun _ _ => rfl⟩

end VMRestore

/-- The VM was last restored by `vmr`: it has the volumes of the backup, on the restored PVCs. -/
structure RestoredBy (vmr : VMRestore) (vmb : VMBackup) (vm : VM) : Prop where
  lastRestore : vm.annotations.lastRestore = some vmr.restoreID
  volumes : vm.spec.volumes.map (fun vol => (vol.name, vol.claimName)) =
    vmb.sourceSpec.volumes.map fun vol => (vol.name, vmr.claimOf vol)

theorem RestoredBy.evolves {vmr vmr' : VMRestore} {vmb : VMBackup} {vm : VM}
    (h : RestoredBy vmr vmb vm) (he : vmr.Evolves vmr') (hs : vmr.hasStatus = true)
    (hn : vmr.names ≠ []) : RestoredBy vmr' vmb vm := by
  refine ⟨by rw [h.lastRestore, he.restoreID], ?_⟩
  have hclaim : vmr'.claimOf = vmr.claimOf := by
    funext vol
    rw [VMRestore.claimOf, VMRestore.claimOf, he.names hs hn]
  rw [h.volumes, hclaim]

theorem lookup_names (vol : Volume) (vrs : List VolumeRestore) :
    (vrs.map fun vr => (vr.volumeName, vr.pvcName)).lookup vol.name =
      (vrs.find? fun vr => vr.volumeName = vol.name).map VolumeRestore.pvcName := by
  induction vrs with
  | nil => rfl
  | cons vr vrs ih =>
    by_cases hname : vr.volumeName = vol.name
    · simp [hname]
    · have hne : (vol.name == vr.volumeName) = false := by simpa using Ne.symm hname
      simp [hname, List.lookup_cons, hne, ih]

theorem claimName_mapVolume (vmr : VMRestore) (vol : Volume) :
    (mapVolume vmr.status.volumeRestores vol).claimName = vmr.claimOf vol := by
  rw [VMRestore.claimOf, VMRestore.names, lookup_names]
  unfold mapVolume findRestoredPVCName
  rcases hclaim : vol.claimName with _ | claim
  · exact hclaim
  rcases hfind : vmr.status.volumeRestores.find? (fun vr => vr.volumeName = vol.name) with _ | vr
  · simpa [hfind] using hclaim
  · by_cases hempty : vr.pvcName = ""
    · simpa [hfind, hempty, Option.filter] using hclaim
    · simp [hfind, hempty, Option.filter, Volume.claimName]

theorem RestoredBy.of_spec {vmr : VMRestore} {vmb : VMBackup} {vm : VM} {spec : VMSpec}
    (hlast : vm.annotations.lastRestore = some vmr.restoreID)
    (hvm : vm.spec.volumes = mapVolumesToRestoredPVCs vmr spec)
    (hspec : spec.volumes.map (fun vol => (vol.name, vol.claimName)) =
      vmb.sourceSpec.volumes.map fun vol => (vol.name, vol.claimName)) :
    RestoredBy vmr vmb vm := by
  refine ⟨hlast, ?_⟩
  have hname : ∀ vol, (mapVolume vmr.status.volumeRestores vol).name = vol.name := by
    intro vol
    unfold mapVolume
    split
    · rfl
    · dsimp only
      split <;> rfl
  -- The claim after the restore depends on the name and the claim of a volume only.
  let restored (p : String × Option String) : String × Option String :=
    (p.1, p.2.map fun claim => ((vmr.names.lookup p.1).filter (· ≠ "")).getD claim)
  have hmap : vm.spec.volumes.map (fun vol => (vol.name, vol.claimName)) =
      (spec.volumes.map fun vol => (vol.name, vol.claimName)).map restored := by
    rw [hvm, mapVolumesToRestoredPVCs, List.map_map, List.map_map]
    refine List.map_congr_left fun vol _ => ?_
    rw [Function.comp_apply, Function.comp_apply, hname, claimName_mapVolume]
    rfl
  rw [hmap, hspec, List.map_map]
  rfl

theorem volumes_sanitizeVMSpec {vmr : VMRestore} {spec spec' : VMSpec}
    (h : sanitizeVMSpec vmr spec = .ok spec') :
    spec'.volumes.map (fun vol => (vol.name, vol.claimName)) =
      spec.volumes.map fun vol => (vol.name, vol.claimName) := by
  unfold sanitizeVMSpec at h
  dsimp only at h
  split at h
  all_goals
    obtain ⟨keys, -, h⟩ := except_bind_eq_ok.1 h
    cases h
    rw [List.map_map]
    refine List.map_congr_left fun vol _ => ?_
    rcases hsource : vol.source <;> simp [hsource, Volume.claimName]

section

variable {env : Env} {vmr : VMRestore} {vmb : VMBackup} {s : Server} {vm : VM}

/-- What is read from a cache is what is stored, or nothing. -/
def Shows {α : Type} (read : Except Err α) (stored : Option α) : Prop :=
  ∀ a, read = .ok a → stored = some a

/-- The cache shows the target VM as it is, or nothing. -/
def TargetCurrent (env : Env) (vmr : VMRestore) (s : Server) : Prop :=
  Shows (env.vm vmr.targetKey) (s.vms.get vmr.targetKey)

theorem WritesVM.key (h : WritesVM env vmr vmb s vm) (hcur : TargetCurrent env vmr s) :
    vm.key = vmr.targetKey := by
  cases h with
  | @update old _ _ hold =>
    have hkey : old.key = vmr.targetKey := Store.key_of_get (hcur old hold)
    exact hkey
  | create hbuild =>
    obtain ⟨spec, -, h⟩ := except_bind_eq_ok.1 hbuild
    obtain ⟨templates, -, h⟩ := except_bind_eq_ok.1 h
    cases h
    split <;> rfl

theorem WritesVM.restoredBy (h : WritesVM env vmr vmb s vm) : RestoredBy vmr vmb vm := by
  cases h with
  | update => exact .of_spec rfl rfl rfl
  | create hbuild =>
    obtain ⟨spec, hspec, h⟩ := except_bind_eq_ok.1 hbuild
    obtain ⟨templates, -, h⟩ := except_bind_eq_ok.1 h
    cases h
    split <;> exact .of_spec rfl rfl (volumes_sanitizeVMSpec hspec)

end

/-- What the reconcile of `vmr` does to the VMs. -/
structure VMFrame (env : Env) (vmr : VMRestore) (s s' : Server) : Prop where
  others : ∀ k, k ≠ vmr.targetKey → s'.vms.get k = s.vms.get k
  target : s'.vms.get vmr.targetKey = s.vms.get vmr.targetKey ∨
    vmr.hasStatus = true ∧ vmr.names ≠ [] ∧ ∃ vm vmb, env.vmBackup vmr.backupKey = .ok vmb ∧
      s'.vms.get vmr.targetKey = some vm ∧ RestoredBy vmr vmb vm

/-- The versions of `vmr` that may be written: complete ones only if the target VM is restored. -/
structure Writable (vmr : VMRestore) (vms : Store VM.key) (new : VMRestore) : Prop where
  evolves : vmr.Evolves new
  complete : new.isComplete = true → vmr.isComplete = true ∨
    ∃ vm, vms.get vmr.targetKey = some vm ∧ vm.annotations.lastRestore = some vmr.restoreID

/-- What the reconcile of `vmr` does. -/
structure Reconciled (env : Env) (vmr : VMRestore) (s s' : Server) : Prop where
  others : ∀ k, k ≠ vmr.key → s'.vmRestores.get k = s.vmRestores.get k
  vms : VMFrame env vmr s s'
  own : ∃ vmr', s'.vmRestores.get vmr.key = some vmr' ∧ Writable vmr s'.vms vmr'

section

variable {env : Env} {vmr new : VMRestore} {vmb : VMBackup} {s s' t : Server}

theorem PreparesVMRestore.evolves (h : PreparesVMRestore env vmr new) : vmr.Evolves new := by
  cases h with
  | init h =>
    -- There was no status before, so nothing in it has to stay the same.
    refine ⟨rfl, rfl, rfl, fun _ => rfl, fun hs => ?_, fun hs => ?_⟩ <;> simp [hs] at h
  | volumes h => exact VMRestore.evolves_withVolumesStatus h
  | error e => exact VMRestore.evolves_setErrorCondition _ e _

theorem WritesVMRestore.evolves (h : WritesVMRestore env vmr new) : vmr.Evolves new := by
  have hcpy := VMRestore.evolves_updateProgressMetrics env vmr
  cases h with
  | prepares h => exact h.evolves
  | reconcileError _ e => exact hcpy.trans (VMRestore.evolves_setErrorCondition _ e _)
  | owner => exact hcpy.trans ⟨rfl, rfl, rfl, id, fun _ _ => rfl, fun _ _ => rfl⟩
  | wait _ message =>
    exact hcpy.trans ((VMRestore.evolves_rectifyProgress _).trans
      (VMRestore.evolves_setProcessingCondition _ message _))

theorem Reconciled.refl (hown : s.vmRestores.get vmr.key = some vmr) : Reconciled env vmr s s :=
  ⟨fun _ _ => rfl, ⟨fun _ _ => rfl, .inl rfl⟩, vmr, hown, .refl vmr, .inl⟩

theorem Reconciled.congr (h : Reconciled env vmr s s') (hvmRestores : t.vmRestores = s'.vmRestores)
    (hvms : t.vms = s'.vms) : Reconciled env vmr s t := by
  obtain ⟨hothers, ⟨hvm, htarget⟩, hown⟩ := h
  rw [← hvmRestores] at hothers hown
  rw [← hvms] at hvm htarget hown
  exact ⟨hothers, ⟨hvm, htarget⟩, hown⟩

theorem Reconciled.wroteVMRestore (h : Reconciled env vmr s s') (hnew : Writable vmr s'.vms new) :
    Reconciled env vmr s (s'.wroteVMRestore new) := by
  let new' := { new.marshalled with resourceVersion := s'.resourceVersion + 1 }
  have he := hnew.evolves.trans new.evolves_marshalled
  have hkey : new'.key = vmr.key := he.key
  refine ⟨fun k hk => ?_, ⟨h.vms.others, h.vms.target⟩, new', ?_, ⟨?_, hnew.complete⟩⟩
  · rw [← h.others k hk]
    exact Store.get_put_of_ne _ (hkey ▸ hk)
  · rw [← hkey]
    exact Store.get_put_self _ new'
  · exact ⟨he.key, he.uid, he.spec, he.hasStatus, he.names, he.deletedVolumes⟩

/-- The VM in hand is the target VM, and it is restored. -/
structure HasRestoredVM (env : Env) (vmr : VMRestore) (s : Server) (vm : VM) (s' : Server) :
    Prop extends Reconciled env vmr s s' where
  restored : s'.vms.get vmr.targetKey = some vm
  lastRestore : vm.annotations.lastRestore = some vmr.restoreID

theorem HasRestoredVM.congr {vm : VM} (h : HasRestoredVM env vmr s vm s')
    (hvmRestores : t.vmRestores = s'.vmRestores) (hvms : t.vms = s'.vms) :
    HasRestoredVM env vmr s vm t :=
  ⟨h.toReconciled.congr hvmRestores hvms, hvms ▸ h.restored, h.lastRestore⟩

theorem HasRestoredVM.wroteVMRestore {vm : VM} (h : HasRestoredVM env vmr s vm s')
    (he : vmr.Evolves new) : HasRestoredVM env vmr s vm (s'.wroteVMRestore new) :=
  ⟨h.toReconciled.wroteVMRestore ⟨he, fun _ => .inr ⟨vm, h.restored, h.lastRestore⟩⟩, h.restored,
    h.lastRestore⟩

theorem WritesVM.hasRestoredVM {vm : VM} (hw : WritesVM env vmr vmb s' vm)
    (h : Reconciled env vmr s s') (hvms : s'.vms = s.vms) (hcur : TargetCurrent env vmr s)
    (hr : Restoring env vmr vmb) (hn : vmr.names ≠ []) :
    HasRestoredVM env vmr s vm (s'.wroteVM vm) := by
  have hkey := hw.key fun vm hvm => by rw [hvms, hcur vm hvm]
  have htarget : (s'.wroteVM vm).vms.get vmr.targetKey = some vm := by
    rw [← hkey]
    exact Store.get_put_self _ vm
  obtain ⟨vmr', hget, hvmr'⟩ := h.own
  refine ⟨⟨h.others, ⟨fun k hk => ?_, .inr ⟨hr.hasStatus, hn, vm, vmb, hr.backup, htarget,
    hw.restoredBy⟩⟩, vmr', hget, hvmr'.evolves,
    fun _ => .inr ⟨vm, htarget, hw.restoredBy.lastRestore⟩⟩, htarget, hw.restoredBy.lastRestore⟩
  rw [← hvms]
  exact Store.get_put_of_ne _ (hkey ▸ hk)

/-- **One reconcile**, whatever its requests do. -/
theorem restoreOnChanged_reconciled (hown : s.vmRestores.get vmr.key = some vmr)
    (hcur : TargetCurrent env vmr s) :
    Reconciled env vmr s ((restoreOnChanged env vmr).run s).2 := by
  have hrun : Action.Triple (fun s' => Reconciled env vmr s s' ∧ s'.vms = s.vms)
      (restoreOnChanged env vmr) fun _ => Reconciled env vmr s := by
    refine restoreOnChanged_triple (J := HasRestoredVM env vmr s) (fun _ h => h.1)
      (fun _ _ h => ⟨h.1.congr rfl rfl, h.2⟩) ?_ ?_ (fun _ _ _ h => h.congr rfl rfl)
      (fun _ _ h => h.toReconciled) (fun _ h => h) ?_ ?_
    · -- The VM in the cache is the current one, and it was restored before.
      intro s' vm h hvm hdone
      refine ⟨h.1.congr rfl rfl, ?_, by simpa [isVMAlreadyRestored] using hdone⟩
      rw [← hcur vm hvm, ← h.2]
      rfl
    · intro vmb s' vm hr h hw
      have hn : vmr.names ≠ [] := by
        have hvolumes := hr.volumes
        simp only [VMRestore.isMissingVolumes, Bool.or_eq_false_iff] at hvolumes
        simpa [VMRestore.names] using hvolumes.1
      have hvm := hw.hasRestoredVM h.1 h.2 hcur hr hn
      exact ⟨hvm.toReconciled, hvm.congr rfl rfl⟩
    · -- Versions that are not complete may be written whatever the VM.
      intro s' new hw hc h
      exact h.wroteVMRestore
        ⟨hw.evolves, fun h' => absurd (by simpa [VMRestore.isComplete] using h') hc⟩
    · intro vmb vm ready hr
      have hcomplete := (VMRestore.evolves_updateProgressMetrics env vmr).trans
        (VMRestore.evolves_setCompleteCondition _ env.now)
      exact (updateStatus_preserves (fun _ _ hw h => h.wroteVMRestore hw.evolves)
        (fun _ _ h => h.congr rfl rfl) hr.hasStatus (fun _ h => h.congr rfl rfl)
        (fun _ h => h.wroteVMRestore hcomplete) ready).weaken (fun _ h => h)
        fun _ _ h => h.toReconciled
  exact hrun s ⟨.refl hown, rfl⟩

end

end Restore

end Harvester
