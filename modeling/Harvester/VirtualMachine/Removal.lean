import Harvester.Restore.Basic

/-!
# Removal of a VM

`cleanupPVCAndSnapshot` of `pkg/controller/master/virtualmachine/vm_controller.go` deletes the
snapshots of a removed VM, after it has made each of their volume snapshots a dependent of its PVC,
and then the PVCs that are to be removed with the VM.  The snapshots are looked up by the name of
the source VM (`pkg/indexeres/indexer.go`), without its namespace.

* `removal_isolated_iff`: the removal touches only what belongs to the VM, exactly if there are no
  snapshots of a VM with the same name in another namespace, and the PVCs to be removed are claims
  of the VM;
* `removal_deletes_backup_of_other_vm`: otherwise, it deletes such a snapshot.
-/

namespace Harvester

namespace VirtualMachine

open Control Action
open Restore (VM VMBackup VolumeBackup)

/-! ### Objects -/

/-- A volume snapshot. -/
structure VolumeSnapshot where
  ns : String
  name : String
  resourceVersion : Nat
  ownerReferences : List OwnerReference
  deriving DecidableEq, Repr

section

variable (env : Env) (vs : VolumeSnapshot) (vm : VM) (vmb : VMBackup)

/-- Its key. -/
def VolumeSnapshot.key : Key := ⟨vs.ns, vs.name⟩

/-- A `PersistentVolumeClaim`. -/
structure Claim where
  ns : String
  name : String
  uid : String
  deriving DecidableEq, Repr

/-- The key of a claim. -/
def Claim.key (pvc : Claim) : Key := ⟨pvc.ns, pvc.name⟩

/-- The `VMBackup`s of the cluster, whose volume backups have names. -/
structure Backups where
  store : Store VMBackup.key
  named : ∀ vmb ∈ store.objs, ∀ vb ∈ vmb.volumeBackups, vb.name.isSome

/-- The objects. -/
structure Server where
  vmBackups : Store VMBackup.key
  snapshots : Store VolumeSnapshot.key
  pvcs : Store Claim.key

/-- The requests. -/
inductive Request where
  | updateSnapshot (key : Key)
  | deleteVMBackup (key : Key)
  | deletePVC (key : Key)
  deriving DecidableEq, Repr

/-- The caches, which may be out of date at each reading, and the fate of the requests. -/
structure Env where
  vmBackups : Except Err (Store VMBackup.key)
  snapshots : VolumeBackup → Lookup Err VolumeSnapshot.key
  pvcs : VolumeBackup → Lookup Err Claim.key
  fault : Request → Fault × Err

/-- Calls of the controller. -/
abbrev Act (α : Type) := Action Server Err α

/-- A request with its fault. -/
def Env.request (env : Env) (r : Request) (m : Act Unit) : Act Unit :=
  Action.request (env.fault r).1 (env.fault r).2 m

/-- `fmt.Errorf("<message>, err: %w", err)`. -/
def wrap (message : String) (e : Err) : Err := .other (message ++ ", err: " ++ e.text)

/-! ### Requests -/

/-- A snapshot is updated. -/
def putSnapshot : Act Unit := fun s =>
  match s.snapshots.get vs.key with
  | none => (.error (.notFound vs.key), s)
  | some cur =>
    if cur.resourceVersion = vs.resourceVersion then
      (.ok (), { s with
        snapshots := s.snapshots.put { vs with resourceVersion := vs.resourceVersion + 1 } })
    else (.error (.conflict vs.key), s)

/-- A backup is deleted. -/
def removeVMBackup (key : Key) : Act Unit := fun s =>
  match s.vmBackups.get key with
  | none => (.error (.notFound key), s)
  | some _ => (.ok (), { s with vmBackups := s.vmBackups.delete key })

/-- A claim is deleted. -/
def removePVC (key : Key) : Act Unit := fun s =>
  match s.pvcs.get key with
  | none => (.error (.notFound key), s)
  | some _ => (.ok (), { s with pvcs := s.pvcs.delete key })

/-! ### The snapshots of the VM -/

/-- `VMBackupBySourceVMName`: the index has no namespace. -/
def vmBackupBySourceVMName : List String := [vmb.sourceName]

/-- The data leave the cluster. -/
def usesRemoteBackupTarget : Restore.BackupType → Bool
  | .backup => true
  | .snapshot => false

/-- The volume snapshot with the PVC as its only owner. -/
def VolumeSnapshot.ownedBy (pvc : Claim) : VolumeSnapshot :=
  { vs with ownerReferences := [⟨"PersistentVolumeClaim", pvc.name, pvc.uid, false, false⟩] }

/-- Make the volume snapshot of a volume backup a dependent of its PVC. -/
def setOwner (vb : VolumeBackup) : Act Unit :=
  match vb.name with
  | none => fail (.other "invalid memory address or nil pointer dereference")
  | some name => do
    let key : Key := ⟨vmb.ns, name⟩
    let pvcKey : Key := ⟨vb.pvcNamespace, vb.pvcName⟩
    let volumeSnapshot ← (Action.ofExcept ((env.snapshots vb).find key)).mapError
      (wrap ("can't get VolumeSnapshot " ++ key.text))
    let pvc ← (Action.ofExcept ((env.pvcs vb).find pvcKey)).mapError
      (wrap ("can't get PVC " ++ pvcKey.text))
    if volumeSnapshot = volumeSnapshot.ownedBy pvc then pure ()
    else
      (env.request (.updateSnapshot key) (putSnapshot (volumeSnapshot.ownedBy pvc))).mapError
        (wrap ("can't update VolumeSnapshot " ++ key.text))

/-- The body of the loop of `removeVMBackupSnapshot`. -/
def removeSnapshot : Act Unit :=
  if usesRemoteBackupTarget vmb.type then pure ()
  else do
    forEach (setOwner env vmb) vmb.volumeBackups
    (env.request (.deleteVMBackup vmb.key) (removeVMBackup vmb.key)).mapError
      (wrap ("can't delete VMBackup " ++ vmb.key.text))

/-- The `VMBackups` that the index gives for a VM name. -/
def byIndex (store : Store VMBackup.key) (name : String) : List VMBackup :=
  store.objs.filter fun vmb => name ∈ vmBackupBySourceVMName vmb

theorem mem_byIndex {store : Store VMBackup.key} {name : String} {vmb : VMBackup} :
    vmb ∈ byIndex store name ↔ vmb ∈ store.objs ∧ vmb.sourceName = name := by
  simp [byIndex, vmBackupBySourceVMName, eq_comm]

/-- The snapshots are deleted. -/
def removeVMBackupSnapshot : Act Unit := do
  let vmBackups ← (Action.ofExcept env.vmBackups).mapError
    (wrap "can't get VMBackups from index harvesterhci.io/vmbackup-by-source-vm-name")
  forEach (removeSnapshot env) (byIndex vmBackups vm.name)

/-! ### The PVCs of the VM -/

/-- `strings.TrimSpace`. -/
def trimSpace (cs : List Char) : List Char :=
  ((cs.dropWhile Char.isWhitespace).reverse.dropWhile Char.isWhitespace).reverse

/-- The claims to be removed. -/
def getRemovedPVCs : List String :=
  let names :=
    (vm.annotations.other.lookup "harvesterhci.io/removedPersistentVolumeClaims").getD ""
  ((names.toList.splitOn ',').map fun name => String.ofList (trimSpace name)).filter (· ≠ "")

/-- The body of the loop of `removePVCInRemovedPVCsAnnotation`. -/
def deletePVC (env : Env) (key : Key) : Act Unit := do
  match ← attempt (env.request (.deletePVC key) (removePVC key)) with
  | .ok () => pure ()
  | .error e =>
    if e.isNotFound then pure ()
    else fail (wrap ("can't delete PVC " ++ key.text) e)

/-- They are deleted. -/
def removePVCInRemovedPVCsAnnotation : Act Unit :=
  forEach (fun pvcName => deletePVC env ⟨vm.ns, pvcName⟩) (getRemovedPVCs vm)

/-- The cleanup. -/
def cleanupPVCAndSnapshot : Act Unit := do
  removeVMBackupSnapshot env vm
  removePVCInRemovedPVCsAnnotation env vm

/-! ### What the removal leaves alone -/

/-- The key of a `VMBackup` that was taken from the VM. -/
def OwnsVMBackup (backups : Backups) (k : Key) : Prop :=
  ∃ vmb ∈ backups.store.objs, vmb.sourceKey = vm.key ∧ vmb.key = k

/-- The key of a volume snapshot of such a `VMBackup`. -/
def OwnsSnapshot (backups : Backups) (k : Key) : Prop :=
  ∃ vmb ∈ backups.store.objs, vmb.sourceKey = vm.key ∧
    ∃ vb ∈ vmb.volumeBackups, ∃ name, vb.name = some name ∧ (⟨vmb.ns, name⟩ : Key) = k

/-- The key of a PVC that a volume of the VM refers to. -/
def OwnsPVC (k : Key) : Prop := k.ns = vm.ns ∧ k.name ∈ vm.spec.claimNames

/-- Nothing has changed that does not belong to the VM. -/
structure Untouched (backups : Backups) (s₀ s : Server) : Prop where
  vmBackups : ∀ k, ¬ OwnsVMBackup vm backups k → s.vmBackups.get k = s₀.vmBackups.get k
  snapshots : ∀ k, ¬ OwnsSnapshot vm backups k → s.snapshots.get k = s₀.snapshots.get k
  pvcs : ∀ k, ¬ OwnsPVC vm k → s.pvcs.get k = s₀.pvcs.get k

/-- Whatever the other objects and caches are, and whichever requests fail, the removal of the VM
touches only what belongs to it. -/
def Isolated (backups : Backups) : Prop :=
  ∀ (s : Server) (env : Env), env.vmBackups = .ok backups.store →
    Untouched vm backups s ((cleanupPVCAndSnapshot env vm).run s).2

end

section

variable {vm : VM} {backups : Backups} {vmb : VMBackup} (s₀ : Server)

theorem putSnapshot_untouched {vs : VolumeSnapshot} (h : OwnsSnapshot vm backups vs.key) :
    Preserves (Untouched vm backups s₀) (putSnapshot vs) := by
  intro s hs
  simp only [run, putSnapshot]
  split
  · exact hs
  split
  · refine ⟨hs.vmBackups, fun k hk => ?_, hs.pvcs⟩
    have hne : k ≠ { vs with resourceVersion := vs.resourceVersion + 1 }.key :=
      fun heq => hk (heq ▸ h)
    exact (Store.get_put_of_ne _ hne).trans (hs.snapshots k hk)
  · exact hs

theorem removeVMBackup_untouched {key : Key} (h : OwnsVMBackup vm backups key) :
    Preserves (Untouched vm backups s₀) (removeVMBackup key) := by
  intro s hs
  simp only [run, removeVMBackup]
  split
  · exact hs
  · refine ⟨fun k hk => ?_, hs.snapshots, hs.pvcs⟩
    have hne : k ≠ key := fun heq => hk (heq ▸ h)
    exact (Store.get_delete_of_ne _ hne).trans (hs.vmBackups k hk)

variable (env : Env)

theorem setOwner_untouched (hmem : vmb ∈ backups.store.objs) (hkey : vmb.sourceKey = vm.key)
    {vb : VolumeBackup} (hvb : vb ∈ vmb.volumeBackups) :
    Preserves (Untouched vm backups s₀) (setOwner env vmb vb) := by
  unfold setOwner
  split
  · exact .fail _
  next name hname =>
  have hfind : Yields (Untouched vm backups s₀) (fun vs => OwnsSnapshot vm backups vs.key)
      (Action.ofExcept ((env.snapshots vb).find ⟨vmb.ns, name⟩)) := by
    refine .ofExcept fun vs hvs => ?_
    have hvs : vs.key = ⟨vmb.ns, name⟩ := (env.snapshots vb).key_of_find hvs
    exact ⟨vmb, hmem, hkey, vb, hvb, name, hname, hvs.symm⟩
  refine hfind.mapError.bind fun vs hvs => ?_
  refine (Preserves.ofExcept _).mapError.bind fun pvc => ?_
  split
  · exact .pure ()
  · have howned : OwnsSnapshot vm backups (vs.ownedBy pvc).key := hvs
    exact (putSnapshot_untouched s₀ howned).request.mapError

theorem removeSnapshot_untouched (hmem : vmb ∈ backups.store.objs)
    (h : usesRemoteBackupTarget vmb.type = false → vmb.sourceKey = vm.key) :
    Preserves (Untouched vm backups s₀) (removeSnapshot env vmb) := by
  unfold removeSnapshot
  split
  · exact .pure ()
  next htype =>
  have hkey := h (by simpa using htype)
  refine (Preserves.forEach fun vb hvb => setOwner_untouched s₀ env hmem hkey hvb).bind fun _ => ?_
  exact (removeVMBackup_untouched s₀ ⟨vmb, hmem, hkey, rfl⟩).request.mapError

theorem removeVMBackupSnapshot_untouched {env : Env} (hcache : env.vmBackups = .ok backups.store)
    (h : ∀ vmb ∈ backups.store.objs, vmb.sourceName = vm.name →
      usesRemoteBackupTarget vmb.type = false → vmb.sourceKey = vm.key) :
    Preserves (Untouched vm backups s₀) (removeVMBackupSnapshot env vm) := by
  unfold removeVMBackupSnapshot
  rw [hcache]
  refine .forEach fun vmb hvmb => ?_
  obtain ⟨hmem, hname⟩ := mem_byIndex.1 hvmb
  exact removeSnapshot_untouched s₀ env hmem (h vmb hmem hname)

/-- The loop over the PVCs keeps what the deletion of a PVC that is named keeps. -/
theorem removePVCs_preserves {I : Server → Prop} {vm : VM}
    (hI : ∀ s, ∀ name ∈ getRemovedPVCs vm, I s →
      I { s with pvcs := s.pvcs.delete ⟨vm.ns, name⟩ }) :
    Preserves I <| removePVCInRemovedPVCsAnnotation env vm := by
  refine .forEach fun name hname => ?_
  have hremove : Preserves I (removePVC ⟨vm.ns, name⟩) := by
    intro s hs
    simp only [run, removePVC]
    split
    · exact hs
    · exact hI s name hname hs
  refine hremove.request.attempt.bind fun r => ?_
  split
  · exact .pure ()
  split
  · exact .pure ()
  · exact .fail _

theorem removePVCs_untouched (h : ∀ name ∈ getRemovedPVCs vm, name ∈ vm.spec.claimNames) :
    Preserves (Untouched vm backups s₀) <| removePVCInRemovedPVCsAnnotation env vm := by
  refine removePVCs_preserves env fun s name hname hs => ?_
  refine ⟨hs.vmBackups, hs.snapshots, fun k hk => ?_⟩
  have hne : k ≠ ⟨vm.ns, name⟩ := fun heq => hk (heq ▸ ⟨rfl, h name hname⟩)
  exact (Store.get_delete_of_ne _ hne).trans (hs.pvcs k hk)

end

/-! ### What is not the VM's is deleted -/

section

variable (backups : Backups)

/-- A cluster in which requests succeed and the volume snapshots need no change. -/
def quietEnv : Env where
  vmBackups := .ok backups.store
  snapshots vb :=
    { find := fun k =>
        .ok ⟨k.ns, k.name, 0, [⟨"PersistentVolumeClaim", vb.pvcName, "", false, false⟩]⟩
      key_of_find := fun h => Except.ok.inj h ▸ rfl }
  pvcs _ :=
    { find := fun k => .ok ⟨k.ns, k.name, ""⟩
      key_of_find := fun h => Except.ok.inj h ▸ rfl }
  fault _ := (.none, .other "")

theorem setOwner_quiet {vmb : VMBackup} {vb : VolumeBackup} (h : vb.name.isSome) (s : Server) :
    (setOwner (quietEnv backups) vmb vb).run s = (.ok (), s) := by
  obtain ⟨name, hname⟩ := Option.isSome_iff_exists.1 h
  simp [setOwner, hname, quietEnv, run, bind, Action.ofExcept, mapError,
    Except.mapError, VolumeSnapshot.ownedBy, pure]

theorem setOwners_quiet (vmb : VMBackup) {vbs : List VolumeBackup}
    (h : ∀ vb ∈ vbs, vb.name.isSome) (s : Server) :
    (forEach (setOwner (quietEnv backups) vmb) vbs).run s = (.ok (), s) := by
  induction vbs with
  | nil => rfl
  | cons vb vbs ih =>
    rw [forEach, run_bind_of_run_ok (setOwner_quiet backups (h vb List.mem_cons_self) s)]
    exact ih fun vb' hvb' => h vb' (List.mem_cons_of_mem vb hvb')

theorem removeSnapshot_quiet {vmb : VMBackup} {s : Server}
    (h : ∀ vb ∈ vmb.volumeBackups, vb.name.isSome) (hget : s.vmBackups.get vmb.key = some vmb) :
    (removeSnapshot (quietEnv backups) vmb).run s = (.ok (),
      if usesRemoteBackupTarget vmb.type then s
      else { s with vmBackups := s.vmBackups.delete vmb.key }) := by
  unfold removeSnapshot
  split
  · rfl
  rw [run_bind_of_run_ok (setOwners_quiet backups vmb h s)]
  simp [run, mapError, Env.request, quietEnv, removeVMBackup, hget, Except.mapError]

theorem removeSnapshots_quiet {vmbs : List VMBackup} {s : Server}
    (hnamed : ∀ vmb ∈ vmbs, ∀ vb ∈ vmb.volumeBackups, vb.name.isSome)
    (hnodup : (vmbs.map VMBackup.key).Nodup)
    (hget : ∀ vmb ∈ vmbs, s.vmBackups.get vmb.key = some vmb) :
    ∃ s', (forEach (removeSnapshot (quietEnv backups)) vmbs).run s = (.ok (), s') ∧
      (∀ vmb ∈ vmbs, usesRemoteBackupTarget vmb.type = false →
        s'.vmBackups.get vmb.key = none) ∧
      ∀ k, s.vmBackups.get k = none → s'.vmBackups.get k = none := by
  induction vmbs generalizing s with
  | nil => exact ⟨s, rfl, by simp, fun k hk => hk⟩
  | cons vmb vmbs ih =>
    rw [List.map_cons, List.nodup_cons] at hnodup
    rw [forEach, run_bind_of_run_ok (removeSnapshot_quiet backups (hnamed vmb List.mem_cons_self)
      (hget vmb List.mem_cons_self))]
    -- The other snapshots have other keys, so they are still there.
    obtain ⟨s', hrun, hgone, hnone⟩ := ih (fun v hv => hnamed v (List.mem_cons_of_mem vmb hv))
      hnodup.2 (s := if usesRemoteBackupTarget vmb.type then s
        else { s with vmBackups := s.vmBackups.delete vmb.key }) fun v hv => by
        have hne : v.key ≠ vmb.key := fun heq => hnodup.1 (heq ▸ List.mem_map_of_mem hv)
        have hv' := hget v (List.mem_cons_of_mem vmb hv)
        split
        · exact hv'
        · exact (Store.get_delete_of_ne _ hne).trans hv'
    refine ⟨s', hrun, fun v hv htype => ?_, fun k hk => hnone k ?_⟩
    · rcases List.mem_cons.1 hv with rfl | hv
      · exact hnone _ (by simp [htype])
      · exact hgone v hv htype
    · split
      · exact hk
      by_cases hkey : k = vmb.key
      · exact hkey ▸ Store.get_delete_self _ _
      · exact (Store.get_delete_of_ne _ hkey).trans hk

theorem removeVMBackupSnapshot_quiet (vm : VM) {s : Server} (hs : s.vmBackups = backups.store) :
    ∃ s', (removeVMBackupSnapshot (quietEnv backups) vm).run s = (.ok (), s') ∧
      ∀ vmb ∈ byIndex backups.store vm.name, usesRemoteBackupTarget vmb.type = false →
        s'.vmBackups.get vmb.key = none := by
  obtain ⟨s', hrun, hgone, -⟩ := removeSnapshots_quiet backups (s := s)
    (fun v hv => backups.named v (mem_byIndex.1 hv).1)
    (backups.store.nodup.sublist (List.filter_sublist.map _))
    fun v hv => hs ▸ Store.get_of_mem (mem_byIndex.1 hv).1
  exact ⟨s', hrun, hgone⟩

theorem deletePVC_quiet (key : Key) (s : Server) :
    ∃ s', (deletePVC (quietEnv backups) key).run s = (.ok (), s') ∧
      s'.pvcs.get key = none ∧ ∀ k, s.pvcs.get k = none → s'.pvcs.get k = none := by
  simp only [deletePVC, quietEnv, Env.request, request_none, run_attempt_bind]
  rcases hget : s.pvcs.get key with _ | pvc
  · have hrun : (removePVC key).run s = (.error (.notFound key), s) := by
      simp [run, removePVC, hget]
    rw [hrun]
    exact ⟨s, rfl, hget, fun _ hk => hk⟩
  · have hrun : (removePVC key).run s = (.ok (), { s with pvcs := s.pvcs.delete key }) := by
      simp [run, removePVC, hget]
    rw [hrun]
    refine ⟨_, rfl, Store.get_delete_self _ _, fun k hk => ?_⟩
    by_cases hkey : k = key
    · exact hkey ▸ Store.get_delete_self _ _
    · exact (Store.get_delete_of_ne _ hkey).trans hk

theorem removePVCs_quiet (ns : String) (names : List String) (s : Server) (k : Key)
    (h : k ∈ names.map (Key.mk ns) ∨ s.pvcs.get k = none) :
    ((forEach (fun name => deletePVC (quietEnv backups) ⟨ns, name⟩) names).run s).2.pvcs.get k =
      none := by
  induction names generalizing s with
  | nil => exact h.resolve_left (by simp)
  | cons name names ih =>
    obtain ⟨s', hrun, hgone, hkeep⟩ := deletePVC_quiet backups ⟨ns, name⟩ s
    rw [forEach, run_bind_of_run_ok hrun]
    rw [List.map_cons, List.mem_cons, or_assoc] at h
    exact ih s' (h.elim (fun heq => .inr (heq ▸ hgone)) (Or.imp_right (hkeep k)))

end

/-- **The removal of a VM touches only what belongs to it, exactly if no other namespace has a
snapshot of a VM with the same name and the VM names no PVC for removal but its own.** -/
theorem removal_isolated_iff (vm : VM) (backups : Backups) :
    Isolated vm backups ↔
      (∀ vmb ∈ backups.store.objs, vmb.sourceName = vm.name →
        usesRemoteBackupTarget vmb.type = false → vmb.ns = vm.ns) ∧
      ∀ name ∈ getRemovedPVCs vm, name ∈ vm.spec.claimNames := by
  constructor
  · intro hiso
    -- A quiet cluster with the backups and this PVC.
    let s (name : String) : Server :=
      ⟨backups.store, Store.empty, Store.empty.put ⟨vm.ns, name, ""⟩⟩
    constructor
    · intro vmb hmem hname htype
      by_contra hns
      obtain ⟨s', hrun, hgone⟩ := removeVMBackupSnapshot_quiet backups vm (s := s "") rfl
      -- The snapshot is gone after the loop, and the deletion of PVCs does not bring it back.
      have hkept : (s "").vmBackups.get vmb.key = none := by
        rw [← (hiso (s "") (quietEnv backups) rfl).vmBackups vmb.key ?_, cleanupPVCAndSnapshot,
          run_bind_of_run_ok hrun]
        · exact removePVCs_preserves (I := fun t => t.vmBackups.get vmb.key = none) _
            (fun _ _ _ ht => ht) s' (hgone vmb (mem_byIndex.2 ⟨hmem, hname⟩) htype)
        · rintro ⟨other, hother, hsource, hkey⟩
          obtain rfl := Store.eq_of_key hother hmem hkey
          exact hns (congrArg Key.ns hsource)
      exact absurd ((Store.get_of_mem hmem).symm.trans hkept) (by simp)
    · intro name hname
      by_contra hnot
      obtain ⟨s', hrun, -⟩ := removeVMBackupSnapshot_quiet backups vm (s := s name) rfl
      have hkept : (s name).pvcs.get ⟨vm.ns, name⟩ = none := by
        rw [← (hiso (s name) (quietEnv backups) rfl).pvcs ⟨vm.ns, name⟩ fun h => hnot h.2,
          cleanupPVCAndSnapshot, run_bind_of_run_ok hrun]
        exact removePVCs_quiet backups vm.ns _ s' _ (.inl (List.mem_map_of_mem hname))
      exact absurd ((Store.get_put_self _ _).symm.trans hkept) (by simp)
  · rintro ⟨hsnapshots, hclaims⟩ s env hcache
    refine ((removeVMBackupSnapshot_untouched s hcache fun vmb hmem hname htype => ?_).bind
      fun _ => removePVCs_untouched s env hclaims) s
        ⟨fun _ _ => rfl, fun _ _ => rfl, fun _ _ => rfl⟩
    rw [VMBackup.sourceKey, hsnapshots vmb hmem hname htype, hname]
    rfl

namespace RemovalSample

/-- The VM that is removed. -/
def vm : VM := Restore.Sample.vm "vm" "disk"

/-- A snapshot of the VM `tenant/vm`. -/
def snapshot : VMBackup :=
  { Restore.Sample.backup with
    ns := "tenant"
    type := .snapshot
    volumeBackups :=
      [⟨some "b-disk", "disk", "tenant", "disk", none, Restore.Sample.pvcSpec, none⟩] }

def backups : Backups where
  store := Store.empty.put snapshot
  named := by decide

def server : Server where
  vmBackups := backups.store
  snapshots := Store.empty.put
    ⟨"tenant", "b-disk", 1, [⟨"VirtualMachineBackup", "b", "9", true, true⟩]⟩
  pvcs := Store.empty.put ⟨"tenant", "disk", "7"⟩

/-- The caches are up to date and no request fails. -/
def env : Env where
  vmBackups := .ok backups.store
  snapshots _ := server.snapshots.lookup .notFound
  pvcs _ := server.pvcs.lookup .notFound
  fault _ := (.none, .other "")

/-- Snapshots in the namespace of the VM do no harm. -/
example : ∀ vmb ∈ [{ snapshot with ns := "default" }], vmb.sourceName = vm.name →
    usesRemoteBackupTarget vmb.type = false → vmb.ns = vm.ns := by decide

end RemovalSample

open RemovalSample in
/-- `default/vm` is removed, and the snapshot of `tenant/vm` is deleted. -/
theorem removal_deletes_backup_of_other_vm :
    snapshot.sourceKey ≠ vm.key ∧
      server.vmBackups.get snapshot.key = some snapshot ∧
      ((cleanupPVCAndSnapshot env vm).run server).2.vmBackups.get
        snapshot.key = none ∧
      ((cleanupPVCAndSnapshot env vm).run server).2.snapshots.get
        ⟨"tenant", "b-disk"⟩ =
          some ⟨"tenant", "b-disk", 2, [⟨"PersistentVolumeClaim", "disk", "7", false, false⟩]⟩ ∧
      ¬ Isolated vm backups := by
  have hgone : ((cleanupPVCAndSnapshot env vm).run server).2.vmBackups.get
      snapshot.key = none := by decide
  have hthere : server.vmBackups.get snapshot.key = some snapshot := by
    decide
  refine ⟨by decide, hthere, hgone, by decide, fun hiso => ?_⟩
  have hforeign : ¬ OwnsVMBackup vm backups snapshot.key := by
    rintro ⟨vmb, hmem, hsource, -⟩
    obtain rfl := List.mem_singleton.1 hmem
    exact absurd hsource (by decide)
  have hkept := (hiso server env rfl).vmBackups snapshot.key hforeign
  cases hkept

end VirtualMachine

end Harvester
