import Harvester.Control.Machine
import Harvester.Restore.Lifecycle
import Harvester.Restore.Webhook

/-!
# Successive restores of one VM

Restores are admitted (`Cluster.create`, with current caches) and reconciled (`restoreOnChanged`) in
any order, requests fail in any way, and VMs start and stop.  The backups are finished ones and stay
as they are; one that is removed cannot be read any more.

The webhook admits a restore that replaces a VM when no other restore of that VM is active, and a
*failed* restore does not count as active.  The controller goes on with every restore that is not
complete, a failed one included.

* `runs_exclusive`: as long as no failed restore is reconciled after a later restore of the same VM
  was admitted, an earlier restore never touches the VM again, and a VM whose latest restore is
  complete has the volumes of the backup on the PVCs of that restore.  A restore that is created
  complete is left out;
* `failed_restore_overwrites_vm`: the failed restore puts its own volumes in the place of those of
  the complete one.
-/

namespace Harvester

namespace Restore

open Control

/-- The API server, and the restores that were admitted, the latest one first. -/
structure System where
  server : Server
  admitted : List VMRestore

namespace System

/-- A step of the system. -/
inductive Step where
  /-- A user creates a restore.  What the webhook sees besides VMs, backups and restores is in
  `cluster`. -/
  | accept (cluster : Cluster) (user : String) (vmr : VMRestore)
  /-- The controller reconciles the restore under the key. -/
  | reconcile (key : Key) (env : Env)
  /-- KubeVirt starts or stops a VM. -/
  | setReady (key : Key) (ready : Bool)
  /-- Anything that happens to volumes and secrets. -/
  | setVolumes (pvcs : Store PVC.key) (secrets : Store Secret.key)
  | remove (key : Key)

/-- The restore ID of a new restore is neither that of another restore nor on a VM. -/
def Fresh (w : System) (vmr : VMRestore) : Prop :=
  (∀ r ∈ w.admitted, r.restoreID ≠ vmr.restoreID) ∧
    ∀ vm ∈ w.server.vms.objs, vm.annotations.lastRestore ≠ some vmr.restoreID
  deriving Decidable

instance {α : Type} [DecidableEq α] (read : Except Err α) (stored : Option α) :
    Decidable (Shows read stored) :=
  match h : read with
  | .ok a => decidable_of_iff (stored = some a)
      ⟨fun hget a' ha => by rw [hget, Except.ok.inj ha], fun hcur => hcur a rfl⟩
  | .error _ => isTrue fun a ha => by simp at ha

instance (env : Env) (vmr : VMRestore) (s : Server) : Decidable (TargetCurrent env vmr s) :=
  inferInstanceAs (Decidable (Shows _ _))

/-- Admit a restore, which is stored as it is. -/
def accept (backups : Store VMBackup.key) (w : System) (cluster : Cluster) (user : String)
    (vmr : VMRestore) : Option System :=
  let cluster := { cluster with
    vms := w.server.vms, vmBackups := backups, vmRestores := w.server.vmRestores }
  let vmr := { vmr with resourceVersion := w.server.resourceVersion + 1 }
  if cluster.create user vmr = .ok () ∧ w.server.vmRestores.get vmr.key = none ∧ w.Fresh vmr then
    some {
      server := { w.server with
        vmRestores := w.server.vmRestores.put vmr
        resourceVersion := w.server.resourceVersion + 1 }
      admitted := vmr :: w.admitted }
  else none

/-- Reconcile a restore, with caches that show the target VM and the backup as they are. -/
def reconcile (backups : Store VMBackup.key) (w : System) (key : Key) (env : Env) :
    Option System :=
  match w.server.vmRestores.get key with
  | none => none
  | some vmr =>
    if TargetCurrent env vmr w.server ∧
        Shows (env.vmBackup vmr.backupKey) (backups.get vmr.backupKey) then
      some { w with server := ((restoreOnChanged env vmr).run w.server).2 }
    else none

/-- Change the status of a VM. -/
def setReady (w : System) (key : Key) (ready : Bool) : Option System :=
  match w.server.vms.get key with
  | none => none
  | some vm =>
    let vm := { vm with ready, resourceVersion := w.server.resourceVersion + 1 }
    some { w with server := { w.server with
      vms := w.server.vms.put vm
      resourceVersion := w.server.resourceVersion + 1 } }

end System

/-- The webhook, the controller and their environment, with these backups. -/
def system (backups : Store VMBackup.key) : Machine System System.Step where
  next w
    | .accept cluster user vmr => w.accept backups cluster user vmr
    | .reconcile key env => w.reconcile backups key env
    | .setReady key ready => w.setReady key ready
    | .setVolumes pvcs secrets => some { w with server := { w.server with pvcs, secrets } }
    | .remove key =>
      some { w with server := { w.server with vmRestores := w.server.vmRestores.delete key } }

namespace System

section

variable (backups : Store VMBackup.key) (w : System) (vmr : VMRestore)

/-- The restores that were admitted after `vmr`. -/
def after : List VMRestore :=
  w.admitted.takeWhile fun r => r.restoreID ≠ vmr.restoreID

/-- A restore that replaces the VM was admitted after `vmr`. -/
def superseded : Bool :=
  (w.after vmr).any fun r => r.targetKey = vmr.targetKey && !r.spec.newVM

/-- A restore of the same VM was admitted after `vmr`. -/
def overtaken : Bool :=
  (w.after vmr).any fun r => r.targetKey = vmr.targetKey

/-- The step creates a complete restore, or reconciles a failed one that another has superseded. -/
def disturbs : Step → Bool
  | .accept _ _ vmr => vmr.isComplete
  | .reconcile key _ => (w.server.vmRestores.get key).any fun vmr =>
      w.superseded vmr && vmr.isFailed
  | _ => false

/-- What holds of a restore that is stored. -/
structure Stored : Prop where
  admitted : ∃ a ∈ w.admitted, a.Evolves vmr
  /-- A superseded restore is over. -/
  settled : w.superseded vmr = true → vmr.isComplete = true ∨ vmr.isFailed = true
  /-- A VM with the ID of a restore refers to the volumes of the restore. -/
  restored : ∀ vm, w.server.vms.get vmr.targetKey = some vm →
    vm.annotations.lastRestore = some vmr.restoreID →
      vmr.hasStatus = true ∧ vmr.names ≠ [] ∧
        ∃ vmb, backups.get vmr.backupKey = some vmb ∧ RestoredBy vmr vmb vm
  /-- A complete restore that nobody has overtaken was the last one to write the VM. -/
  complete : vmr.isComplete = true → vmr.spec.newVM = false → w.overtaken vmr = false →
    ∃ vm, w.server.vms.get vmr.targetKey = some vm ∧
      vm.annotations.lastRestore = some vmr.restoreID

/-- What holds in every state. -/
structure Inv : Prop where
  nodup : (w.admitted.map VMRestore.restoreID).Nodup
  stored : ∀ k vmr, w.server.vmRestores.get k = some vmr → Stored backups w vmr

/-! ### The order of admission -/

theorem after_congr {vmr vmr' : VMRestore} (h : vmr'.restoreID = vmr.restoreID) : w.after vmr' =
    w.after vmr := by
  rw [after, after, h]

theorem superseded_evolves {vmr vmr' : VMRestore} (h : vmr.Evolves vmr') : w.superseded vmr' =
    w.superseded vmr := by
  rw [superseded, superseded, w.after_congr h.restoreID, h.targetKey]

end

theorem mem_takeWhile_or {α β : Type} [DecidableEq β] (f : α → β) {l : List α}
    (hnd : (l.map f).Nodup) {a b : α} (ha : a ∈ l) (hb : b ∈ l) (hne : f a ≠ f b) :
    b ∈ l.takeWhile (fun x => f x ≠ f a) ∨ a ∈ l.takeWhile (fun x => f x ≠ f b) := by
  induction l with
  | nil => simp at ha
  | cons x l ih =>
    rw [List.map_cons, List.nodup_cons] at hnd
    rcases List.mem_cons.1 ha with rfl | ha
    · exact .inr (by simp [hne])
    rcases List.mem_cons.1 hb with rfl | hb
    · exact .inl (by simp [hne.symm])
    have hxa : f x ≠ f a := fun h => hnd.1 (h ▸ List.mem_map_of_mem ha)
    have hxb : f x ≠ f b := fun h => hnd.1 (h ▸ List.mem_map_of_mem hb)
    simpa [hxa, hxb] using
      (ih hnd.2 ha hb).imp (List.mem_cons_of_mem x) (List.mem_cons_of_mem x)

/-! ### What every step keeps -/

section

variable {backups : Store VMBackup.key} {w w' : System}

theorem Inv.key_eq (h : Inv backups w) {k k' : Key} {vmr vmr' : VMRestore}
    (hk : w.server.vmRestores.get k = some vmr) (hk' : w.server.vmRestores.get k' = some vmr')
    (hid : vmr.restoreID = vmr'.restoreID) : k = k' := by
  obtain ⟨a, ha, hea⟩ := (h.stored k vmr hk).admitted
  obtain ⟨b, hb, heb⟩ := (h.stored k' vmr' hk').admitted
  have hab : a = b := List.inj_on_of_nodup_map h.nodup ha hb
    (by rw [← hea.restoreID, ← heb.restoreID, hid])
  subst hab
  rw [← Store.key_of_get hk, ← Store.key_of_get hk', hea.key, heb.key]

/-- Of two restores of one VM, the one that is not superseded has overtaken the other. -/
theorem Inv.superseded_or_overtaken (h : Inv backups w) {k k' : Key} {vmr vmr' : VMRestore}
    (hk : w.server.vmRestores.get k = some vmr) (hk' : w.server.vmRestores.get k' = some vmr')
    (hne : k ≠ k') (htarget : vmr'.targetKey = vmr.targetKey) (hnew : vmr'.spec.newVM = false) :
    w.superseded vmr = true ∨ w.overtaken vmr' = true := by
  obtain ⟨a, ha, hea⟩ := (h.stored k vmr hk).admitted
  obtain ⟨b, hb, heb⟩ := (h.stored k' vmr' hk').admitted
  have hid : a.restoreID ≠ b.restoreID := by
    rw [← hea.restoreID, ← heb.restoreID]
    exact fun hid => hne (h.key_eq hk hk' hid)
  -- One of the two was admitted after the other.
  rcases mem_takeWhile_or VMRestore.restoreID h.nodup ha hb hid with hmem | hmem
  · refine .inl (List.any_eq_true.2 ⟨b, ?_, ?_⟩)
    · rwa [w.after_congr hea.restoreID]
    · rw [← heb.spec, hnew, ← heb.targetKey, htarget]
      simp
  · refine .inr (List.any_eq_true.2 ⟨a, ?_, ?_⟩)
    · rwa [w.after_congr heb.restoreID]
    · rw [← hea.targetKey, htarget]
      simp

theorem restoreOnChanged_of_complete {env : Env} {vmr : VMRestore} (h : vmr.isComplete = true)
    (s : Server) : ((restoreOnChanged env vmr).run s).2 = s := by
  have hp : vmr.isProgressing = false := by
    simpa [VMRestore.isProgressing, VMRestore.isComplete] using h
  unfold restoreOnChanged
  rw [hp]
  split <;> rfl

/-- A restore that is admitted to replace a VM finds no active restore of that VM. -/
theorem over_of_create {c : Cluster} {user : String} {vmr other : VMRestore} {k : Key}
    (hcreate : c.create user vmr = .ok ()) (hnew : vmr.spec.newVM = false)
    (hk : c.vmRestores.get k = some other) (htarget : vmr.targetKey = other.targetKey) :
    other.isComplete = true ∨ other.isFailed = true := by
  obtain ⟨vmb, -, hvm⟩ := Cluster.create_eq_ok.1 hcreate
  simp only [Cluster.checkNewVMField, hnew] at hvm
  rcases hget : c.vms.get vmr.targetKey with _ | vm
  · simp [hget] at hvm
  rw [hget] at hvm
  have hkey : vm.key = other.targetKey := (Store.key_of_get hget).trans htarget
  have hactive : c.hasActiveRestore vm.ns vm.name = false := by
    simp only [Cluster.handleExistVM] at hvm
    split at hvm
    · simp at hvm
    · split at hvm
      · simp at hvm
      · next h => simpa using h
  have hns : vm.ns = other.ns := congrArg Key.ns hkey
  have hname : vm.name = other.spec.targetName := congrArg Key.name hkey
  have hmem : other ∈ c.vmRestores.objs.filter fun r =>
      Cluster.restoreTargetIndex r = vm.ns ++ "-" ++ vm.name := by
    refine List.mem_filter.2 ⟨Store.mem_of_get hk, ?_⟩
    simp [Cluster.restoreTargetIndex, hns, hname]
  have hany := List.any_eq_false.1 hactive other hmem
  by_contra hover
  simp_all [VMRestore.isProgressing, VMRestore.isComplete]

theorem after_cons {w : System} {server : Server} {new vmr : VMRestore}
    (h : new.restoreID ≠ vmr.restoreID) :
    after ⟨server, new :: w.admitted⟩ vmr = new :: w.after vmr := by
  simp [after, h]

theorem after_self (server : Server) (new : VMRestore) (l : List VMRestore) :
    after ⟨server, new :: l⟩ new = [] := by
  simp [after]

theorem inv_accept {cluster : Cluster} {user : String} {vmr : VMRestore} (h : Inv backups w)
    (hG : w.disturbs (.accept cluster user vmr) = false)
    (hw : w.accept backups cluster user vmr = some w') : Inv backups w' := by
  obtain ⟨⟨hcreate, hnone, hfresh, hvms⟩, rfl⟩ := Machine.guarded_eq_some.1 hw
  have hnot : vmr.isComplete = false := hG
  set new : VMRestore := { vmr with resourceVersion := w.server.resourceVersion + 1 }
  refine ⟨?_, fun k vmr hk => ?_⟩
  · rw [List.map_cons, List.nodup_cons]
    refine ⟨fun hmem => ?_, h.nodup⟩
    obtain ⟨a, ha, haid⟩ := List.mem_map.1 hmem
    exact hfresh a ha haid
  by_cases hkey : k = new.key
  · subst hkey
    obtain rfl : new = vmr := by simpa using hk
    refine ⟨⟨new, List.mem_cons_self, .refl new⟩, fun hsup => ?_, fun vm hvm hlast => ?_,
      fun hc => ?_⟩
    · simp [superseded, after_self] at hsup
    · exact absurd hlast (hvms vm (Store.mem_of_get hvm))
    · rw [show new.isComplete = vmr.isComplete from rfl, hnot] at hc
      exact absurd hc (by simp)
  · rw [Store.get_put_of_ne _ hkey] at hk
    have hold := h.stored k vmr hk
    obtain ⟨a, ha, hea⟩ := hold.admitted
    have hid : new.restoreID ≠ vmr.restoreID := hea.restoreID ▸ (hfresh a ha).symm
    refine ⟨⟨a, List.mem_cons_of_mem _ ha, hea⟩, fun hsup => ?_, hold.restored,
      fun hc hnew hov => ?_⟩
    · rw [superseded, after_cons hid, List.any_cons, Bool.or_eq_true] at hsup
      rcases hsup with hnew | hsup
      · simp only [Bool.and_eq_true, decide_eq_true_eq, Bool.not_eq_true'] at hnew
        exact over_of_create hcreate hnew.2 hk hnew.1
      · exact hold.settled hsup
    · rw [overtaken, after_cons hid, List.any_cons, Bool.or_eq_false_iff] at hov
      exact hold.complete hc hnew hov.2

theorem Inv.congr_vms (h : Inv backups w) (hr : w'.server.vmRestores = w.server.vmRestores)
    (ha : w'.admitted = w.admitted)
    (hvms : ∀ k, (w'.server.vms.get k).map (fun vm => (vm.annotations, vm.spec)) =
      (w.server.vms.get k).map fun vm => (vm.annotations, vm.spec)) : Inv backups w' := by
  obtain ⟨server', admitted'⟩ := w'
  subst ha
  refine ⟨h.nodup, fun k vmr hk => ?_⟩
  have hold := h.stored k vmr (hr ▸ hk)
  have hsame := hvms vmr.targetKey
  refine ⟨hold.admitted, hold.settled, fun vm' hvm hlast => ?_, fun hc hnew hov => ?_⟩
  · rw [hvm, eq_comm, Option.map_some, Option.map_eq_some_iff] at hsame
    obtain ⟨vm, hget, hsame⟩ := hsame
    obtain ⟨hann, hspec⟩ := Prod.mk.inj hsame
    obtain ⟨hs, hn, hres⟩ := hold.restored vm hget (hann ▸ hlast)
    obtain ⟨vmb, hvmb, hres⟩ := hres
    exact ⟨hs, hn, vmb, hvmb, hlast, hspec ▸ hres.volumes⟩
  · obtain ⟨vm, hget, hlast⟩ := hold.complete hc hnew hov
    rw [hget, Option.map_some, Option.map_eq_some_iff] at hsame
    obtain ⟨vm', hget', hsame⟩ := hsame
    exact ⟨vm', hget', (Prod.mk.inj hsame).1 ▸ hlast⟩

theorem inv_setReady {key : Key} {ready : Bool} (h : Inv backups w)
    (hw : w.setReady key ready = some w') : Inv backups w' := by
  unfold setReady at hw
  split at hw
  · simp at hw
  next old hold =>
  cases hw
  obtain rfl : old.key = key := Store.key_of_get hold
  set new : VM := { old with ready, resourceVersion := w.server.resourceVersion + 1 }
  refine h.congr_vms rfl rfl fun k => ?_
  dsimp only
  by_cases hk : k = new.key
  · rw [hk, Store.get_put_self, show w.server.vms.get new.key = some old from hold]
    rfl
  · rw [Store.get_put_of_ne _ hk]

theorem inv_remove (key : Key) (h : Inv backups w) :
    Inv backups { w with
      server := { w.server with vmRestores := w.server.vmRestores.delete key } } := by
  refine ⟨h.nodup, fun k vmr hk => ?_⟩
  by_cases hkey : k = key
  · simp [hkey] at hk
  · rw [Store.get_delete_of_ne _ hkey] at hk
    obtain ⟨ha, hs, hr, hc⟩ := h.stored k vmr hk
    exact ⟨ha, hs, hr, hc⟩

section

variable {vmr r : VMRestore} {env : Env} {s' : Server}

/-- The next version of the restore that is reconciled. -/
theorem Stored.reconciled (h : Stored backups w vmr) (hc : vmr.isComplete = false)
    (hsup : w.superseded vmr = false)
    (hbackup : Shows (env.vmBackup vmr.backupKey) (backups.get vmr.backupKey))
    (hvms : VMFrame env vmr w.server s') (hr : Writable vmr s'.vms r) :
    Stored backups { w with server := s' } r := by
  have he := hr.evolves
  obtain ⟨a, ha, hea⟩ := h.admitted
  refine ⟨⟨a, ha, hea.trans he⟩, fun hrsup => ?_, fun vm hvm hlast => ?_, fun hrc _ _ => ?_⟩
  · have := (w.superseded_evolves he).symm.trans hrsup
    simp [hsup] at this
  · rw [he.targetKey] at hvm
    rw [he.restoreID] at hlast
    obtain ⟨hs, hn, vmb, hvmb, hres⟩ : vmr.hasStatus = true ∧ vmr.names ≠ [] ∧
        ∃ vmb, backups.get vmr.backupKey = some vmb ∧ RestoredBy vmr vmb vm := by
      rcases hvms.target with hsame | ⟨hs, hn, vm', vmb, hvmb, hvm', hres⟩
      · exact h.restored vm (hsame ▸ hvm) hlast
      · obtain rfl := Option.some.inj (hvm.symm.trans hvm')
        exact ⟨hs, hn, vmb, hbackup vmb hvmb, hres⟩
    exact ⟨he.hasStatus hs, by rw [he.names hs hn]; exact hn, vmb, by rw [he.backupKey, hvmb],
      hres.evolves he hs hn⟩
  · rcases hr.complete hrc with hdone | ⟨vm, hvm, hlast⟩
    · simp [hc] at hdone
    · exact ⟨vm, by rw [he.targetKey, hvm], by rw [he.restoreID, hlast]⟩

/-- Another restore than the one that is reconciled. -/
theorem Stored.kept (h : Stored backups w r) (hvms : VMFrame env vmr w.server s')
    (hid : r.restoreID ≠ vmr.restoreID)
    (hover : r.targetKey = vmr.targetKey → r.spec.newVM = false → w.overtaken r = true) :
    Stored backups { w with server := s' } r := by
  refine ⟨h.admitted, h.settled, fun vm hvm hlast => ?_, fun hc hnew hov => ?_⟩
  · by_cases htarget : r.targetKey = vmr.targetKey
    · rw [htarget] at hvm
      rcases hvms.target with hsame | ⟨-, -, vm', vmb, -, hvm', hres⟩
      · exact h.restored vm (by rw [htarget, ← hsame, hvm]) hlast
      · -- A VM that `vmr` has written does not have the ID of `r`.
        obtain rfl := Option.some.inj (hvm.symm.trans hvm')
        exact absurd (Option.some.inj (hlast.symm.trans hres.lastRestore)) hid
    · rw [hvms.others _ htarget] at hvm
      exact h.restored vm hvm hlast
  · obtain ⟨vm, hvm, hlast⟩ := h.complete hc hnew hov
    have htarget : r.targetKey ≠ vmr.targetKey := fun htarget =>
      absurd ((hover htarget hnew).symm.trans hov) (by simp)
    exact ⟨vm, by rw [hvms.others _ htarget, hvm], hlast⟩

theorem inv_of_reconciled {key : Key} (h : Inv backups w)
    (hk : w.server.vmRestores.get key = some vmr) (hc : vmr.isComplete = false)
    (hsup : w.superseded vmr = false)
    (hbackup : Shows (env.vmBackup vmr.backupKey) (backups.get vmr.backupKey))
    (hrec : Reconciled env vmr w.server s') :
    Inv backups { w with server := s' } := by
  obtain ⟨vmr', hown, hwritable⟩ := hrec.own
  have hkey : vmr.key = key := Store.key_of_get hk
  refine ⟨h.nodup, fun k r hr => ?_⟩
  by_cases hkk : k = key
  · rw [hkk, ← hkey] at hr
    obtain rfl := Option.some.inj (hown.symm.trans hr)
    exact (h.stored key vmr hk).reconciled hc hsup hbackup hrec.vms hwritable
  · rw [hrec.others k (hkey.symm ▸ hkk)] at hr
    refine (h.stored k r hr).kept hrec.vms (fun hid => hkk (h.key_eq hr hk hid))
      fun htarget hnew => ?_
    -- `vmr` is not superseded, so it has overtaken `r`.
    exact (h.superseded_or_overtaken hk hr (Ne.symm hkk) htarget hnew).resolve_left (by simp [hsup])

end

theorem inv_reconcile {key : Key} {env : Env} (h : Inv backups w)
    (hG : w.disturbs (.reconcile key env) = false) (hw : w.reconcile backups key env = some w') :
    Inv backups w' := by
  unfold reconcile at hw
  split at hw
  · simp at hw
  next vmr hk =>
  obtain ⟨⟨hcur, hbackup⟩, rfl⟩ := Machine.guarded_eq_some.1 hw
  by_cases hc : vmr.isComplete = true
  · rw [restoreOnChanged_of_complete hc]
    exact h
  rw [Bool.not_eq_true] at hc
  have hkey : vmr.key = key := Store.key_of_get hk
  refine inv_of_reconciled h hk hc ?_ hbackup
    (restoreOnChanged_reconciled (by rw [hkey, hk]) hcur)
  -- A superseded restore that is not complete has failed, and is not reconciled.
  by_contra hsup
  rw [Bool.not_eq_false] at hsup
  rcases (h.stored key vmr hk).settled hsup with hdone | hfail
  · simp [hc] at hdone
  · simp [disturbs, hk, hsup, hfail] at hG

theorem inv_step (l : Step) (h : Inv backups w) (hG : w.disturbs l = false)
    (hw : (system backups).next w l = some w') : Inv backups w' := by
  cases l with
  | accept => exact inv_accept h hG hw
  | reconcile => exact inv_reconcile h hG hw
  | setReady => exact inv_setReady h hw
  | setVolumes pvcs secrets =>
    cases hw
    exact h.congr_vms rfl rfl fun _ => rfl
  | remove key =>
    cases hw
    exact inv_remove key h

end

end System

namespace Sample

/-- A reconcile that reads the backup and the VM like this; nothing fails. -/
def reading (vmb : Except Err VMBackup) (vm : Except Err VM) : Env where
  vmBackup _ := vmb
  vm _ := vm
  vmi k := .error (.notFound k)
  pvc k := .ok (pvc k.name)
  secret k := .error (.notFound k)
  volumeSnapshot _ := .ok "b-disk"
  volumeCheck _ := .ok ()
  progress _ := .ok 100
  fault _ := .none
  newUID := "uid-new"
  now := "now"

/-- The restore keeps the old volumes and leaves the VM halted. -/
def retain : RestoreSpec := ⟨"VirtualMachine", "vm", "b", "default", false, .retain, false, true⟩

/-- The restore is complete. -/
def isComplete (w : System) (name : String) : Bool :=
  (w.server.vmRestores.get ⟨"default", name⟩).any VMRestore.isComplete

/-- The claims of the VM. -/
def claims (w : System) : List String :=
  ((w.server.vms.get ⟨"default", "vm"⟩).map fun vm => vm.spec.claimNames).getD []

end Sample

end Restore

end Harvester
