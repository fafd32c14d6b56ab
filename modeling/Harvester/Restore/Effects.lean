import Harvester.Restore.Controller

/-!
# What the actions of a reconcile can change

One rule for each action of the restore controller.  It says which changes of the server an
invariant must allow for the action to keep it, however its requests fail.  The modules that follow
choose their own invariants and do not look into the actions again.
-/

namespace Harvester

namespace Restore

open Control Action

namespace Server

/-- The server after a restore was written. -/
def wroteVMRestore (s : Server) (vmr : VMRestore) : Server :=
  { s with
    vmRestores := s.vmRestores.put { vmr.marshalled with resourceVersion := s.resourceVersion + 1 }
    resourceVersion := s.resourceVersion + 1
    trace := s.trace ++
      [.updatedVMRestore { vmr.marshalled with resourceVersion := s.resourceVersion + 1 }] }

/-- The server after a VM was written. -/
def wroteVM (s : Server) (vm : VM) : Server :=
  { s with
    vms := s.vms.put vm
    resourceVersion := s.resourceVersion + 1
    trace := s.trace ++ [.wroteVM vm] }

/-- The server after a PVC was deleted. -/
def deletedPVC (s : Server) (key : Key) : Server :=
  { s with pvcs := s.pvcs.delete key, trace := s.trace ++ [.deletedPVC key] }

/-- The server with one more event. -/
def recorded (s : Server) (e : Event) : Server := { s with trace := s.trace ++ [e] }

end Server

@[simp] theorem complete_setErrorCondition (vmr : VMRestore) (err : Err) (now : String) :
    (vmr.setErrorCondition err now).status.complete = vmr.status.complete := rfl

@[simp] theorem complete_setProcessingCondition (vmr : VMRestore) (message now : String) :
    (vmr.setProcessingCondition message now).status.complete = vmr.status.complete := rfl

@[simp] theorem complete_setProgress (vmr : VMRestore) (progress : Int) :
    (vmr.setProgress progress).status.complete = vmr.status.complete := by
  unfold VMRestore.setProgress
  split <;> rfl

@[simp] theorem complete_rectifyProgress (vmr : VMRestore) :
    vmr.rectifyProgressBeforeVMStart.status.complete = vmr.status.complete := by
  unfold VMRestore.rectifyProgressBeforeVMStart
  split
  · rfl
  · exact complete_setProgress _ _

@[simp] theorem complete_updateProgressMetrics (env : Env) (vmr : VMRestore) :
    (updateProgressMetrics env vmr).status.complete = vmr.status.complete := by
  unfold updateProgressMetrics
  dsimp only
  split
  · split
    · exact complete_setProgress _ _
    · rfl
  · rfl

theorem complete_withVolumesStatus {env : Env} {vmr vmr' : VMRestore} {vmb : VMBackup}
    (h : withVolumesStatus env vmr vmb = .ok vmr') :
    vmr'.status.complete = vmr.status.complete := by
  obtain ⟨volumeRestores, -, h⟩ := except_bind_eq_ok.1 h
  obtain ⟨deletedVolumes, -, h⟩ := except_bind_eq_ok.1 h
  rw [← Except.ok.inj h]

section

variable {I : Server → Prop} (env : Env)

theorem resolveTargetVM_eq_some {env : Env} {vmr : VMRestore} {vm : VM}
    (h : resolveTargetVM env vmr = .ok (some vm)) : env.vm vmr.targetKey = .ok vm := by
  unfold resolveTargetVM at h
  split at h
  · simp at h
  split at h
  · next vm' hvm =>
    simp only [Except.ok.injEq, Option.some.injEq] at h
    rw [hvm, h]
  · split at h <;> simp at h

theorem resolveVMBackup_eq_ok {env : Env} {vmr : VMRestore} {vmb : VMBackup}
    (h : resolveVMBackup env vmr = .ok vmb) : env.vmBackup vmr.backupKey = .ok vmb := by
  unfold resolveVMBackup at h
  split at h
  · simp at h
  next vmb' hvmb =>
  split at h
  · simp at h
  · split at h
    · simp at h
    · rw [hvmb, Except.ok.inj h]

theorem reconcileVolumeRestores_preserves (hI : ∀ s pvcs, I s → I { s with pvcs })
    (vmr : VMRestore) (vmb : VMBackup) (vrs : List (VolumeRestore × Nat)) :
    Preserves I (reconcileVolumeRestores env vmr vmb vrs) := by
  have hcreate : ∀ pvc, Preserves I (createPVC pvc) := by
    intro pvc s h
    simp only [run, createPVC]
    split
    · exact h
    · exact hI s _ h
  have hengine : ∀ vr i, Preserves I (engineReconcile env vmr vmb vr i) := by
    intro vr i
    unfold engineReconcile
    -- The volume is created only when the cache does not show it.
    split
    · split
      · split
        · exact .fail _
        · exact (Preserves.ofExcept _).bind fun _ =>
            (Preserves.request (hcreate _)).bind fun _ => .pure _
      · exact .fail _
    · split
      · exact .pure _
      · exact .fail _
      · exact (Preserves.ofExcept _).bind fun _ => .pure _
  induction vrs with
  | nil => exact .pure _
  | cons vr vrs ih => exact (hengine vr.1 vr.2).bind fun _ => ih.bind fun _ => .pure _

theorem restoreSecrets_preserves (hI : ∀ s secrets, I s → I { s with secrets })
    (vmr : VMRestore) (vmb : VMBackup) (vm : VM) :
    Preserves I (restoreSecrets env vmr vmb vm) := by
  have hcreate : ∀ secret, Preserves I (createSecret secret) := by
    intro secret s h
    simp only [run, createSecret]
    split
    · exact h
    · exact hI s _ h
  have hput : ∀ secret, Preserves I (putSecret secret) := by
    intro secret s h
    simp only [run, putSecret]
    split
    · exact h
    · exact hI s _ h
  refine .forEach fun sb _ => ?_
  dsimp only
  unfold buildAndApplySecret
  split
  · split
    · exact .request (hcreate _)
    · exact .fail _
  · split
    · exact .pure _
    · exact .request (hput _)

theorem startVM_preserves {vm : VM} (hI : ∀ s, I s → I (s.recorded (.startVM vm.key))) :
    Preserves I (startVM env vm) := by
  have hsub : Preserves I (startVMSubresource env vm) := Preserves.request hI
  unfold startVM handleRerunOnFailure handleManualStrategy
  repeat' split
  all_goals first
    | exact hsub
    | exact .fail _
    | exact .pure _

theorem deleteOldPVCs_preserves (hI : ∀ s key, I s → I (s.deletedPVC key)) (vmr : VMRestore)
    (vm : VM) : Preserves I (deleteOldPVCs env vmr vm) := by
  have hremove : ∀ key, Preserves I (removePVC key) := by
    intro key s h
    simp only [run, removePVC]
    split
    · exact h
    · exact hI s key h
  have hone : ∀ pvcName, Preserves I (deleteOldPVC env vm.ns pvcName) := by
    intro pvcName
    unfold deleteOldPVC
    split
    · split
      · exact .pure _
      · exact .fail _
    · -- A deletion that is answered with not-found counts as done.
      refine (Preserves.attempt (Preserves.request (hremove _))).bind fun r => ?_
      split
      · exact .pure _
      · split
        · exact .pure _
        · exact .fail _
  unfold deleteOldPVCs
  split
  · exact .pure _
  · exact .forEach fun pvc _ => hone pvc

theorem putVMRestore_preserves {new : VMRestore} (hI : ∀ s, I s → I (s.wroteVMRestore new)) :
    Preserves I (putVMRestore new) := by
  intro s h
  simp only [run, putVMRestore]
  split
  · exact h
  · split
    · exact hI s h
    · exact h

theorem update_preserves (site : UpdateSite) (old : VMRestore) {new : VMRestore}
    (hI : ∀ s, I s → I (s.wroteVMRestore new)) : Preserves I (update env site old new) := by
  unfold update
  split
  · exact .pure _
  · exact (putVMRestore_preserves hI).request

end

/-- The versions of the restore `vmr` that do not have the progress of a reconcile. -/
inductive PreparesVMRestore (env : Env) (vmr : VMRestore) : VMRestore → Prop where
  | init (h : vmr.hasStatus = false) : PreparesVMRestore env vmr (vmr.withNewStatus env.now)
  | volumes {vmb : VMBackup} {new : VMRestore} (h : withVolumesStatus env vmr vmb = .ok new) :
      PreparesVMRestore env vmr new
  | error (e : Err) : PreparesVMRestore env vmr (vmr.setErrorCondition e env.now)

/-- The versions that a reconcile of the restore `vmr` writes, the complete one apart. -/
inductive WritesVMRestore (env : Env) (vmr : VMRestore) : VMRestore → Prop where
  | prepares {new : VMRestore} (h : PreparesVMRestore env vmr new) : WritesVMRestore env vmr new
  | reconcileError (h : vmr.hasStatus = true) (e : Err) :
      WritesVMRestore env vmr ((updateProgressMetrics env vmr).setErrorCondition e env.now)
  | owner (h : vmr.hasStatus = true) (ownerReferences : List OwnerReference)
      (targetUID : Option String) :
      WritesVMRestore env vmr { updateProgressMetrics env vmr with
        ownerReferences
        status := { (updateProgressMetrics env vmr).status with targetUID } }
  | wait (h : vmr.hasStatus = true) (message : String) : WritesVMRestore env vmr
      ((updateProgressMetrics env vmr).rectifyProgressBeforeVMStart.setProcessingCondition message
        env.now)

theorem PreparesVMRestore.not_complete {env : Env} {vmr new : VMRestore}
    (h : PreparesVMRestore env vmr new) (hc : vmr.status.complete ≠ some true) :
    new.status.complete ≠ some true := by
  cases h with
  | init => simp [VMRestore.withNewStatus]
  | volumes h => rwa [complete_withVolumesStatus h]
  | error => simpa using hc

theorem WritesVMRestore.not_complete {env : Env} {vmr new : VMRestore}
    (h : WritesVMRestore env vmr new) (hc : vmr.status.complete ≠ some true) :
    new.status.complete ≠ some true := by
  cases h with
  | prepares h => exact h.not_complete hc
  | _ => simpa using hc

section

variable {I : Server → Prop} {env : Env} {vmr vmrCpy : VMRestore} {vm : VM}

theorem initVolumesStatus_preserves (vmb : VMBackup)
    (hI : ∀ s new, PreparesVMRestore env vmr new → I s → I (s.wroteVMRestore new)) :
    Preserves I (initVolumesStatus env vmr vmb) := by
  refine Triple.bind (Q := fun r s => I s ∧ withVolumesStatus env vmr vmb = r)
    (Triple.ofExcept fun s hs => ⟨hs, rfl⟩) (fun new s hs => ?_) fun e s hs => hs.1
  exact update_preserves env _ _ (fun s => hI s new (.volumes hs.2)) s hs.1

theorem finalizeRestore_preserves
    (hI : ∀ s new, PreparesVMRestore env vmr new → I s → I (s.wroteVMRestore new))
    (hdel : ∀ s key, I s → I (s.deletedPVC key))
    (hcomplete : ∀ s, I s → I (s.wroteVMRestore (vmrCpy.setCompleteCondition env.now))) :
    Preserves I (finalizeRestore env vmr vmrCpy vm) := by
  refine (Preserves.attempt (deleteOldPVCs_preserves env hdel vmrCpy vm)).bind fun r => ?_
  split
  · exact update_preserves env _ _ fun s => hI s _ (.error _)
  · exact update_preserves env _ _ hcomplete

variable (hI : ∀ s new, WritesVMRestore env vmr new → I s → I (s.wroteVMRestore new))

include hI

theorem updateOwnerRefAndTargetUID_preserves (hs : vmr.hasStatus = true) :
    Preserves I (updateOwnerRefAndTargetUID env (updateProgressMetrics env vmr) vm) := by
  unfold updateOwnerRefAndTargetUID
  dsimp only
  split
  · exact .pure _
  refine (Preserves.attempt (update_preserves env _ _ fun s => hI s _ (.owner hs _ _))).bind
    fun r => ?_
  split
  · exact .pure _
  · exact .fail _

theorem updateStatus_preserves (hdel : ∀ s key, I s → I (s.deletedPVC key))
    (hs : vmr.hasStatus = true)
    (hstart : ∀ s, I s → I (s.recorded (.startVM vm.key)))
    (hcomplete : ∀ s, I s →
      I (s.wroteVMRestore ((updateProgressMetrics env vmr).setCompleteCondition env.now)))
    (isVolumesReady : Bool) :
    Preserves I (updateStatus env vmr (updateProgressMetrics env vmr) vm isVolumesReady) := by
  have hwait : ∀ site message, Preserves I (update env site vmr
      ((updateProgressMetrics env vmr).rectifyProgressBeforeVMStart.setProcessingCondition message
        env.now)) :=
    fun site message => update_preserves env site vmr fun s => hI s _ (.wait hs message)
  unfold updateStatus
  split
  · exact hwait _ _
  refine .bind ?_ fun _ =>
    finalizeRestore_preserves (fun s new hw => hI s new (.prepares hw)) hdel hcomplete
  unfold ensureVMStartedAndReady
  split
  · exact .pure _
  split
  · exact .pure _
  refine (Preserves.attempt (startVM_preserves env hstart)).bind fun r => ?_
  split
  · exact update_preserves env _ _ fun s => hI s _ (.prepares (.error _))
  · exact (hwait _ _).bind fun _ => .fail _

end

/-- The VMs that `reconcileVM` writes to the server `s` for the restore `vmr` of `vmb`. -/
inductive WritesVM (env : Env) (vmr : VMRestore) (vmb : VMBackup) (s : Server) : VM → Prop where
  /-- The VM in the cache, when it is the current one, with the spec of the backup. -/
  | update {old cur : VM} {templates : List ClaimTemplate}
      (hold : env.vm vmr.targetKey = .ok old) (hcur : s.vms.get old.key = some cur)
      (hversion : cur.resourceVersion = old.resourceVersion) :
      WritesVM env vmr vmb s
        { restoredVM vmr vmb templates old with resourceVersion := s.resourceVersion + 1 }
  | create {vm : VM} (hbuild : buildVMFromRestore env vmr vmb = .ok vm)
      (hnone : s.vms.get vm.key = none) :
      WritesVM env vmr vmb s
        { (if vmr.spec.keepMacAddress then vm else removeMacAddresses vm) with
          uid := env.newUID, resourceVersion := s.resourceVersion + 1 }

section

variable {P E : Server → Prop} {Q : VM → Server → Prop} {env : Env} {vmr : VMRestore}
  {vmb : VMBackup} (hPE : ∀ s, P s → E s)

include hPE

section

variable (hQE : ∀ vm s, Q vm s → E s)
  (hwrite : ∀ s vm, P s → WritesVM env vmr vmb s vm → Q vm (s.wroteVM vm))

include hQE hwrite

theorem createNewVM_triple : Triple P (createNewVM env vmr vmb) (Ends E Q) := by
  refine .bind (Q := fun r s => P s ∧ buildVMFromRestore env vmr vmb = r)
    (Triple.ofExcept fun s h => ⟨h, rfl⟩) (fun vm => ?_) fun e s h => hPE s h.1
  refine .requestEnds ?_ (fun s h => hPE s h.1) hQE
  rintro s ⟨hs, hbuild⟩
  simp only [run, createVM]
  split
  · exact hPE s hs
  · next hnone =>
    refine hwrite s _ hs (.create hbuild ?_)
    split at hnone <;> exact hnone

theorem updateExistingVM_triple {old : VM} (hold : env.vm vmr.targetKey = .ok old) :
    Triple P (updateExistingVM env old vmr vmb) (Ends E Q) := by
  refine .andThen ((Preserves.ofExcept _).ends hPE) fun templates => ?_
  refine .requestEnds (fun s hs => ?_) hPE hQE
  simp only [run, putVM]
  split
  · exact hPE s hs
  next cur hcur =>
  split
  · next hversion => exact hwrite s _ hs (.update hold hcur hversion)
  · exact hPE s hs

theorem reconcileVM_triple (hkeep : ∀ s vm, P s → env.vm vmr.targetKey = .ok vm →
      isVMAlreadyRestored vm vmr = true → Q vm s) :
    Triple P (reconcileVM env vmr vmb) (Ends E Q) := by
  refine .bind (Q := fun r s => P s ∧ resolveTargetVM env vmr = r)
    (Triple.ofExcept fun s h => ⟨h, rfl⟩) (fun target => ?_) fun e s h => hPE s h.1
  cases target with
  | none => exact (createNewVM_triple hPE hQE hwrite).weaken (fun s h => h.1) fun r s h => h
  | some vm =>
    rintro s ⟨hs, htarget⟩
    have hvm := resolveTargetVM_eq_some htarget
    dsimp only
    split
    · next hdone => exact hkeep s vm hs hvm hdone
    · exact updateExistingVM_triple hPE hQE hwrite hvm s hs

end

omit hPE in
/-- What a reconcile that comes to the resources has found. -/
structure Restoring (env : Env) (vmr : VMRestore) (vmb : VMBackup) : Prop where
  complete : vmr.status.complete ≠ some true
  hasStatus : vmr.hasStatus = true
  volumes : vmr.isMissingVolumes = false
  backup : env.vmBackup vmr.backupKey = .ok vmb

omit hPE in
/-- **The two kinds of reconciles.** -/
theorem restoreOnChanged_cases (env : Env) (vmr : VMRestore) :
    (∀ I : Server → Prop, (∀ s new, PreparesVMRestore env vmr new →
        new.status.complete ≠ some true → I s → I (s.wroteVMRestore new)) →
      Preserves I (restoreOnChanged env vmr)) ∨
    ∃ vmb, Restoring env vmr vmb ∧ restoreOnChanged env vmr = reconcileRestore env vmr vmb := by
  unfold restoreOnChanged
  split
  · exact .inl fun I _ => .pure _
  split
  · exact .inl fun I _ => .pure _
  next hp =>
  have hc : vmr.status.complete ≠ some true := by simpa [VMRestore.isProgressing] using hp
  split
  · next hs =>
    have hw : PreparesVMRestore env vmr (vmr.withNewStatus env.now) := .init (by simpa using hs)
    exact .inl fun I hI => update_preserves env _ _ fun s => hI s _ hw (hw.not_complete hc)
  next hs =>
  split
  · next e _ =>
    have hw : PreparesVMRestore env vmr (vmr.setErrorCondition e env.now) := .error e
    exact .inl fun I hI => update_preserves env _ _ fun s => hI s _ hw (hw.not_complete hc)
  next vmb hvmb =>
  split
  · exact .inl fun I hI =>
      initVolumesStatus_preserves vmb fun s new hw => hI s new hw (hw.not_complete hc)
  · next hvolumes =>
    exact .inr ⟨vmb, ⟨hc, by simpa using hs, by simpa using hvolumes, resolveVMBackup_eq_ok hvmb⟩,
      rfl⟩

section

variable {J : VM → Server → Prop}
  (hpvcs : ∀ s pvcs, P s → P { s with pvcs })
  (hkeep : ∀ s vm, P s → env.vm vmr.targetKey = .ok vm → isVMAlreadyRestored vm vmr = true →
    J vm (s.recorded (.observedVM vm)))
  (hwrite : ∀ vmb s vm, Restoring env vmr vmb → P s → WritesVM env vmr vmb s vm →
    E (s.wroteVM vm) ∧ J vm ((s.wroteVM vm).recorded (.observedVM vm)))
  (hsecrets : ∀ vm s secrets, J vm s → J vm { s with secrets }) (hJE : ∀ vm s, J vm s → E s)

include hpvcs hkeep hwrite hsecrets hJE

/-- **The first half of a reconcile.**  `J vm` is known with the VM in hand, `E` after an error. -/
theorem reconcileResources_triple (hr : Restoring env vmr vmb) :
    Triple P (reconcileResources env vmr vmb) (Ends E fun r => J r.1) := by
  refine .andThen ((reconcileVolumeRestores_preserves env hpvcs vmr vmb _).ends hPE)
    fun ready => ?_
  refine .andThen (Q := fun vm s => E s ∧ J vm (s.recorded (.observedVM vm)))
    (reconcileVM_triple hPE (fun _ _ h => h.1) (fun s vm => hwrite vmb s vm hr)
      fun s vm hs hvm hdone => ⟨hPE s hs, hkeep s vm hs hvm hdone⟩) fun vm => ?_
  -- The VM is noted down first; the secrets that follow keep `J vm`.
  refine .andThen (Q := fun _ => J vm) (fun s hs => hs.2) fun _ => ?_
  exact ((restoreSecrets_preserves env (hsecrets vm) vmr vmb vm).ends (hJE vm)).andThen
    fun _ => .pure fun s hs => hs

/-- **A reconcile**: `P` holds up to the VM, `J vm` with the VM in hand, `E` after an error and
while versions of the restore are written that are not complete, and `R` at the end. -/
theorem restoreOnChanged_triple {R : Server → Prop} (hER : ∀ s, E s → R s)
    (hvmr : ∀ s new, WritesVMRestore env vmr new → new.status.complete ≠ some true → E s →
      E (s.wroteVMRestore new))
    (hstatus : ∀ vmb vm isVolumesReady, Restoring env vmr vmb → Triple (J vm)
      (updateStatus env vmr (updateProgressMetrics env vmr) vm isVolumesReady) fun _ => R) :
    Triple P (restoreOnChanged env vmr) fun _ => R := by
  rcases restoreOnChanged_cases env vmr with hearly | ⟨vmb, hr, heq⟩
  · exact (hearly E fun s new hw => hvmr s new (.prepares hw)).weaken hPE fun _ => hER
  have hI : ∀ s new, WritesVMRestore env vmr new → E s → E (s.wroteVMRestore new) :=
    fun s new hw => hvmr s new hw (hw.not_complete hr.complete)
  rw [heq]
  refine (reconcileResources_triple hPE hpvcs hkeep hwrite hsecrets hJE hr).attemptBind fun r => ?_
  rcases r with e | ⟨vm, ready⟩
  · -- The error is reported in the status; the VM may have been written before it.
    exact (update_preserves env _ _ fun s => hI s _ (.reconcileError hr.hasStatus e)).weaken
      (fun _ h => h) fun _ => hER
  dsimp only
  split
  · exact (updateOwnerRefAndTargetUID_preserves hI hr.hasStatus).weaken (hJE vm) fun _ => hER
  · exact hstatus vmb vm ready hr

end

end

end Restore

end Harvester
