import Harvester.Backup.Status

/-!
# The backup controller

`OnBackupChange` of `pkg/controller/master/backup/backup.go`: the status that a reconcile of a VM
backup writes.

A new backup has no status, and is initialised from the source VM; a failure is noted, and the next
reconcile starts from scratch.  A backup that is ready, or has failed after its initialisation,
never goes back to being in progress (`onBackupChange_settled`).
-/

namespace Harvester

namespace Backup

open Control Control.Guarded

/-- What an engine makes of the backup of a volume. -/
inductive EngineResult where
  | done (vb : VolumeBackup)
  /-- `ErrRetryLater`. -/
  | retryLater
  | failed (e : Err)

/-- What a reconcile looks up. -/
structure Env where
  now : Nat
  resolveSourceVM : Except Err String
  /-- `initVolBackups`; empty for a VM without PVCs. -/
  initVolBackups : String → Except Err (List VolumeBackup)
  initSecretBackups : Except Err Unit
  initVSCNames : Except Err Unit
  initBackupTarget : Except Err Unit
  buildCSIDriverMap : Except Err Unit
  /-- `Reconcile` of the engine, by the index of the volume. -/
  reconcile : Nat → VolumeBackup → EngineResult
  updateProgress : VolumeBackup → Except Err Int
  /-- The metadata of a backup that is ready has been uploaded. -/
  metadataUploaded : Bool
  /-- The answer to the first request to update the backup. -/
  update : Except Err Unit

section

variable (env : Env)

/-- The first status. -/
def initStatus (vm : String) : Status := ⟨some vm, [], none, 0, some false, none, []⟩

/-- The status is initialised. -/
def initVMBackup (vm : String) : Except Err Status := do
  let volumeBackups ← env.initVolBackups vm
  env.initSecretBackups
  env.initVSCNames
  env.initBackupTarget
  env.update
  return { initStatus vm with volumeBackups }

/-- The initialisation of a backup without status. -/
def initialise : Except Err Status := do
  let vm ← env.resolveSourceVM
  initVMBackup env vm

/-- The outcome of the loop of `CreateVolumeBackups`. -/
inductive VolumesResult where
  | done (vbs : List VolumeBackup)
  | retryLater
  | failed (e : Err)

/-- The loop of `CreateVolumeBackups`; volumes without a name are skipped. -/
def reconcileVolumes : Nat → List VolumeBackup → VolumesResult
  | _, [] => .done []
  | i, vb :: vbs =>
    match if vb.name.isNone then .done vb else env.reconcile i vb with
    | .retryLater => .retryLater
    | .failed e => .failed e
    | .done vb' =>
      match reconcileVolumes (i + 1) vbs with
      | .done vbs' => .done (vb' :: vbs')
      | other => other

/-- An error is noted. -/
def updateError (s : Status) (e : Err) : Status := setErrorCondition env.now e.text s

/-- `OnBackupChange` for a backup with a status that is not ready.  After `CreateVolumeBackups` has
written the volumes, the write of `updateConditions` ends in a conflict. -/
def reconcileStatus (s : Status) : Guarded Err Status :=
  match env.buildCSIDriverMap with
  | .error e => .ok (updateError env s e)
  | .ok () =>
    match reconcileVolumes env 0 s.volumeBackups with
    | .failed e => .ok (updateError env s e)
    | .retryLater => updateConditions env.updateProgress env.now s
    | .done vbs =>
      if vbs = s.volumeBackups then updateConditions env.updateProgress env.now s
      else match env.update with
        | .error e => .ok (updateError env s e)
        | .ok () => .ok { s with volumeBackups := vbs }

/-- `handleBackupReady`, which only adds to the status (`UpdateMetadataReady`). -/
def handleBackupReady (s : Status) : Status :=
  if env.metadataUploaded then
    { s with conditions :=
        applyCondition ⟨.metadataReady, true, "", "", env.now, env.now⟩ s.conditions }
  else s

/-- `OnBackupChange`: the status that is written. -/
def onBackupChange (s : Status) : Guarded Err Status :=
  if isReady s then .ok (handleBackupReady env s)
  else if isMissingStatus s then
    match initialise env with
    | .error e => .ok (updateError env s e)
    | .ok s' => .ok s'
  else reconcileStatus env s

end

/-- The backup has failed while it was being initialised. -/
def initFailed (s : Status) : Bool := isMissingStatus s && s.error.isSome

/-- The backup has been initialised, and it is ready or has failed. -/
def Settled (s : Status) : Prop := isMissingStatus s = false ∧ isProcessing s = false

/-- The status stays missing or not, and a failed backup does not go back to being in progress. -/
def Keeps (s s' : Status) : Prop :=
  isMissingStatus s' = isMissingStatus s ∧ (s.error.isSome → isProcessing s' = false)

variable {env : Env} {s s' : Status}

theorem length_reconcileVolumes {i : Nat} {vbs vbs' : List VolumeBackup}
    (h : reconcileVolumes env i vbs = .done vbs') : vbs'.length = vbs.length := by
  fun_induction reconcileVolumes env i vbs generalizing vbs' with
  | case1 =>
    cases h
    rfl
  | case2 | case3 => cases h
  | case4 i vb vbs vb' hdone rest hrest ih =>
    cases h
    rw [List.length_cons, List.length_cons, ih hrest]
  | case5 i vb vbs vb' hdone hother ih => exact absurd h (hother vbs' ·)

theorem isMissingStatus_congr (hsource : s'.sourceSpec = s.sourceSpec)
    (hlength : s'.volumeBackups.length = s.volumeBackups.length) :
    isMissingStatus s' = isMissingStatus s := by
  rw [isMissingStatus, isMissingStatus, hsource, Bool.eq_iff_iff]
  simp only [Bool.or_eq_true, List.isEmpty_iff_length_eq_zero, hlength]

theorem keeps_updateConditions {updateProgress : VolumeBackup → Except Err Int} {now : Nat}
    (h : updateConditions updateProgress now s = .ok s') : Keeps s s' := by
  obtain ⟨-, hsource, houtcome, hany, hnone⟩ := updateConditions_eq_ok h
  refine ⟨isMissingStatus_congr hsource (by simpa using congrArg List.length houtcome),
    fun herror => ?_⟩
  -- An error is cleared only when the backup becomes ready.
  cases hready : isReady s' with
  | true => simp [isProcessing, hready]
  | false =>
    have herror' : s'.error.isSome := by
      cases hcase : anyError s.volumeBackups with
      | true => exact hany hcase
      | false =>
        rw [hnone hcase, hready]
        exact herror
    simp [isProcessing, Option.isSome_iff_ne_none.1 herror']

theorem keeps_reconcileStatus (h : reconcileStatus env s = .ok s') : Keeps s s' := by
  have hkeeps (e : Err) : Keeps s (updateError env s e) := ⟨rfl, fun _ => rfl⟩
  unfold reconcileStatus at h
  split at h
  · cases h
    exact hkeeps _
  split at h
  · cases h
    exact hkeeps _
  · exact keeps_updateConditions h
  next vbs hvbs =>
  split_ifs at h
  · exact keeps_updateConditions h
  split at h
  · cases h
    exact hkeeps _
  · cases h
    refine ⟨isMissingStatus_congr rfl (length_reconcileVolumes hvbs), fun herror => ?_⟩
    simp [isProcessing, Option.isSome_iff_ne_none.1 herror]

theorem handleBackupReady_keeps : isReady (handleBackupReady env s) = isReady s ∧
    isMissingStatus (handleBackupReady env s) = isMissingStatus s := by
  unfold handleBackupReady
  split_ifs <;> exact ⟨rfl, rfl⟩

/-- **Readiness is not lost in a reconcile.** -/
theorem onBackupChange_ready (hready : isReady s = true) (h : onBackupChange env s = .ok s') :
    isReady s' = true := by
  rw [onBackupChange, if_pos hready] at h
  cases h
  exact handleBackupReady_keeps.1.trans hready

/-- **A backup that has been initialised stays so.** -/
theorem isMissingStatus_onBackupChange (hmissing : isMissingStatus s = false)
    (h : onBackupChange env s = .ok s') : isMissingStatus s' = false := by
  unfold onBackupChange at h
  split_ifs at h with hready hnot
  · cases h
    exact handleBackupReady_keeps.2.trans hmissing
  · simp [hmissing] at hnot
  · exact (keeps_reconcileStatus h).1.trans hmissing

/-- **A backup that is settled stays so.** -/
theorem onBackupChange_settled (hs : Settled s) (h : onBackupChange env s = .ok s') :
    Settled s' := by
  obtain ⟨hmissing, hprocessing⟩ := hs
  refine ⟨isMissingStatus_onBackupChange hmissing h, ?_⟩
  by_cases hready : isReady s = true
  · simp [isProcessing, onBackupChange_ready hready h]
  · rw [onBackupChange, if_neg hready, if_neg (by simp [hmissing])] at h
    have herror : s.error.isSome := by
      simpa [isProcessing, hready] using hprocessing
    exact (keeps_reconcileStatus h).2 herror

theorem initVMBackup_eq_ok {vm : String} (h : initVMBackup env vm = .ok s') :
    ∃ volumeBackups, env.initVolBackups vm = .ok volumeBackups ∧
      s' = { initStatus vm with volumeBackups } := by
  obtain ⟨volumeBackups, hvbs, h⟩ := except_bind_eq_ok.1 h
  obtain ⟨-, h⟩ := except_bind_unit_eq_ok.1 h
  obtain ⟨-, h⟩ := except_bind_unit_eq_ok.1 h
  obtain ⟨-, h⟩ := except_bind_unit_eq_ok.1 h
  obtain ⟨-, h⟩ := except_bind_unit_eq_ok.1 h
  exact ⟨volumeBackups, hvbs, (Except.ok.inj h).symm⟩

/-- **A backup that is ready has been initialised.** -/
theorem onBackupChange_initialised (hs : isReady s = true → isMissingStatus s = false)
    (h : onBackupChange env s = .ok s') : isReady s' = true → isMissingStatus s' = false := by
  intro hready'
  cases hmissing : isMissingStatus s with
  | false => exact isMissingStatus_onBackupChange hmissing h
  | true =>
    have hready : ¬ isReady s = true := fun hready => by simp [hs hready] at hmissing
    rw [onBackupChange, if_neg hready, if_pos hmissing] at h
    -- Neither the error nor the initialisation makes the backup ready.
    split at h
    · cases h
      exact absurd hready' hready
    · next hinit =>
      cases h
      obtain ⟨vm, -, hinit⟩ := except_bind_eq_ok.1 hinit
      obtain ⟨vbs, -, rfl⟩ := initVMBackup_eq_ok hinit
      simp [isReady, initStatus] at hready'

end Backup

end Harvester
