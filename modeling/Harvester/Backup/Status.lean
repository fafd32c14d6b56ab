import Harvester.Control.Guarded
import Harvester.Kube.Basic

/-!
# The status of a VM backup

The operations of `pkg/backup/common/operator.go` on the status, and `updateConditions` of
`pkg/controller/master/backup/backup_status.go`, which derives it from the backups of the volumes.

`updateConditions` leaves at the first volume in error, and `ReadyToUse` is whether the volumes
before it are ready (`updateConditions_eq_ok`); `ready_exactly_iff` says when this is right.
-/

namespace Harvester

namespace Backup

open Control Control.Guarded

/-- An `Error` of the API. -/
structure StatusError where
  time : Option Nat
  message : Option String
  deriving DecidableEq, Repr

/-- The backup of a volume. -/
structure VolumeBackup where
  name : Option String
  longhornBackupName : Option String
  volumeSize : Int
  progress : Int
  readyToUse : Option Bool
  error : Option StatusError
  deriving DecidableEq, Repr

/-- The conditions of a backup. -/
inductive ConditionType where
  | ready
  | progressing
  | metadataReady
  deriving DecidableEq, Repr

/-- A condition. -/
structure Condition where
  type : ConditionType
  status : Bool
  reason : String
  message : String
  lastUpdateTime : Nat
  lastTransitionTime : Nat
  deriving DecidableEq, Repr

/-- The status of a `VirtualMachineBackup`. -/
structure Status where
  /-- The source VM, in the form in which it is to be restored. -/
  sourceSpec : Option String
  /-- The API does not store an empty list, so that it is read back as nil. -/
  volumeBackups : List VolumeBackup
  creationTime : Option Nat
  progress : Int
  readyToUse : Option Bool
  error : Option StatusError
  conditions : List Condition
  deriving DecidableEq, Repr

/-- The status of a new backup. -/
def Status.empty : Status := ⟨none, [], none, 0, none, none, []⟩

section

variable (now : Nat) (s : Status)

/-- The backup is ready. -/
def isReady : Bool := s.readyToUse = some true

/-- The status has to be initialised. -/
def isMissingStatus : Bool := s.sourceSpec.isNone || s.volumeBackups.isEmpty

/-- The backup is in progress. -/
def isProcessing : Bool := s.error.isNone && !isReady s

/-- The error is noted already. -/
def isErrMsgSynced (errMsg : String) : Bool :=
  s.error.any fun e => e.message = some errMsg

/-- `GetVolBackupReadyToUse`. -/
def VolumeBackup.isReady (vb : VolumeBackup) : Bool := vb.readyToUse = some true

/-- The condition of a type is replaced. -/
def applyCondition (c : Condition) : List Condition → List Condition
  | [] => [c]
  | old :: conditions =>
    if old.type ≠ c.type then old :: applyCondition c conditions
    else if old.status ≠ c.status then c :: conditions
    else if old.reason ≠ c.reason ∨ old.message ≠ c.message then
      -- The transition time only changes with the status.
      { c with lastTransitionTime := old.lastTransitionTime } :: conditions
    else old :: conditions

/-- The condition `Ready`. -/
def newReadyCondition (status : Bool) (reason message : String) : Condition :=
  ⟨.ready, status, reason, message, now, now⟩

/-- The condition `Progressing`. -/
def newProgressingCondition (status : Bool) (reason message : String) : Condition :=
  ⟨.progressing, status, reason, message, now, now⟩

/-- Apply two conditions. -/
def withConditions (progressing ready : Condition) : Status :=
  { s with conditions := applyCondition ready (applyCondition progressing s.conditions) }

/-- The backup is in progress. -/
def setProcessingCondition : Status :=
  withConditions s (newProgressingCondition now true "" "Operation in progress")
    (newReadyCondition now false "" "Not ready")

/-- The backup is complete. -/
def setCompleteCondition : Status :=
  withConditions { s with creationTime := some now, error := none }
    (newProgressingCondition now false "" "Operation complete")
    (newReadyCondition now true "" "Operation complete")

/-- The backup has failed. -/
def setErrorCondition (errMsg : String) (s : Status) : Status :=
  withConditions { s with error := some ⟨some now, some errMsg⟩ }
    (newProgressingCondition now false "Error" errMsg) (newReadyCondition now false "" "Not Ready")

end

/-- `SetProgress`: the progress never goes down. -/
def setProgress (p : Int) (s : Status) : Status :=
  if p > s.progress then { s with progress := p } else s

/-- What the loop of `updateConditions` has found out so far. -/
structure Scan where
  ready : Bool
  /-- The text of `volBackupErr`. -/
  volBackupErr : Option String
  volumeSizeSum : Int
  progressWeightSum : Int

section

variable (updateProgress : VolumeBackup → Except Err Int)

/-- The loop of `updateConditions`, with the volumes as it leaves them.  It follows the name of the
first volume in error without a test. -/
def scan : Scan → List VolumeBackup → Guarded Err (Scan × List VolumeBackup)
  | acc, [] => .ok (acc, [])
  | acc, vb :: vbs => do
    let progress ← ofExcept (updateProgress vb)
    let acc' : Scan := { acc with
      ready := acc.ready && vb.isReady
      volumeSizeSum := int64 (acc.volumeSizeSum + vb.volumeSize)
      progressWeightSum := int64 (acc.progressWeightSum + int64 (progress * vb.volumeSize)) }
    match vb.error with
    | some _ => do
      let name ← deref vb.name
      let volBackupErr := some ("VolumeSnapshot " ++ name ++ " in error state")
      return ({ acc' with volBackupErr }, { vb with progress } :: vbs)
    | none => do
      let (acc'', vbs') ← scan acc' vbs
      return (acc'', { vb with progress } :: vbs')

/-- The error of the loop, unless the status has it already. -/
def reportError (now : Nat) (volBackupErr : Option String) (s : Status) : Status :=
  match volBackupErr with
  | some errMsg => if isErrMsgSynced s errMsg then s else setErrorCondition now errMsg s
  | none => s

/-- `updateConditions` after the loop. -/
def finish (now : Nat) (result : Scan) (s : Status) : Status :=
  let s :=
    if result.volumeSizeSum ≠ 0 then
      setProgress (int64 (result.progressWeightSum.tdiv result.volumeSizeSum)) s
    else s
  let s := if result.ready && !isReady s then setCompleteCondition now s else s
  { reportError now result.volBackupErr s with readyToUse := some result.ready }

/-- `updateConditions`: the status that is written. -/
def updateConditions (now : Nat) (s : Status) : Guarded Err Status := do
  let s := if isProcessing s then setProcessingCondition now s else s
  let (result, volumeBackups) ← scan updateProgress ⟨true, none, 0, 0⟩ s.volumeBackups
  return finish now result { s with volumeBackups }

end

/-- The volumes that the loop looks at: those up to the first one in error. -/
def inspected : List VolumeBackup → List VolumeBackup
  | [] => []
  | vb :: vbs => vb :: if vb.error.isSome then [] else inspected vbs

/-- Some volume is in error. -/
def anyError (vbs : List VolumeBackup) : Bool := vbs.any fun vb => vb.error.isSome

theorem inspected_of_not_anyError {vbs : List VolumeBackup} (h : anyError vbs = false) :
    inspected vbs = vbs := by
  induction vbs with
  | nil => rfl
  | cons vb vbs ih =>
    simp only [anyError, List.any_cons, Bool.or_eq_false_iff] at h
    rw [inspected, if_neg (by simp [h.1]), ih h.2]

/-- A volume as readers of the status see it. -/
def VolumeBackup.outcome (vb : VolumeBackup) : Bool × Option StatusError := (vb.isReady, vb.error)

variable {updateProgress : VolumeBackup → Except Err Int} {now : Nat} {s s' : Status}

theorem scan_eq_ok {acc acc' : Scan} {vbs vbs' : List VolumeBackup}
    (h : scan updateProgress acc vbs = .ok (acc', vbs')) :
    acc'.ready = (acc.ready && (inspected vbs).all VolumeBackup.isReady) ∧
      acc'.volBackupErr.isSome = (acc.volBackupErr.isSome || anyError vbs) ∧
      vbs'.map VolumeBackup.outcome = vbs.map VolumeBackup.outcome := by
  induction vbs generalizing acc acc' vbs' with
  | nil =>
    cases h
    simp [inspected, anyError]
  | cons vb vbs ih =>
    obtain ⟨progress, -, h⟩ := except_bind_eq_ok.1 h
    rcases herror : vb.error with - | e
    · simp only [herror] at h
      obtain ⟨⟨acc'', vbs''⟩, hrest, h⟩ := except_bind_eq_ok.1 h
      cases h
      obtain ⟨hready, herr, hvbs⟩ := ih hrest
      refine ⟨?_, ?_, ?_⟩
      · simp [hready, inspected, herror, Bool.and_assoc]
      · simp [herr, anyError, herror]
      · simp [hvbs, VolumeBackup.outcome, VolumeBackup.isReady, herror]
    · simp only [herror] at h
      obtain ⟨name, -, h⟩ := except_bind_eq_ok.1 h
      cases h
      simp [inspected, anyError, herror, VolumeBackup.outcome, VolumeBackup.isReady]

/-- The backup is ready exactly when all its volumes are and none is in error, and has no error
then. -/
def ReadyExactly (s : Status) : Prop :=
  (isReady s = true ↔ ∀ vb ∈ s.volumeBackups, vb.isReady = true ∧ vb.error = none) ∧
    ¬ (isReady s = true ∧ s.error.isSome)

/-- Of the volumes up to the first one in error, one is not ready; and when all volumes are fine,
the backup has not been ready with an error before. -/
def Coherent (s : Status) : Prop :=
  (anyError s.volumeBackups = true → (inspected s.volumeBackups).all VolumeBackup.isReady = false) ∧
    (anyError s.volumeBackups = false → s.volumeBackups.all VolumeBackup.isReady = true →
      isReady s = true → s.error = none)

theorem setProgress_keeps (p : Int) (s : Status) : (setProgress p s).readyToUse = s.readyToUse ∧
    (setProgress p s).error = s.error := by
  unfold setProgress
  split_ifs <;> exact ⟨rfl, rfl⟩

theorem isReady_setProgress (p : Int) (s : Status) : isReady (setProgress p s) = isReady s := by
  rw [isReady, (setProgress_keeps p s).1, isReady]

theorem finish_keeps (result : Scan) : isReady (finish now result s) = result.ready ∧
    (finish now result s).volumeBackups = s.volumeBackups ∧
    (finish now result s).sourceSpec = s.sourceSpec := by
  refine ⟨by simp [finish, isReady], ?_, ?_⟩
  all_goals
    simp only [finish, reportError, setProgress]
    split <;> split_ifs <;> rfl

theorem error_reportError_some (errMsg : String) (s : Status) :
    (reportError now (some errMsg) s).error.isSome := by
  simp only [reportError]
  split_ifs with hsynced
  · obtain ⟨e, he, -⟩ := (Option.any_eq_true _ _).1 hsynced
    rw [he]
    rfl
  · rfl

theorem error_finish_of_some {result : Scan} {errMsg : String}
    (h : result.volBackupErr = some errMsg) : (finish now result s).error.isSome := by
  simp only [finish, h]
  exact error_reportError_some errMsg _

theorem error_finish_of_none {result : Scan} (h : result.volBackupErr = none) :
    (finish now result s).error = if result.ready && !isReady s then none else s.error := by
  simp only [finish, h]
  by_cases hsize : result.volumeSizeSum ≠ 0
  · simp only [if_pos hsize, isReady_setProgress]
    split_ifs
    · rfl
    · exact (setProgress_keeps _ _).2
  · split_ifs <;> rfl

theorem exists_of_updateConditions (h : updateConditions updateProgress now s = .ok s') :
    ∃ s₀ result volumeBackups,
      scan updateProgress ⟨true, none, 0, 0⟩ s.volumeBackups = .ok (result, volumeBackups) ∧
      s' = finish now result s₀ ∧ s₀.volumeBackups = volumeBackups ∧
      s₀.sourceSpec = s.sourceSpec ∧ isReady s₀ = isReady s ∧ s₀.error = s.error ∧
      s₀.progress = s.progress := by
  obtain ⟨⟨result, volumeBackups⟩, hscan, h⟩ := except_bind_eq_ok.1 h
  split_ifs at hscan h
  all_goals exact ⟨_, result, volumeBackups, hscan, (Except.ok.inj h).symm, rfl, rfl, rfl, rfl, rfl⟩

theorem updateConditions_eq_ok (h : updateConditions updateProgress now s = .ok s') :
    isReady s' = (inspected s.volumeBackups).all VolumeBackup.isReady ∧
      s'.sourceSpec = s.sourceSpec ∧
      s'.volumeBackups.map VolumeBackup.outcome = s.volumeBackups.map VolumeBackup.outcome ∧
      (anyError s.volumeBackups = true → s'.error.isSome) ∧
      (anyError s.volumeBackups = false →
        s'.error = if isReady s' && !isReady s then none else s.error) := by
  obtain ⟨s₀, result, volumeBackups, hscan, rfl, rfl, hsource, hready, herror, -⟩ :=
    exists_of_updateConditions h
  obtain ⟨hresult, herr, houtcome⟩ := scan_eq_ok hscan
  have hfinish := @finish_keeps now s₀ result
  refine ⟨?_, hfinish.2.2.trans hsource, ?_, fun hany => ?_, fun hany => ?_⟩
  · rw [hfinish.1, hresult, Bool.true_and]
  · rw [hfinish.2.1, houtcome]
  · obtain ⟨errMsg, herrMsg⟩ := Option.isSome_iff_exists.1 (herr.trans hany)
    exact error_finish_of_some herrMsg
  rw [hany] at herr
  rw [hfinish.1, error_finish_of_none (by simpa using herr), hready, herror]

theorem all_fine_of_outcome {vbs vbs' : List VolumeBackup}
    (h : vbs'.map VolumeBackup.outcome = vbs.map VolumeBackup.outcome) :
    (∀ vb ∈ vbs', vb.isReady = true ∧ vb.error = none) ↔
      ∀ vb ∈ vbs, vb.isReady = true ∧ vb.error = none := by
  have hmap : ∀ vbs : List VolumeBackup, (∀ vb ∈ vbs, vb.isReady = true ∧ vb.error = none) ↔
      ∀ o ∈ vbs.map VolumeBackup.outcome, o.1 = true ∧ o.2 = none := by
    simp [VolumeBackup.outcome]
  rw [hmap, h, ← hmap]

/-- **After `updateConditions`, a backup is ready exactly when all volumes are ready and without
error, and has no error then, if and only if it was coherent before.** -/
theorem ready_exactly_iff (h : updateConditions updateProgress now s = .ok s') :
    ReadyExactly s' ↔ Coherent s := by
  obtain ⟨hready, -, houtcome, herror, hnone⟩ := updateConditions_eq_ok h
  unfold ReadyExactly Coherent
  rw [all_fine_of_outcome houtcome, hready]
  by_cases hany : anyError s.volumeBackups = true
  · -- Some volume is in error, so that the backup must not be ready.
    have hnot : ¬ ∀ vb ∈ s.volumeBackups, vb.isReady = true ∧ vb.error = none := by
      obtain ⟨vb, hvb, he⟩ := List.any_eq_true.1 hany
      intro hall
      simp [(hall vb hvb).2] at he
    simp [hany, hnot, herror hany]
  · -- The loop has looked at all volumes.
    rw [Bool.not_eq_true] at hany
    have hall : (s.volumeBackups.all VolumeBackup.isReady = true) ↔
        ∀ vb ∈ s.volumeBackups, vb.isReady = true ∧ vb.error = none := by
      rw [List.all_eq_true]
      refine forall₂_congr fun vb hvb => ?_
      have he := List.any_eq_false.1 hany vb hvb
      simp only [Bool.not_eq_true, Option.isSome_eq_false_iff, Option.isNone_iff_eq_none] at he
      simp [he]
    have herr := hnone hany
    rw [hready, inspected_of_not_anyError hany] at herr
    rw [inspected_of_not_anyError hany, hall, herr]
    by_cases hfine : ∀ vb ∈ s.volumeBackups, vb.isReady = true ∧ vb.error = none
    · have hallReady := hall.2 hfine
      cases hwas : isReady s <;> simp [hany, hallReady]
    · simp [hany, hfine]

namespace Sample

/-- A volume that is ready. -/
def done : VolumeBackup := ⟨some "vb-root", none, 10, 100, some true, none⟩

/-- A volume that is on its way. -/
def pending : VolumeBackup := ⟨some "vb-data", none, 10, 0, some false, none⟩

/-- A volume whose snapshot is ready and reports an error. -/
def troubled : VolumeBackup := ⟨some "vb-root", none, 10, 0, some true, some ⟨none, some "timeout"⟩⟩

/-- A backup in progress with the given volumes. -/
def status (volumeBackups : List VolumeBackup) : Status :=
  ⟨some "vm", volumeBackups, none, 0, some false, none, []⟩

/-- The progress of the snapshot engine. -/
def progress (vb : VolumeBackup) : Except Err Int := .ok (if vb.isReady then 100 else 0)

end Sample

open Sample in
/-- Of two volumes one is not ready yet, and neither is the backup. -/
theorem ready_exactly_iff_pending : ∃ s',
    updateConditions progress 7 (status [done, pending]) = .ok s' ∧
      isReady s' = false ∧ ReadyExactly s' := by
  obtain ⟨s', hs', hready⟩ : ∃ s',
      updateConditions progress 7 (status [done, pending]) = .ok s' ∧
        isReady s' = false := ⟨_, rfl, rfl⟩
  exact ⟨s', hs', hready, (ready_exactly_iff hs').2 (by unfold Coherent; decide)⟩

open Sample in
/-- **A backup becomes ready with an error** of its first volume. -/
theorem ready_with_error : ∃ s',
    updateConditions progress 7 (status [troubled, pending]) = .ok s' ∧
      isReady s' = true ∧ s'.error.isSome ∧ pending ∈ s'.volumeBackups ∧
      ¬ ReadyExactly s' := by
  refine ⟨_, rfl, rfl, rfl, by decide, ?_⟩
  rintro ⟨-, hno⟩
  exact hno ⟨rfl, rfl⟩

end Backup

end Harvester
