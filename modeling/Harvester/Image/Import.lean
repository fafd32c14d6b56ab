import Harvester.Control.Machine
import Harvester.Kube.Basic

/-!
# The import of an image

The backing-image handler (`pkg/image/backingimage/backing_image_controller.go`) writes what it sees
of the backing image into the status of the image (`pkg/image/common/operator.go`).  For an image
that is restored from a backup, it then also writes the backup target.

Both updates are made from the same copy of the image, so the second one is refused when the first
one was made.  So the target is recorded only by an event that tells nothing new
(`backupTarget_iff`), and an image whose first event says that it is ready has none
(`backupTarget_missing`).
-/

namespace Harvester

namespace Image

namespace Import

open Control

/-- A backup target. -/
structure BackupTarget where
  endpoint : String
  bucketName : String
  bucketRegion : String
  deriving DecidableEq, Repr

/-- A condition; the status is `none` when it is unknown. -/
structure Condition where
  status : Option Bool
  reason : String
  message : String
  deriving DecidableEq, Repr

/-- An image with its status. -/
structure VMImage where
  resourceVersion : Nat
  retry : Nat
  failed : Nat
  lastFailedTime : String
  progress : Nat
  initialized : Condition
  imported : Condition
  retryLimitExceeded : Condition
  backupTarget : Option BackupTarget
  deriving DecidableEq, Repr

section

variable (old : VMImage)

/-- `failStateTransit` at the time `now`; the handler below calls it for the import only. -/
def failStateTransit (initial : Bool) (now msg : String) (progress : Nat) : VMImage :=
  let errMsg := "failed due to error: " ++ msg
  let errMsg :=
    if old.failed + 1 > 1 then
      "retry attempted " ++ toString old.failed ++ "/" ++ toString old.retry ++ " " ++ errMsg
    else errMsg
  let exceeded := decide (old.failed + 1 > old.retry)
  let fail (c : Condition) : Condition :=
    if exceeded then { c with status := false, message := errMsg } else c
  { old with
    failed := old.failed + 1
    lastFailedTime := now
    progress
    retryLimitExceeded :=
      { old.retryLimitExceeded with status := exceeded, message := errMsg }
    initialized := if initial then fail old.initialized else old.initialized
    imported := if initial then old.imported else fail old.imported }

/-- A backing image can be complete before it is ready. -/
def importing (msg : String) (progress : Nat) : VMImage :=
  { old with
    progress := if progress = 100 then 99 else progress
    imported := ⟨none, "Importing", msg⟩ }

/-- The image is imported. -/
def setImported (msg : String) (progress : Nat) : VMImage :=
  { old with
    progress
    imported := ⟨true, "Imported", msg⟩
    retryLimitExceeded := ⟨false, "", ""⟩ }

/-- `UpdateVMI`; the answer is what the API server has afterwards. -/
def updateVMI (refused : Option Err) (newVMI stored : VMImage) : Except Err VMImage :=
  if newVMI = old then .ok stored
  else match refused with
    | some e => .error e
    | none =>
      if newVMI.resourceVersion ≠ stored.resourceVersion then .error (.conflict ⟨"", ""⟩)
      else .ok { newVMI with resourceVersion := stored.resourceVersion + 1 }

end

/-- The state of a disk file. -/
inductive State where
  | failed
  | ready
  | inProgress
  deriving DecidableEq, Repr

/-- An event of the backing image, with the copy of the image in the cache and the two updates. -/
structure Delivery where
  state : State
  message : String
  progress : Nat
  vmi : VMImage
  now : String
  refused : Option Err
  refusedTarget : Option Err

/-- What the loop over the disk files writes. -/
def Delivery.newVMI (d : Delivery) : VMImage :=
  match d.state with
  | .failed => failStateTransit d.vmi false d.now d.message d.progress
  | .ready => setImported d.vmi d.message d.progress
  | .inProgress =>
    if d.progress ≠ d.vmi.progress then importing d.vmi d.message d.progress else d.vmi

/-- The import has begun and not ended. -/
def Active (vmi : VMImage) : Prop :=
  vmi.retryLimitExceeded.status ≠ true ∧ vmi.initialized.status = true ∧
    vmi.imported.status ≠ true
  deriving Decidable

/-- `backingImageHandler.OnChanged`: the stored image afterwards, and the error.  The target is
recorded for an image of type `restore` only.  An update whose answer is lost leads to the same
stored images as one that is answered. -/
def onChanged (target : Option BackupTarget) (stored : VMImage) (d : Delivery) :
    VMImage × Except Err Unit :=
  if ¬ Active d.vmi then (stored, .ok ())
  else match updateVMI d.vmi d.refused d.newVMI stored with
    | .error e => (stored, .error e)
    | .ok stored =>
      match target with
      | none => (stored, .ok ())
      | some target =>
        let result := updateVMI d.vmi d.refusedTarget { d.vmi with backupTarget := target } stored
        (result.toOption.getD stored, result.map fun _ => ())

/-- Events come in any order and more than once, with any copy of the image; only a copy with the
current version is known to be the stored image. -/
def machine (target : BackupTarget) : Machine VMImage Delivery where
  next stored d :=
    if d.vmi.resourceVersion = stored.resourceVersion ∧ d.vmi ≠ stored then none
    else some (onChanged target stored d).1

/-- The event tells nothing new about an import in progress, the copy of the image is up to date,
and the request for the target is not refused. -/
def Records (stored : VMImage) (d : Delivery) : Prop :=
  d.vmi = stored ∧ Active d.vmi ∧ d.newVMI = d.vmi ∧ d.refusedTarget = none
  deriving Decidable

section

variable {target : BackupTarget} {s s' : VMImage} {d : Delivery}

theorem updateVMI_eq_ok {old newVMI : VMImage} {refused : Option Err} :
    updateVMI old refused newVMI s = .ok s' ↔ newVMI = old ∧ s' = s ∨
      newVMI ≠ old ∧ refused = none ∧ newVMI.resourceVersion = s.resourceVersion ∧
        s' = { newVMI with resourceVersion := s.resourceVersion + 1 } := by
  by_cases hsame : newVMI = old
  · simp [updateVMI, hsame, eq_comm]
  · cases refused with
    | some e => simp [updateVMI, hsame]
    | none =>
      by_cases hversion : newVMI.resourceVersion = s.resourceVersion <;>
        simp [updateVMI, hsame, hversion, eq_comm]

theorem newVMI_keeps : d.newVMI.resourceVersion = d.vmi.resourceVersion ∧
    d.newVMI.backupTarget = d.vmi.backupTarget := by
  unfold Delivery.newVMI
  split
  · exact ⟨rfl, rfl⟩
  · exact ⟨rfl, rfl⟩
  · split <;> exact ⟨rfl, rfl⟩

theorem backupTarget_update {vmi : VMImage} {refused : Option Err}
    (hcopy : vmi.resourceVersion = s.resourceVersion → vmi = s) :
    ((updateVMI vmi refused { vmi with backupTarget := target } s).toOption.getD s).backupTarget =
      none ↔ s.backupTarget = none ∧
        ¬ (vmi.resourceVersion = s.resourceVersion ∧ refused = none) := by
  by_cases hversion : vmi.resourceVersion = s.resourceVersion
  · obtain rfl := hcopy hversion
    by_cases hsame : { vmi with backupTarget := target } = vmi
    · have htarget := congrArg VMImage.backupTarget hsame
      simp [updateVMI, hsame, Except.toOption, ← htarget]
    · cases refused <;> simp [updateVMI, hsame, Except.toOption]
  · by_cases hsame : { vmi with backupTarget := target } = vmi
    · simp [updateVMI, hsame, hversion, Except.toOption]
    · cases refused <;> simp [updateVMI, hsame, hversion, Except.toOption]

theorem backupTarget_step (hnext : (machine target).next s d = some s') :
    s'.backupTarget = none ↔ s.backupTarget = none ∧ ¬ Records s d := by
  simp only [machine, Option.ite_none_left_eq_some, Option.some.injEq, not_and, not_not] at hnext
  obtain ⟨hcopy, rfl⟩ := hnext
  unfold onChanged
  split
  next hinactive => simp [Records, hinactive]
  next hactive =>
  rcases hfirst : updateVMI d.vmi d.refused d.newVMI s with e | s₁
  · have hne : d.newVMI ≠ d.vmi := fun heq => by simp [updateVMI, heq] at hfirst
    simp [Records, hne]
  rcases updateVMI_eq_ok.1 hfirst with ⟨hquiet, rfl⟩ | ⟨hne, -, hversion, rfl⟩
  · have hvmi : d.vmi.resourceVersion = s₁.resourceVersion ↔ d.vmi = s₁ :=
      ⟨hcopy, congrArg VMImage.resourceVersion⟩
    refine (backupTarget_update hcopy).trans ?_
    simp [Records, hvmi, not_not.1 hactive, hquiet]
  · rw [newVMI_keeps.1] at hversion
    obtain rfl := hcopy hversion
    refine (backupTarget_update (fun h => ?_)).trans ?_
    · simp at h
    · simp [Records, hne, newVMI_keeps.2]

/-- **The backup target is recorded** if and only if an event of the run records it. -/
theorem backupTarget_iff {ds : List Delivery} (hnone : s.backupTarget = none)
    (hrun : (machine target).run s ds = some s') :
    s'.backupTarget ≠ none ↔ ¬ (machine target).Along (fun s d => ¬ Records s d) s ds := by
  have hall : s'.backupTarget = none ↔
      s.backupTarget = none ∧ (machine target).Along (fun s d => ¬ Records s d) s ds := by
    clear hnone
    induction ds generalizing s with
    | nil =>
      cases hrun
      simp [Machine.Along]
    | cons d ds ih =>
      obtain ⟨t, ht, hrun⟩ := Machine.run_cons_eq_some.1 hrun
      rw [ih hrun, backupTarget_step ht]
      simp [Machine.Along, ht, and_assoc]
  simp [hall, hnone]

end

namespace Sample

def target : BackupTarget := ⟨"nfs://backup", "", ""⟩

/-- An image whose import has begun. -/
def vmi : VMImage := ⟨1, 3, 0, "", 0, ⟨true, "Initialized", ""⟩, ⟨none, "Importing", ""⟩,
  ⟨false, "", ""⟩, none⟩

/-- An event with the state of the import and the copy of the image. -/
def event (state : State) (vmi : VMImage) : Delivery := ⟨state, "", 0, vmi, "now", none, none⟩

/-- The target is recorded. -/
def recorded : VMImage := { vmi with resourceVersion := 2, backupTarget := target }

end Sample

open Sample in
/-- The first event says that nothing has been copied yet. -/
theorem backupTarget_sample : ∃ s, (machine target).run vmi
    [event .inProgress vmi, event .ready recorded] = some s ∧ s.backupTarget ≠ none := by
  obtain ⟨s, hs⟩ : ∃ s, (machine target).run vmi [event .inProgress vmi, event .ready recorded] =
      some s := ⟨_, rfl⟩
  exact ⟨s, hs, (backupTarget_iff rfl hs).2 (by decide)⟩

open Sample in
/-- **An imported image without a backup target**, whose update was refused. -/
theorem backupTarget_missing : ∃ s, (machine target).run vmi [event .ready vmi] = some s ∧
    (onChanged target vmi (event .ready vmi)).2 = .error (.conflict ⟨"", ""⟩) ∧
    onChanged target s (event .ready s) = (s, .ok ()) ∧ s.imported.status = true ∧
    s.backupTarget = none := by
  decide

end Import

end Image

end Harvester
