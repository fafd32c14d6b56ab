import Harvester.VirtualMachine.Template

/-!
# Stopping a VM while it is backed up

The validator recognises an update that stops a VM by the run strategy, which goes from `Always` to
`Halted`, or by the first state change request (`checkVMStoppingStatus`), and it finds the backups
by the UID that the backup controller notes down in their status (`HasActiveBackup`).

`stop_rejected_iff` says which stops are rejected: one from another run strategy is not, nor one
that is requested after something else, nor one while the backup has no status yet.
-/

namespace Harvester

namespace VirtualMachine

namespace Stopping

open Control

open Create (RunStrategy)

/-- What a request asks for. -/
inductive StateChangeRequestAction where
  | start
  | stop
  deriving DecidableEq, Repr

/-- A VM with its requests. -/
structure VM extends Volumes.VM where
  uid : String
  running : Option Bool
  runStrategy : Option RunStrategy
  /-- The actions of `Status.StateChangeRequests`. -/
  stateChangeRequests : List StateChangeRequestAction
  deriving DecidableEq, Repr

/-- `RunStrategy` of a VM, without its error; `none` is the unknown strategy. -/
def VM.strategy (vm : VM) : Option RunStrategy :=
  match vm.running, vm.runStrategy with
  | some _, some _ => none
  | some true, none => some .always
  | some false, none => some .halted
  | none, some strategy => some strategy
  | none, none => some .halted

/-- A backup. -/
structure VMBackup where
  ns : String
  sourceName : String
  /-- The status, as far as there is one. -/
  sourceUID : Option String
  readyToUse : Option Bool
  error : Option String
  deriving DecidableEq, Repr

/-- The backup is in progress. -/
def VMBackup.isProcessing (vmb : VMBackup) : Bool := vmb.error = none && vmb.readyToUse ≠ some true

/-- The update is a stop. -/
def checkVMStoppingStatus (oldVM newVM : VM) : Bool :=
  oldVM.strategy = some .always && newVM.strategy = some .halted ||
    newVM.stateChangeRequests.head? = some .stop

/-- `HasActiveBackup`, by the index of `Status.SourceUID`. -/
def hasActiveBackup (vmbs : Except Err (List VMBackup)) (sourceUID : String) : Except Err Bool :=
  match vmbs with
  | .error e => if e.isNotFound then .ok false else .error e
  | .ok vmbs => .ok ((vmbs.filter fun vmb => vmb.sourceUID = some sourceUID).any fun vmb =>
      vmb.isProcessing || vmb.error.isSome)

/-- No backup is active. -/
def checkVMBackup (vmbs : Except Err (List VMBackup)) (vm : VM) : Except AdmitError Unit := do
  let exist ← (hasActiveBackup vmbs vm.uid).mapError fun e => .internal e.text
  rejectIf exist (.badRequest ("vm " ++ vm.ns ++ "/" ++ vm.name ++ " has a backup in progress; " ++
    "wait for it to finish or delete it before stopping/restarting"))

/-- `Update`, with the verdicts of the other checks. -/
def update (c : Volumes.Cluster) (other : Volumes.OtherChecks) (user : String)
    (vmbs : Except Err (List VMBackup)) (oldVM newVM : VM) : Except AdmitError Unit :=
  let checkVMBackup :=
    if checkVMStoppingStatus oldVM newVM then checkVMBackup vmbs newVM else .ok ()
  Volumes.validate c { other with checkVMBackup } user (.update oldVM.toVM newVM.toVM)

/-- The update stops the VM. -/
def Stops (oldVM newVM : VM) : Prop :=
  oldVM.strategy ≠ some .halted ∧ newVM.strategy = some .halted ∨ .stop ∈ newVM.stateChangeRequests
  deriving Decidable

/-- A VM backup of the VM is neither ready nor failed. -/
def Active (vmbs : List VMBackup) (vm : VM) : Prop :=
  ∃ vmb ∈ vmbs, (vmb.ns = vm.ns ∧ vmb.sourceName = vm.name) ∧ vmb.isProcessing = true
  deriving Decidable

variable {vmbs : List VMBackup} {oldVM newVM : VM}

theorem checkVMBackup_eq_ok : checkVMBackup (.ok vmbs) newVM = .ok () ↔
    ¬ ∃ vmb ∈ vmbs, vmb.sourceUID = some newVM.uid ∧
      (vmb.isProcessing = true ∨ vmb.error ≠ none) := by
  simp only [checkVMBackup, except_bind_eq_ok, except_mapError_eq_ok, hasActiveBackup]
  simp

/-- A cluster in which no VM has volume claim templates. -/
def cluster : Volumes.Cluster where
  unmarshal _ := .ok []
  storageClasses _ := .ok ⟨"", ""⟩
  backingImages _ := .ok ""
  images _ := .ok .cdi
  access _ _ := .ok true
  defaultStorageClass := .ok ⟨"", ""⟩

/-- No other check complains. -/
def passing : Volumes.OtherChecks :=
  ⟨.ok (), .ok (), .ok (), .ok (), .ok (), .ok (), .ok (), true, .ok (), .ok ()⟩

theorem update_passing (h : checkVMStoppingStatus oldVM newVM = true →
    checkVMBackup (.ok vmbs) newVM = .ok ()) :
    update cluster passing "" (.ok vmbs) oldVM newVM = .ok () := by
  have hentries : ∀ text, cluster.unmarshalVolumeClaimTemplates text = .ok [] := by
    simp [Volumes.Cluster.unmarshalVolumeClaimTemplates, cluster]
  simp only [update, Volumes.validate, except_bind_unit_eq_ok]
  refine ⟨?_, rfl, rfl, ?_, rfl, ?_, rfl, rfl, rfl, rfl⟩
  · rw [Volumes.checkVolumeClaimTemplatesAnnotation, hentries]
    rfl
  · simp only [Volumes.checkChangedVolumeClaimTemplateEntries, Volumes.entriesOf, hentries]
    split <;> rfl
  · split
    · next hseen => exact h hseen
    · rfl

/-- **Which stops are rejected**: those from `Always` to `Halted` or by the first request, while the
status of a backup that is being processed or has an error names the UID of the VM. -/
theorem stop_rejected_iff :
    (Active vmbs newVM → Stops oldVM newVM →
      ∀ c other user, update c other user (.ok vmbs) oldVM newVM ≠ .ok ()) ↔
    (Active vmbs newVM → Stops oldVM newVM →
      (oldVM.strategy = some .always ∧ newVM.strategy = some .halted ∨
        newVM.stateChangeRequests.head? = some .stop) ∧
      ∃ vmb ∈ vmbs, vmb.sourceUID = some newVM.uid ∧
        (vmb.isProcessing = true ∨ vmb.error ≠ none)) := by
  refine imp_congr_right fun _ => imp_congr_right fun _ => ⟨fun hrejected => ?_, ?_⟩
  · have hnot := mt update_passing (hrejected cluster passing "")
    rw [Classical.not_imp, checkVMBackup_eq_ok, not_not] at hnot
    exact ⟨by simpa [checkVMStoppingStatus] using hnot.1, hnot.2⟩
  · rintro ⟨hstopping, hbackup⟩ c other user hadmitted
    have hseen : checkVMStoppingStatus oldVM newVM = true := by
      simpa [checkVMStoppingStatus] using hstopping
    simp only [update, Volumes.validate, except_bind_unit_eq_ok, hseen] at hadmitted
    exact checkVMBackup_eq_ok.1 hadmitted.2.2.2.2.2.1 hbackup

/-- A backup of a VM. -/
def backup (sourceUID : Option String) : VMBackup := ⟨"default", "vm", sourceUID, none, none⟩

/-- A VM with a run strategy and requests. -/
def vm (strategy : RunStrategy) (requests : List StateChangeRequestAction) : VM :=
  ⟨⟨"default", "vm", false, ""⟩, "uid", none, some strategy, requests⟩

/-- **Stops that are admitted** while the VM is backed up. -/
theorem stop_admitted : Active [backup (some "uid")] (vm .halted []) ∧
    Stops (vm .rerunOnFailure []) (vm .halted []) ∧
    update cluster passing "" (.ok [backup (some "uid")]) (vm .rerunOnFailure []) (vm .halted []) =
      .ok () ∧
    Stops (vm .manual []) (vm .manual [.start, .stop]) ∧
    update cluster passing "" (.ok [backup (some "uid")]) (vm .manual [])
      (vm .manual [.start, .stop]) = .ok () ∧
    Stops (vm .always []) (vm .halted []) ∧
    update cluster passing "" (.ok [backup none]) (vm .always []) (vm .halted []) = .ok () := by
  decide

end Stopping

end VirtualMachine

end Harvester
