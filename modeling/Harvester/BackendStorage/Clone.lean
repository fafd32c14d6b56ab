import Harvester.Control.Guarded
import Harvester.Control.History
import Harvester.Kube.Basic

/-!
# Cloning the backend storage of a VM

`ReconcileBackendStorageClone` of `pkg/controller/master/virtualmachine/vm_controller.go`.  A VM
that is cloned from one with a persistent EFI or TPM state starts halted.  The controller clones the
PVC with this state, runs a job on it that renames the files, and then restores the run strategy of
the VM.

The state of a clone is kept in the annotations of the VM, in the job, and in the count of retries,
which is written by a request of its own.  Between any two requests the job controller, the TTL
controller and other clients go on (`Slot`).  The VM is read from a cache and written with the
version that was read; the jobs are listed from the API server.
-/

namespace Harvester

namespace BackendStorage

open Control Action

/-- `AnnotationBSCloneStatus`. -/
inductive CloneStatus where
  /-- `cloning`. -/
  | inProgress
  /-- `cloned`. -/
  | complete
  | failed
  deriving DecidableEq, Repr

/-- `AnnotationBSCloneStage`. -/
inductive CloneStage where
  | preCompleted
  deriving DecidableEq, Repr

/-- The annotations of a clone. -/
structure Annotations where
  status : Option CloneStatus := none
  sourceVM : Option String := none
  /-- The run strategy that is to be restored. -/
  runStrategy : Option String := none
  actions : Option String := none
  /-- The number that the annotation holds, if it holds one. -/
  retries : Option Int := none
  startTime : Option String := none
  stage : Option CloneStage := none
  deriving DecidableEq, Repr

/-- A VM with the state of its clone. -/
structure VM where
  name : String
  uid : String
  deleting : Bool
  hasTemplate : Bool
  /-- `Spec.RunStrategy`. -/
  runStrategy : Option String
  annotations : Annotations
  deriving DecidableEq, Repr

/-- How a job ends. -/
inductive JobConditionType where
  | complete
  | failed
  | other
  deriving DecidableEq, Repr

/-- A condition of a job. -/
structure JobCondition where
  type : JobConditionType
  status : Bool
  deriving DecidableEq, Repr

/-- A job in the namespace of the VM.  Its name is generated by the API server. -/
structure Job where
  name : Nat
  /-- The label `harvesterhci.io/efi-rename-vm`. -/
  vmLabel : Option String
  generatedBy : Option String
  /-- The annotation with the start time of the clone; empty when it is missing. -/
  startTime : String
  ownerUIDs : List String
  deleting : Bool
  conditions : List JobCondition
  deriving DecidableEq, Repr

/-- The job has succeeded. -/
def Job.succeeded (job : Job) : Bool := job.conditions.any fun c => c.type = .complete && c.status

/-- `getBackendStorageJobStatus`: finished, and failed. -/
def getBackendStorageJobStatus (job : Job) : Bool × Bool :=
  match job.conditions.find? fun c => c.status && (c.type = .complete || c.type = .failed) with
  | none => (false, false)
  | some c => (true, c.type = .failed)

/-- `ValueGeneratedByHarvester`. -/
def generatedByHarvester : String := "harvester"

/-- The phase of a claim. -/
inductive Phase where
  | pending
  | bound
  | other
  deriving DecidableEq, Repr

/-- A claim with its owners. -/
structure PVC where
  name : String
  ownerUIDs : List String
  phase : Phase
  deriving DecidableEq, Repr

/-- The VM and the jobs. -/
structure World where
  vms : History VM
  jobs : Store Job.name
  /-- The next name that the API server generates. -/
  nextName : Nat
  /-- The names of the jobs that have been created for the clone so far. -/
  created : List Nat
  /-- The names of the jobs that have succeeded so far. -/
  succeeded : List Nat

/-- What others do. -/
inductive Move where
  /-- The job controller writes the conditions of a job. -/
  | jobStatus (name : Nat) (conditions : List JobCondition)
  /-- The TTL controller deletes a job that has finished. -/
  | jobExpired (name : Nat)
  /-- A job that is being deleted is gone. -/
  | jobGone (name : Nat)
  /-- Another client writes other parts of the VM. -/
  | vmChanged
  | vmDeleted
  deriving DecidableEq, Repr

/-- Replace a job. -/
def World.putJob (w : World) (job : Job) : World := { w with jobs := w.jobs.put job }

/-- A new version of the VM. -/
def World.pushVM (w : World) (vm : VM) : World := { w with vms := w.vms.push vm }

/-- A step of the others. -/
def World.move (w : World) : Move → World
  | .jobStatus name conditions =>
    match w.jobs.get name with
    | none => w
    | some job =>
      let job := { job with conditions }
      let succeeded := if job.succeeded then name :: w.succeeded else w.succeeded
      { w.putJob job with succeeded }
  | .jobExpired name =>
    match w.jobs.get name with
    | none => w
    | some job =>
      if (getBackendStorageJobStatus job).1 then w.putJob { job with deleting := true } else w
  | .jobGone name =>
    { w with jobs := w.jobs.filter fun job => !(job.name = name && job.deleting) }
  | .vmChanged => w.pushVM w.vms.live
  | .vmDeleted => w.pushVM { w.vms.live with deleting := true }

/-- The requests of one reconcile. -/
inductive Call where
  | listJobs
  /-- The second list, after an attempt to create a job that exists. -/
  | listJobsAgain
  | listJobsToDelete
  | createJob
  /-- Delete a job of another clone of the VM. -/
  | deleteStaleJob (name : Nat)
  | deleteStaleJobAgain (name : Nat)
  | deleteJob (name : Nat)
  | updateVM
  deriving DecidableEq, Repr

/-- What goes on before a request and what happens to it. -/
structure Slot where
  meanwhile : List Move := []
  fault : Fault := .none
  /-- The error of a faulty request. -/
  err : Err := .other ""

/-- What the controller is told about PVCs. -/
structure PVCAnswers where
  /-- The PVCs with the labels of a clone of the VM. -/
  clones : Except Err (List PVC)
  /-- The backend storage of the source VM. -/
  sources : Except Err (List PVC)
  create : Except Err PVC
  clonesAgain : Except Err (List PVC)
  isWaitForFirstConsumerPVC : PVC → Except Err Bool

/-- All that a reconcile meets. -/
structure Env where
  now : Int
  /-- `time.Parse` with the format of the annotation. -/
  parseTime : String → Except Err Int
  pvcs : PVCAnswers
  /-- `fetchImageFromHelmValues`. -/
  fetchImage : Except Err Unit
  /-- The requests that do not simply go through. -/
  slots : List (Call × Slot)

/-- The slot of a request. -/
def Env.slot (env : Env) (c : Call) : Slot := (env.slots.lookup c).getD {}

/-- The handlers end with an error, or crash. -/
abbrev Handler := Action World (Halt Err)

section

variable (env : Env)

/-- Make a request. -/
def Env.call {α : Type} (c : Call) (m : Action World Err α) : Action World Err α := do
  Action.modify fun w => (env.slot c).meanwhile.foldl World.move w
  request (env.slot c).fault (env.slot c).err m

variable (v : Nat) (vm : VM) (name : Nat) (job : Job)

/-- The key of a job, for the errors of the API server. -/
def jobKey : Key := ⟨"", toString name⟩

/-- The jobs with the labels of the VM. -/
def listRequest : Action World Err (List Job) := fun w =>
  (.ok (w.jobs.objs.filter fun job =>
    job.vmLabel = some vm.name && job.generatedBy = some generatedByHarvester), w)

/-- Delete a job, which stays until its pods are gone. -/
def deleteRequest : Action World Err Unit := fun w =>
  match w.jobs.get name with
  | none => (.error (.notFound (jobKey name)), w)
  | some job => (.ok (), w.putJob { job with deleting := true })

/-- Write the VM, which was read as version `v`. -/
def updateRequest : Action World Err Unit := fun w =>
  if v = w.vms.now then (.ok (), w.pushVM vm)
  else (.error (.conflict ⟨"", vm.name⟩), w)

/-- The job that `buildBackendStorageJob` builds. -/
def newJob : Job where
  name
  vmLabel := some vm.name
  generatedBy := some generatedByHarvester
  startTime := vm.annotations.startTime.getD ""
  ownerUIDs := [vm.uid]
  deleting := false
  conditions := []

/-- A job is created. -/
def createRequest : Action World Err Job := fun w =>
  (.ok (newJob vm w.nextName), { w.putJob (newJob vm w.nextName) with
    nextName := w.nextName + 1, created := w.nextName :: w.created })

/-- A request to delete, for which it is fine when there is no such job. -/
def delete (c : Call) (name : Nat) : Handler Unit := do
  match ← attempt (env.call c (deleteRequest name)) with
  | .ok () => pure ()
  | .error e => if e.isNotFound then pure () else fail (.error e)

/-- The VM is updated. -/
def update : Handler Unit :=
  (env.call .updateVM (updateRequest v vm)).mapError .error

/-- An owner is the VM. -/
def isOwnedByVM (ownerUIDs : List String) : Bool := ownerUIDs.any (· = vm.uid)

/-- The loop of `getCurrentBackendStorageJob`, with the current job and the wish to wait. -/
def scanJobs (deleteStale : Nat → Call) (vm : VM) :
    List Job → Option Job → Bool → Handler (Option Job × Bool)
  | [], currentJob, waitForDeletion =>
    pure (if waitForDeletion then (none, true) else (currentJob, false))
  | job :: jobs, currentJob, waitForDeletion =>
    if isOwnedByVM vm job.ownerUIDs = false then
      scanJobs deleteStale vm jobs currentJob waitForDeletion
    else if job.startTime ≠ vm.annotations.startTime.getD "" then do
      when (job.deleting = false) (delete env (deleteStale job.name) job.name)
      scanJobs deleteStale vm jobs currentJob true
    else if job.deleting then scanJobs deleteStale vm jobs currentJob true
    else if currentJob.isSome then
      fail (.error (.other "expect at most 1 current backend storage job, got multiple"))
    else scanJobs deleteStale vm jobs (some job) waitForDeletion

/-- `getCurrentBackendStorageJob`, by the requests that it makes. -/
def getCurrentBackendStorageJob (list : Call) (deleteStale : Nat → Call) (vm : VM) :
    Handler (Option Job × Bool) := do
  let jobs ← (env.call list (listRequest vm)).mapError .error
  scanJobs env deleteStale vm jobs none false

/-- `buildBackendStorageJob` and the request to create the job. -/
def createJob (vm : VM) : Handler (Except Err Job) := do
  Action.ofExcept (env.fetchImage.mapError .error)
  attempt (env.call .createJob (createRequest vm))

/-- The job of the clone is found or created. -/
def reconcileBackendStorageJob : Handler (Option Job × Bool) := do
  match ← getCurrentBackendStorageJob env .listJobs .deleteStaleJob vm with
  | (_, true) => pure (none, true)
  | (some job, false) => pure (some job, false)
  | (none, false) =>
    match ← createJob env vm with
    | .ok job => pure (some job, false)
    | .error e =>
      if e.isAlreadyExists then
        getCurrentBackendStorageJob env .listJobsAgain .deleteStaleJobAgain vm
      else fail (.error e)

/-- The jobs of the VM, one after the other. -/
def deleteOwnedJobs (jobs : List Job) : Handler Unit :=
  forEach (fun job => when (isOwnedByVM vm job.ownerUIDs)
    (delete env (.deleteJob job.name) job.name)) jobs

/-- The jobs of the VM are deleted. -/
def deleteBackendStorageCloneJobs : Handler Unit := do
  let jobs ← (env.call .listJobsToDelete (listRequest vm)).mapError .error
  deleteOwnedJobs env vm jobs

/-- `getCurrentClonedBackendStoragePVC`, with the list that it gets. -/
def getCurrentClonedBackendStoragePVC (pvcs : Except Err (List PVC)) : Except Err (Option PVC) := do
  match (← pvcs).filter fun pvc => isOwnedByVM vm pvc.ownerUIDs with
  | [] => return none
  | [pvc] => return some pvc
  | _ => .error (.other "expect at most 1 cloned backend storage PVC")

/-- `findSourceBackendStoragePVC`, with the wish to skip the clone. -/
def findSourceBackendStoragePVC : Except Err (Option PVC × Bool) := do
  match ← env.pvcs.sources with
  | [] => return (none, true)
  | [pvc] => return (some pvc, false)
  | _ => .error (.other "expect 1 backend storage PVC for source VM")

/-- The clone is found or created. -/
def reconcileClonedBackendStoragePVC : Except Err (Option PVC × Bool) := do
  match ← getCurrentClonedBackendStoragePVC vm env.pvcs.clones with
  | some pvc => return (some pvc, false)
  | none =>
    match ← findSourceBackendStoragePVC env with
    | (_, true) => return (none, true)
    | (_, false) =>
      match env.pvcs.create with
      | .ok pvc => return (some pvc, false)
      | .error e =>
        if e.isAlreadyExists then
          return (← getCurrentClonedBackendStoragePVC vm env.pvcs.clonesAgain, false)
        else .error e

/-- `awaitClonedBackendStoragePVC`: the PVC and whether to go on; no PVC to skip the clone. -/
def awaitClonedBackendStoragePVC : Except Err (Option PVC × Bool) := do
  match ← reconcileClonedBackendStoragePVC env vm with
  | (_, true) => return (none, true)
  | (none, false) => return (none, false)
  | (some pvc, false) =>
    let isWaitForFirstConsumer ← env.pvcs.isWaitForFirstConsumerPVC pvc
    return match pvc.phase with
      | .bound => (some pvc, true)
      | .pending => if isWaitForFirstConsumer then (some pvc, true) else (none, false)
      | .other => (none, false)

/-- The limit of retries. -/
def maxBackendStorageCloneRetries : Nat := 5

/-- `backendStorageCloneTimeout`, in seconds. -/
def backendStorageCloneTimeout : Int := 30 * 60

/-- The clone is open. -/
def needsBackendStorageCloneReconcile : Bool :=
  !vm.deleting && vm.hasTemplate && vm.annotations.status = some .inProgress &&
    vm.annotations.sourceVM.getD "" ≠ "" && vm.annotations.startTime.getD "" ≠ ""

/-- The clone has taken too long. -/
def isBackendStorageCloneExpired : Except Err Bool := do
  let startTime ← env.parseTime (vm.annotations.startTime.getD "")
  return env.now - startTime > backendStorageCloneTimeout

/-- `cleanUpBSCloneAnnotations` and the new status. -/
def cleanUpBSCloneAnnotations (status : CloneStatus) : VM :=
  { vm with annotations := { status := some status } }

/-- The clone is complete. -/
def completeBackendStorageClone : Handler Unit :=
  let runStrategy := vm.annotations.runStrategy.or vm.runStrategy
  update env v (cleanUpBSCloneAnnotations { vm with runStrategy } .complete)

/-- The clone fails. -/
def failBackendStorageClone : Handler Unit := do
  deleteBackendStorageCloneJobs env vm
  update env v (cleanUpBSCloneAnnotations vm .failed)

/-- The end of a clone. -/
def finalizeBackendStorageClone : Handler Unit := do
  match ← getCurrentBackendStorageJob env .listJobs .deleteStaleJob vm with
  | (none, false) => completeBackendStorageClone env v vm
  | (none, true) => pure ()
  | (some job, _) => when (job.deleting = false) (delete env (.deleteJob job.name) job.name)

/-- The count of retries. -/
def VM.retries (vm : VM) : Int := vm.annotations.retries.getD 0

/-- The VM with one more retry. -/
def VM.retry : VM :=
  { vm with annotations := { vm.annotations with retries := some (vm.retries + 1) } }

/-- The VM whose job has succeeded. -/
def VM.preCompleted (vm : VM) : VM :=
  { vm with annotations := { vm.annotations with stage := some .preCompleted } }

/-- `handleBackendStorageCloneJobFailure`: the job is deleted, then the retry is counted. -/
def handleBackendStorageCloneJobFailure : Handler Unit :=
  if vm.retries ≥ maxBackendStorageCloneRetries then failBackendStorageClone env v vm
  else do
    delete env (.deleteJob job.name) job.name
    update env v vm.retry

/-- The success is recorded, then the job is deleted. -/
def handleBackendStorageCloneJobSuccess : Handler Unit := do
  update env v vm.preCompleted
  delete env (.deleteJob job.name) job.name

/-- The end of `ReconcileBackendStorageClone`. -/
def followJob : Handler Unit :=
  match getBackendStorageJobStatus job with
  | (false, _) => pure ()
  | (true, true) => handleBackendStorageCloneJobFailure env v vm job
  | (true, false) => handleBackendStorageCloneJobSuccess env v vm job

/-- The part of `ReconcileBackendStorageClone` that starts and follows the job. -/
def runJob : Handler Unit := do
  match ← reconcileBackendStorageJob env vm with
  | (_, true) => pure ()
  | (job, false) => do
    -- The job can be nil after the second list.
    let job ← Action.ofExcept (Guarded.deref job)
    followJob env v vm job

/-- `ReconcileBackendStorageClone` for a VM that was read as version `v`. -/
def reconcileBackendStorageClone : Handler Unit :=
  if needsBackendStorageCloneReconcile vm = false then pure ()
  else if vm.annotations.stage = some .preCompleted then finalizeBackendStorageClone env v vm
  else do
    let expired ← Action.ofExcept ((isBackendStorageCloneExpired env vm).mapError .error)
    if expired then failBackendStorageClone env v vm
    else if vm.annotations.actions.getD "" = "" then completeBackendStorageClone env v vm
    else do
      match ← Action.ofExcept ((awaitClonedBackendStoragePVC env vm).mapError .error) with
      | (_, false) => pure ()
      | (none, true) => failBackendStorageClone env v vm
      | (some _, true) => runJob env v vm

/-- `CleanUpBackendStorageClone`, for a VM that is being removed. -/
def cleanUpBackendStorageClone : Handler Unit :=
  when (vm.annotations.status = some .inProgress) (deleteBackendStorageCloneJobs env vm)

end

/-- `prepareBackendStorageClone` of the VM API, with the verdict of `determineCloneAction`. -/
def prepareBackendStorageClone (runStrategy : Except Err String)
    (sourcePVCs : Except Err (List PVC)) (sourceVM cloneAction now : String) (newVM : VM) :
    Except Err VM := do
  let runStrategy ← runStrategy
  match ← sourcePVCs with
  | [] => return newVM
  | [_] =>
    let actions := if cloneAction = "" then none else some cloneAction
    return { newVM with
      runStrategy := some "Halted"
      annotations :=
        { status := some .inProgress, sourceVM := some sourceVM, runStrategy := some runStrategy,
          actions, startTime := some now } }
  | _ => .error (.other "expected exactly 1 backend storage PVC for source VM")

end BackendStorage

end Harvester
