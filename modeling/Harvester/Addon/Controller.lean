import Harvester.Control.Guarded
import Harvester.Control.History
import Harvester.Kube.Basic

/-!
# Addons

The addon controller keeps a `HelmChart` object for an enabled addon, the Helm controller runs a job
for every change of that object, and the status of the addon follows the job.

A reconcile makes at most one change of the `HelmChart` and one `UpdateStatus`, in this order.  It
reads some version of the addon from a cache; an `UpdateStatus` that is based on an old version
fails with a conflict.  The `HelmChart` is read from the server.  The webhook refuses changes of the
addon while an operation is in progress.
-/

namespace Harvester

open Control Action

namespace AddonController

/-! ### Conditions -/

/-- The status of a condition. -/
inductive ConditionStatus where
  | true
  | false
  | unknown
  deriving DecidableEq, Repr

/-- A condition; times are in seconds, and the time may be the empty text. -/
structure Condition where
  status : ConditionStatus
  lastUpdateTime : Option Nat
  reason : String
  message : String
  deriving DecidableEq, Repr

namespace Condition

variable (now : Nat) (message : String) (c : Option Condition)

/-- `findOrCreateCond`. -/
def getOrCreate : Condition := c.getD ⟨.unknown, none, "", ""⟩

/-- Setting a status that is not new does not touch the time. -/
def setStatus (status : ConditionStatus) (c : Option Condition) : Option Condition :=
  if (getOrCreate c).status = status then some (getOrCreate c)
  else some { getOrCreate c with status, lastUpdateTime := some now }

/-- `SetMessage`. -/
def setMessage : Option Condition :=
  if (getOrCreate c).message = message then some (getOrCreate c)
  else some { getOrCreate c with message, lastUpdateTime := some now }

/-- `Reason`. -/
def setReason (reason : String) (c : Option Condition) : Option Condition :=
  some { getOrCreate c with reason }

/-- `LastUpdated`. -/
def setLastUpdated (time : Nat) (c : Option Condition) : Option Condition :=
  some { getOrCreate c with lastUpdateTime := some time }

/-- `SetError` with an error and without a reason. -/
def setError : Option Condition :=
  setReason "Error" (setMessage now message (setStatus now .false c))

/-- `IsTrue`; a missing condition is not. -/
def isTrue : Bool := c.any fun c => c.status = .true

/-- `GetLastUpdated`. -/
def getLastUpdated : Option Nat := c.bind Condition.lastUpdateTime

@[simp] theorem isTrue_setStatus (status : ConditionStatus) (c : Option Condition) : isTrue
    (setStatus now status c) = decide (status = .true) := by
  unfold setStatus
  split
  · next h => simp [isTrue, h]
  · simp [isTrue]

@[simp] theorem isTrue_setMessage : isTrue (setMessage now message c) = isTrue c := by
  unfold setMessage
  split <;> cases c <;> rfl

@[simp] theorem isTrue_setReason (reason : String) (c : Option Condition) :
    isTrue (setReason reason c) = isTrue c := by
  cases c <;> rfl

end Condition

/-! ### Addons -/

/-- The state of an addon. -/
inductive AddonState where
  /-- The empty text. -/
  | init
  | enabling
  | deployed
  | updating
  | disabling
  | disabled
  deriving DecidableEq, Repr

/-- What the user asks for. -/
structure AddonSpec where
  repo : String
  chart : String
  version : String
  enabled : Bool
  valuesContent : String
  deriving DecidableEq, Repr

/-- What the controller writes. -/
structure AddonStatus where
  status : AddonState
  inProgress : Option Condition
  completed : Option Condition
  operationFailed : Option Condition
  deriving DecidableEq, Repr

/-- An addon. -/
structure Addon where
  apiVersion : String
  kind : String
  ns : String
  name : String
  uid : String
  /-- The addon has a deletion timestamp. -/
  deleting : Bool
  /-- The annotation `harvesterhci.io/addon-defaults`. -/
  encodedValues : Option String
  spec : AddonSpec
  status : AddonStatus
  deriving DecidableEq, Repr

/-- An operation is in progress. -/
def Addon.inProgress (a : Addon) : Bool := Condition.isTrue a.status.inProgress

/-- The operation has failed. -/
def Addon.operationFailed (a : Addon) : Bool := Condition.isTrue a.status.operationFailed

/-- The operation fails. -/
def markErrorCondition (now : Nat) (s : AddonStatus) (msg : String) : AddonStatus :=
  { s with
    operationFailed :=
      Condition.setLastUpdated now
        (Condition.setStatus now .true (Condition.setError now msg s.operationFailed))
    inProgress := Condition.setStatus now .false s.inProgress
    completed := Condition.setStatus now .false s.completed }

/-- `False`, without a reason and a message. -/
def clearFailed (now : Nat) (c : Option Condition) : Option Condition :=
  Condition.setMessage now "" (Condition.setReason "" (Condition.setStatus now .false c))

/-- An operation begins. -/
def markInProgressCondition (now : Nat) (s : AddonStatus) : AddonStatus :=
  { s with
    completed := Condition.setStatus now .false s.completed
    inProgress := Condition.setStatus now .true (Condition.setLastUpdated now s.inProgress)
    operationFailed := clearFailed now s.operationFailed }

/-- The operation is complete. -/
def markCompletedCondition (now : Nat) (s : AddonStatus) : AddonStatus :=
  { s with
    completed := Condition.setLastUpdated now (Condition.setStatus now .true s.completed)
    inProgress := Condition.setStatus now .false s.inProgress
    operationFailed := clearFailed now s.operationFailed }

/-! ### Charts and jobs -/

/-- An owner reference. -/
structure Owner where
  apiVersion : String
  kind : String
  name : String
  uid : String
  deriving DecidableEq, Repr

/-- The `HelmChart` with the name of the addon. -/
structure HelmChart where
  ownerReferences : List Owner
  /-- The chart has a finalizer: a deletion leaves the object until the finalizer is removed. -/
  finalizer : Bool
  deletionTimestamp : Option Nat
  chart : String
  repo : String
  version : String
  valuesContent : String
  backOffLimit : Nat
  /-- `Status.JobName`. -/
  jobName : String
  deriving DecidableEq, Repr

/-- A condition of a job. -/
structure JobCondition where
  type : String
  reason : String
  deriving DecidableEq, Repr

/-- A job of the Helm controller. -/
structure Job where
  name : String
  creationTimestamp : Nat
  completionTime : Option Nat
  conditions : List JobCondition
  failed : Nat
  succeeded : Nat
  deriving DecidableEq, Repr

/-- The job has ended. -/
def isJobComplete (j : Job) : Bool :=
  j.completionTime.isSome ||
    j.conditions.any fun v => v.type = "Failed" && v.reason = "BackoffLimitExceeded"

/-- The failures that are tolerated. -/
def defaultJobBackOffLimit : Nat := 5

/-- The names of deletion jobs. -/
def helmChartJobDeletePrefix : String := "helm-delete"

/-- `strings.Contains`. -/
def textContains (s substr : String) : Bool :=
  s.toList.tails.any fun t => substr.toList.isPrefixOf t

/-- The reference to an addon. -/
def Addon.owner (a : Addon) : Owner := ⟨a.apiVersion, a.kind, a.name, a.uid⟩

/-! ### The cluster -/

/-- What a reconcile asks for: writes, and to be run again. -/
inductive Effect where
  | updateStatus
  | createChart
  | updateChart
  | deleteChart
  | enqueueAfter
  deriving DecidableEq, Repr

/-- The versions of the addon, and its chart. -/
structure World where
  addons : History Addon
  chart : Option HelmChart
  /-- What the last reconcile has done, the last first. -/
  trace : List Effect

/-- An addon as it has been read: the number of the version and the object. -/
structure Version where
  number : Nat
  addon : Addon

/-- What a reconcile finds besides the addon and the chart. -/
structure Env where
  now : Nat
  /-- The errors of the first and the second read of the chart. -/
  getChart : Option Err
  getChartAgain : Option Err
  jobs : String → Except Err Job
  create : Fault
  update : Fault
  delete : Fault
  updateStatus : Fault
  /-- The error of a request that fails. -/
  failure : Err

/-- A handler fails with an error, or dereferences a nil pointer. -/
abbrev Handler := Action World (Halt Err)

/-- `fmt.Errorf("…: %v", err)`; a crash passes through. -/
def wrap (text : String) : Halt Err → Halt Err
  | .error e => .error (.other (text ++ e.text))
  | .crash => .crash

/-- The status of the current version, if the request is based on it. -/
def storeStatus (v : Version) (status : AddonStatus) : Handler Unit := fun w =>
  match w.addons.replace v.number { w.addons.live with status } with
  | some addons => (.ok (), { w with addons, trace := .updateStatus :: w.trace })
  | none => (.error (.error (.conflict ⟨v.addon.ns, v.addon.name⟩)), w)

/-- `UpdateStatus` of a version. -/
def updateStatus (env : Env) (v : Version) (status : AddonStatus) : Handler Unit :=
  request env.updateStatus (.error env.failure) (storeStatus v status)

/-- The reconcile is repeated. -/
def enqueueAfter : Handler Unit :=
  .modify fun w => { w with trace := .enqueueAfter :: w.trace }

/-- The chart is written. -/
def storeChart (hc : HelmChart) : Handler Unit :=
  .modify fun w => { w with chart := some hc, trace := .updateChart :: w.trace }

/-- `h.helm.Create`. -/
def createChart (key : Key) (hc : HelmChart) : Handler Unit := fun w =>
  match w.chart with
  | some _ => (.error (.error (.alreadyExists key)), w)
  | none => (.ok (), { w with chart := some hc, trace := .createChart :: w.trace })

/-- `h.helm.Delete`. -/
def deleteChart (now : Nat) (key : Key) : Handler Unit := fun w =>
  match w.chart with
  | none => (.error (.error (.notFound key)), w)
  | some hc =>
    let chart := if hc.finalizer then some { hc with deletionTimestamp := some now } else none
    (.ok (), { w with chart, trace := .deleteChart :: w.trace })

/-- `h.helm.Get`, and whether the addon owns the chart. -/
def getAddonHelmChart (failure : Option Err) (a : Addon) : Handler (Option HelmChart × Bool) :=
  match failure with
  | some e => .fail (.error (.other ("error querying helmchart " ++ e.text)))
  | none => fun w => (.ok (w.chart, w.chart.any fun hc => decide (a.owner ∈ hc.ownerReferences)), w)

/-! ### The chart of an addon -/

section

variable (decode : String → Except Err String)

/-- The values of the spec, or the encoded ones of the annotation, or none. -/
def defaultValues (a : Addon) : Except Err String :=
  if a.spec.valuesContent ≠ "" then .ok a.spec.valuesContent
  else match a.encodedValues with
    | some valsEncoded =>
      (decode valsEncoded).mapError fun e => .other ("error decoding addon defaults: " ++ e.text)
    | none => .ok ""

/-- Whether the chart differs from the spec. -/
def isHelmchartUpdateNeeded (a : Addon) (hc : HelmChart) : Except Err (Bool × String) := do
  let vals ← (defaultValues decode a).mapError fun e =>
    .other ("error generating default values of addon " ++ a.ns ++ "/" ++ a.name ++ ": " ++ e.text)
  pure (decide (hc.valuesContent ≠ vals ∨ hc.version ≠ a.spec.version ∨ hc.chart ≠ a.spec.chart ∨
    hc.repo ≠ a.spec.repo), vals)

/-- The chart of an addon. -/
def newHelmChart (a : Addon) (vals : String) : HelmChart where
  ownerReferences := [a.owner]
  finalizer := false
  deletionTimestamp := none
  chart := a.spec.chart
  repo := a.spec.repo
  version := a.spec.version
  valuesContent := vals
  backOffLimit := defaultJobBackOffLimit
  jobName := ""

/-- The chart is created. -/
def deployHelmChart (env : Env) (a : Addon) : Handler Unit := do
  let vals ← Action.ofExcept ((defaultValues decode a).mapError .error)
  mapError (wrap "error creating helmchart object ")
    (request env.create (.error env.failure)
      (createChart ⟨a.ns, a.name⟩ (newHelmChart a vals)))

end

/-! ### The job of a chart -/

section

variable (env : Env) (v : Version)

/-- The job of a chart. -/
def getJob (name : String) (hc : HelmChart) : Except Err Job :=
  if hc.jobName = "" then
    .error (.other ("waiting for job to be populated on helmchart " ++ name))
  else env.jobs hc.jobName

/-- The job and whether it is not older than the deletion of the chart, a pointer. -/
def currentDeletionJob (name : String) (hc : HelmChart) : Guarded Err (Job × Bool) := do
  let j ← (getJob env name hc).mapError Halt.error
  let deleted ← Guarded.deref hc.deletionTimestamp
  pure (j, decide (deleted ≤ j.creationTimestamp))

/-- The job and whether it is not older than the `InProgress` condition. -/
def currentInstallationJob (hc : HelmChart) (a : Addon) : Except Err (Job × Bool) := do
  let j ← getJob env a.name hc
  match Condition.getLastUpdated a.status.inProgress with
  | none =>
    .error (.other ("error parsing last updated time for AddonOperationInProgress: " ++
      "parsing time \"\" as \"2006-01-02T15:04:05Z07:00\": cannot parse \"\" as \"2006\""))
  | some lastUpdatedTime => pure (j, decide (lastUpdatedTime ≤ j.creationTimestamp))

/-! ### Disabled addons -/

/-- The status after the job that removes the chart. -/
def disableOutcome (now : Nat) (s : AddonStatus) (j : Job) : AddonStatus :=
  let failed :=
    if 0 < j.failed then
      markErrorCondition now s ("addon disable job " ++ j.name ++ " failed") else s
  if 0 < j.succeeded then { markCompletedCondition now failed with status := .disabled } else failed

/-- The chart is being deleted: follow the job of the deletion. -/
def followDeletionJob (hc : HelmChart) : Handler Unit :=
  if textContains hc.jobName helmChartJobDeletePrefix then do
    let (j, ok) ← Action.ofExcept (currentDeletionJob env v.addon.name hc)
    if ok then
      if isJobComplete j then updateStatus env v (disableOutcome env.now v.addon.status j)
      else enqueueAfter
    else enqueueAfter
  else enqueueAfter

/-- The chart of another owner, or no chart. -/
def disableUnowned (hc : Option HelmChart) : Handler Unit :=
  match hc with
  | none =>
    updateStatus env v { markCompletedCondition env.now v.addon.status with status := .disabled }
  | some _ =>
    if v.addon.operationFailed then enqueueAfter
    else updateStatus env v (markErrorCondition env.now v.addon.status
      ("helmChart " ++ v.addon.name ++ " exists and is now owned by Addon " ++ v.addon.name ++
        ". cannot proceed further"))

/-- Delete the chart, then say that an operation is in progress; the other conditions stay. -/
def triggerDeletion : Handler Unit := do
  mapError (wrap "error deleting helm chart: ")
    (request env.delete (.error env.failure)
      (deleteChart env.now ⟨v.addon.ns, v.addon.name⟩))
  updateStatus env v
    { v.addon.status with
      inProgress := Condition.setStatus env.now .true v.addon.status.inProgress }

/-- The deletion of the chart is waited for. -/
def waitForAddonDisable : Handler Unit := do
  let (hc, owned) ← getAddonHelmChart env.getChart v.addon
  if owned then do
    let hc ← Action.ofExcept (Guarded.deref hc)
    if hc.deletionTimestamp = none then triggerDeletion env v
    else followDeletionJob env v hc
  else disableUnowned env v hc

/-- An addon that is disabled. -/
def processDisabledAddons : Handler Unit :=
  if v.addon.status.status = .disabled then pure ()
  else if v.addon.status.status ≠ .disabling ∧ v.addon.inProgress then enqueueAfter
  else if v.addon.status.status ≠ .disabling then
    updateStatus env v { v.addon.status with status := .disabling }
  else waitForAddonDisable env v

end

/-! ### Enabled addons -/

section

variable (decode : String → Except Err String)

variable (env : Env) (v : Version)

/-- The condition first, in a reconcile of its own; then the chart and the state. -/
def enableAddon (hc : Option HelmChart) : Handler Unit :=
  if v.addon.inProgress then do
    when (hc = none)
      (mapError (wrap "error deploying helmChart: ") (deployHelmChart decode env v.addon))
    updateStatus env v { v.addon.status with status := .enabling }
  else updateStatus env v (markInProgressCondition env.now v.addon.status)

/-- A chart that is being deleted, or that belongs to another owner, is waited for. -/
def processEnableAddon : Handler Unit := do
  let (hc, owned) ← getAddonHelmChart env.getChart v.addon
  if owned ∧ hc.any (fun hc => hc.deletionTimestamp.isSome) then enqueueAfter
  else if ¬ owned ∧ hc.isSome then enqueueAfter
  else enableAddon decode env v hc

/-- The status after the job that installs the chart. -/
def installOutcome (now : Nat) (s : AddonStatus) (j : Job) (state : AddonState) : AddonStatus :=
  let failed :=
    if 0 < j.failed then markErrorCondition now s ("addon deployment job " ++ j.name ++ " failed")
    else s
  if 0 < j.succeeded then { markCompletedCondition now failed with status := state } else failed

/-- The addon follows its job. -/
def reconcileCurrentInstallationJob (hc : HelmChart) (v : Version) (state : AddonState) : Handler
    Unit := do
  let (j, ok) ← Action.ofExcept ((currentInstallationJob env hc v.addon).mapError Halt.error)
  if ¬ ok ∨ ¬ isJobComplete j then enqueueAfter
  else if 0 < j.failed ∧ v.addon.operationFailed then pure ()
  else updateStatus env v (installOutcome env.now v.addon.status j state)

/-- An addon that is being installed. -/
def processEnablingAddon : Handler Unit := do
  let (hc, _) ← getAddonHelmChart env.getChart v.addon
  if v.addon.operationFailed then pure ()
  else match hc with
    | none =>
      updateStatus env v { markCompletedCondition env.now v.addon.status with status := .disabled }
    | some hc => reconcileCurrentInstallationJob env hc v .deployed

/-- The chart, read once more, with the spec of the addon. -/
def upgradeChart (vals : String) : Handler Unit := do
  let (hc, _) ← getAddonHelmChart env.getChartAgain v.addon
  let hc ← Action.ofExcept (Guarded.deref hc)
  request env.update (.error env.failure)
    (storeChart
      { hc with
        chart := v.addon.spec.chart
        repo := v.addon.spec.repo
        version := v.addon.spec.version
        valuesContent := vals })

/-- The condition first, in a reconcile of its own; then the chart and the state. -/
def upgradeAddon (vals : String) : Handler Unit :=
  if v.addon.status.status ≠ .updating ∧ ¬ v.addon.inProgress then
    updateStatus env v (markInProgressCondition env.now v.addon.status)
  else do
    upgradeChart env v vals
    if v.addon.status.status ≠ .updating ∧ v.addon.inProgress then
      updateStatus env v { v.addon.status with status := .updating }
    else pure ()

/-- A chart that differs is updated. -/
def upgradeIfNeeded (hc : HelmChart) : Handler Unit := do
  let (needed, vals) ← Action.ofExcept ((isHelmchartUpdateNeeded decode v.addon hc).mapError
    Halt.error)
  if needed then upgradeAddon env v vals else pure ()

/-- An addon that is deployed. -/
def processAddonUpgrades : Handler Unit := do
  let (hc, _) ← getAddonHelmChart env.getChart v.addon
  match hc with
  | none => deployHelmChart decode env v.addon
  | some hc => upgradeIfNeeded decode env v hc

/-- The state `AddonDisabling` is in no case. -/
def processEnabledAddons : Handler Unit :=
  match v.addon.status.status with
  | .disabled | .init => processEnableAddon decode env v
  | .enabling | .updating => processEnablingAddon env v
  | .deployed => processAddonUpgrades decode env v
  | .disabling => pure ()

/-- A reconcile. -/
def monitorAddonPerStatus : Handler Unit :=
  if v.addon.deleting then pure ()
  else if v.addon.spec.enabled then processEnabledAddons decode env v
  else processDisabledAddons env v

end

/-! ### The webhook -/

/-- The checks of every addon, then those of the addon with this name. -/
def validateUpdatedAddon (byName : String → Addon → Addon → Except Err Unit)
    (newAddon oldAddon : Addon) : Except Err Unit := do
  if newAddon.spec.chart ≠ oldAddon.spec.chart then
    throw (.other "chart field cannot be changed.")
  if oldAddon.inProgress then
    throw (.other ("cannot perform operation, as an existing operation is in progress on addon " ++
      oldAddon.name))
  byName newAddon.name newAddon oldAddon

end AddonController

end Harvester
