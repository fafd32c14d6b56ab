import Harvester.Upgrade.Handlers

/-!
# The upgrade controller

`upgradeHandler.OnChanged` of `pkg/controller/master/upgrade/upgrade_controller.go`.  Each reconcile
takes the next step and writes the Upgrade:

`PreparingLoggingInfra → LoggingInfraPrepared → PreparingRepo → RepoPrepared → PreparingNodes →
UpgradingSystemServices → UpgradingNodes → Succeeded or Failed`

What the controller finds out elsewhere enters by `UpgradeFindings`.
-/

namespace Harvester

namespace Upgrades

open Control Action

/-- The end of `checkLogReadyCondition`, apart from its requests. -/
inductive LogCheck where
  | failed (e : Err)
  /-- The time is not over, or cannot be read. -/
  | waiting
  | timedOut

/-- The end of the creation of the image of the repository. -/
inductive ImageCheck where
  /-- The upgrade fails, with this error. -/
  | failed (message : String)
  /-- The label of the image cannot be set. -/
  | notLabelled (e : Err)
  | created (imageID : String)

/-- The setting for the preload of the images. -/
inductive PreloadStrategy where
  | invalid (e : Err)
  /-- The images are not preloaded; the nodes of the cluster. -/
  | skip (nodes : List String)
  | plan

/-- The end of the attempt to clean up images. -/
inductive ImageCleanup where
  | failed (e : Err)
  /-- The failure is recorded. -/
  | recorded
  | started

/-- What a reconcile finds out. -/
structure UpgradeFindings where
  resetLatestUpgradeLabel : Except Err Unit
  upgradeLogName : String
  logCheck : LogCheck
  imageCheck : ImageCheck
  /-- The error of `repo.Bootstrap`, unless the objects exist. -/
  bootstrap : Except Err Unit
  isSingleNodeCluster : Except Err String
  /-- The information about the repository, or the error of reading it. -/
  repoInfo : Except Err String
  /-- The reason why the upgrade is not eligible. -/
  ineligible : Option String
  preload : PreloadStrategy
  shutdownVMOnMigrationFailure : Bool
  deleteUsedVersion : Except Err Unit
  imageCleanup : ImageCleanup

/-- The raised value. -/
def extendedReplicaReplenishmentWaitInterval : Int := 1800

variable (c : Cluster) (env : Env) (f : UpgradeFindings) (u : Upgrade)

/-- The value of the setting in the cache, at the `k`-th reading. -/
def getReplicaReplenishmentValue (k : Nat) : Act Int :=
  env.request (.getSetting k) fun w => (.ok ((env.oldSetting k).getD w.replicaReplenishment), w)

/-- Nothing is written when the cached copy has the value. -/
def setReplicaReplenishmentValue (value : Int) : Act Unit := do
  let current ← getReplicaReplenishmentValue env 2
  if value = current then pure ()
  else env.request .updateSetting fun w =>
    match env.oldSetting 2 with
    | none => (.ok (), { w with replicaReplenishment := value })
    | some _ =>
      (.error (.conflict ⟨"longhorn-system", "replica-replenishment-wait-interval"⟩), w)

/-- The value is saved. -/
def saveReplicaReplenishmentToUpgradeAnnotation : Act Upgrade := do
  let value ← getReplicaReplenishmentValue env 1
  return { u with annotations := { u.annotations with replicaReplenishment := some value } }

/-- The part of `OnChanged` that saves and extends the interval. -/
def extendReplicaReplenishment : Act Upgrade := do
  let value ← getReplicaReplenishmentValue env 0
  if value < extendedReplicaReplenishmentWaitInterval then
    let u ← saveReplicaReplenishmentToUpgradeAnnotation env u
    setReplicaReplenishmentValue env extendedReplicaReplenishmentWaitInterval
    return u
  else return u

/-- The value is restored. -/
def loadReplicaReplenishmentFromUpgradeAnnotation : Act Unit :=
  match u.annotations.replicaReplenishment with
  | none => pure ()
  | some value => setReplicaReplenishmentValue env value

/-- The addon is labelled. -/
def addUpgradeLabelToDeschedulerAddons : Act Upgrade := do
  match ← getAddon env with
  | none => return u
  | some addon =>
    if addon.enabled then
      updateAddon env { addon with labelled := true }
      return { u with annotations := { u.annotations with reenableDescheduler := true } }
    else return u

/-- `saveShutdownVMOnMigrationFailureToUpgradeAnnotation`. -/
def Upgrade.saveShutdownVM (shutdown : Bool) : Upgrade :=
  if u.annotations.shutdownVMOnMigrationFailure.isSome then u
  else { u with
    annotations := { u.annotations with shutdownVMOnMigrationFailure := some shutdown } }

/-- Enable the descheduler addon again, without the label of the upgrade. -/
def enableDescheduler : Act Unit := do
  match ← getAddon env with
  | none => pure ()
  | some addon => when (!addon.enabled) (updateAddon env ⟨true, false⟩)

/-- `reenableAddons`, from the given version on; the version and the Upgrade after it. -/
def reenableAddons (version : Nat) (u : Upgrade) : Act (Nat × Upgrade) := do
  if u.annotations.reenableDescheduler then
    enableDescheduler env
    let toUpdate := { u with annotations := { u.annotations with reenableDescheduler := false } }
    let version ← env.updateUpgrade 1 version toUpdate
    return (version, toUpdate)
  else return (version, u)

/-- The part of `cleanup` that restores the settings of Longhorn. -/
def restoreLonghornSettings : Act (Nat × Upgrade) := do
  if u.singleNode = "" ∧ u.annotations.longhornSettingsRestored = false then
    loadReplicaReplenishmentFromUpgradeAnnotation env u
    let toUpdate :=
      { u with annotations := { u.annotations with longhornSettingsRestored := true } }
    let version ← env.updateUpgrade 0 env.version toUpdate
    return (version, toUpdate)
  else return (env.version, u)

/-- The part of `cleanup` that tears the logging infrastructure down. -/
def endUpgradeLog : Act Unit := do
  if u.status .logReady = some .conditionTrue ∧ u.upgradeLog ≠ "" then
    match ← env.request .getLog env.getLog with
    | none => pure ()
    | some log =>
      when (log.upgradeEnded ≠ some .conditionTrue)
        (env.updateLog { log with upgradeEnded := some .conditionTrue })
  else pure ()

/-- `cleanup`, from the version in the cache on; the jobs are those of the plans. -/
def cleanup (cleanJobs : Bool) : Act (Nat × Upgrade) := do
  env.request .cleanupResources (Action.modify fun w =>
    if cleanJobs then
      { w with jobs := w.jobs.push (w.jobs.live.filter fun job => job.type ≠ .prepare) }
    else w)
  let (version, u) ← restoreLonghornSettings env u
  endUpgradeLog env u
  let (version, u) ← reenableAddons env version u
  env.other .restoreCharts
  return (version, u)

/-- `cleanup` and the record that it is done. -/
def cleanupAndRecord (cleanJobs : Bool) : Act Unit := do
  let (version, u) ← cleanup env u cleanJobs
  let _ ← env.updateUpgrade 2 version { u with cleanup := some .succeeded }

/-- `ensureSkipManifestPlanCompleted`: whether the controller has to wait. -/
def ensureSkipManifestPlanCompleted (completed : Bool) : Act Bool := do
  when (!completed) (env.other .createPlan)
  return !completed

/-- Whether the cleanup has to wait until the manifests are no longer skipped. -/
def waitForManifests : Act Bool :=
  if u.annotations.skipManifestsApplied then
    ensureSkipManifestPlanCompleted env u.annotations.skipManifestsRemoved
  else pure false

/-- The first status. -/
def Upgrade.initStatus : Upgrade :=
  { u.createUnknownIfNotExists .completed with
    state := some .preparingLoggingInfra
    latest := true }

/-- The upgrade is initialized. -/
def initUpgrade : Act Unit := do
  Action.ofExcept f.resetLatestUpgradeLabel
  if !u.logEnabled then
    let toUpdate := u.initStatus.setLogReadyCondition .conditionFalse "Disabled"
      "Upgrade observability is administratively disabled"
    env.writeUpgrade { toUpdate with state := some .loggingInfraPrepared }
  else
    let created ← attempt (env.request .createLog fun w =>
      match w.log.live with
      | some _ => (.error (.alreadyExists ⟨"harvester-system", f.upgradeLogName⟩), w)
      | none => (.ok (), { w with log := w.log.push (some .new) }))
    let toUpdate :=
      match created with
      | .ok () => { u.initStatus with upgradeLog := f.upgradeLogName }
      | .error e =>
        -- The object that comes with the error has no name.
        if e.isAlreadyExists then { u.initStatus with upgradeLog := "" }
        else u.initStatus.setLogReadyCondition .conditionFalse e.text ""
    env.writeUpgrade (toUpdate.createUnknownIfNotExists .logReady)

/-- The log is waited for. -/
def checkLogReadyCondition : Act Unit :=
  match f.logCheck with
  | .failed e => fail e
  | .waiting => pure ()
  | .timedOut => do
    let message := "Timed out creating upgrade logging infrastructure"
    match ← attempt (env.request .getLog env.getLog) with
    | .ok (some log) =>
      (env.updateLog { log with infraReady := some .conditionFalse }).mapError fun e =>
        .other ("Failed to update upgradeLog: " ++ e.text)
      env.writeUpgrade ((u.setLogReadyCondition .conditionFalse "Timeout" message).fail "Timeout"
        message)
    | _ =>
      env.writeUpgrade ((u.setLogReadyCondition .conditionFalse "UpgradeLogGetFailed"
        "Failed to get upgrade log").fail "Timeout" message)

/-- The image of the repository is created. -/
def createImage : Act Unit :=
  match f.imageCheck with
  | .failed message => env.writeUpgrade (u.fail message "")
  | .notLabelled e => fail e
  | .created imageID =>
    env.writeUpgrade ({ u with imageID }.createUnknownIfNotExists .imageReady)

/-- The cleanup after a successful upgrade. -/
def cleanupSucceeded : Act Unit := do
  if u.annotations.imageCleanup.isSome then
    if u.cleanup = some .succeeded then pure ()
    else
      Action.ofExcept f.deleteUsedVersion
      cleanupAndRecord env u true
  else
    match f.imageCleanup with
    | .failed e => fail e
    | .recorded =>
      env.writeUpgrade { u with annotations := { u.annotations with imageCleanup := some false } }
    | .started => env.other .createPlan

/-- The cleanup after the upgrade has ended. -/
def cleanupUpgrade : Act Unit := do
  if ← waitForManifests env u then pure ()
  else if u.status .completed = some .conditionTrue then cleanupSucceeded env f u
  else if u.cleanup = some .succeeded then pure ()
  else cleanupAndRecord env u false

/-- The repository is started. -/
def startRepo : Act Unit :=
  match f.bootstrap with
  | .error e => env.writeUpgrade (u.fail e.text "")
  | .ok () =>
    env.writeUpgrade ({ u with state := some .preparingRepo }.createUnknownIfNotExists
      .repoProvisioned)

/-- The nodes get the images. -/
def prepareNodesForUpgrade : Act Unit :=
  match f.preload with
  | .invalid e => fail e
  | .skip nodes =>
    let u := nodes.foldl (fun u node => u.setNodeUpgradeStatus node .imagesPreloaded "" "") u
    env.writeUpgrade ({ u with state := some .preparingNodes }.setNodesPreparedCondition
      .conditionTrue "" "")
  | .plan => do
    let created ← attempt (env.request .createPlan
      (Action.modify fun w => { w with preparePlan := true }))
    match created with
    | .error e => env.writeUpgrade (u.fail e.text "")
    | .ok () =>
      env.writeUpgrade ({ u with state := some .preparingNodes }.createUnknownIfNotExists
        .nodesPrepared)

/-- The nodes are prepared. -/
def prepareNodes : Act Unit := do
  let singleNode ← Action.ofExcept f.isSingleNodeCluster
  match f.repoInfo with
  | .error e => env.writeUpgrade ({ u with singleNode }.fail e.text "")
  | .ok repoInfo =>
    match f.ineligible with
    | some reason => env.writeUpgrade ({ u with singleNode, repoInfo }.fail reason "")
    | none => prepareNodesForUpgrade env f { u with singleNode, repoInfo }

/-- The system services are upgraded. -/
def upgradeSystemServices : Act Unit :=
  match c.releaseOS u.repoInfo with
  | .error e => env.writeUpgrade (u.fail e.text "")
  | .ok _ => do
    env.ensureJob (.new .applyManifests "") fun e =>
      .other ("failed to create apply-manifests job: " ++ e.text)
    env.writeUpgrade ({ u with state := some .upgradingSystemServices }.setHelmChartUpgradeStatus
      .conditionUnknown "" "")

/-- The label and the condition with which the upgrade of the nodes starts. -/
def Upgrade.upgradingNodes (u : Upgrade) : Upgrade :=
  { u with state := some .upgradingNodes }.createUnknownIfNotExists .nodesUpgraded

/-- The node of a single-node cluster is upgraded. -/
def upgradeSingleNode : Act Unit :=
  if u.nodeState u.singleNode = some .upgradePaused then
    if u.shouldPauseNodeUpgrade u.singleNode then pure ()
    else env.writeUpgrade (u.setNodeUpgradeStatus u.singleNode .imagesPreloaded "" "")
  else if u.shouldPauseNodeUpgrade u.singleNode then
    env.writeUpgrade (u.pauseNode u.singleNode)
  else do
    env.ensureJob (.new .singleNodeUpgrade u.singleNode) fun e =>
      .other ("failed to create single-node upgrade job for node " ++
        u.singleNode ++ ": " ++ e.text)
    env.writeUpgrade u.upgradingNodes

/-- What has to be restored later is saved, and RKE2 starts. -/
def upgradeNodes : Act Unit := do
  if ← ensureSkipManifestPlanCompleted env u.annotations.skipManifestsApplied then pure ()
  else
    let extended ← extendReplicaReplenishment env u
    let labelled ← addUpgradeLabelToDeschedulerAddons env extended
    let toUpdate := labelled.saveShutdownVM f.shutdownVMOnMigrationFailure
    let version ← env.updateUpgrade 0 env.version toUpdate
    env.other .upgradeKubernetes
    let _ ← env.updateUpgrade 1 version toUpdate.upgradingNodes

/-- The upgrade of the nodes starts. -/
def startNodes : Act Unit := do
  let _ ← Action.ofExcept (c.releaseOS u.repoInfo)
  if u.singleNode ≠ "" then upgradeSingleNode env u else upgradeNodes env f u

/-- `upgradeHandler.OnChanged`. -/
def upgradeHandler : Act Unit := do
  let u ← env.getUpgrade
  if u.status .completed = none then initUpgrade env f u
  else if u.logEnabled ∧ u.status .logReady = some .conditionUnknown then
    checkLogReadyCondition env f u
  else if u.status .completed = some .conditionUnknown ∧ u.status .imageReady = none then
    createImage env f u
  else if !u.latest then pure ()
  else if u.status .completed ≠ some .conditionUnknown then cleanupUpgrade env f u
  else if u.status .imageReady = some .conditionTrue ∧ u.status .repoProvisioned = none then
    startRepo env f u
  else if u.status .repoProvisioned = some .conditionTrue ∧ u.status .nodesPrepared = none then
    prepareNodes env f u
  else if u.status .nodesPrepared = some .conditionTrue ∧
      u.status .systemServicesUpgraded = none then
    upgradeSystemServices c env u
  else if u.status .systemServicesUpgraded = some .conditionTrue ∧
      u.status .nodesUpgraded = none then
    startNodes c env f u
  else pure ()

end Upgrades

end Harvester
