import Harvester.Upgrade.Api

/-!
# The handlers around an upgrade

The handlers of `pkg/controller/master/upgrade` for the plans, the jobs, the nodes, the machine-plan
secrets of RKE2, the descheduler addon, the deployment and the image of the repository, and
`onUpgradeLogChange` of `pkg/controller/master/upgradelog`.  Most of them read the Upgrade, change
it and do nothing else (`Env.edit`).
-/

namespace Harvester

namespace Upgrades

open Control Action

/-- The plans of an upgrade. -/
inductive PlanComponent where
  | node
  | skipManifestsApply
  | skipManifestsRemove
  | cleanup
  deriving DecidableEq, Repr

/-- What a completed plan changes. -/
def Upgrade.planCompleted (component : PlanComponent) (u : Upgrade) : Option Upgrade :=
  match component with
  | .skipManifestsApply =>
    some { u with annotations := { u.annotations with skipManifestsApplied := true } }
  | .skipManifestsRemove =>
    some { u with annotations := { u.annotations with skipManifestsRemoved := true } }
  | .cleanup => some { u with annotations := { u.annotations with imageCleanup := some true } }
  | .node =>
    if u.status .nodesPrepared = some .conditionTrue then none
    else some (u.setNodesPreparedCondition .conditionTrue "" "")

section

variable (env : Env) (job : Job) (image : ImageInfo) (u : Upgrade)

/-- `planHandler.OnChanged`, with whether all nodes are at the latest hash. -/
def planHandler (component : PlanComponent) (allAtLatestHash : Except Err Bool) : Act Unit := do
  if ← Action.ofExcept allAtLatestHash then env.edit (Upgrade.planCompleted component)
  else pure ()

/-- What the deployment of the repository changes when it is available. -/
def Upgrade.repoAvailable : Option Upgrade :=
  if u.state = some .preparingRepo then
    some ({ u with state := some .repoPrepared }.setRepoProvisionedCondition .conditionTrue "" "")
  else none

/-- `deploymentHandler.OnChanged`. -/
def deploymentHandler (isRepo isDeploymentReady : Bool) : Act Unit :=
  if isRepo && isDeploymentReady then env.edit Upgrade.repoAvailable else pure ()

/-- The conditions of the image of the repository. -/
structure ImageInfo where
  imported : Option Condition
  retryLimitExceeded : Option Condition
  deriving DecidableEq, Repr

/-- The update that is sent, unless nothing has changed. -/
def Upgrade.changed (u toUpdate : Upgrade) : Option Upgrade :=
  if toUpdate = u then none else some toUpdate

theorem Upgrade.eq_of_changed {u toUpdate x : Upgrade} (h : u.changed toUpdate = some x) :
    toUpdate = x := by
  unfold changed at h
  split at h
  · simp at h
  · exact Option.some.inj h

/-- The Upgrade with the condition that follows from the image of the repository. -/
def Upgrade.followImage : Upgrade :=
  match image.imported, image.retryLimitExceeded with
  | some ⟨.conditionTrue, _, _⟩, _ => u.setImageReadyCondition .conditionTrue "" ""
  | some ⟨.conditionFalse, reason, message⟩, _ =>
    u.setImageReadyCondition .conditionFalse reason message
  | _, some ⟨.conditionTrue, reason, message⟩ =>
    u.setImageReadyCondition .conditionFalse reason message
  | _, some ⟨.conditionFalse, reason, message⟩ =>
    -- `isUponRetryFailure`
    if (u.conditions .imageReady).elim ("", "") (fun c => (c.reason, c.message)) =
        (reason, message) then u
    else u.setImageReadyCondition .conditionUnknown reason message
  | _, _ => u

/-- What the image of the repository changes. -/
def Upgrade.imageChanged : Option Upgrade :=
  u.changed (u.followImage image)

/-- `vmImageHandler.OnChanged`. -/
def vmImageHandler : Act Unit := env.edit (Upgrade.imageChanged image)

/-- A condition of a prepare job. -/
def Upgrade.prepareCondition (node : String) (u : Upgrade) (c : JobCondition) : Upgrade :=
  if c.type = .failed ∧ c.status then u.setNodeUpgradeStatus node .failed c.reason c.message
  else if c.type = .complete ∧ c.status then u.setNodeUpgradeStatus node .imagesPreloaded "" ""
  else u

/-- The Upgrade with the status of the node that follows from a prepare job. -/
def Upgrade.followPrepareJob : Upgrade :=
  let started :=
    if job.active > 0 then u.setNodeUpgradeStatus job.node .imagesPreloading "" "" else u
  job.conditions.foldl (Upgrade.prepareCondition job.node) started

/-- What a prepare job changes. -/
def Upgrade.planJobChanged : Option Upgrade :=
  if u.state ≠ some .preparingNodes then none else u.changed (u.followPrepareJob job)

/-- A condition of the job that applies the manifests. -/
def Upgrade.manifestCondition (c : JobCondition) : Upgrade :=
  if c.type = .failed ∧ c.status then
    u.setHelmChartUpgradeStatus .conditionFalse c.reason c.message
  else if c.type = .complete ∧ c.status then u.setHelmChartUpgradeStatus .conditionTrue "" ""
  else u

/-- What the job that applies the manifests changes. -/
def Upgrade.manifestJobChanged : Option Upgrade :=
  if !u.latest then none
  else if u.status .systemServicesUpgraded ≠ some .conditionUnknown ∨ job.active > 0 then none
  else u.changed (job.conditions.foldl Upgrade.manifestCondition u)

end

theorem Upgrade.imageChanged_rec {P : Upgrade → Prop} {u x : Upgrade} {image : ImageInfo}
    (hx : u.imageChanged image = some x) (hu : P u)
    (hset : ∀ s reason message, P (u.setImageReadyCondition s reason message)) : P x := by
  rw [← Upgrade.eq_of_changed hx]
  unfold Upgrade.followImage
  split
  · exact hset _ _ _
  · exact hset _ _ _
  · exact hset _ _ _
  · split
    · exact hu
    · exact hset _ _ _
  · exact hu

theorem Upgrade.manifestJobChanged_rec {P : Upgrade → Prop} {u x : Upgrade} {job : Job}
    (hx : u.manifestJobChanged job = some x) (hu : P u)
    (hset : ∀ v s reason message, P v → v.status .systemServicesUpgraded ≠ none →
      P (v.setMarked .systemServicesUpgraded s reason message)) : P x := by
  have hhelm {v : Upgrade} {s reason message}
      (hv : P v ∧ v.status .systemServicesUpgraded ≠ none) :
      P (v.setHelmChartUpgradeStatus s reason message) ∧
        (v.setHelmChartUpgradeStatus s reason message).status .systemServicesUpgraded ≠ none := by
    unfold Upgrade.setHelmChartUpgradeStatus
    split
    · exact hv
    · refine ⟨hset _ _ _ _ hv.1 hv.2, ?_⟩
      rw [Upgrade.status_setMarked_of_ne (by decide)]
      simp
  unfold Upgrade.manifestJobChanged at hx
  split at hx
  · simp at hx
  split at hx
  · simp at hx
  next hactive =>
  have hunknown := not_not.1 (not_or.1 hactive).1
  rw [← Upgrade.eq_of_changed hx]
  refine (List.foldlRecOn job.conditions Upgrade.manifestCondition
    (motive := fun v => P v ∧ v.status .systemServicesUpgraded ≠ none)
    ⟨hu, by simp [hunknown]⟩ fun v hv c _ => ?_).1
  unfold Upgrade.manifestCondition
  split
  · exact hhelm hv
  · split
    · exact hhelm hv
    · exact hv

/-- What the handlers of jobs and nodes find in their caches. -/
structure Findings where
  nodes : Store NodeInfo.name
  restoreVM : Bool
  /-- The name of the config map with the VMs to restore. -/
  configMap : String
  /-- The nodes with VMs to restore. -/
  restoreVMs : Except Err (List String)

section

variable (c : Cluster) (env : Env) (f : Findings)

/-- Create the job that restores the VMs of a node, unless the cache has it. -/
def createRestoreVMJob (node : String) : Act Unit := fun w =>
  if ((w.jobs.get env.jobVersion).get ⟨.restoreVM, node⟩).isSome then (.ok (), w)
  else env.ensureJob (.new .restoreVM node) (fun e =>
    .other ("failed to create restore VM job for node " ++ node ++ ": " ++ e.text)) w

variable (secret : Secret) (u : Upgrade) (os : String) (job : Job) (node : NodeInfo)

/-- The job that restores VMs. -/
def sendRestoreVMJob : Act Unit :=
  if !f.restoreVM || node.witness then pure ()
  else
    match f.restoreVMs with
    | .error e =>
      if e.isNotFound then pure ()
      else fail (.other ("failed to get ConfigMap " ++ f.configMap ++ ": " ++ e.text))
    | .ok nodes => when (node.name ∈ nodes) (createRestoreVMJob env node.name)

/-- What `syncNodeJob` has found out. -/
structure HookResult where
  toUpdate : Upgrade
  preDrained : Bool
  postDrained : Bool

/-- The node of a complete job has been upgraded, or waits for its reboot. -/
def nodeUpgraded (r : HookResult) (postDrained : Bool) : Act HookResult := do
  if os = node.osImage then
    sendRestoreVMJob env f node
    return { r with
      toUpdate := r.toUpdate.setNodeUpgradeStatus node.name .succeeded "" ""
      postDrained }
  else
    env.other .updateNode
    return { r with toUpdate := r.toUpdate.setNodeUpgradeStatus node.name .waitingReboot "" "" }

/-- What `syncNodeJob` does for a condition of the job. -/
def syncCondition (condition : JobCondition) (r : HookResult) : Act HookResult :=
  if condition.type = .failed ∧ condition.status then
    pure { r with toUpdate :=
      r.toUpdate.setNodeUpgradeStatus node.name .failed condition.reason condition.message }
  else if condition.type = .complete ∧ condition.status then
    if job.type = .preDrain ∧ u.nodeState node.name = some .preDraining then
      pure { r with
        toUpdate := r.toUpdate.setNodeUpgradeStatus node.name .preDrained "" ""
        preDrained := true }
    else if job.type = .postDrain ∧ u.nodeState node.name = some .postDraining then
      nodeUpgraded env f os node r true
    else if job.type = .singleNodeUpgrade then nodeUpgraded env f os node r r.postDrained
    else pure r
  else pure r

/-- The loop of `syncNodeJob` over the conditions of the job. -/
def syncConditions (u : Upgrade) (os : String) (job : Job) (node : NodeInfo) :
    List JobCondition → HookResult → Act HookResult
  | [], r => pure r
  | condition :: conditions, r => do
    let r ← syncCondition env f u os job node condition r
    syncConditions u os job node conditions r

/-- The only machine-plan secret of a machine. -/
def planSecret (machine : String) : Act Secret := do
  match ← env.listSecrets machine with
  | [secret] => pure secret
  | secrets => fail (.other ("found " ++ toString secrets.length ++
      " plan secret for machine " ++ machine))

/-- Tell RKE2 to go on after the pre-drain hook. -/
def acknowledgePreDrain : Act Unit :=
  env.updateSecret { secret with preDrain := secret.rke2PreDrain }

/-- Tell RKE2 to go on after the post-drain hook. -/
def acknowledgePostDrain : Act Unit :=
  env.updateSecret { secret with postDrain := secret.rke2PostDrain }

/-- A hook job is followed. -/
def syncNodeJob : Act Unit :=
  match f.nodes.get job.node, c.machine job.node with
  | some node, some machine => do
    let u ← env.getUpgrade
    let os ← Action.ofExcept (c.releaseOS u.repoInfo)
    let r ← syncConditions env f u os job node job.conditions ⟨u, false, false⟩
    when (r.toUpdate ≠ u) (env.writeUpgrade r.toUpdate)
    let secret ← planSecret env machine
    when r.preDrained (acknowledgePreDrain env secret)
    when r.postDrained (acknowledgePostDrain env secret)
  | _, _ => pure ()

/-- `jobHandler.OnChanged`. -/
def jobHandler : Act Unit :=
  match job.type with
  | .prepare => env.edit (Upgrade.planJobChanged job)
  | .preDrain | .postDrain | .singleNodeUpgrade => syncNodeJob c env f job
  | .applyManifests => env.edit (Upgrade.manifestJobChanged job)
  | .restoreVM => pure ()

/-- The Upgrade is the latest. -/
def ensureSingleUpgrade : Act Upgrade := do
  let u ← env.getUpgrade
  if u.latest then pure u else fail (.other "there are 0 on-going upgrades")

/-- `nodeHandler.OnChanged`. -/
def nodeHandler : Act Unit :=
  match node.pendingOSImage with
  | none => pure ()
  | some expectedVersion => do
    let u ← ensureSingleUpgrade env
    if u.state = some .upgradingNodes ∧ u.nodeState node.name = some .waitingReboot then
      match c.machine node.name with
      | none => pure ()
      | some machine =>
        let secret ← planSecret env machine
        if expectedVersion = node.osImage then
          when (c.releaseOS u.repoInfo).isOk (sendRestoreVMJob env f node)
          env.writeUpgrade (u.setNodeUpgradeStatus node.name .succeeded "" "")
          when (u.singleNode = "") (acknowledgePostDrain env secret)
          env.other .updateNode
        else pure ()
    else pure ()

/-- No hook job is pending. -/
def checkPendingHookJobs : Act Unit :=
  env.request .listJobs fun w =>
    match (w.jobs.get env.jobVersion).objs.find? fun job =>
        job.type ≠ .prepare && job.succeeded = 0 with
    | none => (.ok (), w)
    | some job => (.error (.other ("there are pending jobs: (harvester-system/" ++
        job.name c.upgrade ++ ")")), w)

/-- A hook job is created. -/
def createHookJob (node : String) (jobType : JobType) (nextState : NodeState) : Act Unit := do
  checkPendingHookJobs c env
  let _ ← Action.ofExcept (c.releaseOS u.repoInfo)
  env.ensureJob (.new jobType node) id
  env.writeUpgrade (u.setNodeUpgradeStatus node nextState "" "")

/-- RKE2 waits for the hook. -/
def Secret.isUnderPreDrain : Bool := secret.rke2PreDrain ≠ secret.preDrain

/-- RKE2 waits for one of the hooks. -/
def Secret.isWaiting : Bool :=
  !(secret.rke2PreDrain = "" && secret.rke2PostDrain = "") &&
    !(secret.rke2PreDrain = secret.preDrain && secret.rke2PostDrain = secret.postDrain)

/-- The part of `secretHandler.OnChanged` for a node with a state. -/
def drainNode (node : String) : Act Unit :=
  match u.nodeState node with
  | some .imagesPreloaded =>
    if !secret.isUnderPreDrain then pure ()
    else if u.shouldPauseNodeUpgrade node then env.writeUpgrade (u.pauseNode node)
    else do
      Action.ofExcept (u.checkEligibleToDrain node)
      createHookJob c env u node .preDrain .preDraining
  | some .upgradePaused =>
    if !secret.isUnderPreDrain || u.shouldPauseNodeUpgrade node then pure ()
    else env.writeUpgrade (u.setNodeUpgradeStatus node .imagesPreloaded "" "")
  | some .preDrained =>
    if secret.rke2PostDrain ≠ secret.postDrain then do
      Action.ofExcept (u.checkEligibleToDrain node)
      createHookJob c env u node .postDrain .postDraining
    else pure ()
  | _ => pure ()

/-- `secretHandler.OnChanged`. -/
def secretHandler : Act Unit :=
  if !secret.isWaiting then pure ()
  else do
    let u ← ensureSingleUpgrade env
    if u.state ≠ some .upgradingNodes then pure ()
    else
      match secret.machine.bind c.nodeOf with
      | none => pure ()
      | some node => drainNode c env secret u node

end

/-- `addonCache.Get` for the descheduler; `none` when it is not found. -/
def getAddon (env : Env) : Act (Option Addon) :=
  env.request .getAddon fun w => (.ok (env.oldAddon.getD w.descheduler), w)

/-- `addonClient.Update` of the addon in the cache, which is refused for an older copy. -/
def updateAddon (env : Env) (addon : Addon) : Act Unit :=
  env.request .updateAddon fun w =>
    match env.oldAddon with
    | none => (.ok (), { w with descheduler := some addon })
    | some _ => (.error (.conflict ⟨"kube-system", "descheduler"⟩), w)

/-- The addon is disabled when the upgrade will enable it again. -/
def addonHandler (env : Env) : Act Unit := do
  let u ← env.getUpgrade
  fun w =>
    match env.oldAddon.getD w.descheduler with
    | some addon =>
      if addon.enabled && addon.labelled && u.annotations.reenableDescheduler then
        updateAddon env { addon with enabled := false } w
      else (.ok (), w)
    | none => (.ok (), w)

/-- The signal that the upgrade can go on. -/
def Upgrade.loggingInfraPrepared (u : Upgrade) : Upgrade :=
  { u with state := some .loggingInfraPrepared }.setCondition .logReady .conditionTrue "" ""

/-- `OnUpgradeLogChange`; `loggingAddon` says whether the rancher-logging addon is enabled. -/
def upgradeLogChanged (env : Env) (loggingAddon : Except Err Bool) : Option UpgradeLog → Act Unit
  | none => pure ()
  | some log => do
    if log.upgradeLogReady = none then
      env.updateLog { log with upgradeLogReady := some .conditionUnknown }
    else if log.loggingOperatorDeployed = none then
      match loggingAddon with
      | .ok true => env.updateLog { log with loggingOperatorDeployed := some .conditionTrue }
      | .ok false =>
        env.other .createLogging
        env.updateLog { log with loggingOperatorDeployed := some .conditionUnknown }
      | .error e =>
        if e.isNotFound then
          env.other .createLogging
          env.updateLog { log with loggingOperatorDeployed := some .conditionUnknown }
        else fail e
    else if log.loggingOperatorDeployed = some .conditionTrue ∧ log.infraReady = none then
      env.other .createLogging
      env.updateLog { log with infraReady := some .conditionUnknown }
    else if log.loggingOperatorDeployed = some .conditionTrue ∧
        log.infraReady = some .conditionUnknown then
      if log.fluentBitReady && log.fluentdReady then
        env.updateLog { log with infraReady := some .conditionTrue }
      else pure ()
    else if log.infraReady = some .conditionTrue ∧ log.upgradeLogReady = some .conditionUnknown then
      if log.clusterOutputReady && log.clusterFlowReady then
        env.updateLog { log with state := some .collecting, upgradeLogReady := some .conditionTrue }
      else env.other .createLogging
    else if log.upgradeLogReady = some .conditionTrue ∧ log.upgradeEnded = none then
      let u ← env.getUpgrade
      env.writeUpgrade u.loggingInfraPrepared
      env.updateLog { log with upgradeEnded := some .conditionUnknown }
    else if log.upgradeEnded = some .conditionUnknown ∧ log.downloadReady = none then
      env.other .createLogging
      env.updateLog { log with downloadReady := some .conditionUnknown }
    else if log.upgradeEnded = some .conditionTrue ∧ log.state = some .collecting then
      env.other .createLogging
      env.updateLog { log with state := some .stopped }
    else pure ()

/-- The handler of the UpgradeLog. -/
def onUpgradeLogChange (env : Env) (loggingAddon : Except Err Bool) : Act Unit := do
  upgradeLogChanged env loggingAddon (← env.getLog)

end Upgrades

end Harvester
