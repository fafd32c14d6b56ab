import Harvester.Control.History
import Harvester.Upgrade.Basic

/-!
# The cluster during an upgrade

The objects that the upgrade controllers share with the API server, and their requests.  The
Upgrade, the jobs and the UpgradeLog have a history, since they are read through caches.

An update of the Upgrade that is based on an old version is refused (`updateUpgrade`).  So a
controller that goes on from an old version does everything up to its first update of the Upgrade.
-/

namespace Harvester

namespace Upgrades

open Control Action

/-- The jobs of an upgrade. -/
inductive JobType where
  | preDrain
  | postDrain
  | restoreVM
  | singleNodeUpgrade
  | applyManifests
  /-- A job of the prepare plan. -/
  | prepare
  deriving DecidableEq, Repr

/-- The type as a text. -/
def JobType.text : JobType → String
  | preDrain => "pre-drain"
  | postDrain => "post-drain"
  | restoreVM => "restore-vm"
  | singleNodeUpgrade => "single-node-upgrade"
  | applyManifests => "apply-manifests"
  | prepare => "prepare"

/-- How a job ends. -/
inductive JobConditionType where
  | failed
  | complete
  | other
  deriving DecidableEq, Repr

/-- A condition of a job. -/
structure JobCondition where
  type : JobConditionType
  /-- The status is `"True"`. -/
  status : Bool
  reason : String
  message : String
  deriving DecidableEq, Repr

/-- A job is known by type and node. -/
structure JobKey where
  type : JobType
  /-- Empty for the job that applies the manifests. -/
  node : String
  deriving DecidableEq, Repr

/-- A job. -/
structure Job where
  type : JobType
  node : String
  active : Nat
  succeeded : Nat
  conditions : List JobCondition
  deriving DecidableEq, Repr

namespace Job

/-- The key of a job. -/
def key (job : Job) : JobKey := ⟨job.type, job.node⟩

/-- The name of a job, which is shortened when it is too long. -/
def name (job : Job) (upgrade : String) : String :=
  if job.node = "" then upgrade ++ "-" ++ job.type.text
  else upgrade ++ "-" ++ job.type.text ++ "-" ++ job.node

/-- A job as it is created. -/
def new (type : JobType) (node : String) : Job := ⟨type, node, 0, 0, []⟩

/-- A pre-drain or a post-drain job. -/
def isHook (job : Job) : Bool := job.type ∈ [.preDrain, .postDrain]

/-- The job has the condition. -/
def has (job : Job) (type : JobConditionType) : Bool :=
  job.conditions.any fun c => c.type = type && c.status

/-- The job is complete or has failed. -/
def finished (job : Job) : Bool := job.has .complete || job.has .failed

end Job

/-- A machine-plan secret with its annotations, which are empty when missing. -/
structure Secret where
  name : String
  /-- The label with the machine. -/
  machine : Option String
  rke2PreDrain : String
  rke2PostDrain : String
  preDrain : String
  postDrain : String
  deriving DecidableEq, Repr

/-- The descheduler addon. -/
structure Addon where
  enabled : Bool
  /-- It has the label of the upgrade. -/
  labelled : Bool
  deriving DecidableEq, Repr

/-- The state of the UpgradeLog. -/
inductive LogState where
  | collecting
  | stopped
  deriving DecidableEq, Repr

/-- An UpgradeLog, with the status of its conditions. -/
structure UpgradeLog where
  upgradeLogReady : Option ConditionStatus
  loggingOperatorDeployed : Option ConditionStatus
  infraReady : Option ConditionStatus
  upgradeEnded : Option ConditionStatus
  downloadReady : Option ConditionStatus
  fluentBitReady : Bool
  fluentdReady : Bool
  clusterFlowReady : Bool
  clusterOutputReady : Bool
  state : Option LogState
  deriving DecidableEq, Repr

/-- An UpgradeLog as it is created. -/
def UpgradeLog.new : UpgradeLog :=
  ⟨none, none, none, none, none, false, false, false, false, none⟩

/-- What the caches show of a node. -/
structure NodeInfo where
  name : String
  osImage : String
  /-- The annotation `harvesterhci.io/pendingOSImage`. -/
  pendingOSImage : Option String
  /-- It has the label of a witness node. -/
  witness : Bool
  deriving DecidableEq, Repr

/-- What does not change during an upgrade. -/
structure Cluster where
  /-- The name of the Upgrade. -/
  upgrade : String
  /-- The machine in the annotations of a node. -/
  machine : String → Option String
  /-- The node of a machine. -/
  nodeOf : String → Option String
  /-- The operating system of the release that the information about the repository names. -/
  releaseOS : String → Except Err String

/-- The objects of an upgrade. -/
structure World where
  upgrade : History Upgrade
  jobs : History (Store Job.key)
  secrets : Store Secret.name
  /-- The Longhorn setting `replica-replenishment-wait-interval`. -/
  replicaReplenishment : Int
  descheduler : Option Addon
  log : History (Option UpgradeLog)
  /-- The plan that prepares the nodes has been created. -/
  preparePlan : Bool

/-- Calls of the controllers. -/
abbrev Act (α : Type) := Action World Err α

/-- The requests of a reconcile; those of one kind are numbered. -/
inductive ApiRequest where
  | updateUpgrade (k : Nat)
  | listJobs
  | createJob
  | createPlan
  | listSecrets
  | updateSecret
  | updateNode
  | getSetting (k : Nat)
  | updateSetting
  | getAddon
  | updateAddon
  | createLog
  | getLog
  | updateLog
  | upgradeKubernetes
  | cleanupResources
  | restoreCharts
  | createLogging
  deriving DecidableEq, Repr

/-- How far the caches of a reconcile have got, and what becomes of its requests. -/
structure Env where
  /-- The version of the Upgrade in the cache. -/
  version : Nat
  /-- The version of the jobs in the cache. -/
  jobVersion : Nat
  /-- The version of the UpgradeLog in the cache. -/
  logVersion : Nat
  fault : ApiRequest → Fault × String
  /-- An older copy of the Longhorn setting in the cache, for each reading of it. -/
  oldSetting : Nat → Option Int := fun _ => none
  /-- An older copy of the descheduler addon in the cache. -/
  oldAddon : Option (Option Addon) := none

namespace Env

variable (env : Env)

/-- A request with its fault. -/
def request {α : Type} (r : ApiRequest) (m : Act α) : Act α :=
  Action.request (env.fault r).1 (.other (env.fault r).2) m

/-- The Upgrade in the cache. -/
def getUpgrade : Act Upgrade := fun w => (.ok (w.upgrade.get env.version), w)

/-- `upgradeClient.Update` of an object that is based on a version; the new version. -/
def updateUpgrade (k version : Nat) (x : Upgrade) : Act Nat :=
  env.request (.updateUpgrade k) fun w =>
    if w.upgrade.now = version then
      (.ok (version + 1), { w with upgrade := w.upgrade.push x })
    else (.error (.conflict ⟨"harvester-system", "upgrade"⟩), w)

/-- The only update of a reconcile, of the Upgrade in the cache. -/
def writeUpgrade (x : Upgrade) : Act Unit := do
  let _ ← env.updateUpgrade 0 env.version x

/-- A reconcile that changes the Upgrade at most. -/
def edit (f : Upgrade → Option Upgrade) : Act Unit := do
  match f (← env.getUpgrade) with
  | none => pure ()
  | some x => env.writeUpgrade x

/-- `jobClient.Create`. -/
def createJob (job : Job) : Act Unit :=
  env.request .createJob fun w =>
    match w.jobs.live.get job.key with
    | some _ => (.error (.alreadyExists ⟨"harvester-system", job.node⟩), w)
    | none => (.ok (), { w with jobs := w.jobs.push (w.jobs.live.put job) })

/-- Create a job, which may be there already; another error is reported by `report`. -/
def ensureJob (job : Job) (report : Err → Err) : Act Unit := do
  match ← attempt (env.createJob job) with
  | .ok () => pure ()
  | .error e => if e.isAlreadyExists then pure () else fail (report e)

/-- A request about objects that are not part of the world. -/
def other (r : ApiRequest) : Act Unit := env.request r (pure ())

/-- `secretClient.List` for the machine-plan secrets of a machine. -/
def listSecrets (machine : String) : Act (List Secret) :=
  env.request .listSecrets fun w =>
    (.ok (w.secrets.objs.filter fun secret => secret.machine = some machine), w)

/-- `secretClient.Update`. -/
def updateSecret (secret : Secret) : Act Unit :=
  env.request .updateSecret (Action.modify fun w => { w with secrets := w.secrets.put secret })

/-- The UpgradeLog in the cache. -/
def getLog : Act (Option UpgradeLog) := fun w => (.ok (w.log.get env.logVersion), w)

/-- `upgradeLogClient.Update` of the UpgradeLog in the cache. -/
def updateLog (log : UpgradeLog) : Act Unit :=
  env.request .updateLog fun w =>
    if w.log.now = env.logVersion then (.ok (), { w with log := w.log.push (some log) })
    else (.error (.conflict ⟨"harvester-system", "upgradelog"⟩), w)

end Env

end Upgrades

end Harvester
