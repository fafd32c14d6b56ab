import Harvester.Control.Machine
import Harvester.Upgrade.ControllerEffects

/-!
# The upgrade system

All the controllers of an upgrade around one Upgrade, as a machine.  A step is a reconcile of one of
them, with caches that may be behind and faults of its requests, or a move of the surroundings: jobs
make progress, RKE2 changes its annotations, the logging infrastructure comes up, the user pauses
nodes.
-/

namespace Harvester

namespace Upgrades

open Control Relation

/-- The steps of the system. -/
inductive Event where
  | upgrade (env : Env) (f : UpgradeFindings)
  | plan (env : Env) (component : PlanComponent) (allAtLatestHash : Except Err Bool)
  | deployment (env : Env) (isRepo isDeploymentReady : Bool)
  | image (env : Env) (image : ImageInfo)
  | job (env : Env) (f : Findings) (key : JobKey)
  | node (env : Env) (f : Findings) (node : NodeInfo)
  | secret (env : Env) (secret : Secret)
  | addon (env : Env)
  | upgradeLog (env : Env) (loggingAddon : Except Err Bool)
  /-- A job that has not finished makes progress. -/
  | jobChanged (job : Job)
  | jobRemoved (key : JobKey)
  /-- The system upgrade controller starts the prepare job of a node. -/
  | prepareJob (node : String)
  /-- RKE2 changes its annotations of a machine-plan secret. -/
  | rke2 (secret : Secret)
  /-- The user says which nodes to pause. -/
  | pause (nodes : List String)
  /-- The logging infrastructure comes up. -/
  | logChanged (log : UpgradeLog)

/-- The caches of a reconcile are not ahead of the API server. -/
def Env.Reads (env : Env) (w : World) : Prop :=
  env.version ≤ w.upgrade.now ∧ env.jobVersion ≤ w.jobs.now ∧ env.logVersion ≤ w.log.now
  deriving Decidable

/-- An older copy of the setting that has the saved value is right about it. -/
def Env.ShowsSetting (env : Env) (u : Upgrade) (w : World) : Prop :=
  u.annotations.longhornSettingsRestored = false → ∀ value ∈ u.annotations.replicaReplenishment,
    env.oldSetting 2 = some value → w.replicaReplenishment = value

instance (env : Env) (u : Upgrade) (w : World) : Decidable (env.ShowsSetting u w) :=
  inferInstanceAs (Decidable (_ → _))

/-- The circumstances of a reconcile whose caches are current. -/
def World.current (w : World) (fault : ApiRequest → Fault × String) : Env :=
  { version := w.upgrade.now, jobVersion := w.jobs.now, logVersion := w.log.now, fault }

/-- `planHandler` for a plan of the upgrade; the prepare plan has to exist. -/
def planEvent (env : Env) (component : PlanComponent) (allAtLatestHash : Except Err Bool) :
    Act Unit := fun w =>
  if component = .node ∧ w.preparePlan = false then (.ok (), w)
  else planHandler env component allAtLatestHash w

/-- `jobHandler` for a job in the cache. -/
def jobEvent (c : Cluster) (env : Env) (f : Findings) (key : JobKey) : Act Unit := fun w =>
  match (w.jobs.get env.jobVersion).get key with
  | none => (.ok (), w)
  | some job => jobHandler c env f job w

/-- The reconcile of an event, unless it is a move of the surroundings. -/
def reconcile (c : Cluster) : Event → Option (Env × Act Unit)
  | .upgrade env f => some (env, upgradeHandler c env f)
  | .plan env component allAtLatestHash => some (env, planEvent env component allAtLatestHash)
  | .deployment env isRepo isReady => some (env, deploymentHandler env isRepo isReady)
  | .image env image => some (env, vmImageHandler env image)
  | .job env f key => some (env, jobEvent c env f key)
  | .node env f node => some (env, nodeHandler c env f node)
  | .secret env secret => some (env, secretHandler c env secret)
  | .addon env => some (env, addonHandler env)
  | .upgradeLog env loggingAddon => some (env, onUpgradeLogChange env loggingAddon)
  | _ => none

namespace World

variable (w : World)

/-- The jobs change. -/
def setJobs (jobs : Store Job.key) : World := { w with jobs := w.jobs.push jobs }

/-- RKE2 waits for the acknowledgement of a hook that Harvester has recorded as done. -/
def rke2Waits (c : Cluster) (old secret : Secret) : Bool :=
  w.upgrade.live.nodeStatuses.objs.any fun status =>
    c.machine status.node = old.machine &&
      (status.state = .preDrained && secret.rke2PreDrain ≠ old.rke2PreDrain ||
        status.state = .succeeded && secret.rke2PostDrain ≠ old.rke2PostDrain)

/-- A move of the surroundings. -/
def change (c : Cluster) : Event → Option World
  | .jobChanged job =>
    if (w.jobs.live.get job.key).any fun old => !old.finished then
      some (w.setJobs (w.jobs.live.put job))
    else none
  | .jobRemoved key => some (w.setJobs (w.jobs.live.delete key))
  | .prepareJob node =>
    if w.preparePlan then some (w.setJobs (w.jobs.live.put (.new .prepare node))) else none
  | .rke2 secret =>
    match w.secrets.get secret.name with
    | none => none
    | some old =>
      if w.rke2Waits c old secret then none
      else
        let changed := { old with
          rke2PreDrain := secret.rke2PreDrain
          rke2PostDrain := secret.rke2PostDrain }
        some { w with secrets := w.secrets.put changed }
  | .pause nodes =>
    let u := w.upgrade.live
    let paused := { u with annotations := { u.annotations with paused := nodes } }
    some { w with upgrade := w.upgrade.push paused }
  | .logChanged log =>
    match w.log.live with
    | none => none
    | some old =>
      -- The conditions that `OnUpgradeLogChange` sets itself stay.
      let changed := { log with
        upgradeLogReady := old.upgradeLogReady
        infraReady := old.infraReady
        upgradeEnded := old.upgradeEnded
        downloadReady := old.downloadReady
        state := old.state }
      some { w with log := w.log.push (some changed) }
  | _ => none

end World

/-- The upgrade system. -/
def machine (c : Cluster) : Machine World Event where
  next w ev :=
    match reconcile c ev with
    | some (env, m) => if env.Reads w then some (m.run w).2 else none
    | none => w.change c ev

section

variable {c : Cluster} {w w' : World} {ev : Event} {env : Env} {m : Act Unit}

theorem next_cases (h : (machine c).next w ev = some w') :
    (∃ env m, reconcile c ev = some (env, m) ∧ env.Reads w ∧ w' = (m.run w).2) ∨
      reconcile c ev = none ∧ w.change c ev = some w' := by
  simp only [machine] at h
  split at h
  · next env m hreconcile =>
    obtain ⟨hreads, rfl⟩ := Machine.guarded_eq_some.1 h
    exact .inl ⟨env, m, hreconcile, hreads, rfl⟩
  · next hreconcile => exact .inr ⟨hreconcile, h⟩

/-- What the surroundings can do. -/
inductive Change (c : Cluster) (w : World) : World → Prop
  | job {job old : Job} (hold : w.jobs.live.get job.key = some old) (hrunning : !old.finished) :
    Change c w (w.setJobs (w.jobs.live.put job))
  | removeJob (key : JobKey) : Change c w (w.setJobs (w.jobs.live.delete key))
  | prepareJob (node : String) (hplan : w.preparePlan = true) :
    Change c w (w.setJobs (w.jobs.live.put (.new .prepare node)))
  | rke2 {old secret : Secret} (hold : w.secrets.get secret.name = some old)
    (hwaits : w.rke2Waits c old secret = false) :
    Change c w { w with secrets := w.secrets.put { old with
      rke2PreDrain := secret.rke2PreDrain
      rke2PostDrain := secret.rke2PostDrain } }
  | pause (annotations : Annotations)
    (h : annotations = { w.upgrade.live.annotations with paused := annotations.paused }) :
    Change c w { w with upgrade := w.upgrade.push { w.upgrade.live with annotations } }
  | log (log : History (Option UpgradeLog)) : Change c w { w with log }

theorem change_cases (h : w.change c ev = some w') : Change c w w' := by
  cases ev with
  | jobChanged job =>
    obtain ⟨hany, rfl⟩ := Machine.guarded_eq_some.1 h
    obtain ⟨old, hold, hrunning⟩ := (Option.any_eq_true _ _).1 hany
    exact .job hold hrunning
  | jobRemoved key => exact Option.some.inj h ▸ .removeJob key
  | prepareJob node =>
    obtain ⟨hplan, rfl⟩ := Machine.guarded_eq_some.1 h
    exact .prepareJob node hplan
  | rke2 secret =>
    simp only [World.change] at h
    split at h
    · simp at h
    next old hold =>
    split at h
    · simp at h
    · next hwaits => exact Option.some.inj h ▸ .rke2 hold (by simpa using hwaits)
  | pause nodes => exact Option.some.inj h ▸ .pause _ rfl
  | logChanged log =>
    simp only [World.change] at h
    split at h
    · simp at h
    · exact Option.some.inj h ▸ .log _
  | _ => simp [World.change] at h

/-- What the reconcile of an event may do. -/
def footprint (w : World) : Event → Footprint
  | .upgrade _ f => upgradeFootprint f
  | .plan _ component _ =>
    .edits fun u x =>
      (component = .node → w.preparePlan = true) ∧ u.planCompleted component = some x
  | .deployment .. => .edits fun u x => u.repoAvailable = some x
  | .image _ image => .edits fun u x => u.imageChanged image = some x
  | .job env _ key => hookFootprint fun u x =>
    ∃ job, (w.jobs.get env.jobVersion).get key = some job ∧ JobStep job u x
  | .node _ _ node => hookFootprint (RebootStep node.name)
  | .secret .. => secretFootprint
  | .addon _ => addonFootprint
  | .upgradeLog env _ => .edits (LogStep w env)
  | _ => .edits fun _ _ => False

theorem edits_le_edits {E E' : Upgrade → Upgrade → Prop} (h : ∀ u x, E u x → E' u x) :
    (Footprint.edits E).Le (.edits E') :=
  ⟨h _ _, id, id, id, id, id⟩

/-- **Every reconcile stays within its footprint.** -/
theorem reconcile_effects (h : reconcile c ev = some (env, m)) (henv : env.Reads w) :
    Effects (footprint w ev) w (m.run w).2 := by
  cases ev with
  | upgrade env f =>
    cases h
    exact upgradeHandler_effects henv.1
  | plan env component allAtLatestHash =>
    cases h
    simp only [Action.run, planEvent]
    split
    · exact .refl
    next hplan =>
    have hexists : component = .node → w.preparePlan = true := by simpa using hplan
    refine Effects.mono ?_
      (edits_le_edits fun _ _ hx => ⟨hexists, hx⟩)
    rcases allAtLatestHash with e | _ | _
    · exact .refl
    · exact .refl
    · exact edit_effects henv.1
  | deployment env isRepo isReady =>
    cases h
    unfold deploymentHandler
    split
    · exact edit_effects henv.1
    · exact .refl
  | image env image =>
    cases h
    exact edit_effects henv.1
  | job env f key =>
    cases h
    simp only [Action.run, jobEvent]
    split
    · exact .refl
    · next job hjob =>
      exact (jobHandler_effects henv.1).mono (hook_le_hook fun _ _ hx => ⟨job, hjob, hx⟩)
  | node env f node =>
    cases h
    exact nodeHandler_effects henv.1
  | secret env secret =>
    cases h
    exact secretHandler_effects henv.1
  | addon env =>
    cases h
    exact addonHandler_effects henv.1
  | upgradeLog env loggingAddon =>
    cases h
    exact onUpgradeLogChange_effects henv.1
  | _ => simp [reconcile] at h

end

namespace Sample

/-- Two nodes, each with the machine of its name. -/
def cluster : Cluster where
  upgrade := "hvst-upgrade"
  machine node := some node
  nodeOf machine := some machine
  releaseOS _ := .ok "Harvester v1.6.0"

def annotations : Annotations := ⟨[], none, false, false, none, false, false, none⟩

/-- An Upgrade that the user has just created. -/
def upgrade : Upgrade where
  logEnabled := true
  state := none
  latest := false
  cleanup := none
  annotations := annotations
  conditions _ := none
  nodeStatuses := .empty
  singleNode := ""
  repoInfo := ""
  imageID := ""
  upgradeLog := ""

def world (u : Upgrade) : World where
  upgrade := .init u
  jobs := .init .empty
  secrets := .empty
  replicaReplenishment := 600
  descheduler := none
  log := .init none
  preparePlan := false

/-- A reconcile whose requests are answered. -/
def answering (version jobVersion logVersion : Nat) : Env :=
  { version, jobVersion, logVersion, fault := fun _ => (.none, "") }

/-- A reconcile in which the API server refuses a request. -/
def refusing (r : ApiRequest) (version jobVersion logVersion : Nat) : Env :=
  let fault r' := if r' = r then (.refused, "refused") else (.none, "")
  { version, jobVersion, logVersion, fault }

def upgradeFindings : UpgradeFindings where
  resetLatestUpgradeLabel := .ok ()
  upgradeLogName := "hvst-upgrade-upgradelog"
  logCheck := .waiting
  imageCheck := .created "harvester-system/hvst-upgrade"
  bootstrap := .ok ()
  isSingleNodeCluster := .ok ""
  repoInfo := .ok "v1.6.0"
  ineligible := none
  preload := .plan
  shutdownVMOnMigrationFailure := false
  deleteUsedVersion := .ok ()
  imageCleanup := .recorded

end Sample

end Upgrades

end Harvester
