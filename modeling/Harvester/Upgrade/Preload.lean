import Harvester.Upgrade.Frames

/-!
# The images of the nodes

The job handler records for each node that its images are preloaded, the plan handler records that
all nodes are prepared, and the upgrade controller then goes on to the system services.  From there
on the job handler leaves the nodes alone, so a node whose last event comes too late keeps its
state.

`nodes_preloaded` says when this does not happen, and `late_job_leaves_node_preloading` is a run in
which it does.  The job events that have been handled are recorded in `PrepareState`.
-/

namespace Harvester

namespace Upgrades

open Control Action Relation

/-! ### The prepare phase -/

/-- The cluster, and the nodes whose complete job has been handled without an error. -/
structure PrepareState where
  world : World
  handled : List String

/-- The prepare job of a node is there and meets `p`. -/
def World.prepareJob (w : World) (node : String) (p : Job → Bool) : Bool :=
  (w.jobs.live.get ⟨.prepare, node⟩).any p

/-- The job is complete and has not failed. -/
def Job.done (job : Job) : Bool := job.has .complete && !job.has .failed

/-- The prepare job of a node is done. -/
def World.preloaded (w : World) (node : String) : Bool := w.prepareJob node Job.done

/-- The node whose prepare job an event handles to the end. -/
def PrepareState.handles (c : Cluster) (s : PrepareState) : Event → Option String
  | .job env f key =>
    if s.world.preloaded key.node ∧ ((jobEvent c env f key).run s.world).1.isOk then some key.node
    else none
  | _ => none

/-- The upgrade system with a record of the job events that have been handled. -/
def prepareMachine (c : Cluster) : Machine PrepareState Event where
  next s ev := ((machine c).next s.world ev).map fun world =>
    ⟨world, (s.handles c ev).toList ++ s.handled⟩

/-- The phase in which `nodes` are prepared.  The handlers run one after the other.  The system
upgrade controller starts one job for each node, and marks the node when the job is done; the plan
is complete when all nodes are marked. -/
def PreparePhase (nodes : List String) (w : World) : Event → Prop
  | .upgrade env _ => env.version = w.upgrade.now
  | .plan _ component allAtLatestHash =>
    component = .node ∧ (allAtLatestHash = .ok true → ∀ node ∈ nodes, w.preloaded node = true)
  | .job env _ key => env.version = w.upgrade.now ∧ env.jobVersion = w.jobs.now ∧
    key.type = .prepare
  | .prepareJob node => node ∈ nodes ∧ w.jobs.live.get ⟨.prepare, node⟩ = none
  | .jobChanged job => job.type = .prepare
  | _ => False

/-- The upgrade goes on to the system services after the job events of all nodes. -/
def HandledFirst (nodes : List String) (s : PrepareState) : Event → Prop
  | .upgrade .. => s.world.upgrade.live.status .nodesPrepared = some .conditionTrue →
    s.world.upgrade.live.state = some .preparingNodes → ∀ node ∈ nodes, node ∈ s.handled
  | _ => True

instance (nodes : List String) (w : World) (ev : Event) : Decidable (PreparePhase nodes w ev) := by
  apply @Event.casesOn _ ev <;> intros <;> dsimp only [PreparePhase] <;> infer_instance

instance (nodes : List String) (s : PrepareState) (ev : Event) :
    Decidable (HandledFirst nodes s ev) := by
  apply @Event.casesOn _ ev <;> intros <;> dsimp only [HandledFirst] <;> infer_instance

/-! ### Prepare jobs -/

section

variable {nodes : List String} {w w' : World} {u x : Upgrade} {env : Env} {c : Cluster}
  {node : String} {job : Job} {f : UpgradeFindings}

theorem prepareJob_of_get {p : Job → Bool} {found : Job} (htype : job.type = .prepare)
    (hget : w.jobs.live.get job.key = some found) : w.prepareJob job.node p = p found := by
  rw [World.prepareJob, ← htype]
  exact congrArg (Option.any p) hget

theorem prepareJob_setJobs {p : Job → Bool} (hp : ∀ job, p job → job.finished)
    (hold : ∀ old, w.jobs.live.get job.key = some old → !old.finished)
    (h : w.prepareJob node p) : (w.setJobs (w.jobs.live.put job)).prepareJob node p := by
  obtain ⟨found, hfound, hfp⟩ := (Option.any_eq_true _ _).1 h
  have hne : (⟨.prepare, node⟩ : JobKey) ≠ job.key := by
    intro heq
    have hrunning := hold found (heq ▸ hfound)
    simp [hp found hfp] at hrunning
  simp only [World.prepareJob, World.setJobs, History.live_push,
    Store.get_put_of_ne _ hne]
  exact h

theorem prepareJob_createJob (htype : job.type ≠ .prepare) :
    World.prepareJob { w with jobs := w.jobs.push (w.jobs.live.put job) } = w.prepareJob := by
  funext node p
  have hne : (⟨.prepare, node⟩ : JobKey) ≠ job.key := fun heq =>
    htype (congrArg JobKey.type heq).symm
  simp [World.prepareJob, Store.get_put_of_ne _ hne]

theorem finished_of_done (job : Job) (h : job.done) : job.finished := by
  simp_all [Job.done, Job.finished]

theorem finished_of_failed (job : Job) (h : job.has .failed) : job.finished := by
  simp_all [Job.finished]

/-- The status that a prepare job without a failure gives to its node. -/
structure Follows (node : String) (complete : Bool) (u x : Upgrade) : Prop where
  conditions : x.conditions = u.conditions
  state : x.state = u.state
  framed : u.Framed x
  others : ∀ node', node' ≠ node → x.nodeState node' = u.nodeState node'
  complete : complete = true → x.nodeState node = some .imagesPreloaded
  /-- A node is not recorded as failed without a failure. -/
  failed : x.nodeState node = some .failed → u.nodeState node = some .failed

theorem Follows.refl (u : Upgrade) : Follows node false u u :=
  ⟨rfl, rfl, ⟨rfl, rfl, rfl, rfl⟩, fun _ _ => rfl, by simp, id⟩

theorem Follows.set {v : Upgrade} {complete : Bool} {state : NodeState}
    (h : Follows node complete u v)
    (hu : u.state = some .preparingNodes) (hstate : state ≠ .failed) {complete' : Bool}
    (hcomplete : complete' = true → state = .imagesPreloaded) :
    Follows node complete' u (v.setNodeUpgradeStatus node state "" "") := by
  have hv : v.state ≠ some .upgradingNodes := by simp [h.state, hu]
  have hsame : (v.setNodeUpgradeStatus node state "" "").conditions = v.conditions ∧
      (v.setNodeUpgradeStatus node state "" "").state = v.state :=
    Upgrade.conditions_setNodeUpgradeStatus hstate hv
  refine ⟨hsame.1.trans h.conditions, hsame.2.trans h.state,
    h.framed.trans Upgrade.framed_setNodeUpgradeStatus, fun node' hne => ?_, fun hc => ?_,
    fun hf => ?_⟩
  · rw [Upgrade.nodeState_setNodeUpgradeStatus, if_neg hne]
    exact h.others node' hne
  · rw [Upgrade.nodeState_setNodeUpgradeStatus, if_pos rfl, hcomplete hc]
  · rw [Upgrade.nodeState_setNodeUpgradeStatus, if_pos rfl] at hf
    exact absurd (Option.some.inj hf) hstate

theorem follows_started (hu : u.state = some .preparingNodes) : Follows job.node false u
    (if job.active > 0 then u.setNodeUpgradeStatus job.node .imagesPreloading "" "" else u) := by
  split
  · exact (Follows.refl u).set hu (by decide) (by simp)
  · exact .refl u

/-- The upgrade has failed with the node. -/
structure Fails (u x : Upgrade) : Prop where
  completed : x.status .completed = some .conditionFalse
  state : x.state = some .failed
  prepared : x.status .nodesPrepared = u.status .nodesPrepared

theorem fails_setNodesUpgradedCondition {v : Upgrade} {reason message : String}
    (hprepared : v.status .nodesPrepared = u.status .nodesPrepared) :
    Fails u (v.setNodesUpgradedCondition .conditionFalse reason message) := by
  have hfailing : (v.setCondition .nodesUpgraded .conditionFalse reason message).Failing := by
    simp [Upgrade.Failing]
  rw [Upgrade.setNodesUpgradedCondition, Upgrade.setMarked,
    Upgrade.markComplete_of_failing hfailing]
  refine ⟨?_, rfl, ?_⟩
  · show ((v.setCondition .nodesUpgraded .conditionFalse reason message).setStatus .completed
      .conditionFalse).status .completed = _
    simp
  rw [Upgrade.status_finish_of_ne (by decide)]
  simpa using hprepared

theorem fails_setNodeUpgradeStatus {v : Upgrade} {reason message : String}
    (hprepared : v.status .nodesPrepared = u.status .nodesPrepared)
    (hv : v.nodeState node = some .failed → Fails u v) :
    Fails u (v.setNodeUpgradeStatus node .failed reason message) := by
  unfold Upgrade.setNodeUpgradeStatus
  dsimp only
  split
  · next hget => exact hv (by simp [Upgrade.nodeState, hget])
  · exact fails_setNodesUpgradedCondition hprepared

/-- What the conditions of a prepare job make of the Upgrade: without a failure only the status of
the node changes, and a failure is the end of the upgrade. -/
inductive Tracks (node : String) (u : Upgrade) : Bool → Bool → Upgrade → Prop
  | follows {complete : Bool} {x : Upgrade} (h : Follows node complete u x) :
    Tracks node u false complete x
  | fails {complete : Bool} {x : Upgrade} (h : Fails u x) : Tracks node u true complete x

theorem Tracks.condition {v : Upgrade} {failed complete : Bool}
    (h : Tracks node u failed complete v)
    (hu : u.state = some .preparingNodes) (hnode : u.nodeState node ≠ some .failed)
    (c : JobCondition) :
    Tracks node u
      (failed || c.type = .failed && c.status) (complete || c.type = .complete && c.status)
      (v.prepareCondition node c) := by
  unfold Upgrade.prepareCondition
  split
  · next hc =>
    have hfailed : (failed || decide (c.type = .failed) && c.status) = true := by simp [hc]
    rw [hfailed]
    cases h with
    | follows h =>
      exact .fails (fails_setNodeUpgradeStatus (by simp only [Upgrade.status, h.conditions])
        fun hf => absurd (h.failed hf) hnode)
    | fails h => exact .fails (fails_setNodeUpgradeStatus h.prepared fun _ => h)
  next hc =>
  have hfailed : (failed || decide (c.type = .failed) && c.status) = failed := by
    simpa using fun hf hs => absurd ⟨hf, hs⟩ hc
  rw [hfailed]
  split
  · cases h with
    | follows h => exact .follows (h.set hu (by decide) fun _ => rfl)
    | fails h =>
      have hstate : v.state ≠ some .upgradingNodes := by simp [h.state]
      obtain ⟨hconditions, hsame⟩ :
          (v.setNodeUpgradeStatus node .imagesPreloaded "" "").conditions = v.conditions ∧
            (v.setNodeUpgradeStatus node .imagesPreloaded "" "").state = v.state :=
        Upgrade.conditions_setNodeUpgradeStatus (by decide) hstate
      have hstatus := Upgrade.status_eq_of_conditions hconditions
      exact .fails ⟨hstatus ▸ h.completed, hsame.trans h.state, hstatus ▸ h.prepared⟩
  · next hcomplete =>
    have hsame : (complete || decide (c.type = .complete) && c.status) = complete := by
      simpa using fun hc hs => absurd ⟨hc, hs⟩ hcomplete
    rwa [hsame]

/-- **What a prepare job makes of the Upgrade.** -/
theorem tracks_followPrepareJob (hu : u.state = some .preparingNodes)
    (hnode : u.nodeState job.node ≠ some .failed) :
    Tracks job.node u (job.has .failed) (job.has .complete) (u.followPrepareJob job) := by
  have hfold : ∀ (conditions : List JobCondition) (failed complete : Bool) (v : Upgrade),
      Tracks job.node u failed complete v →
      Tracks job.node u (failed || conditions.any fun c => c.type = .failed && c.status)
        (complete || conditions.any fun c => c.type = .complete && c.status)
        (conditions.foldl (Upgrade.prepareCondition job.node) v) := by
    intro conditions
    induction conditions with
    | nil => exact fun failed complete v hv => by simpa using hv
    | cons c conditions ih =>
      intro failed complete v hv
      rw [List.any_cons, List.any_cons, ← Bool.or_assoc, ← Bool.or_assoc]
      exact ih _ _ _ (hv.condition hu hnode c)
  exact hfold job.conditions false false _ (.follows (follows_started hu))

/-! ### Reconciles -/

theorem run_edit_current {g : Upgrade → Option Upgrade} (hnow : env.version = w.upgrade.now) :
    ((env.edit g).run w).2 = w ∧
        (((env.edit g).run w).1.isOk = true → g w.upgrade.live = none) ∨
      ∃ x, g w.upgrade.live = some x ∧
        ((env.edit g).run w).2 = { w with upgrade := w.upgrade.push x } := by
  rw [Env.edit, run_getUpgrade, hnow, ← History.live]
  rcases hx : g w.upgrade.live with _ | x
  · exact .inl ⟨rfl, fun _ => rfl⟩
  rcases hfault : (env.fault (.updateUpgrade 0)).1 with _ | _ | _
  · simp [Env.writeUpgrade, Env.updateUpgrade, Env.request, hfault, request, run,
      Bind.bind, hnow, Pure.pure]
  · refine .inl ⟨?_, fun hok => ?_⟩
    · simp [Env.writeUpgrade, Env.updateUpgrade, Env.request, hfault, request, run,
        fail, Bind.bind]
    · simp [Env.writeUpgrade, Env.updateUpgrade, Env.request, hfault, request, run, fail, Bind.bind,
        Except.toBool] at hok
  · simp [Env.writeUpgrade, Env.updateUpgrade, Env.request, hfault, request, run,
      Bind.bind, hnow]

theorem Effects.live {F : Footprint} {P : Upgrade → Prop} (h : Effects F w w')
    (hedit : ∀ u x, P u → F.edit u x → P x) (hP : P w.upgrade.live) : P w'.upgrade.live := by
  induction h with
  | refl => exact hP
  | tail _ heffect ih =>
    cases heffect with
    | edit hx =>
      simp only [History.live_push]
      exact hedit _ _ ih hx
    | _ => exact ih

theorem Effects.prepareJob {F : Footprint} (h : Effects F w w')
    (hcreates : ∀ u job, F.creates u job → job.type ≠ .prepare) (hcleans : ¬ F.cleans) :
    w'.prepareJob = w.prepareJob := by
  induction h with
  | refl => rfl
  | tail _ heffect ih =>
    cases heffect with
    | createJob hu hjob => exact (prepareJob_createJob (hcreates _ _ hjob)).trans ih
    | cleanJobs hclean => exact absurd hclean hcleans
    | _ => exact ih

/-! ### What holds during the phase -/

/-- The conditions of an upgrade whose nodes are being prepared. -/
@[mk_iff] structure Upgrade.Preparing (u : Upgrade) : Prop where
  state : u.state = some .preparingNodes
  running : u.Running
  image : u.status .imageReady = some .conditionTrue
  repo : u.status .repoProvisioned = some .conditionTrue
  prepared : u.status .nodesPrepared ≠ none
  services : u.status .systemServicesUpgraded = none
  upgraded : u.status .nodesUpgraded = none

/-- What has been recorded comes from the jobs, as `ran` shows them. -/
structure Waiting (nodes : List String) (ran : String → (Job → Bool) → Bool)
    (handled : List String) (u : Upgrade) : Prop where
  preparing : u.Preparing
  allPreloaded : u.status .nodesPrepared = some .conditionTrue → ∀ node ∈ nodes, ran node Job.done
  statuses : ∀ node state, u.nodeState node = some state → node ∈ nodes ∧ state ≠ .failed
  jobs : ∀ node, ran node (fun _ => true) → node ∈ nodes
  handled : ∀ node ∈ handled, u.nodeState node = some .imagesPreloaded ∧ ran node Job.done

/-- The upgrade has left the phase with all images preloaded. -/
structure Left (nodes : List String) (u : Upgrade) : Prop where
  state : u.state ≠ some .preparingNodes
  completed : u.status .completed ≠ none
  prepared : u.status .nodesPrepared = some .conditionTrue
  services : u.status .systemServicesUpgraded ≠ some .conditionTrue
  images : ∀ node ∈ nodes, u.nodeState node = some .imagesPreloaded
  statuses : ∀ node state, u.nodeState node = some state → node ∈ nodes

/-- The upgrade has failed before the nodes were prepared. -/
structure Failed (u : Upgrade) : Prop where
  state : u.state ≠ some .preparingNodes
  completed : u.status .completed = some .conditionFalse
  prepared : u.status .nodesPrepared ≠ some .conditionTrue

/-- The invariant of the phase. -/
inductive PrepareInv (nodes : List String) (s : PrepareState) : Prop
  | waiting (h : Waiting nodes s.world.prepareJob s.handled s.world.upgrade.live)
  | left (h : Left nodes s.world.upgrade.live)
  | failed (h : Failed s.world.upgrade.live)
    (hjob : ∃ node ∈ nodes, s.world.prepareJob node (·.has .failed) = true)

theorem Upgrade.Preparing.of_eq (h : u.Preparing) (hconditions : x.conditions = u.conditions)
    (hstate : x.state = u.state) (hlog : x.logEnabled = u.logEnabled) : x.Preparing := by
  have hstatus := Upgrade.status_eq_of_conditions hconditions
  simpa only [Upgrade.preparing_iff, Upgrade.running_iff, hstatus, hstate, hlog] using h

section

variable {ran : String → (Job → Bool) → Bool} {handled : List String}

theorem Waiting.not_failed (h : Waiting nodes ran handled u) (node : String) :
    u.nodeState node ≠ some .failed := fun hstate => (h.statuses _ _ hstate).2 rfl

theorem Waiting.follow (h : Waiting nodes ran handled u) (hjob : job.has .failed = false)
    (hran : ∀ p, ran job.node p = p job) {extra : List String}
    (hextra : ∀ node ∈ extra, node = job.node ∧ job.done) :
    Waiting nodes ran (extra ++ handled) (u.followPrepareJob job) := by
  have hnode : job.node ∈ nodes := h.jobs _ (hran _)
  have hfollows : Follows job.node (job.has .complete) u (u.followPrepareJob job) := by
    have htracks := tracks_followPrepareJob h.preparing.state (h.not_failed job.node)
    rw [hjob] at htracks
    cases htracks with
    | follows h => exact h
  have hpreloaded : job.done → (u.followPrepareJob job).nodeState job.node =
      some .imagesPreloaded := by
    intro hdone
    refine hfollows.complete ?_
    simp only [Job.done, Bool.and_eq_true] at hdone
    exact hdone.1
  have hprepared : (u.followPrepareJob job).status .nodesPrepared = u.status .nodesPrepared := by
    simp only [Upgrade.status, hfollows.conditions]
  refine ⟨h.preparing.of_eq hfollows.conditions hfollows.state hfollows.framed.logEnabled, ?_,
    fun node state hstate => ?_, h.jobs, fun node hmem => ?_⟩
  · rw [hprepared]
    exact h.allPreloaded
  · by_cases heq : node = job.node
    · subst heq
      refine ⟨hnode, ?_⟩
      rintro rfl
      exact h.not_failed _ (hfollows.failed hstate)
    · exact h.statuses node state (hfollows.others node heq ▸ hstate)
  · rcases List.mem_append.1 hmem with hnew | hold
    · obtain ⟨rfl, hdone⟩ := hextra node hnew
      exact ⟨hpreloaded hdone, (hran _).trans hdone⟩
    · obtain ⟨hstate, hdone⟩ := h.handled node hold
      refine ⟨?_, hdone⟩
      by_cases heq : node = job.node
      · subst heq
        exact hpreloaded ((hran _).symm.trans hdone)
      · rw [hfollows.others node heq]
        exact hstate

theorem Waiting.fail (h : Waiting nodes ran handled u) (hjob : job.has .failed = true)
    (hran : ∀ p, ran job.node p = p job) : Failed (u.followPrepareJob job) := by
  have hnode : job.node ∈ nodes := h.jobs _ (hran _)
  have hfails : Fails u (u.followPrepareJob job) := by
    have htracks := tracks_followPrepareJob h.preparing.state (h.not_failed job.node)
    rw [hjob] at htracks
    cases htracks with
    | fails h => exact h
  refine ⟨by simp [hfails.state], hfails.completed, fun hprepared => ?_⟩
  have hdone := h.allPreloaded (hfails.prepared.symm.trans hprepared) _ hnode
  simp [hran, Job.done, hjob] at hdone

theorem Waiting.plan (h : Waiting nodes ran handled u) (hall : ∀ node ∈ nodes, ran node Job.done)
    (hx : u.planCompleted .node = some x) : Waiting nodes ran handled x := by
  have hp := h.preparing
  have hmark : (u.setCondition .nodesPrepared .conditionTrue "" "").markComplete =
      u.setCondition .nodesPrepared .conditionTrue "" "" := by
    refine Upgrade.markComplete_of_open ?_ ?_
    · simp [Upgrade.Failing, hp.image, hp.repo, hp.services, hp.upgraded]
    · simp [Upgrade.Succeeding, hp.services]
  simp only [Upgrade.planCompleted] at hx
  split at hx
  · simp at hx
  rw [Upgrade.setNodesPreparedCondition, Upgrade.setMarked, hmark] at hx
  have hx := Option.some.inj hx
  subst hx
  refine ⟨⟨hp.state, ⟨?_, ?_⟩, ?_, ?_, ?_, ?_, ?_⟩, fun _ => hall, h.statuses, h.jobs, h.handled⟩
  · simpa using hp.running.completed
  · exact hp.running.log
  · simpa using hp.image
  · simpa using hp.repo
  · simp
  · simpa using hp.services
  · simpa using hp.upgraded

theorem Waiting.jobsChanged {ran' : String → (Job → Bool) → Bool}
    (h : Waiting nodes ran handled u) (hdone : ∀ node, ran node Job.done → ran' node Job.done)
    (hjobs : ∀ node, ran' node (fun _ => true) → node ∈ nodes) : Waiting nodes ran' handled u :=
  ⟨h.preparing, fun hprepared node hnode => hdone node (h.allPreloaded hprepared node hnode),
    h.statuses, hjobs,
    fun node hnode => ⟨(h.handled node hnode).1, hdone node (h.handled node hnode).2⟩⟩

end

/-! ### The upgrade controller -/

/-- While the nodes are prepared, the upgrade controller waits for the plan. -/
theorem run_upgradeHandler_preparing (h : (w.upgrade.get env.version).Preparing) :
    (upgradeHandler c env f).run w =
      (if (w.upgrade.get env.version).latest = true ∧
          (w.upgrade.get env.version).status .nodesPrepared = some .conditionTrue then
        upgradeSystemServices c env (w.upgrade.get env.version)
      else pure ()).run w := by
  rw [upgradeHandler, run_getUpgrade]
  generalize w.upgrade.get env.version = u at h ⊢
  have hcompleted := h.running.completed
  have hlog := h.running.log
  by_cases hlatest : u.latest
  · simp [hcompleted, hlog, h.image, h.repo, h.prepared, h.services, hlatest]
  · simp [hcompleted, hlog, h.image, hlatest]

/-- The footprint of `upgradeSystemServices`. -/
def servicesFootprint : Footprint where
  edit u x := (∃ reason, x = u.fail reason "") ∨
    x = { u with state := some .upgradingSystemServices }.setHelmChartUpgradeStatus
      .conditionUnknown "" ""
  creates _ job := job.type = .applyManifests
  plans _ := False
  cleans := False
  acknowledges := False
  settings := False

theorem upgradeSystemServices_within_services :
    Within servicesFootprint env.version u (upgradeSystemServices c env u) := by
  unfold upgradeSystemServices
  split
  · exact within_writeUpgrade (.inl ⟨_, rfl⟩)
  · exact within_ensureJob_bind rfl (.inr rfl)

/-- The upgrade goes on from stage to stage, with the nodes as they are. -/
structure Passes (u x : Upgrade) : Prop where
  completed : u.status .completed ≠ none → x.status .completed ≠ none
  prepared : x.status .nodesPrepared = u.status .nodesPrepared
  services : u.status .systemServicesUpgraded ≠ some .conditionTrue →
    x.status .systemServicesUpgraded ≠ some .conditionTrue
  nodeStatuses : x.nodeStatuses = u.nodeStatuses
  /-- The nodes are not prepared again. -/
  state : u.state ≠ some .preparingNodes → x.state ≠ some .preparingNodes

theorem Passes.of_eq (hconditions : x.conditions = u.conditions)
    (hstatuses : x.nodeStatuses = u.nodeStatuses)
    (hstate : u.state ≠ some .preparingNodes → x.state ≠ some .preparingNodes) : Passes u x := by
  have hstatus := Upgrade.status_eq_of_conditions hconditions
  exact ⟨hstatus ▸ id, hstatus ▸ rfl, hstatus ▸ id, hstatuses, hstate⟩

theorem Passes.trans {v : Upgrade} (h : Passes u v) (h' : Passes v x) : Passes u x :=
  ⟨h'.completed ∘ h.completed, h'.prepared.trans h.prepared, h'.services ∘ h.services,
    h'.nodeStatuses.trans h.nodeStatuses, h'.state ∘ h.state⟩

theorem Passes.nodeState (h : Passes u x) : x.nodeState node = u.nodeState node := by
  simp only [Upgrade.nodeState, h.nodeStatuses]

theorem passes_fail {reason message : String} : Passes u (u.fail reason message) := by
  exact ⟨by simp, by simp, by simp, rfl, by simp⟩

theorem passes_createUnknownIfNotExists {t : ConditionType} (ht : t ≠ .nodesPrepared) :
    Passes u (u.createUnknownIfNotExists t) := by
  refine ⟨?_, ?_, ?_, Upgrade.nodeStatuses_createUnknownIfNotExists, by simp⟩
  · rw [Upgrade.status_createUnknownIfNotExists]
    grind
  · rw [Upgrade.status_createUnknownIfNotExists, if_neg ht.symm]
  rw [Upgrade.status_createUnknownIfNotExists]
  split
  · next heq =>
    subst heq
    rcases u.status .systemServicesUpgraded with _ | s
    · simp
    · simp
  · exact id

theorem passes_finish {s : ConditionStatus} {state : State} (hs : s ≠ .conditionUnknown)
    (hstate : state ≠ .preparingNodes) : Passes u (u.finish s state) :=
  ⟨fun _ => (Upgrade.ended_finish hs).1, Upgrade.status_finish_of_ne (by decide), id, rfl,
    fun _ => by simpa [Upgrade.finish] using hstate⟩

theorem passes_setMarked {t : ConditionType} {status : ConditionStatus} {reason message : String}
    (hcompleted : t ≠ .completed) (hprepared : t ≠ .nodesPrepared)
    (hstatus : status ≠ .conditionTrue) : Passes u (u.setMarked t status reason message) := by
  have hset : Passes u (u.setCondition t status reason message) := by
    refine ⟨?_, ?_, ?_, rfl, id⟩
    · rw [Upgrade.status_setCondition, if_neg hcompleted.symm]
      exact id
    · rw [Upgrade.status_setCondition, if_neg hprepared.symm]
    · rw [Upgrade.status_setCondition]
      split
      · exact fun _ => by simpa using hstatus
      · exact id
  refine hset.trans ?_
  rw [Upgrade.setMarked]
  rcases Upgrade.markComplete_cases (u.setCondition t status reason message) with
    ⟨-, heq⟩ | ⟨-, heq⟩ | ⟨-, -, heq⟩
  · exact heq ▸ passes_finish (by decide) (by decide)
  · exact heq ▸ passes_finish (by decide) (by decide)
  · exact heq.symm ▸ .of_eq rfl rfl id

theorem passes_systemServices :
    let x := { u with state := some .upgradingSystemServices }.setHelmChartUpgradeStatus
      .conditionUnknown "" ""
    Passes u x ∧ x.state ≠ some .preparingNodes := by
  have hstate : Passes u { u with state := some .upgradingSystemServices } :=
    .of_eq rfl rfl (by simp)
  have hset : Passes { u with state := some .upgradingSystemServices }
      ({ u with state := some .upgradingSystemServices }.setHelmChartUpgradeStatus
        .conditionUnknown "" "") := by
    unfold Upgrade.setHelmChartUpgradeStatus
    split
    · exact .of_eq rfl rfl id
    · exact passes_setMarked (by decide) (by decide) (by decide)
  exact ⟨hstate.trans hset, hset.state (by simp)⟩

theorem passes_logTimeout {reason message reason' message' : String} :
    Passes u ((u.setLogReadyCondition .conditionFalse reason message).fail reason' message') :=
  (passes_setMarked (by decide) (by decide) (by decide)).trans passes_fail

theorem passes_stageStep (h : Left nodes u) (hx : StageStep f u x) : Passes u x := by
  have hnotNone : u.status .nodesPrepared ≠ none := by simp [h.prepared]
  cases hx with
  | initWithoutLog hnone | init hnone => exact absurd hnone h.completed
  | logTimeout => exact passes_logTimeout
  | @fail _ singleNode _ repoInfo =>
    have hfound : Passes u { u with singleNode, repoInfo } := .of_eq rfl rfl id
    exact hfound.trans passes_fail
  | @createImage _ imageID =>
    have himage : Passes u { u with imageID } := .of_eq rfl rfl id
    exact himage.trans (passes_createUnknownIfNotExists (by decide))
  | startRepo =>
    have hstate : Passes u { u with state := some .preparingRepo } := .of_eq rfl rfl (by simp)
    exact hstate.trans (passes_createUnknownIfNotExists (by decide))
  | skipPreload _ _ hnone | preparePlan _ _ hnone => exact absurd hnone hnotNone
  | systemServices => exact passes_systemServices.1
  | singleNode _ hservices | upgradingNodes _ hservices => exact absurd hservices h.services

theorem Left.pass (h : Left nodes u) (hx : Passes u x) : Left nodes x := by
  refine ⟨hx.state h.state, hx.completed h.completed, hx.prepared.trans h.prepared,
    hx.services h.services,
    fun node hmem => hx.nodeState.trans (h.images node hmem), fun node state hs => ?_⟩
  exact h.statuses node state (hx.nodeState.symm.trans hs)

theorem Waiting.leave {ran : String → (Job → Bool) → Bool} {handled : List String}
    (h : Waiting nodes ran handled u) (hprepared : u.status .nodesPrepared = some .conditionTrue)
    (hall : ∀ node ∈ nodes, node ∈ handled) (hx : Passes u x)
    (hstate : x.state ≠ some .preparingNodes) : Left nodes x := by
  have hp := h.preparing
  refine ⟨hstate, hx.completed (by simp [hp.running.completed]), hx.prepared.trans hprepared,
    hx.services (by simp [hp.services]), fun node hmem => ?_, fun node state hs => ?_⟩
  · exact hx.nodeState.trans (h.handled node (hall node hmem)).1
  · exact (h.statuses node state (hx.nodeState.symm.trans hs)).1

theorem Failed.stageStep (h : Failed u) (hx : StageStep f u x) :
    Failed x := by
  have hrunning : ¬ u.Running := fun hu => by simpa [h.completed] using hu.completed
  have hnone : u.status .completed ≠ none := by simp [h.completed]
  cases hx with
  | initWithoutLog hu | init hu => exact absurd hu hnone
  | logTimeout =>
    refine ⟨passes_logTimeout.state h.state, Upgrade.status_setCondition.trans (if_pos rfl), ?_⟩
    exact fun hx => h.prepared (passes_logTimeout.prepared.symm.trans hx)
  | _ => exact absurd ‹u.Running› hrunning

/-! ### Runs -/

section

variable {handled : List String}

theorem at_live (hnow : env.version = w.upgrade.now) :
    w.upgrade.At env.version w.upgrade.live :=
  ⟨hnow.le, by rw [hnow, History.live]⟩

theorem Waiting.upgrade (h : Waiting nodes w.prepareJob handled w.upgrade.live)
    (hnow : env.version = w.upgrade.now)
    (hfirst : w.upgrade.live.status .nodesPrepared = some .conditionTrue →
      ∀ node ∈ nodes, node ∈ handled) :
    PrepareInv nodes ⟨((upgradeHandler c env f).run w).2, handled⟩ := by
  have hreads := at_live hnow
  rw [run_upgradeHandler_preparing (hreads.2.symm ▸ h.preparing), hreads.2]
  split
  · next hready =>
    have heffects : Effects servicesFootprint w
        ((upgradeSystemServices c env w.upgrade.live).run w).2 :=
      upgradeSystemServices_within_services w w ⟨ReflTransGen.refl, hreads⟩
    generalize ((upgradeSystemServices c env w.upgrade.live).run w).2 = w' at heffects
    have hjobs : w'.prepareJob = w.prepareJob := by
      refine heffects.prepareJob (fun _ job htype => ?_) id
      simp [show job.type = .applyManifests from htype]
    have hphase : Waiting nodes w.prepareJob handled w'.upgrade.live ∧
        w'.upgrade.live.status .nodesPrepared = some .conditionTrue ∨
        Left nodes w'.upgrade.live := by
      refine heffects.live (P := fun u => Waiting nodes w.prepareJob handled u ∧
        u.status .nodesPrepared = some .conditionTrue ∨ Left nodes u) (fun u x hu hx => .inr ?_)
        (.inl ⟨h, hready.2⟩)
      have hpass : Passes u x ∧ x.state ≠ some .preparingNodes := by
        rcases hx with ⟨reason, rfl⟩ | rfl
        · exact ⟨passes_fail, by simp⟩
        · exact passes_systemServices
      rcases hu with ⟨hwaiting, hprepared⟩ | hleft
      · exact hwaiting.leave hprepared (hfirst hready.2) hpass.1 hpass.2
      · exact hleft.pass hpass.1
    rcases hphase with ⟨hwaiting, -⟩ | hleft
    · exact .waiting (hjobs.symm ▸ hwaiting)
    · exact .left hleft
  · exact .waiting h

theorem upgradeHandler_live {P : Upgrade → Prop}
    (hnow : env.version = w.upgrade.now) (hstage : ∀ u x, P u → StageStep f u x → P x)
    (hcleanup : ∀ u annotations cleanup, P u → P { u with annotations, cleanup })
    (hnodes : ∀ u, P u → u.Running → u.status .systemServicesUpgraded ≠ some .conditionTrue)
    (h : P w.upgrade.live) :
    P ((upgradeHandler c env f).run w).2.upgrade.live ∧
      (w.upgrade.live.status .completed ≠ some .conditionTrue →
        ((upgradeHandler c env f).run w).2.prepareJob = w.prepareJob) := by
  have hreads := at_live hnow
  have hreconciles := upgradeHandler_reconciles (c := c) (f := f) hnow.le
  rw [hreads.2] at hreconciles
  generalize (upgradeHandler c env f).run w = result at hreconciles
  cases hreconciles with
  | stage heffects =>
    refine ⟨heffects.live hstage h, fun _ => heffects.prepareJob (fun _ job htype => ?_) id⟩
    rcases htype with htype | ⟨htype, -⟩
    · simp [htype]
    · simp [htype]
  | cleanup hended =>
    have heffects := cleanupUpgrade_within (f := f)
      (F := { cleanupFootprint with
        cleans := w.upgrade.live.status .completed = some .conditionTrue })
      hended ⟨id, True.intro, id⟩ w w ⟨ReflTransGen.refl, hreads⟩
    refine ⟨heffects.live (fun u x hu hx => ?_) h, heffects.prepareJob fun _ _ => False.elim⟩
    obtain ⟨-, annotations, cleanup⟩ := hx
    exact hcleanup u annotations cleanup hu
  | nodes hrunning hservices => exact absurd hservices (hnodes _ h hrunning)

theorem Left.upgrade (h : Left nodes w.upgrade.live)
    (hnow : env.version = w.upgrade.now) :
    Left nodes ((upgradeHandler c env f).run w).2.upgrade.live := by
  exact (upgradeHandler_live hnow (fun u x hu hx => hu.pass (passes_stageStep hu hx))
    (fun u _ _ hu => hu.pass (.of_eq rfl rfl id)) (fun u hu _ => hu.services) h).1

theorem Failed.upgrade (h : Failed w.upgrade.live)
    (hnow : env.version = w.upgrade.now) :
    Failed ((upgradeHandler c env f).run w).2.upgrade.live ∧
      ((upgradeHandler c env f).run w).2.prepareJob = w.prepareJob := by
  refine (upgradeHandler_live hnow (fun u x hu hx => hu.stageStep hx)
    (fun u _ _ hu => ⟨hu.state, hu.completed, hu.prepared⟩) (fun u hu hrunning => ?_) h).imp_right
      fun hjobs => hjobs (by simp [h.completed])
  exact absurd hrunning.completed (by simp [hu.completed])

theorem PrepareInv.plan {allAtLatestHash : Except Err Bool} (h : PrepareInv nodes ⟨w, handled⟩)
    (henv : env.version ≤ w.upgrade.now)
    (hall : allAtLatestHash = .ok true → ∀ node ∈ nodes, w.preloaded node = true) :
    PrepareInv nodes ⟨((planEvent env .node allAtLatestHash).run w).2, handled⟩ := by
  simp only [run, planEvent]
  split
  · exact h
  rcases allAtLatestHash with e | _ | _
  · exact h
  · exact h
  have heffects : Effects (.edits fun u x => u.planCompleted .node = some x) w
      ((env.edit (Upgrade.planCompleted .node)).run w).2 := edit_effects henv
  have hrun : (planHandler env .node (.ok true) w).2 =
      ((env.edit (Upgrade.planCompleted .node)).run w).2 := rfl
  rw [hrun]
  generalize ((env.edit (Upgrade.planCompleted .node)).run w).2 = w' at heffects
  have hjobs : w'.prepareJob = w.prepareJob := heffects.prepareJob (fun _ _ => False.elim) id
  cases h with
  | waiting h =>
    exact .waiting (hjobs.symm ▸ heffects.live (fun u x hu hx => hu.plan (hall rfl) hx) h)
  | left h =>
    refine .left (heffects.live (fun u x hu hx => ?_) h)
    have hnone : u.planCompleted .node = none := if_pos hu.prepared
    simp [Footprint.edits, hnone] at hx
  | failed h hjob =>
    -- The job that has failed is not done.
    obtain ⟨node, hnode, hfailed⟩ := hjob
    have hdone := hall rfl node hnode
    obtain ⟨job, hget, hjob⟩ := (Option.any_eq_true _ _).1 hfailed
    simp [World.preloaded, World.prepareJob, hget, Job.done, hjob] at hdone

theorem PrepareInv.handleJob {f : Findings} (h : PrepareInv nodes ⟨w, handled⟩)
    (hnow : env.version = w.upgrade.now) (htype : job.type = .prepare)
    (hget : w.jobs.live.get job.key = some job) {extra : List String}
    (hextra : ∀ node ∈ extra, node = job.node ∧ job.done ∧
      ((jobHandler c env f job).run w).1.isOk = true) :
    PrepareInv nodes ⟨((jobHandler c env f job).run w).2, extra ++ handled⟩ := by
  have hran := fun p => prepareJob_of_get (p := p) htype hget
  have hrun : jobHandler c env f job = env.edit (Upgrade.planJobChanged job) := by
    simp only [jobHandler, htype]
  rw [hrun] at hextra ⊢
  have hidle (hstate : w.upgrade.live.state ≠ some .preparingNodes) :
      ((env.edit (Upgrade.planJobChanged job)).run w).2 = w := by
    have hnone : w.upgrade.live.planJobChanged job = none := if_pos hstate
    rcases run_edit_current hnow with ⟨hw, -⟩ | ⟨x, hx, -⟩
    · exact hw
    · simp [hnone] at hx
  cases h with
  | waiting h =>
    have hchanged : w.upgrade.live.planJobChanged job =
        w.upgrade.live.changed (w.upgrade.live.followPrepareJob job) :=
      if_neg (not_not.2 h.preparing.state)
    have hfollow : ∀ v, w.upgrade.live.followPrepareJob job = v →
        PrepareInv nodes ⟨{ w with upgrade := w.upgrade.push v }, extra ++ handled⟩ ∧
          (v = w.upgrade.live → PrepareInv nodes ⟨w, extra ++ handled⟩) := by
      rintro v rfl
      rcases hfailed : job.has .failed with _ | _
      · have hwaiting := h.follow hfailed hran fun node hmem =>
          ⟨(hextra node hmem).1, (hextra node hmem).2.1⟩
        refine ⟨.waiting ?_, fun heq => .waiting (heq ▸ hwaiting)⟩
        rw [History.live_push]
        exact hwaiting
      · have hfails := h.fail hfailed hran
        have hjob : ∃ node ∈ nodes, w.prepareJob node (·.has .failed) = true :=
          ⟨job.node, h.jobs _ (hran _), (hran _).trans hfailed⟩
        refine ⟨.failed ?_ hjob, fun heq => .failed (heq ▸ hfails) hjob⟩
        simpa using hfails
    rcases run_edit_current hnow with
      ⟨hw, hok⟩ | ⟨x, hx, hw⟩
    · rw [hw]
      rcases extra with _ | ⟨node, extra⟩
      · exact .waiting h
      · have hnone := hok (hextra node (List.mem_cons_self ..)).2.2
        rw [hchanged] at hnone
        have hsame : w.upgrade.live.followPrepareJob job = w.upgrade.live := by
          unfold Upgrade.changed at hnone
          split at hnone
          · assumption
          · simp at hnone
        exact (hfollow _ hsame).2 rfl
    · rw [hw]
      exact (hfollow x (Upgrade.eq_of_changed (hchanged ▸ hx))).1
  | left h =>
    rw [hidle h.state]
    exact .left h
  | failed h hjob =>
    rw [hidle h.state]
    exact .failed h hjob

theorem PrepareInv.setJobs (h : PrepareInv nodes ⟨w, handled⟩)
    (hold : ∀ old, w.jobs.live.get job.key = some old → !old.finished)
    (hnode : Waiting nodes w.prepareJob handled w.upgrade.live → job.node ∈ nodes) :
    PrepareInv nodes ⟨w.setJobs (w.jobs.live.put job), handled⟩ := by
  cases h with
  | waiting h =>
    refine .waiting (h.jobsChanged
      (fun node => prepareJob_setJobs finished_of_done hold) fun node hran => ?_)
    by_cases heq : (⟨.prepare, node⟩ : JobKey) = job.key
    · have hjob : node = job.node := congrArg JobKey.node heq
      exact hjob ▸ hnode h
    · refine h.jobs node ?_
      simpa [World.prepareJob, World.setJobs, Store.get_put_of_ne _ heq] using hran
  | left h => exact .left h
  | failed h hjob =>
    obtain ⟨node, hmem, hfailed⟩ := hjob
    exact .failed h ⟨node, hmem, prepareJob_setJobs finished_of_failed hold hfailed⟩

end

/-- **A step of the phase.** -/
theorem PrepareInv.next {s s' : PrepareState} {ev : Event} (h : PrepareInv nodes s)
    (hphase : PreparePhase nodes s.world ev) (hfirst : HandledFirst nodes s ev)
    (hnext : (prepareMachine c).next s ev = some s') : PrepareInv nodes s' := by
  obtain ⟨w', hw', rfl⟩ := Option.map_eq_some_iff.1 hnext
  rcases next_cases hw' with ⟨env, m, hreconcile, henv, rfl⟩ | ⟨hreconcile, hchange⟩
  · cases ev with
    | upgrade env f =>
      cases hreconcile
      cases h with
      | waiting h => exact h.upgrade hphase fun hprepared => hfirst hprepared h.preparing.state
      | left h => exact .left (h.upgrade hphase)
      | failed h hjob =>
        obtain ⟨hfailed, hjobs⟩ := h.upgrade hphase
        exact .failed hfailed (hjobs.symm ▸ hjob)
    | plan env component allAtLatestHash =>
      cases hreconcile
      obtain ⟨rfl, hall⟩ := hphase
      exact h.plan henv.1 hall
    | job env f key =>
      cases hreconcile
      obtain ⟨hnow, hjobs, htype⟩ := hphase
      have hkey : key = ⟨.prepare, key.node⟩ := by rw [← htype]
      rcases hget : s.world.jobs.live.get key with _ | job
      · have hevent : (jobEvent c env f key).run s.world = (.ok (), s.world) := by
          simp only [run, jobEvent, hjobs]
          rw [← History.live, hget]
        have hnone : s.handles c (.job env f key) = none := by
          simp [PrepareState.handles, World.preloaded, World.prepareJob, ← hkey, hget]
        rw [hevent, hnone]
        exact h
      · have hjobKey : job.key = key := Store.key_of_get hget
        have hevent : (jobEvent c env f key).run s.world =
            (jobHandler c env f job).run s.world := by
          simp only [run, jobEvent, hjobs]
          rw [← History.live, hget]
        have hnode : key.node = job.node := by rw [← hjobKey, Job.key]
        have hdone : s.world.preloaded key.node = job.done := by
          simp [World.preloaded, World.prepareJob, ← hkey, hget]
        rw [hevent]
        refine PrepareInv.handleJob h hnow ?_ (hjobKey.symm ▸ hget) fun node hmem => ?_
        · rw [← htype, ← hjobKey, Job.key]
        · simp only [PrepareState.handles, Option.mem_toList] at hmem
          split at hmem
          · next hhandled =>
            rw [hdone, hevent] at hhandled
            exact ⟨(Option.some.inj hmem).symm.trans hnode, hhandled.1, hhandled.2⟩
          · simp at hmem
    | _ => first
      | exact False.elim hphase
      | simp [Upgrades.reconcile] at hreconcile
  · cases ev with
    | jobChanged job =>
      obtain ⟨hany, rfl⟩ := Machine.guarded_eq_some.1 hchange
      obtain ⟨old, hold, hrunning⟩ := (Option.any_eq_true _ _).1 hany
      refine PrepareInv.setJobs h (fun old' hold' => ?_) fun hwaiting => ?_
      · rw [hold] at hold'
        exact Option.some.inj hold' ▸ hrunning
      · refine hwaiting.jobs job.node ?_
        rw [prepareJob_of_get hphase hold]
    | prepareJob node =>
      obtain ⟨-, rfl⟩ := Machine.guarded_eq_some.1 hchange
      refine PrepareInv.setJobs h (fun old hold => ?_) fun _ => hphase.1
      have hnone : s.world.jobs.live.get (Job.new .prepare node).key = none := hphase.2
      simp [hnone] at hold
    | _ => first
      | exact False.elim hphase
      | simp [Upgrades.reconcile] at hreconcile

/-- **The images of all nodes are preloaded.**  In every run in which the upgrade goes on to the
system services after the job events of all nodes, an upgrade that has left the phase after the
nodes were prepared has recorded the images of all its nodes, and no node keeps another one from
being drained. -/
theorem nodes_preloaded {s₀ s : PrepareState} {evs : List Event}
    (hstart : Waiting nodes s₀.world.prepareJob s₀.handled s₀.world.upgrade.live)
    (hsafe : (prepareMachine c).Along
      (fun s ev => PreparePhase nodes s.world ev ∧ HandledFirst nodes s ev) s₀ evs)
    (hrun : (prepareMachine c).run s₀ evs = some s)
    (hprepared : s.world.upgrade.live.status .nodesPrepared = some .conditionTrue)
    (hleft : s.world.upgrade.live.state ≠ some .preparingNodes) :
    (∀ node ∈ nodes, s.world.upgrade.live.nodeState node = some .imagesPreloaded) ∧
      ∀ node, s.world.upgrade.live.checkEligibleToDrain node = .ok () := by
  have hinv : PrepareInv nodes s := Machine.run_invariant
    (fun _ _ _ h hsafe hnext => h.next hsafe.1 hsafe.2 hnext) (.waiting hstart) hsafe hrun
  cases hinv with
  | waiting h => exact absurd h.preparing.state hleft
  | left h =>
    refine ⟨h.images, fun node => ?_⟩
    have hnone : s.world.upgrade.live.nodeStatuses.objs.find? (fun status =>
        status.node ≠ node && status.state ≠ .succeeded && status.state ≠ .imagesPreloaded) =
        none := by
      rw [List.find?_eq_none]
      intro status hstatus
      have hstate : s.world.upgrade.live.nodeState status.node = some status.state := by
        rw [Upgrade.nodeState, Store.get_of_mem hstatus, Option.map_some]
      have himages := h.images _ (h.statuses _ _ hstate)
      rw [hstate] at himages
      simp [Option.some.inj himages]
    simp only [Upgrade.checkEligibleToDrain, hnone]
  | failed h => exact absurd hprepared h.prepared

end

namespace PreloadSample

open Sample

def condition (status : ConditionStatus) : Option Condition := some ⟨status, "", ""⟩

/-- The prepare plan has been created. -/
def preparing : Upgrade := { upgrade with
  logEnabled := false
  state := some .preparingNodes
  latest := true
  conditions := fun
    | .completed => condition .conditionUnknown
    | .imageReady => condition .conditionTrue
    | .repoProvisioned => condition .conditionTrue
    | .nodesPrepared => condition .conditionUnknown
    | _ => none }

def start : PrepareState := ⟨{ world preparing with preparePlan := true }, []⟩

/-- The job runs. -/
def active : Job := ⟨.prepare, "node-0", 1, 0, []⟩

/-- The job is done. -/
def complete : Job := ⟨.prepare, "node-0", 0, 1, [⟨.complete, true, "", ""⟩]⟩

def findings : Findings := ⟨.empty, false, "", .ok []⟩

/-- The prepare job of the node starts, its start is handled, and it is complete. -/
def jobRuns : List Event :=
  [.prepareJob "node-0", .jobChanged active, .job (answering 0 2 0) findings active.key,
    .jobChanged complete]

/-- The end of the job is handled before the plan. -/
def inTime : List Event :=
  jobRuns ++ [.job (answering 1 3 0) findings complete.key,
    .plan (answering 2 3 0) .node (.ok true),
    .upgrade (answering 3 3 0) upgradeFindings]

/-- The plan and the upgrade are handled before the end of the job. -/
def tooLate : List Event :=
  jobRuns ++ [.plan (answering 1 3 0) .node (.ok true), .upgrade (answering 2 3 0) upgradeFindings]

/-- The label, the condition and the state of the node. -/
def summary (w : World) : Option State × Option ConditionStatus × Option NodeState :=
  (w.upgrade.live.state, w.upgrade.live.status .nodesPrepared, w.upgrade.live.nodeState "node-0")

theorem waiting_start :
    Waiting ["node-0"] start.world.prepareJob start.handled start.world.upgrade.live := by
  refine ⟨⟨rfl, ⟨rfl, by decide⟩, rfl, rfl, by decide, rfl, rfl⟩, fun h => ?_, fun _ _ h => ?_,
    fun _ h => ?_, fun _ h => ?_⟩
  · exact absurd h (by decide)
  · simp [start, world, preparing, upgrade, History.live, History.init, Upgrade.nodeState] at h
  · simp [start, world, History.live, History.init, World.prepareJob] at h
  · simp [start] at h

end PreloadSample

open Sample PreloadSample in
/-- The job event is handled first, and the node can be drained. -/
theorem nodes_preloaded_sample :
    ∃ s, (prepareMachine cluster).run start inTime = some s ∧
      summary s.world =
        (some .upgradingSystemServices, some .conditionTrue, some .imagesPreloaded) ∧
      (∀ node ∈ ["node-0"], s.world.upgrade.live.nodeState node = some .imagesPreloaded) ∧
      ∀ node, s.world.upgrade.live.checkEligibleToDrain node = .ok () := by
  have hsafe : (prepareMachine cluster).Along (fun s ev =>
      PreparePhase ["node-0"] s.world ev ∧ HandledFirst ["node-0"] s ev) start inTime := by
    decide
  exact ⟨_, Machine.run_get (by decide), by decide, nodes_preloaded waiting_start
    hsafe (Machine.run_get _) (by decide) (by decide)⟩

open Sample PreloadSample in
/-- **A node that stays in "Images preloading"**: the plan and the upgrade are handled before its
last event, which then changes nothing. -/
theorem late_job_leaves_node_preloading :
    Waiting ["node-0"] start.world.prepareJob start.handled start.world.upgrade.live ∧
    (prepareMachine cluster).Along (fun s ev => PreparePhase ["node-0"] s.world ev) start tooLate ∧
    ∃ s, (prepareMachine cluster).run start tooLate = some s ∧
      let late := (jobEvent cluster (answering 3 4 0) findings complete.key).run s.world
      late.1 = .ok () ∧
      summary late.2 =
        (some .upgradingSystemServices, some .conditionTrue, some .imagesPreloading) ∧
      late.2.upgrade.live.checkEligibleToDrain "node-1" ≠ .ok () := by
  refine ⟨waiting_start, by decide, ?_⟩
  decide

end Upgrades

end Harvester
