import Harvester.Control.Machine
import Harvester.Node.CpuManager

/-!
# Runs of the CPU manager controller

Handlers of nodes and jobs that read some version of each, with every request refused or its answer
lost, among updates of nodes that the webhook admits and jobs that end, are deleted and go.

`status_of_latest`: the annotation of a node belongs to the most recent request, as long as the
events of a job that has ended are handled before the next request of its node.  Otherwise such an
event overwrites it (`result_overwrites_request`).

`Effect` lists what a step can do, for this module and the one about management nodes.
-/

namespace Harvester

open Control Action

namespace CpuManager

/-! ### Steps -/

/-- What happens to nodes and jobs. -/
inductive Event where
  /-- A version of a node and a version of the jobs are read. -/
  | onNodeChanged (name : String) (number : Nat) (jobs : Nat) (env : Env)
  /-- A version of a job and a version of its node are read. -/
  | onJobChanged (jobs : Nat) (jobName : String) (number : Nat) (env : Env)
  /-- A user updates a node. -/
  | update (node : Node) (caches : Caches)
  | finishJob (name : String) (failed : Bool)
  | deleteJob (name : String)
  /-- A job that has ended or is being deleted goes. -/
  | removeJob (name : String)

/-- A version of a node, for a handler that asks the cache. -/
def World.nodeCache (w : World) (number : Nat) (name : String) : Except Err Version :=
  match w.nodes.get name with
  | none => .error (.notFound ⟨"", name⟩)
  | some entry =>
    if number ≤ entry.versions.now then .ok (entry.version number)
    else .error (.notFound ⟨"", name⟩)

/-- The next request of a node. -/
def Entry.nextRequest (entry : Entry) (node : Node) : Request :=
  ⟨entry.latest.number + 1, node.updateStatus⟩

/-- An update of a node; it is a request when it changes the annotation. -/
def Entry.updated (entry : Entry) (node : Node) : Entry :=
  if node.updateStatus = entry.node.updateStatus then
    { entry with versions := entry.versions.push ⟨node, entry.versions.live.request⟩ }
  else
    { entry with
      versions := entry.versions.push ⟨node, entry.nextRequest node⟩
      latest := entry.nextRequest node }

/-- The jobs after a change of one of them. -/
def World.withJob (w : World) (job : Job) : World :=
  { w with jobs := w.jobs.push (w.jobs.live.put job) }

/-- One step. -/
def World.next (w : World) : Event → Option World
  | .onNodeChanged name number jobs env => do
    let entry ← w.nodes.get name
    guard (number ≤ entry.versions.now ∧ jobs ≤ w.jobs.now)
    pure ((onNodeChanged env (.ok (w.jobs.get jobs).objs) (entry.version number)).run w).2
  | .onJobChanged jobs jobName number env => do
    guard (jobs ≤ w.jobs.now)
    let job ← (w.jobs.get jobs).get jobName
    pure ((onJobChanged env (w.nodeCache number) job).run w).2
  | .update node caches => do
    let entry ← w.nodes.get node.name
    guard (validateUpdate caches node = .ok ())
    pure { w with nodes := w.nodes.put (entry.updated node) }
  | .finishJob name failed => do
    let job ← w.jobs.live.get name
    guard job.running
    pure (w.withJob { job with complete := !failed, failed })
  | .deleteJob name => do
    let job ← w.jobs.live.get name
    pure (w.withJob { job with deleting := true })
  | .removeJob name => do
    let job ← w.jobs.live.get name
    guard (job.running = false ∨ job.deleting)
    pure { w with jobs := w.jobs.push (w.jobs.live.delete name) }

/-- The system. -/
def machine : Machine World Event := ⟨World.next⟩

/-- A cluster in which nobody has asked for a policy. -/
structure World.Fresh (w : World) : Prop where
  jobs : w.jobs = .init .empty
  named : ∀ entry ∈ w.nodes.objs, entry.node.name = entry.name
  versions : ∀ entry ∈ w.nodes.objs, entry.versions = .init entry.versions.live
  unused : ∀ entry ∈ w.nodes.objs, entry.node.updateStatus = none
  request : ∀ entry ∈ w.nodes.objs, entry.versions.live.request = entry.latest

variable {w w' : World} {env : Env} {e : Event} {entry : Entry} {node : Node} {job : Job}
  {v : Version} {s : UpdateStatus} {request : Request}

/-! ### What a step does -/

/-- The versions of the node have its name. -/
def Entry.Named (entry : Entry) : Prop :=
  entry.versions.Since 0 fun t => t.node.name = entry.name

/-- The node with a new status, as the controller writes it. -/
def Entry.withStatus (entry : Entry) (s : UpdateStatus) (request : Request) : Entry :=
  { entry with versions := entry.versions.push ⟨setUpdateStatus entry.node s, request⟩ }

/-- The nodes after a handler: the same, or with a new status in `P` for the current version. -/
inductive Stored (nodes : Store Entry.name) (entry : Entry) (number : Nat)
    (P : UpdateStatus → Request → Prop) : Store Entry.name → Prop
  | same : Stored nodes entry number P nodes
  | put (hnow : number = entry.versions.now) (s : UpdateStatus) (request : Request)
      (h : P s request) : Stored nodes entry number P (nodes.put (entry.withStatus s request))

/-- The jobs after the attempt to submit one. -/
inductive Submitted (jobs : History (Store Job.name)) (job : Job) : History (Store Job.name) → Prop
  | same : Submitted jobs job jobs
  | push (hnew : jobs.live.get job.name = none) : Submitted jobs job (jobs.push (jobs.live.put job))

/-- **What a step does to the cluster.** -/
inductive Effect (w : World) : Event → World → Prop
  | same (e : Event) : Effect w e w
  /-- A request that has been read leads to a job and to a status. -/
  | start {name : String} {number jobs : Nat} {env : Env} {entry : Entry} {s : UpdateStatus}
      {nodes' : Store Entry.name} {jobs' : History (Store Job.name)}
      (hget : w.nodes.get name = some entry) (hle : number ≤ entry.versions.now)
      (hs : effectiveStatus (entry.version number).node = some s) (hreq : s.status = .requested)
      (hjobs : Submitted w.jobs (getJob env s.policy (entry.version number)) jobs')
      (hnodes : Stored w.nodes entry number
        (fun s' request => s'.policy = s.policy ∧ s'.status ≠ .requested ∧
          request = (entry.version number).request) nodes') :
      Effect w (.onNodeChanged name number jobs env) ⟨nodes', jobs'⟩
  /-- The result of a job is written to its node. -/
  | result {jobs : Nat} {jobName : String} {number : Nat} {env : Env} {job : Job} {entry : Entry}
      {status : Status} {nodes' : Store Entry.name} (hle : jobs ≤ w.jobs.now)
      (hjob : (w.jobs.get jobs).get jobName = some job) (hnode : job.updateNode = some entry.name)
      (hget : w.nodes.get entry.name = some entry) (hnumber : number ≤ entry.versions.now)
      (hstatus : job.outcome = some status)
      (hnodes : Stored w.nodes entry number
        (fun s request =>
          s = ⟨job.updatePolicy, status, job.name⟩ ∧ request = job.request) nodes') :
      Effect w (.onJobChanged jobs jobName number env) ⟨nodes', w.jobs⟩
  | update {node : Node} {caches : Caches} {entry : Entry}
      (hget : w.nodes.get node.name = some entry) (hvalid : validateUpdate caches node = .ok ()) :
      Effect w (.update node caches) { w with nodes := w.nodes.put (entry.updated node) }
  /-- A job ends or is being deleted. -/
  | changeJob (e : Event) {job job' : Job} (hjob : job ∈ w.jobs.live.objs)
      (hname : job'.name = job.name)
      (hnode : job'.updateNode = job.updateNode) (hpolicy : job'.updatePolicy = job.updatePolicy)
      (hrequest : job'.request = job.request) (hrunning : job'.running → job.running) :
      Effect w e (w.withJob job')
  | removeJob (e : Event) (name : String) :
      Effect w e { w with jobs := w.jobs.push (w.jobs.live.delete name) }

theorem run_storeNode {number : Nat} (hget : w.nodes.get entry.name = some entry)
    (hname : (entry.version number).node.name = entry.name) (s : UpdateStatus) (request : Request) :
    ∃ r nodes', (storeNode (entry.version number)
        (setUpdateStatus (entry.version number).node s) request).run w =
          (r, { w with nodes := nodes' }) ∧
      Stored w.nodes entry number (fun s' r' => s' = s ∧ r' = request) nodes' := by
  unfold run storeNode
  rw [hname, hget]
  dsimp only
  by_cases hnow : number = entry.versions.now
  · subst hnow
    have hreplace := History.replace_now entry.versions
      ⟨setUpdateStatus (entry.version entry.versions.now).node s, request⟩
    simp only [Entry.version] at hreplace ⊢
    rw [hreplace]
    exact ⟨_, _, rfl, .put rfl s request ⟨rfl, rfl⟩⟩
  · have hreplace : entry.versions.replace (entry.version number).number
        ⟨setUpdateStatus (entry.version number).node s, request⟩ = none := if_neg hnow
    rw [hreplace]
    exact ⟨_, _, rfl, .same⟩

theorem run_updateNode {number : Nat} (env : Env) (hget : w.nodes.get entry.name = some entry)
    (hname : (entry.version number).node.name = entry.name) (s : UpdateStatus) (request : Request) :
    ∃ nodes', ((updateNode env (entry.version number)
        (setUpdateStatus (entry.version number).node s) request).run w).2 =
          { w with nodes := nodes' } ∧
      Stored w.nodes entry number (fun s' r' => s' = s ∧ r' = request) nodes' := by
  unfold updateNode
  split
  · exact ⟨w.nodes, rfl, .same⟩
  obtain ⟨r, nodes', hrun, hstored⟩ := run_storeNode hget hname s request
  rcases run_request_cases hrun env.update env.failure with ⟨-, h⟩ | ⟨-, h⟩ | ⟨-, h⟩
  · exact ⟨w.nodes, congrArg Prod.snd h, .same⟩
  · exact ⟨nodes', congrArg Prod.snd h, hstored⟩
  · exact ⟨nodes', congrArg Prod.snd h, hstored⟩

theorem run_storeJob (job : Job) (w : World) :
    ∃ r jobs', (storeJob job).run w = (r, { w with jobs := jobs' }) ∧
      Submitted w.jobs job jobs' := by
  unfold run storeJob
  cases hget : w.jobs.live.get job.name with
  | none => exact ⟨_, _, rfl, .push hget⟩
  | some old => exact ⟨_, _, rfl, .same⟩

theorem run_submitJob (env : Env) (v : Version) (s : UpdateStatus) (w : World) :
    ∃ r jobs', (submitJob env v s).run w = (r, { w with jobs := jobs' }) ∧
      Submitted w.jobs (getJob env s.policy v) jobs' := by
  unfold submitJob
  cases env.image with
  | error err => exact ⟨_, w.jobs, rfl, .same⟩
  | ok _ =>
    obtain ⟨r, jobs', hrun, hjobs⟩ := run_storeJob (getJob env s.policy v) w
    rcases run_request_cases hrun env.create env.failure with ⟨-, h⟩ | ⟨-, h⟩ | ⟨-, h⟩
    · exact ⟨_, w.jobs, h, .same⟩
    · exact ⟨_, jobs', h, hjobs⟩
    · exact ⟨_, jobs', h, hjobs⟩

theorem run_startJob (env : Env) (v : Version) (s : UpdateStatus) (runningJobs : List Job)
    (w : World) :
    ∃ s' jobs', (startJob env v s runningJobs).run w = (.ok s', { w with jobs := jobs' }) ∧
      s'.policy = s.policy ∧ s'.status ≠ .requested ∧
      Submitted w.jobs (getJob env s.policy v) jobs' := by
  unfold startJob
  cases runningJobs with
  | cons job rest =>
    exact ⟨toRunningStatus s job, w.jobs, rfl, rfl, by simp [toRunningStatus], .same⟩
  | nil =>
    obtain ⟨r, jobs', hrun, hjobs⟩ := run_submitJob env v s w
    refine ⟨submittedStatus s r, jobs', ?_, ?_, ?_, hjobs⟩
    · rw [run_attempt_bind, hrun]
      rfl
    · cases r <;> rfl
    · cases r <;> simp [submittedStatus, toFailedStatus, toRunningStatus]

theorem effect_onNodeChanged {name : String} {number jobs : Nat} (env : Env)
    (jobCache : Except Err (List Job)) (hget : w.nodes.get name = some entry)
    (hle : number ≤ entry.versions.now) (hname : (entry.version number).node.name = entry.name) :
    Effect w (.onNodeChanged name number jobs env)
      ((onNodeChanged env jobCache (entry.version number)).run w).2 := by
  unfold onNodeChanged
  cases hs : effectiveStatus (entry.version number).node with
  | none => exact .same _
  | some s =>
    dsimp only
    split
    · exact .same _
    next hreq =>
    unfold handleRequest
    cases hrunning : getCPUManagerRunningJobOnNode jobCache (entry.version number).node.name with
    | error err => exact .same _
    | ok runningJobs =>
      rw [ofExcept_ok_bind]
      obtain ⟨s', jobs', hstart, hpolicy, hstatus, hjobs⟩ :=
        run_startJob env (entry.version number) s runningJobs w
      rw [run_bind_of_run_ok hstart]
      have hget' : ({ w with jobs := jobs' } : World).nodes.get entry.name = some entry :=
        Store.key_of_get hget ▸ hget
      obtain ⟨nodes', hrun, hstored⟩ :=
        run_updateNode env hget' hname s' (entry.version number).request
      rw [hrun]
      refine .start hget hle hs (not_not.1 hreq) hjobs ?_
      cases hstored with
      | same => exact .same
      | put hnow s'' request h =>
        obtain ⟨rfl, rfl⟩ := h
        exact .put hnow _ _ ⟨hpolicy, hstatus, rfl⟩

theorem effect_onJobChanged {jobs : Nat} {jobName : String} {number : Nat} (env : Env)
    (hnamed : ∀ entry ∈ w.nodes.objs, entry.Named)
    (hle : jobs ≤ w.jobs.now) (hjob : (w.jobs.get jobs).get jobName = some job) :
    Effect w (.onJobChanged jobs jobName number env)
      ((onJobChanged env (w.nodeCache number) job).run w).2 := by
  unfold onJobChanged
  cases hnode : job.updateNode with
  | none => exact .same _
  | some nodeName =>
    dsimp only
    unfold World.nodeCache
    cases hget : w.nodes.get nodeName with
    | none => exact .same _
    | some entry =>
      dsimp only
      by_cases hnumber : number ≤ entry.versions.now
      · rw [if_pos hnumber, ofExcept_ok_bind]
        cases hstatus : job.outcome with
        | none => exact .same _
        | some status =>
          obtain rfl : entry.name = nodeName := Store.key_of_get hget
          have hname := hnamed entry (Store.mem_of_get hget) number (Nat.zero_le _) hnumber
          obtain ⟨nodes', hrun, hstored⟩ := run_updateNode env hget hname
            ⟨job.updatePolicy, status, job.name⟩ job.request
          dsimp only [updateCPUManagerStatus]
          rw [hrun]
          exact .result hle hjob hnode hget hnumber hstatus hstored
      · rw [if_neg hnumber]
        exact .same _

/-- **Every step has one of the effects.** -/
theorem effect_of_next (hnamed : ∀ entry ∈ w.nodes.objs, entry.Named) (h : w.next e = some w') :
    Effect w e w' := by
  cases e
  all_goals simp only [World.next, Option.bind_eq_bind, Option.bind_eq_some_iff, Option.pure_def,
    Option.guard_eq_some', Option.some.injEq] at h
  case onNodeChanged name number jobs env =>
    obtain ⟨entry, hget, _, ⟨hle, -⟩, rfl⟩ := h
    have hname := hnamed entry (Store.mem_of_get hget) number (Nat.zero_le _) hle
    exact effect_onNodeChanged env _ hget hle hname
  case onJobChanged jobs jobName number env =>
    obtain ⟨_, hle, job, hjob, rfl⟩ := h
    exact effect_onJobChanged env hnamed hle hjob
  case update node caches =>
    obtain ⟨entry, hget, _, hvalid, rfl⟩ := h
    exact .update hget hvalid
  case finishJob name failed =>
    obtain ⟨job, hget, _, hrunning, rfl⟩ := h
    exact .changeJob _ (Store.mem_of_get hget) rfl rfl rfl rfl fun _ => hrunning
  case deleteJob name =>
    obtain ⟨job, hget, rfl⟩ := h
    exact .changeJob _ (Store.mem_of_get hget) rfl rfl rfl rfl id
  case removeJob name =>
    obtain ⟨job, -, _, -, rfl⟩ := h
    exact .removeJob _ name

/-! ### What the statuses belong to -/

/-- The annotation has the policy of its request. -/
def Tagged.Honest (t : Tagged) : Prop :=
  ∀ s, t.node.updateStatus = some (.ok s) →
    ∃ r, t.request.written = some (.ok r) ∧ r.policy = s.policy

/-- The job has the policy of its request. -/
def Job.Honest (job : Job) : Prop :=
  ∃ r, job.request.written = some (.ok r) ∧ r.policy = job.updatePolicy

/-- What holds in every run. -/
structure World.Sound (w : World) : Prop where
  named : ∀ entry ∈ w.nodes.objs, entry.Named
  nodes : ∀ entry ∈ w.nodes.objs, entry.versions.Since 0 Tagged.Honest
  jobs : w.jobs.Since 0 fun jobs => ∀ job ∈ jobs.objs, job.Honest

theorem getCPUManagerUpdateStatus_eq_ok {annot : Except Err UpdateStatus}
    (h : getCPUManagerUpdateStatus annot = .ok s) : annot = .ok s := by
  unfold getCPUManagerUpdateStatus at h
  cases annot with
  | error err => simp at h
  | ok s' =>
    dsimp only at h
    split at h
    · simp at h
    split at h
    · simp at h
    · exact h

theorem effectiveStatus_eq_some (h : effectiveStatus node = some s) :
    node.witness = false ∧ node.updateStatus = some (.ok s) ∧
      getCPUManagerUpdateStatus (.ok s) = .ok s := by
  unfold effectiveStatus at h
  split at h
  · simp at h
  next hskip =>
  obtain ⟨annot, hannot, h⟩ := Option.bind_eq_some_iff.1 h
  cases hget : getCPUManagerUpdateStatus annot with
  | error err => simp [hget, Except.toOption] at h
  | ok s' =>
    rw [hget] at h
    obtain rfl : s' = s := Option.some.inj h
    obtain rfl := getCPUManagerUpdateStatus_eq_ok hget
    exact ⟨by simpa using (not_or.1 hskip).2, hannot, hget⟩

theorem Stored.mem {nodes nodes' : Store Entry.name} {number : Nat}
    {P : UpdateStatus → Request → Prop} (h : Stored nodes entry number P nodes') {a : Entry}
    (ha : a ∈ nodes'.objs) :
    a ∈ nodes.objs ∨
      number = entry.versions.now ∧ ∃ s request, P s request ∧ a = entry.withStatus s request := by
  cases h with
  | same => exact .inl ha
  | put hnow s request h =>
    rcases Store.mem_put.1 ha with rfl | ⟨ha, -⟩
    · exact .inr ⟨hnow, s, request, h, rfl⟩
    · exact .inl ha

theorem Entry.Named.withStatus (h : entry.Named) (s : UpdateStatus) (request : Request) :
    (entry.withStatus s request).Named :=
  History.Since.push h h.live

theorem Entry.Named.updated (h : entry.Named) (hname : node.name = entry.name) :
    (entry.updated node).Named := by
  unfold Entry.updated
  split <;> exact History.Since.push h hname

theorem Tagged.Honest.withStatus {entry : Entry} (hold : entry.versions.Since 0 Tagged.Honest)
    (hnew : ∃ r, request.written = some (.ok r) ∧ r.policy = s.policy) :
    (entry.withStatus s request).versions.Since 0 Tagged.Honest := by
  refine hold.push fun s' hs' => ?_
  obtain rfl : s = s' := by simpa [setUpdateStatus] using hs'
  exact hnew

theorem Tagged.Honest.updated {entry : Entry} (hold : entry.versions.Since 0 Tagged.Honest)
    (node : Node) : (entry.updated node).versions.Since 0 Tagged.Honest := by
  unfold Entry.updated
  split
  · next hsame => exact hold.push fun s hs => hold.live s (hsame ▸ hs)
  · exact hold.push fun s hs => ⟨s, hs, rfl⟩

theorem World.Sound.nodes_next (h : w.Sound) (heffect : Effect w e w') :
    ∀ entry ∈ w'.nodes.objs, entry.Named ∧ entry.versions.Since 0 Tagged.Honest := by
  intro a ha
  have hsame (ha : a ∈ w.nodes.objs) : a.Named ∧ a.versions.Since 0 Tagged.Honest :=
    ⟨h.named a ha, h.nodes a ha⟩
  cases heffect with
  | same => exact hsame ha
  | @start name number jobs env entry s nodes' jobs' hget hle hs hreq hjobs hnodes =>
    rcases hnodes.mem ha with ha | ⟨-, s', request, ⟨hpolicy, -, rfl⟩, rfl⟩
    · exact hsame ha
    have hmem := Store.mem_of_get hget
    refine ⟨(h.named entry hmem).withStatus s' _, .withStatus (h.nodes entry hmem) ?_⟩
    rw [hpolicy]
    exact h.nodes entry hmem number (Nat.zero_le _) hle s (effectiveStatus_eq_some hs).2.1
  | @result jobs jobName number env job entry status nodes' hle hjob
      hnode hget hnumber hst hnodes =>
    rcases hnodes.mem ha with ha | ⟨-, s', request, ⟨rfl, rfl⟩, rfl⟩
    · exact hsame ha
    have hmem := Store.mem_of_get hget
    refine ⟨(h.named entry hmem).withStatus _ _, .withStatus (h.nodes entry hmem) ?_⟩
    exact h.jobs jobs (Nat.zero_le _) hle job (Store.mem_of_get hjob)
  | update hget hvalid =>
    rcases Store.mem_put.1 ha with rfl | ⟨ha, -⟩
    · have hmem := Store.mem_of_get hget
      exact ⟨(h.named _ hmem).updated (Store.key_of_get hget).symm, .updated (h.nodes _ hmem) _⟩
    · exact hsame ha
  | changeJob | removeJob => exact hsame ha

theorem World.Sound.jobs_next (h : w.Sound) (heffect : Effect w e w') :
    w'.jobs.Since 0 fun jobs => ∀ job ∈ jobs.objs, job.Honest := by
  have hput {job : Job} (hjob : job.Honest) : ∀ j ∈ (w.jobs.live.put job).objs, j.Honest := by
    intro j hj
    rcases Store.mem_put.1 hj with rfl | ⟨hj, -⟩
    · exact hjob
    · exact h.jobs.live j hj
  cases heffect with
  | same => exact h.jobs
  | @start name number jobs env entry s nodes' jobs' hget hle hs hreq hjobs hnodes =>
    cases hjobs with
    | same => exact h.jobs
    | push hnew =>
      refine h.jobs.push (hput ?_)
      exact h.nodes entry (Store.mem_of_get hget) number (Nat.zero_le _) hle s
        (effectiveStatus_eq_some hs).2.1
  | result | update => exact h.jobs
  | @changeJob _ job job' hjob hname hnode hpolicy hrequest hrunning =>
    refine h.jobs.push (hput ?_)
    unfold Job.Honest
    rw [hpolicy, hrequest]
    exact h.jobs.live job hjob
  | removeJob _ name =>
    exact h.jobs.push fun j hj => h.jobs.live j (Store.mem_delete.1 hj).1

theorem World.Sound.next (h : w.Sound) (hnext : w.next e = some w') : w'.Sound :=
  have heffect := effect_of_next h.named hnext
  ⟨fun a ha => (h.nodes_next heffect a ha).1, fun a ha => (h.nodes_next heffect a ha).2,
    h.jobs_next heffect⟩

theorem World.Fresh.sound (h : w.Fresh) : w.Sound where
  named entry hentry := by
    intro k _ _
    rw [h.versions entry hentry]
    exact h.named entry hentry
  nodes entry hentry := by
    intro k _ _ s hs
    rw [h.versions entry hentry] at hs
    exact absurd ((h.unused entry hentry).symm.trans hs) (by simp)
  jobs := by
    intro k _ _ job hjob
    rw [h.jobs] at hjob
    exact absurd hjob (by simp [History.init, Store.empty])

/-! ### The most recent request -/

/-- The annotation belongs to the most recent request and has its policy. -/
structure Entry.UpToDate (entry : Entry) : Prop where
  request : entry.versions.live.request = entry.latest
  policy : ∀ s, entry.node.updateStatus = some (.ok s) →
    ∃ r, entry.latest.written = some (.ok r) ∧ r.policy = s.policy

/-- The end of a job is handled with the current node only as long as no later request has been
made. -/
def World.Timely (w : World) : Event → Prop
  | .onJobChanged jobs jobName number _ =>
    ∀ job ∈ (w.jobs.get jobs).get jobName, job.outcome.isSome →
      ∀ entry ∈ job.updateNode.bind w.nodes.get, number = entry.versions.now →
        job.request = entry.latest
  | _ => True

instance (w : World) (e : Event) : Decidable (w.Timely e) := by
  cases e <;> unfold World.Timely <;> infer_instance

/-- Every annotation belongs to the most recent request of its node. -/
def World.Latest (w : World) : Prop :=
  ∀ entry ∈ w.nodes.objs, entry.versions.live.request = entry.latest

theorem World.Latest.next (h : w.Latest) (hsound : w.Sound) (hG : w.Timely e)
    (hnext : w.next e = some w') : w'.Latest := by
  intro a ha
  cases effect_of_next hsound.named hnext with
  | same => exact h a ha
  | @start name number jobs env entry s nodes' jobs' hget hle hs hreq hjobs hnodes =>
    rcases hnodes.mem ha with ha | ⟨rfl, s', request, ⟨-, -, rfl⟩, rfl⟩
    · exact h a ha
    · show (entry.versions.push _).live.request = entry.latest
      rw [History.live_push]
      exact h entry (Store.mem_of_get hget)
  | @result jobs jobName number env job entry status nodes' hle hjob
      hnode hget hnumber hst hnodes =>
    rcases hnodes.mem ha with ha | ⟨hnow, s', request, ⟨rfl, rfl⟩, rfl⟩
    · exact h a ha
    show (entry.versions.push _).live.request = entry.latest
    rw [History.live_push]
    refine hG job hjob (by simp [hst]) entry ?_ hnow
    rw [hnode]
    exact hget
  | @update node caches entry hget hvalid =>
    rcases Store.mem_put.1 ha with rfl | ⟨ha, -⟩
    · unfold Entry.updated
      split
      · rw [History.live_push]
        exact h entry (Store.mem_of_get hget)
      · rw [History.live_push]
    · exact h a ha
  | changeJob | removeJob => exact h a ha

/-- **The status of a node belongs to its most recent request**, in every timely run. -/
theorem status_of_latest {events : List Event} (h : w.Fresh)
    (hG : machine.Along World.Timely w events) (hrun : machine.run w events = some w') :
    ∀ entry ∈ w'.nodes.objs, entry.UpToDate := by
  have hinv : w'.Sound ∧ w'.Latest :=
    Machine.run_invariant (I := fun w => w.Sound ∧ w.Latest)
      (fun _ _ _ hinv hG hnext => ⟨hinv.1.next hnext, hinv.2.next hinv.1 hG hnext⟩)
      ⟨h.sound, h.request⟩ hG hrun
  intro entry hentry
  have hrequest := hinv.2 entry hentry
  refine ⟨hrequest, fun s hs => ?_⟩
  rw [← hrequest]
  exact (hinv.1.nodes entry hentry).live s hs

namespace Sample

/-- A management node that has not been used. -/
def unused (name : String) : Node :=
  ⟨name, false, none, false, some "true", none, none, some "false"⟩

def requested (policy : Policy) : Option (Except Err UpdateStatus) :=
  some (.ok ⟨policy, .requested, ""⟩)

def member (name : String) : Entry := ⟨name, .init ⟨unused name, ⟨0, none⟩⟩, ⟨0, none⟩⟩

/-- Two management nodes. -/
def world : World := ⟨⟨[member "a", member "b"], by decide⟩, .init .empty⟩

/-- No request fails. -/
def calm (jobName : String) : Env := ⟨.ok (), jobName, .none, .none, .other "down"⟩

/-- Two nodes and no jobs that have not ended. -/
def caches : Caches := ⟨.ok [unused "a", unused "b"], .ok [], .ok [], .ok ()⟩

theorem fresh_world : world.Fresh := by
  refine ⟨rfl, ?_, ?_, ?_, ?_⟩ <;> intro entry hentry <;>
    rcases List.mem_pair.1 hentry with rfl | rfl <;> rfl

/-- A policy is requested, and its job ends. -/
def firstRequest : List Event :=
  [.update { unused "a" with updateStatus := requested .static } caches,
    .onNodeChanged "a" 1 0 (calm "job1"), .finishJob "job1" false,
    .onJobChanged 2 "job1" 2 (calm ""),
    .update
      { unused "a" with
        updateStatus := some (.ok ⟨.static, .success, "job1"⟩), cpuManager := some "true" } caches]

/-- The other policy is requested. -/
def secondRequest : Event :=
  .update { unused "a" with updateStatus := requested .none, cpuManager := some "true" } caches

/-- The annotation of a node. -/
def shown (w : World) (name : String) : Option (Except Err UpdateStatus) :=
  (w.nodes.get name).bind fun entry => entry.node.updateStatus

end Sample

open Sample in
theorem status_of_latest_second :
    ∃ w', machine.run world
        (firstRequest ++ [secondRequest, .onNodeChanged "a" 5 2 (calm "job2")]) = some w' ∧
      machine.Along World.Timely world
        (firstRequest ++ [secondRequest, .onNodeChanged "a" 5 2 (calm "job2")]) ∧
      shown w' "a" = some (.ok ⟨.none, .running, "job2"⟩) ∧
      ∀ entry ∈ w'.nodes.objs, entry.UpToDate := by
  have hG : machine.Along World.Timely world
      (firstRequest ++ [secondRequest, .onNodeChanged "a" 5 2 (calm "job2")]) := by
    decide
  exact ⟨_, Machine.run_get (by decide), hG, by decide,
    status_of_latest fresh_world hG (Machine.run_get _)⟩

open Sample in
/-- The result of the first job takes the place of the second request. -/
theorem result_overwrites_request :
    ∃ w', machine.run world
        (firstRequest ++ [secondRequest, .onJobChanged 2 "job1" 5 (calm "")]) = some w' ∧
      shown w' "a" = some (.ok ⟨.static, .success, "job1"⟩) ∧
      ¬ ∀ entry ∈ w'.nodes.objs, entry.UpToDate := by
  refine ⟨_, Machine.run_get (by decide), by decide, fun hall => ?_⟩
  exact absurd (fun entry hentry => (hall entry hentry).request) (by decide)

end CpuManager

end Harvester
