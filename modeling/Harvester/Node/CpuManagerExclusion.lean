import Harvester.Node.CpuManagerRuns

/-!
# One management node at a time

The webhook admits a request of a management node only when no other one has a job that has not
ended.  The job is created later than the request, by the controller.

`one_management_node` says when at most one management node has such a job.  `two_management_nodes`
shows two requests that are admitted before there is a job.
-/

namespace Harvester

open Control

namespace CpuManager

variable {w w' : World} {e : Event} {entry : Entry} {node : Node} {job : Job} {s : UpdateStatus}
  {request : Request}

/-- The node waits for a job. -/
def Node.waiting (node : Node) : Bool := (effectiveStatus node).any fun s => s.status = .requested

/-- The node has a job that has not ended. -/
def World.busy (w : World) (name : String) : Bool :=
  w.jobs.live.objs.any fun job => job.updateNode = some name && job.running

/-- A cache that can be read has the objects. -/
def Shows {α : Type} (cache : Except Err (List α)) (objs : List α) : Prop :=
  ∃ seen, cache = .ok seen ∧ seen.Perm objs

instance {α : Type} [DecidableEq α] (cache : Except Err (List α)) (objs : List α) :
    Decidable (Shows cache objs) :=
  match cache with
  | .error _ => isFalse fun ⟨_, h, _⟩ => by cases h
  | .ok seen => decidable_of_iff (seen.Perm objs)
      ⟨fun h => ⟨seen, rfl, h⟩, fun ⟨_, h, hperm⟩ => by cases h; exact hperm⟩

/-- The webhook sees the nodes and jobs as they are. -/
def World.CachesCurrent (w : World) : Event → Prop
  | .update _ caches =>
    Shows caches.nodes (w.nodes.objs.map Entry.node) ∧ Shows caches.jobs w.jobs.live.objs
  | _ => True

instance (w : World) (e : Event) : Decidable (w.CachesCurrent e) := by
  apply @Event.casesOn _ e <;> intros <;> dsimp only [World.CachesCurrent] <;> infer_instance

/-- A management node makes a request only when no other one waits; a node with a job that has not
ended does not become a management node; and a request is read from the current node. -/
def World.OneByOne (w : World) : Event → Prop
  | .update node _ =>
    isManagementRole node = true →
      (node.waiting = true → ∀ entry ∈ w.nodes.objs, entry.name ≠ node.name →
        isManagementRole entry.node = true → entry.node.waiting = false) ∧
      (w.busy node.name = true → ∀ entry ∈ w.nodes.get node.name,
        isManagementRole entry.node = true)
  | .onNodeChanged name number _ _ =>
    ∀ entry ∈ w.nodes.get name, (entry.version number).node.waiting = true →
      number = entry.versions.now
  | _ => True

instance (w : World) (e : Event) : Decidable (w.OneByOne e) := by
  apply @Event.casesOn _ e <;> intros <;> dsimp only [World.OneByOne] <;> infer_instance

/-- A management node that waits for a job or has one. -/
def World.Active (w : World) (entry : Entry) : Prop :=
  isManagementRole entry.node = true ∧ (entry.node.waiting = true ∨ w.busy entry.name = true)

/-- At most one management node is active. -/
def World.Exclusive (w : World) : Prop :=
  ∀ a ∈ w.nodes.objs, ∀ b ∈ w.nodes.objs, w.Active a → w.Active b → a.name = b.name

theorem World.Exclusive.of_active (h : w.Exclusive)
    (hstep : ∀ a' ∈ w'.nodes.objs, w'.Active a' →
      ∃ a ∈ w.nodes.objs, a.name = a'.name ∧ w.Active a) : w'.Exclusive := by
  intro a' ha' b' hb' hactive hactive'
  obtain ⟨a, ha, hname, hactive⟩ := hstep a' ha' hactive
  obtain ⟨b, hb, hname', hactive'⟩ := hstep b' hb' hactive'
  rw [← hname, ← hname']
  exact h a ha b hb hactive hactive'

theorem World.busy_iff {name : String} :
    w.busy name = true ↔
      ∃ job ∈ w.jobs.live.objs, job.updateNode = some name ∧ job.running = true := by
  simp [World.busy]

theorem Node.waiting_iff : node.waiting = true ↔
    ∃ s, effectiveStatus node = some s ∧ s.status = .requested := by
  simp [Node.waiting, Option.any_eq_true]

theorem waiting_setUpdateStatus (hs : s.status ≠ .requested) :
    (setUpdateStatus node s).waiting = false := by
  cases hwaiting : (setUpdateStatus node s).waiting with
  | false => rfl
  | true =>
    obtain ⟨s', hs', hreq⟩ := Node.waiting_iff.1 hwaiting
    obtain rfl : s = s' := by simpa [setUpdateStatus] using (effectiveStatus_eq_some hs').2.1
    exact absurd hreq hs

theorem Entry.node_withStatus (entry : Entry) (s : UpdateStatus) (request : Request) :
    (entry.withStatus s request).node = setUpdateStatus entry.node s :=
  congrArg Tagged.node (History.live_push _ _)

theorem Entry.node_updated (entry : Entry) (node : Node) : (entry.updated node).node = node := by
  unfold Entry.updated
  split
  · exact congrArg Tagged.node (History.live_push _ _)
  · exact congrArg Tagged.node (History.live_push _ _)

theorem Entry.name_updated (entry : Entry) (node : Node) :
    (entry.updated node).name = entry.name := by
  unfold Entry.updated
  split <;> rfl

theorem active_of_withStatus (hs : s.status ≠ .requested)
    (h : w.Active (entry.withStatus s request)) :
    isManagementRole entry.node = true ∧ w.busy entry.name = true := by
  obtain ⟨hrole, hwhy⟩ := h
  rw [Entry.node_withStatus] at hrole hwhy
  refine ⟨hrole, hwhy.resolve_left ?_⟩
  simp [waiting_setUpdateStatus hs]

theorem Job.outcome_ne_requested {status : Status} (h : job.outcome = some status) :
    status ≠ .requested := by
  unfold Job.outcome at h
  split_ifs at h <;> cases h <;> simp

theorem busy_of_submitted {nodes nodes' : Store Entry.name} {jobs jobs' : History (Store Job.name)}
    {name : String} (h : Submitted jobs job jobs') (hne : job.updateNode ≠ some name)
    (hbusy : World.busy ⟨nodes', jobs'⟩ name = true) : World.busy ⟨nodes, jobs⟩ name = true := by
  cases h with
  | same => exact hbusy
  | push hnew =>
    obtain ⟨j, hj, hnode, hrunning⟩ := World.busy_iff.1 hbusy
    rw [History.live_push] at hj
    rcases Store.mem_put.1 hj with rfl | ⟨hj, -⟩
    · exact absurd hnode hne
    · exact World.busy_iff.2 ⟨j, hj, hnode, hrunning⟩

theorem busy_of_withJob {job' : Job} {name : String} (hjob : job ∈ w.jobs.live.objs)
    (hnode : job'.updateNode = job.updateNode) (hrunning : job'.running → job.running)
    (hbusy : (w.withJob job').busy name = true) : w.busy name = true := by
  obtain ⟨j, hj, hn, hr⟩ := World.busy_iff.1 hbusy
  have hj : j ∈ (w.jobs.live.put job').objs := by
    have hlive : (w.withJob job').jobs.live = w.jobs.live.put job' := History.live_push _ _
    rwa [hlive] at hj
  rcases Store.mem_put.1 hj with rfl | ⟨hj, -⟩
  · exact World.busy_iff.2 ⟨job, hjob, hnode ▸ hn, hrunning hr⟩
  · exact World.busy_iff.2 ⟨j, hj, hn, hr⟩

theorem checkNoRunningJobs_eq_ok {jobCache : Except Err (List Job)} {jobs : List Job}
    {nodeNames : List String} {message : String → String} (hcache : jobCache = .ok jobs)
    (h : checkNoRunningJobs jobCache nodeNames message = .ok ()) {name : String}
    (hname : name ∈ nodeNames) (hjob : job ∈ jobs) (hnode : job.updateNode = some name) :
    job.running = false := by
  subst hcache
  unfold checkNoRunningJobs at h
  split at h
  · simp at h
  · next hnil =>
    unfold getCPUManagerRunningJobsOnNodes at hnil
    split at hnil
    · simp at hnil
    · have hnone := List.filter_eq_nil_iff.1 (Except.ok.inj hnil) job hjob
      simpa [hnode, hname] using hnone
  · simp at h

theorem validateRequest_of_waiting {caches : Caches} (hwaiting : node.waiting = true)
    (h : validateUpdate caches node = .ok ()) :
    checkCurrentNodeCPUManagerJobs node caches.jobs = .ok () ∧
      checkMasterNodeJobs node caches = .ok () := by
  obtain ⟨s, hs, hreq⟩ := Node.waiting_iff.1 hwaiting
  obtain ⟨hwitness, hstatus, hget⟩ := effectiveStatus_eq_some hs
  obtain ⟨-, hvalid⟩ := except_bind_unit_eq_ok.1 h
  unfold validateCPUManagerOperation at hvalid
  rw [hstatus] at hvalid
  simp only [hwitness, hget, hreq] at hvalid
  obtain ⟨-, hvalid⟩ := except_bind_unit_eq_ok.1 hvalid
  obtain ⟨hcurrent, hvalid⟩ := except_bind_unit_eq_ok.1 hvalid
  exact ⟨hcurrent, (except_bind_unit_eq_ok.1 hvalid).1⟩

/-- **A request of a management node is admitted only when no management node has a job** that has
not ended. -/
theorem not_busy_of_admitted {caches : Caches} (hcaches : w.CachesCurrent (.update node caches))
    (hnamed : ∀ entry ∈ w.nodes.objs, entry.Named) (hrole : isManagementRole node = true)
    (hwaiting : node.waiting = true) (h : validateUpdate caches node = .ok ()) :
    ∀ entry ∈ w.nodes.objs, entry.name ≠ node.name →
      isManagementRole entry.node = true → w.busy entry.name = false := by
  obtain ⟨-, hmaster⟩ := validateRequest_of_waiting hwaiting h
  obtain ⟨⟨nodes, hnodes, hnodesPerm⟩, jobs, hjobs, hjobsPerm⟩ := hcaches
  intro entry hentry hne hmgmt
  have hname : entry.node.name = entry.name := (hnamed entry hentry).live
  have hmem : entry.name ∈ masterNodeNames node nodes := by
    refine List.mem_map.2 ⟨entry.node, List.mem_filter.2 ⟨?_, by simp [hname, hne, hmgmt]⟩, hname⟩
    exact hnodesPerm.mem_iff.2 (List.mem_map_of_mem hentry)
  unfold checkMasterNodeJobs at hmaster
  rw [if_neg (by simp [hrole]), hnodes] at hmaster
  dsimp only at hmaster
  rw [if_neg (List.ne_nil_of_mem hmem)] at hmaster
  cases hbusy : w.busy entry.name with
  | false => rfl
  | true =>
    obtain ⟨job, hjob, hnode, hrunning⟩ := World.busy_iff.1 hbusy
    have hended := checkNoRunningJobs_eq_ok hjobs hmaster hmem (hjobsPerm.mem_iff.2 hjob) hnode
    exact absurd (hrunning.symm.trans hended) (by simp)

theorem World.Exclusive.update (h : w.Exclusive) (hnamed : ∀ entry ∈ w.nodes.objs, entry.Named)
    {caches : Caches} (hcaches : w.CachesCurrent (.update node caches))
    (hG : w.OneByOne (.update node caches)) (hget : w.nodes.get node.name = some entry)
    (hvalid : validateUpdate caches node = .ok ()) :
    World.Exclusive { w with nodes := w.nodes.put (entry.updated node) } := by
  have hkey : entry.name = node.name := Store.key_of_get hget
  by_cases hwaiting : isManagementRole node = true ∧ node.waiting = true
  · -- A request: nobody else is active.
    obtain ⟨hrole, hwaiting⟩ := hwaiting
    have hothers := not_busy_of_admitted hcaches hnamed hrole hwaiting hvalid
    have halone {a : Entry}
        (ha : a ∈ (w.nodes.put (entry.updated node)).objs)
        (hactive : World.Active { w with nodes := w.nodes.put (entry.updated node) } a) :
        a.name = entry.name := by
      rcases Store.mem_put.1 ha with rfl | ⟨ha, hne⟩
      · exact Entry.name_updated entry node
      · rw [Entry.name_updated, hkey] at hne
        have hfree := hothers a ha hne hactive.1
        have hidle := (hG hrole).1 hwaiting a ha hne hactive.1
        rcases hactive.2 with hwait | hbusy
        · exact absurd (hwait.symm.trans hidle) (by simp)
        · exact absurd (Eq.trans (Eq.symm hbusy) hfree) (by simp)
    exact fun a ha b hb hactive hactive' => (halone ha hactive).trans (halone hb hactive').symm
  · refine h.of_active fun a ha hactive => ?_
    rcases Store.mem_put.1 ha with rfl | ⟨ha, -⟩
    · refine ⟨entry, Store.mem_of_get hget, (Entry.name_updated entry node).symm, ?_⟩
      obtain ⟨hrole, hwhy⟩ := hactive
      rw [Entry.node_updated] at hrole hwhy
      have hbusy : w.busy entry.name = true := by
        rw [Entry.name_updated] at hwhy
        exact hwhy.resolve_left fun hwait => hwaiting ⟨hrole, hwait⟩
      exact ⟨(hG hrole).2 (hkey ▸ hbusy) entry hget, .inr hbusy⟩
    · exact ⟨a, ha, rfl, hactive⟩

/-- **Every step** keeps it. -/
theorem World.Exclusive.next (h : w.Exclusive) (hsound : w.Sound) (hcaches : w.CachesCurrent e)
    (hG : w.OneByOne e) (hnext : w.next e = some w') : w'.Exclusive := by
  cases effect_of_next hsound.named hnext with
  | same => exact h
  | @start name number jobs env entry s nodes' jobs' hget hle hs hreq hjobs hnodes =>
    have hwaiting : (entry.version number).node.waiting = true := Node.waiting_iff.2 ⟨s, hs, hreq⟩
    obtain rfl : number = entry.versions.now := hG entry hget hwaiting
    have hentry := Store.mem_of_get hget
    have hname : (entry.version entry.versions.now).node.name = entry.name :=
      (hsound.named entry hentry).live
    refine h.of_active fun a ha hactive => ?_
    have hother (hne : a.name ≠ entry.name) (ha : a ∈ w.nodes.objs) : w.Active a := by
      refine ⟨hactive.1, hactive.2.imp_right fun hbusy => ?_⟩
      refine busy_of_submitted hjobs ?_ hbusy
      simpa [getJob, hname] using hne.symm
    rcases hnodes.mem ha with ha | ⟨-, s', request, -, rfl⟩
    · by_cases heq : a.name = entry.name
      · obtain rfl : a = entry := Store.eq_of_key ha hentry heq
        exact ⟨a, ha, rfl, hactive.1, .inl hwaiting⟩
      · exact ⟨a, ha, rfl, hother heq ha⟩
    · refine ⟨entry, hentry, rfl, ?_, .inl hwaiting⟩
      have hrole := hactive.1
      rwa [Entry.node_withStatus] at hrole
  | @result jobs jobName number env job entry status nodes' hle hjob
      hnode hget hnumber hst hnodes =>
    refine h.of_active fun a ha hactive => ?_
    rcases hnodes.mem ha with ha | ⟨-, s', request, ⟨rfl, rfl⟩, rfl⟩
    · exact ⟨a, ha, rfl, hactive⟩
    · have hwhy := active_of_withStatus (Job.outcome_ne_requested hst) hactive
      exact ⟨entry, Store.mem_of_get hget, rfl, hwhy.1, .inr hwhy.2⟩
  | update hget hvalid => exact h.update hsound.named hcaches hG hget hvalid
  | changeJob _ hjob hname hnode hpolicy hrequest hrunning =>
    refine h.of_active fun a ha hactive =>
      ⟨a, ha, rfl, hactive.1, hactive.2.imp_right fun hbusy => ?_⟩
    exact busy_of_withJob hjob hnode hrunning hbusy
  | removeJob _ name =>
    refine h.of_active fun a ha hactive =>
      ⟨a, ha, rfl, hactive.1, hactive.2.imp_right fun hbusy => ?_⟩
    obtain ⟨j, hj, hn, hr⟩ := World.busy_iff.1 hbusy
    rw [History.live_push] at hj
    exact World.busy_iff.2 ⟨j, (Store.mem_delete.1 hj).1, hn, hr⟩

theorem World.Fresh.exclusive (h : w.Fresh) : w.Exclusive := by
  intro a ha b _ hactive _
  rcases hactive.2 with hwait | hbusy
  · obtain ⟨s, hs, -⟩ := Node.waiting_iff.1 hwait
    have hstatus := (effectiveStatus_eq_some hs).2.1
    exact absurd ((h.unused a ha).symm.trans hstatus) (by simp)
  · obtain ⟨job, hjob, -⟩ := World.busy_iff.1 hbusy
    rw [h.jobs] at hjob
    exact absurd hjob (by simp [History.init, History.live, Store.empty])

/-- **At most one management node has a job that has not ended**, in every run in which the webhook
sees the nodes and jobs as they are and which goes one by one. -/
theorem one_management_node {events : List Event} (h : w.Fresh)
    (hcaches : machine.Along World.CachesCurrent w events)
    (hG : machine.Along World.OneByOne w events) (hrun : machine.run w events = some w') :
    ∀ a ∈ w'.nodes.objs, ∀ b ∈ w'.nodes.objs, isManagementRole a.node = true →
      isManagementRole b.node = true → w'.busy a.name = true → w'.busy b.name = true →
      a.name = b.name := by
  have hinv : w'.Sound ∧ w'.Exclusive :=
    Machine.run_invariant (I := fun w => w.Sound ∧ w.Exclusive)
      (fun _ _ _ hinv hG hnext => ⟨hinv.1.next hnext, hinv.2.next hinv.1 hG.1 hG.2 hnext⟩)
      ⟨h.sound, h.exclusive⟩ (hcaches.and hG) hrun
  intro a ha b hb hrole hrole' hbusy hbusy'
  exact hinv.2 a ha b hb ⟨hrole, .inr hbusy⟩ ⟨hrole', .inr hbusy'⟩

namespace Sample

/-- The node with a request and with its result. -/
def waitingNode (name : String) : Node := { unused name with updateStatus := requested .static }

def finishedNode (name jobName : String) : Node :=
  { unused name with updateStatus := some (.ok ⟨.static, .success, jobName⟩) }

/-- A request of a node, as it is admitted with these caches. -/
def ask (name : String) (nodes : List Node) (jobs : List Job) : Event :=
  .update (waitingNode name) { caches with nodes := .ok nodes, jobs := .ok jobs }

/-- The job of the first request, after it has ended. -/
def finishedJob : Job :=
  ⟨"job1", some "a", .static, true, false, false, ⟨1, requested .static⟩⟩

/-- The second node waits for the first one. -/
def oneAfterTheOther : List Event :=
  [ask "a" [unused "a", unused "b"] [], .onNodeChanged "a" 1 0 (calm "job1"),
    .finishJob "job1" false, .onJobChanged 2 "job1" 2 (calm ""),
    ask "b" [finishedNode "a" "job1", unused "b"] [finishedJob],
    .onNodeChanged "b" 1 2 (calm "job2")]

/-- The second node is admitted before the first job. -/
def bothAtOnce : List Event :=
  [ask "a" [unused "a", unused "b"] [], ask "b" [waitingNode "a", unused "b"] [],
    .onNodeChanged "a" 1 0 (calm "job1"), .onNodeChanged "b" 1 1 (calm "job2")]

end Sample

open Sample in
theorem one_management_node_after_the_other :
    ∃ w', machine.run world oneAfterTheOther = some w' ∧
      machine.Along World.CachesCurrent world oneAfterTheOther ∧
      machine.Along World.OneByOne world oneAfterTheOther ∧ w'.busy "b" = true ∧
      ∀ a ∈ w'.nodes.objs, ∀ b ∈ w'.nodes.objs, isManagementRole a.node = true →
        isManagementRole b.node = true → w'.busy a.name = true → w'.busy b.name = true →
        a.name = b.name := by
  have hcaches : machine.Along World.CachesCurrent world oneAfterTheOther := by decide
  have hG : machine.Along World.OneByOne world oneAfterTheOther := by decide
  exact ⟨_, Machine.run_get (by decide), hcaches, hG, by decide,
    one_management_node fresh_world hcaches hG (Machine.run_get _)⟩

open Sample in
/-- Two requests are admitted before the controller has submitted a job. -/
theorem two_management_nodes :
    ∃ w', machine.run world bothAtOnce = some w' ∧
      machine.Along World.CachesCurrent world bothAtOnce ∧
      ∃ a ∈ w'.nodes.objs, ∃ b ∈ w'.nodes.objs, isManagementRole a.node = true ∧
        isManagementRole b.node = true ∧ w'.busy a.name = true ∧ w'.busy b.name = true ∧
        a.name ≠ b.name := by
  decide

end CpuManager

end Harvester
