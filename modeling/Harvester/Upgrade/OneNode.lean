import Harvester.Upgrade.System

/-!
# One node at a time

Only one node at a time should have hook jobs, which drain and upgrade it (`OneNode`).
`secretHandler` asks two caches before it creates one: the Upgrade must not say that another node is
under way, and no job may be pending.  The job is created before the update of the Upgrade that
would tell that the cache was old.

`one_node_at_a_time`: one node at a time is upgraded as long as the cache of jobs shows the pending
hook jobs of the other nodes, whenever the cache of the Upgrade does not stop the handler; otherwise
two nodes are drained at once (`stale_caches_drain_two_nodes`).
-/

namespace Harvester

namespace Upgrades

open Control Action Relation

/-- A hook job that has been created and has not finished. -/
def Job.pending (job : Job) : Bool := job.isHook && !job.finished

/-- At most one node has a pending hook job. -/
def OneNode (w : World) : Prop :=
  ∀ job ∈ w.jobs.live.objs, ∀ job' ∈ w.jobs.live.objs, job.pending → job'.pending →
    job.node = job'.node
  deriving Decidable

variable {c : Cluster} {w w' : World} {env : Env} {secret : Secret} {ev : Event}

theorem OneNode.of_pending (h : OneNode w)
    (hpending : ∀ job ∈ w'.jobs.live.objs, job.pending →
      ∃ old ∈ w.jobs.live.objs, old.pending ∧ old.node = job.node) : OneNode w' := by
  intro job hjob job' hjob' hp hp'
  obtain ⟨old, hold, hpold, hnode⟩ := hpending job hjob hp
  obtain ⟨old', hold', hpold', hnode'⟩ := hpending job' hjob' hp'
  rw [← hnode, ← hnode']
  exact h old hold old' hold' hpold hpold'

theorem OneNode.subset (h : OneNode w)
    (hpending : ∀ job ∈ w'.jobs.live.objs, job.pending → job ∈ w.jobs.live.objs) : OneNode w' :=
  h.of_pending fun job hjob hp => ⟨job, hpending job hjob hp, hp, rfl⟩

theorem OneNode.effects {F : Footprint} (h : OneNode w)
    (hcreates : ∀ u job, F.creates u job → job.isHook = false) (heffects : Effects F w w') :
    OneNode w' := by
  induction heffects with
  | refl => exact h
  | tail _ heffect ih =>
    cases heffect with
    | @createJob _ _ job _ hjob =>
      refine ih.subset fun job' hjob' hp => ?_
      simp only [History.live_push] at hjob'
      rcases Store.mem_put.1 hjob' with rfl | ⟨hmem, -⟩
      · simp [Job.pending, hcreates _ _ hjob] at hp
      · exact hmem
    | cleanJobs =>
      refine ih.subset fun job hjob _ => ?_
      simp only [History.live_push] at hjob
      exact (List.mem_filter.1 hjob).1
    | _ => exact ih

/-- Whenever the Upgrade in the cache does not stop `secretHandler`, the cache of jobs shows the
pending hook jobs of the other nodes. -/
def JobsShown (c : Cluster) (w : World) : Event → Prop
  | .secret env secret =>
    ∀ node ∈ secret.machine.bind c.nodeOf,
      (w.upgrade.get env.version).checkEligibleToDrain node = .ok () →
      ∀ job ∈ w.jobs.live.objs, job.pending → job.node ≠ node →
        ((w.jobs.get env.jobVersion).get job.key).any fun cached => cached.succeeded = 0
  | _ => True

instance (w : World) (ev : Event) : Decidable (JobsShown c w ev) := by
  unfold JobsShown
  split <;> infer_instance

theorem preserves_writeUpgrade_of {I : World → Prop} {x : Upgrade}
    (h : ∀ w, I w → I { w with upgrade := w.upgrade.push x }) :
    Preserves I (env.writeUpgrade x) := by
  refine .bind (Preserves.request fun w hw => ?_) fun _ =>
    Preserves.pure ()
  simp only [run]
  split
  · exact h w hw
  · exact hw

theorem yields_checkPendingHookJobs :
    Yields (fun v => v = w) (fun _ => ∀ job ∈ (w.jobs.get env.jobVersion).objs,
      job.type ≠ .prepare → job.succeeded ≠ 0) (checkPendingHookJobs c env) := by
  refine .request ?_
  rintro v rfl
  simp only [run]
  split
  · next hnone =>
    refine ⟨rfl, fun _ _ job hjob htype => ?_⟩
    have hjob := List.find?_eq_none.1 hnone job hjob
    simpa [htype] using hjob
  · exact ⟨rfl, fun _ hr => by simp at hr⟩

theorem triple_ensureJob {job : Job} {report : Err → Err} :
    Triple (fun v => v = w) (env.ensureJob job report) fun _ v =>
      v.jobs = w.jobs ∨ v.jobs = w.jobs.push (w.jobs.live.put job) := by
  have hcreate : Triple (fun v => v = w) (env.createJob job) fun _ v =>
      v.jobs = w.jobs ∨ v.jobs = w.jobs.push (w.jobs.live.put job) := by
    refine .request ?_ (fun v hv => .inl (hv ▸ rfl)) fun _ _ hv => hv
    rintro v rfl
    simp only [run]
    split
    · exact .inl rfl
    · exact .inr rfl
  refine .attemptBind hcreate fun r => ?_
  rcases r with e | ⟨⟩
  · dsimp only
    split
    · exact .pure fun _ hv => hv
    · exact .fail fun _ hv => hv
  · exact .pure fun _ hv => hv

theorem triple_createHookJob {node : String} {jobType : JobType} {nextState : NodeState}
    {u : Upgrade} (h : OneNode w)
    (hshown : ∀ job ∈ w.jobs.live.objs, job.pending → job.node ≠ node →
      ((w.jobs.get env.jobVersion).get job.key).any fun cached => cached.succeeded = 0) :
    Triple (fun v => v = w) (createHookJob c env u node jobType nextState) fun _ => OneNode := by
  have hsame : ∀ (e : Err) (v : World), v = w → OneNode v := fun _ _ hv => hv ▸ h
  refine yields_checkPendingHookJobs.bindTriple (fun _ hpending => ?_) hsame
  refine .bind (Preserves.ofExcept _) (fun _ => ?_) hsame
  -- The jobs that are pending already belong to the node.
  have hother : ∀ job ∈ w.jobs.live.objs, job.pending → job.node = node := by
    intro job hjob hp
    by_contra hne
    obtain ⟨cached, hcached, hzero⟩ := (Option.any_eq_true _ _).1 (hshown job hjob hp hne)
    have hkey : cached.key = job.key := Store.key_of_get hcached
    have htype : cached.type = job.type := congrArg JobKey.type hkey
    refine hpending cached (Store.mem_of_get hcached) ?_ (by simpa using hzero)
    intro hprepare
    simp [Job.pending, Job.isHook, ← htype, hprepare] at hp
  have hjobs : ∀ v : World, v.jobs = w.jobs ∨
      v.jobs = w.jobs.push (w.jobs.live.put (.new jobType node)) → OneNode v := by
    rintro v (heq | heq)
    · exact h.subset fun job hjob _ => heq ▸ hjob
    have hall : ∀ job ∈ v.jobs.live.objs, job.pending → job.node = node := by
      rw [heq, History.live_push]
      exact Store.forall_mem_put (fun _ => rfl) fun job hjob _ => hother job hjob
    intro job hjob job' hjob' hp hp'
    rw [hall job hjob hp, hall job' hjob' hp']
  refine .bind triple_ensureJob (fun _ => ?_) fun _ => hjobs
  exact (preserves_writeUpgrade_of fun _ hv => hv).weaken hjobs fun _ _ hv => hv

theorem OneNode.secretHandler (h : OneNode w) (hshown : JobsShown c w (.secret env secret)) :
    OneNode ((secretHandler c env secret).run w).2 := by
  have hsame : ∀ (v : World), v = w → OneNode v := fun _ hv => hv ▸ h
  have hwrite : ∀ x, Triple (fun v => v = w) (env.writeUpgrade x) fun _ => OneNode :=
    fun x => (preserves_writeUpgrade_of fun _ hv => hv).weaken hsame fun _ _ hv => hv
  unfold Upgrades.secretHandler
  split
  · exact h
  rcases run_ensureSingleUpgrade w with hrun | hrun <;> rw [hrun]
  · split
    · exact h
    split
    · exact h
    next node hnode =>
    have hcreate : ∀ jobType nextState, Triple (fun v => v = w)
        (do
          Action.ofExcept ((w.upgrade.get env.version).checkEligibleToDrain node)
          createHookJob c env (w.upgrade.get env.version) node jobType nextState)
        fun _ => OneNode := fun _ _ => Yields.bindTriple (Yields.ofExcept fun _ h => h)
      (fun _ heligible => triple_createHookJob h (hshown node hnode heligible)) fun _ => hsame
    refine (?_ : Triple (fun v => v = w) _ fun _ => OneNode) w rfl
    unfold drainNode
    split
    · split
      · exact .pure hsame
      · split
        · exact hwrite _
        · exact hcreate _ _
    · split
      · exact .pure hsame
      · exact hwrite _
    · split
      · exact hcreate _ _
      · exact .pure hsame
    · exact .pure hsame
  · exact h

theorem OneNode.change (h : OneNode w) (hchange : Change c w w') : OneNode w' := by
  cases hchange with
  | @job job old hold hrunning =>
    refine h.of_pending fun job' hjob' hp => ?_
    simp only [World.setJobs, History.live_push] at hjob'
    rcases Store.mem_put.1 hjob' with rfl | ⟨hmem, -⟩
    · have hkey : old.key = job'.key := Store.key_of_get hold
      have htype : old.type = job'.type := congrArg JobKey.type hkey
      refine ⟨old, Store.mem_of_get hold, ?_, congrArg JobKey.node hkey⟩
      simp only [Job.pending, Job.isHook, htype, Bool.and_eq_true] at hp ⊢
      exact ⟨hp.1, hrunning⟩
    · exact ⟨job', hmem, hp, rfl⟩
  | removeJob key =>
    refine h.subset fun job hjob _ => ?_
    simp only [World.setJobs, History.live_push] at hjob
    exact (List.mem_filter.1 hjob).1
  | prepareJob node =>
    refine h.subset fun job hjob hp => ?_
    simp only [World.setJobs, History.live_push] at hjob
    rcases Store.mem_put.1 hjob with rfl | ⟨hmem, -⟩
    · simp [Job.pending, Job.isHook, Job.new] at hp
    · exact hmem
  | _ => exact h

theorem OneNode.next (h : OneNode w) (hshown : JobsShown c w ev)
    (hnext : (machine c).next w ev = some w') : OneNode w' := by
  rcases next_cases hnext with ⟨env, m, hreconcile, henv, rfl⟩ | ⟨hreconcile, hchange⟩
  · have heffects := reconcile_effects hreconcile henv
    cases ev with
    | secret env secret =>
      cases hreconcile
      exact h.secretHandler hshown
    | upgrade env f =>
      refine h.effects (fun u job hjob => ?_) heffects
      rcases hjob with htype | ⟨htype, -⟩
      · simp [Job.isHook, htype]
      · simp [Job.isHook, htype]
    | job env f key | node env f node =>
      refine h.effects (fun u job hjob => ?_) heffects
      simp [Job.isHook, show job.type = .restoreVM from hjob]
    | _ => exact h.effects (fun _ _ => False.elim) heffects
  · exact h.change (change_cases hchange)

/-- **One node at a time** has a pending hook job, in every run in which the caches show enough. -/
theorem one_node_at_a_time {w₀ : World} {evs : List Event} (h₀ : OneNode w₀)
    (hshown : (machine c).Along (JobsShown c) w₀ evs) (hrun : (machine c).run w₀ evs = some w) :
    OneNode w :=
  Machine.run_invariant (fun _ _ _ h hshown hnext => h.next hshown hnext) h₀
    hshown hrun

namespace DrainSample

open Sample

/-- Two nodes are ready to be drained. -/
def draining : Upgrade := { upgrade with
  state := some .upgradingNodes
  latest := true
  nodeStatuses := (Store.empty.put ⟨"node-0", .imagesPreloaded, "", ""⟩).put
    ⟨"node-1", .imagesPreloaded, "", ""⟩ }

/-- RKE2 waits for the pre-drain hook of a node. -/
def hookSecret (node : String) : Secret := ⟨node ++ "-machine-plan", some node, "drain", "", "", ""⟩

def jobs (w : World) : List (JobType × String) :=
  w.jobs.live.objs.map fun job => (job.type, job.node)

/-- Both nodes are reconciled with the first Upgrade, the second with the given version of the jobs.
-/
def events (jobVersion : Nat) : List Event :=
  [.secret (answering 0 0 0) (hookSecret "node-0"),
    .secret (answering 0 jobVersion 0) (hookSecret "node-1")]

end DrainSample

open Sample DrainSample in
/-- The second node is not drained, since the cache of jobs shows the job of the first one. -/
theorem one_node_at_a_time_sample :
    ∃ w, (machine cluster).run (world draining) (events 1) = some w ∧
      jobs w = [(.preDrain, "node-0")] ∧ OneNode w := by
  have hshown : (machine cluster).Along (JobsShown cluster) (world draining) (events 1) := by
    decide
  exact ⟨_, Machine.run_get (by decide), by decide,
    one_node_at_a_time (by decide) hshown (Machine.run_get _)⟩

open Sample DrainSample in
/-- **Two nodes at once**: the second reconcile reads the Upgrade and the jobs from before the first
one, and creates its job before it is told that its Upgrade is old. -/
theorem stale_caches_drain_two_nodes :
    OneNode (world draining) ∧
    ∃ w, (machine cluster).run (world draining) (events 0) = some w ∧
      jobs w = [(.preDrain, "node-1"), (.preDrain, "node-0")] ∧ ¬ OneNode w := by
  decide

end Upgrades

end Harvester
