import Harvester.Control.Machine
import Harvester.Node.Promote

/-!
# The size of the control plane

The promote controller in a cluster whose nodes come and go.  Every reconcile sees the nodes as they
are; each of its requests may fail.  `Effect` says what a step does to the cluster, and all
invariants are derived from it.

* At most one promotion is running, in every run.
* The management nodes and the running promotion are three at most (`control_plane_size`), as long
  as no node joins under the name of a node that has left and whose promote job is still there:
  `fourth_management_node`.
* A node whose promotion is running has a promote job (`running_has_job`), as long as the requests
  after the one that marks the node go through: `promotion_stuck`.
-/

namespace Harvester

namespace Promote

open Control Control.Action

/-! ### The system -/

/-- What happens to nodes and jobs. -/
inductive Event where
  /-- `OnNodeChanged`; the cache lists the nodes in any order. -/
  | onNodeChanged (name : String) (nodeList : List Node) (a : Answers)
  | onJobChanged (name : String) (update delete : Fault)
  | onJobRemove (name : String) (update : Fault)
  | jobFinished (name : String) (failed : Bool)
  | jobDeleted (name : String)
  /-- A job that is being deleted is gone. -/
  | jobGone (name : String)
  | join (node : Node)
  | leave (name : String)
  /-- Other properties change.  A node whose promotion is complete becomes a management node. -/
  | change (node : Node)

/-- One step. -/
def Cluster.next (w : Cluster) : Event → Option Cluster
  | .onNodeChanged name nodeList a => do
    let node ← w.nodes.get name
    guard (nodeList.Perm w.nodes.objs)
    return ((onNodeChanged a node nodeList).run w).2
  | .onJobChanged name update delete => do
    let job ← w.jobs.get name
    return ((onJobChanged update delete job (w.nodes.get job.node)).run w).2
  | .onJobRemove name update => do
    let job ← w.jobs.get name
    guard job.deleting
    return ((onJobRemove update job (w.nodes.get job.node)).run w).2
  | .jobFinished name failed => do
    let job ← w.jobs.get name
    guard (!job.complete && !job.failed)
    return { w with jobs := w.jobs.put { job with complete := !failed, failed } }
  | .jobDeleted name => do
    let job ← w.jobs.get name
    return { w with jobs := w.jobs.put { job with deleting := true } }
  | .jobGone name => do
    let job ← w.jobs.get name
    guard job.deleting
    return { w with jobs := w.jobs.delete name }
  | .join node => do
    guard (w.nodes.get node.name = none ∧ isManagementRole node = false ∧ node.promoteStatus = none)
    return { w with nodes := w.nodes.put node }
  | .leave name => some { w with nodes := w.nodes.delete name }
  | .change node => do
    let old ← w.nodes.get node.name
    guard (node.promoteStatus = old.promoteStatus ∧
      (isManagementRole node = true →
        isManagementRole old = true ∨ old.promoteStatus = some .complete))
    return { w with nodes := w.nodes.put node }

/-- The system. -/
def machine : Machine Cluster Event := ⟨Cluster.next⟩

/-- A cluster in which no promotion is going on. -/
structure Cluster.Fresh (w : Cluster) : Prop where
  size : w.nodes.objs.countP isManagementRole ≤ defaultSpecManagementNumber
  settled : ∀ node ∈ w.nodes.objs, node.Settled
  jobs : w.jobs = .empty

/-- The request that marks the node is answered, and the ones for the job are carried out. -/
def Answers.Created (a : Answers) : Prop :=
  a.update ≠ .lost ∧ a.fetchImage = .ok () ∧ a.create ≠ .refused
  deriving Decidable

/-- The promotion of the node is running. -/
def Node.running (node : Node) : Bool := node.promoteStatus = some .running

/-! ### What a step does -/

/-- There is a promote job for the node. -/
def HasJob (jobs : Store Job.node) (name : String) : Prop := ∃ job ∈ jobs.objs, job.node = name

theorem hasJob_put {jobs : Store Job.node} {job : Job} {name : String} :
    HasJob (jobs.put job) name ↔ name = job.node ∨ HasJob jobs name := by
  simp only [HasJob, Store.mem_put]
  grind

theorem hasJob_delete {jobs : Store Job.node} {gone name : String} :
    HasJob (jobs.delete gone) name ↔ HasJob jobs name ∧ name ≠ gone := by
  simp only [HasJob, Store.mem_delete]
  grind

theorem hasJob_of_get {jobs : Store Job.node} {job : Job} {name : String}
    (h : jobs.get name = some job) : HasJob jobs job.node := ⟨job, Store.mem_of_get h, rfl⟩

/-- The jobs after the one of the node may have been added. -/
def Added (name : String) (jobs jobs' : Store Job.node) : Prop :=
  ∀ n, HasJob jobs' n ↔ n = name ∧ HasJob jobs' n ∨ HasJob jobs n

theorem Added.refl (name : String) (jobs : Store Job.node) : Added name jobs jobs :=
  fun _ => (or_iff_right_of_imp And.right).symm

/-- **What a step does to the cluster.** -/
inductive Effect (w : Cluster) (e : Event) : Cluster → Prop
  | jobs {jobs : Store Job.node} (hjobs : ∀ n, HasJob jobs n ↔ HasJob w.jobs n) :
      Effect w e { w with jobs }
  | gone {name : String} (he : e = .jobGone name) : Effect w e { w with jobs := w.jobs.delete name }
  /-- A promotion starts, with or without its job. -/
  | start {node : Node} {jobs : Store Job.node} {name : String} {nodeList : List Node} {a : Answers}
      (he : e = .onNodeChanged name nodeList a) (hmem : node ∈ w.nodes.objs)
      (hrole : isManagementRole node = false) (hsettled : ∀ m ∈ w.nodes.objs, m.Settled)
      (hfew : w.nodes.objs.countP isManagementRole < defaultSpecManagementNumber)
      (hadded : Added node.name w.jobs jobs) (hselected : (selectPromoteNode nodeList).isSome)
      (hmarked : a.update ≠ .refused) (hcreated : a.Created → HasJob jobs node.name) :
      Effect w e ⟨w.nodes.put node.start, jobs⟩
  /-- The outcome of a job is written to the node of its name. -/
  | finish {node : Node} {status : PromoteStatus} (hmem : node ∈ w.nodes.objs)
      (hjob : HasJob w.jobs node.name) (hstatus : status ≠ .running) :
      Effect w e { w with nodes := w.nodes.put (node.finish status) }
  | change {old node : Node} (hmem : old ∈ w.nodes.objs) (hname : node.name = old.name)
      (hstatus : node.promoteStatus = old.promoteStatus)
      (hrole : isManagementRole node = true →
        isManagementRole old = true ∨ old.promoteStatus = some .complete) :
      Effect w e { w with nodes := w.nodes.put node }
  | join {node : Node} (he : e = .join node) (hnew : w.nodes.get node.name = none)
      (hrole : isManagementRole node = false) (hstatus : node.promoteStatus = none) :
      Effect w e { w with nodes := w.nodes.put node }
  | leave {name : String} (he : e = .leave name) :
    Effect w e { w with nodes := w.nodes.delete name }

variable {w w' : Cluster} {e : Event} {node : Node} {name : String}

theorem Effect.refl (w : Cluster) : Effect w e w := .jobs fun _ => Iff.rfl

theorem Effect.putJob {job : Job} (hjob : HasJob w.jobs job.node) :
    Effect w e { w with jobs := w.jobs.put job } :=
  .jobs fun _ => hasJob_put.trans (or_iff_right_of_imp fun hn => hn ▸ hjob)

theorem effect_request {fault : Fault} {err : Err} {m : Action Cluster Err Unit}
    (hm : Effect w e (m.run w).2) : Effect w e ((request fault err m).run w).2 := by
  cases fault with
  | none => exact hm
  | refused => exact Effect.refl w
  | lost => exact hm

theorem effect_setPromoteResult {fault : Fault} {status : PromoteStatus}
    (hget : w.nodes.get name = some node) (hjob : HasJob w.jobs name)
    (hstatus : status ≠ .running) :
    Effect w e ((setPromoteResult fault node status).run w).2 := by
  unfold setPromoteResult Action.when
  split
  · exact effect_request (.finish (Store.mem_of_get hget) (Store.key_of_get hget ▸ hjob) hstatus)
  · exact Effect.refl w

theorem effect_onJobChanged {update delete : Fault} {job : Job} (hjob : HasJob w.jobs job.node) :
    Effect w e ((onJobChanged update delete job (w.nodes.get job.node)).run w).2 := by
  unfold onJobChanged
  split
  · exact Effect.refl w
  cases hget : w.nodes.get job.node with
  | none => exact effect_request (Effect.putJob hjob)
  | some node =>
    split_ifs
    · exact effect_setPromoteResult hget hjob (by simp)
    · exact effect_setPromoteResult hget hjob (by simp)
    · exact Effect.refl w

theorem effect_onJobRemove {update : Fault} {job : Job} (hjob : HasJob w.jobs job.node) :
    Effect w e ((onJobRemove update job (w.nodes.get job.node)).run w).2 := by
  unfold onJobRemove
  split
  · exact Effect.refl w
  cases hget : w.nodes.get job.node with
  | none => exact Effect.refl w
  | some node =>
    dsimp only [Action.when]
    split
    · exact effect_setPromoteResult hget hjob (by simp)
    · exact Effect.refl w

theorem added_createRequest (job : Job) (w : Cluster) :
    ∃ jobs, ((createRequest job).run w).2 = { w with jobs } ∧ Added job.node w.jobs jobs ∧
      HasJob jobs job.node := by
  simp only [run, createRequest]
  cases hget : w.jobs.get job.node with
  | some job' =>
    exact ⟨w.jobs, rfl, .refl _ _, job', Store.mem_of_get hget, Store.key_of_get hget⟩
  | none =>
    refine ⟨w.jobs.put job, rfl, fun n => ?_, hasJob_put.2 (.inl rfl)⟩
    rw [hasJob_put]
    tauto

theorem added_createPromoteJob (a : Answers) (node : Node) (w : Cluster) :
    ∃ jobs, ((createPromoteJob a node).run w).2 = { w with jobs } ∧ Added node.name w.jobs jobs ∧
      (a.Created → HasJob jobs node.name) := by
  unfold createPromoteJob
  cases hfetch : a.fetchImage with
  | error e => exact ⟨w.jobs, rfl, .refl _ _, fun h => by simp [Answers.Created, hfetch] at h⟩
  | ok u =>
    obtain ⟨jobs, hrun, hadded, hjob⟩ := added_createRequest ⟨node.name, false, false, false⟩ w
    cases hcreate : a.create with
    | refused => exact ⟨w.jobs, rfl, .refl _ _, fun h => by simp [Answers.Created, hcreate] at h⟩
    | none => exact ⟨jobs, hrun, hadded, fun _ => hjob⟩
    | lost => exact ⟨jobs, hrun, hadded, fun _ => hjob⟩

theorem Node.Settled.running_eq (h : node.Settled) : node.running = false := by
  rcases h with h | ⟨h, -⟩ <;> simp [Node.running, h]

/-- **The cluster after `promote`.** -/
theorem run_promote (a : Answers) (hsettled : node.Settled) (w : Cluster) :
    ((promote a node).run w).2 = w ∨
      ∃ jobs, ((promote a node).run w).2 = ⟨w.nodes.put node.start, jobs⟩ ∧
        Added node.name w.jobs jobs ∧ a.update ≠ .refused ∧
        (a.Created → HasJob jobs node.name) := by
  have hwhen : setPromoteStart a node = updateNode a.update node.start :=
    if_pos (by simpa [Node.running] using hsettled.running_eq)
  unfold promote
  rw [hwhen]
  cases hupdate : a.update with
  | refused => exact .inl rfl
  | lost =>
    exact .inr ⟨w.jobs, rfl, .refl _ _, by simp, fun h => by simp [Answers.Created, hupdate] at h⟩
  | none =>
    obtain ⟨jobs, hrun, hadded, hjob⟩ :=
      added_createPromoteJob a node { w with nodes := w.nodes.put node.start }
    exact .inr ⟨jobs, hrun, hadded, by simp, hjob⟩

theorem effect_onNodeChanged (a : Answers) {nodeList : List Node} (hmem : node ∈ w.nodes.objs)
    (hperm : nodeList.Perm w.nodes.objs) :
    Effect w (.onNodeChanged name nodeList a) ((onNodeChanged a node nodeList).run w).2 := by
  unfold onNodeChanged
  split
  · exact Effect.refl w
  split
  · exact effect_request (.change hmem rfl rfl .inl)
  split
  · exact Effect.refl w
  cases hselect : selectPromoteNode nodeList with
  | none => exact Effect.refl w
  | some m =>
    dsimp only
    split
    · obtain ⟨hm, hrole, hsettled, hfew⟩ := selectPromoteNode_eq_some hselect
      obtain hrun | ⟨jobs, hrun, hadded, hmarked, hcreated⟩ := run_promote a (hsettled m hm) w
      · rw [hrun]
        exact Effect.refl w
      · rw [hrun]
        rw [hperm.countP_eq] at hfew
        exact .start rfl (hperm.mem_iff.1 hm) hrole
          (fun m' hm' => hsettled m' (hperm.mem_iff.2 hm')) hfew hadded (by simp [hselect]) hmarked
          hcreated
    · exact Effect.refl w

/-- **Every step has one of the effects.** -/
theorem effect_of_next (h : machine.next w e = some w') : Effect w e w' := by
  cases e
  all_goals simp only [machine, Cluster.next, Option.bind_eq_bind, Option.bind_eq_some_iff,
    Option.pure_def, Option.guard_eq_some', Option.some.injEq] at h
  case onNodeChanged name nodeList a =>
    obtain ⟨node, hget, _, hperm, rfl⟩ := h
    exact effect_onNodeChanged a (Store.mem_of_get hget) hperm
  case onJobChanged name update delete =>
    obtain ⟨job, hget, rfl⟩ := h
    exact effect_onJobChanged (hasJob_of_get hget)
  case onJobRemove name update =>
    obtain ⟨job, hget, _, -, rfl⟩ := h
    exact effect_onJobRemove (hasJob_of_get hget)
  case jobFinished name failed =>
    obtain ⟨job, hget, _, -, rfl⟩ := h
    have hjob := hasJob_of_get hget
    exact .putJob hjob
  case jobDeleted name =>
    obtain ⟨job, hget, rfl⟩ := h
    have hjob := hasJob_of_get hget
    exact .putJob hjob
  case jobGone name =>
    obtain ⟨job, -, _, -, rfl⟩ := h
    exact .gone rfl
  case join node =>
    obtain ⟨_, ⟨hnew, hrole, hstatus⟩, rfl⟩ := h
    exact .join rfl hnew hrole hstatus
  case leave name =>
    exact h ▸ .leave rfl
  case change node =>
    obtain ⟨old, hget, _, ⟨hstatus, hrole⟩, rfl⟩ := h
    exact .change (Store.mem_of_get hget) (Store.key_of_get hget).symm hstatus hrole

/-! ### At most one promotion -/

theorem countP_running {nodes : List Node} (h : ∀ m ∈ nodes, m.Settled) :
    nodes.countP Node.running = 0 :=
  List.countP_eq_zero.2 fun m hm => by simp [(h m hm).running_eq]

theorem Node.not_running_finish {status : PromoteStatus} (h : status ≠ .running) :
    ¬ (node.finish status).running = true := by
  simpa [Node.running, Node.finish] using h

theorem Node.running_congr {old : Node} (h : node.promoteStatus = old.promoteStatus) :
    node.running = old.running := by
  simp [Node.running, h]

/-- A promotion is running on at most one node, which is not a management node. -/
structure OneRunning (w : Cluster) : Prop where
  one : w.nodes.objs.countP Node.running ≤ 1
  worker : ∀ node ∈ w.nodes.objs, node.running = true → isManagementRole node = false

theorem OneRunning.put (h : OneRunning w) {old node : Node} (hmem : old ∈ w.nodes.objs)
    (hname : node.name = old.name) (hrunning : node.running = true → old.running = true)
    (hrole : node.running = true → isManagementRole node = false) :
    OneRunning { w with nodes := w.nodes.put node } := by
  refine ⟨?_, Store.forall_mem_put hrole fun u hu _ => h.worker u hu⟩
  exact Nat.le_trans (Store.countP_put_le fun hr => ⟨old, hmem, hname, hrunning hr⟩) h.one

/-- **Every step keeps at most one promotion running.** -/
theorem OneRunning.next (h : OneRunning w) (heffect : Effect w e w') : OneRunning w' := by
  cases heffect with
  | jobs | gone he => exact ⟨h.one, h.worker⟩
  | @start node jobs _ _ _ he hmem hrole hsettled hfew hadded hcreated =>
    have hcount := Store.countP_put_le_succ w.nodes node.start Node.running
    rw [countP_running hsettled] at hcount
    exact ⟨hcount, Store.forall_mem_put (fun _ => hrole) fun u hu _ => h.worker u hu⟩
  | finish hmem hjob hstatus =>
    exact h.put hmem rfl (fun hr => absurd hr (Node.not_running_finish hstatus))
      fun hr => absurd hr (Node.not_running_finish hstatus)
  | @change old node hmem hname hstatus hrole =>
    have heq := Node.running_congr hstatus
    refine h.put hmem hname (fun hr => heq ▸ hr) fun hr => ?_
    have hold := h.worker old hmem (heq ▸ hr)
    by_contra hnew
    rcases hrole (by simpa using hnew) with hmgmt | hcomplete
    · rw [hold] at hmgmt
      exact absurd hmgmt (by simp)
    · rw [heq] at hr
      simp [Node.running, hcomplete] at hr
  | @join node he hnew hrole hstatus =>
    have hnot : node.running ≠ true := by simp [Node.running, hstatus]
    exact ⟨Nat.le_trans (Store.countP_put_le fun hr => absurd hr hnot) h.one,
      Store.forall_mem_put (fun hr => absurd hr hnot) fun u hu _ => h.worker u hu⟩
  | leave he =>
    exact ⟨Nat.le_trans (Store.countP_delete_le _ _ _) h.one, fun u hu =>
      h.worker u (Store.mem_delete.1 hu).1⟩

/-! ### The size -/

/-- The node is a management node, or has been selected, however its promotion goes. -/
def Node.placed (node : Node) : Bool := isManagementRole node || node.promoteStatus.isSome

/-- The management nodes and the workers that may become some are three at most, and the promote
jobs belong to nodes that have been selected. -/
structure Sized (w : Cluster) : Prop where
  size : w.nodes.objs.countP Node.placed ≤ defaultSpecManagementNumber
  jobs : ∀ node ∈ w.nodes.objs, HasJob w.jobs node.name → node.promoteStatus.isSome = true

/-- No node joins under a name for which there is a promote job. -/
def Cluster.Distinct (w : Cluster) : Event → Prop
  | .join node => w.jobs.get node.name = none
  | _ => True

instance (w : Cluster) (e : Event) : Decidable (w.Distinct e) := by
  unfold Cluster.Distinct
  split <;> infer_instance

theorem Sized.put (h : Sized w) {old node : Node} (hmem : old ∈ w.nodes.objs)
    (hname : node.name = old.name) (hplaced : node.placed = true → old.placed = true)
    (hstatus : old.promoteStatus.isSome = true → node.promoteStatus.isSome = true) :
    Sized { w with nodes := w.nodes.put node } := by
  refine ⟨?_, Store.forall_mem_put (fun hjob => ?_) fun u hu _ => h.jobs u hu⟩
  · exact Nat.le_trans (Store.countP_put_le fun hp => ⟨old, hmem, hname, hplaced hp⟩) h.size
  · exact hstatus (h.jobs old hmem (hname ▸ hjob))

theorem countP_placed {nodes : List Node} (h : ∀ m ∈ nodes, m.Settled) :
    nodes.countP Node.placed = nodes.countP isManagementRole := by
  refine List.countP_congr fun m hm => ?_
  rcases h m hm with hstatus | ⟨-, hrole⟩
  · simp [Node.placed, hstatus]
  · simp [Node.placed, hrole]

theorem Sized.start (h : Sized w) {jobs : Store Job.node} (hsettled : ∀ m ∈ w.nodes.objs, m.Settled)
    (hfew : w.nodes.objs.countP isManagementRole < defaultSpecManagementNumber)
    (hadded : Added node.name w.jobs jobs) :
    Sized ⟨w.nodes.put node.start, jobs⟩ := by
  have hplaced := countP_placed hsettled
  refine ⟨?_, Store.forall_mem_put (fun _ => rfl) fun u hu hne hjob => ?_⟩
  · exact Nat.le_trans (Store.countP_put_le_succ _ _ _) (hplaced ▸ hfew)
  · exact h.jobs u hu (((hadded _).1 hjob).resolve_left fun hnew => hne hnew.1)

/-- **Every step keeps the size**, when no node joins under the name of a promote job. -/
theorem Sized.next (h : Sized w) (hdistinct : w.Distinct e) (heffect : Effect w e w') :
    Sized w' := by
  cases heffect with
  | jobs hjobs => exact ⟨h.size, fun u hu hjob => h.jobs u hu ((hjobs _).1 hjob)⟩
  | gone he => exact ⟨h.size, fun u hu hjob => h.jobs u hu (hasJob_delete.1 hjob).1⟩
  | start he hmem hrole hsettled hfew hadded hcreated =>
    exact h.start hsettled hfew hadded
  | finish hmem hjob hstatus =>
    -- The node has a place, since its job is there.
    have hsome := h.jobs _ hmem hjob
    exact h.put hmem rfl (fun _ => by simp [Node.placed, hsome]) fun _ => rfl
  | change hmem hname hstatus hrole =>
    refine h.put hmem hname (fun hplaced => ?_) fun hsome => hstatus ▸ hsome
    simp only [Node.placed, Bool.or_eq_true, hstatus] at hplaced ⊢
    rcases hplaced with hmgmt | hsome
    · exact (hrole hmgmt).imp_right fun hcomplete => by simp [hcomplete]
    · exact .inr hsome
  | @join node he hnew hrole hstatus =>
    subst he
    have hnot : node.placed ≠ true := by simp [Node.placed, hrole, hstatus]
    refine ⟨Nat.le_trans (Store.countP_put_le fun hp => absurd hp hnot) h.size,
      Store.forall_mem_put ?_ fun u hu _ => h.jobs u hu⟩
    rintro ⟨job, hjob, hname⟩
    exact absurd hname (Store.not_mem_of_get_eq_none hdistinct hjob)
  | leave he =>
    exact ⟨Nat.le_trans (Store.countP_delete_le _ _ _) h.size, fun u hu =>
      h.jobs u (Store.mem_delete.1 hu).1⟩

theorem countP_add_countP_le {α : Type} {p q r : α → Bool} {xs : List α}
    (hpq : ∀ x ∈ xs, p x = true → q x = false) (hp : ∀ x, p x = true → r x = true)
    (hq : ∀ x, q x = true → r x = true) : xs.countP p + xs.countP q ≤ xs.countP r := by
  induction xs with
  | nil => exact Nat.le_refl _
  | cons x xs ih =>
    have hxs := ih fun y hy => hpq y (List.mem_cons_of_mem _ hy)
    have hx := hpq x List.mem_cons_self
    simp only [List.countP_cons]
    cases hpx : p x with
    | true => simpa [hx hpx, hp x hpx] using by omega
    | false =>
      cases hqx : q x with
      | true => simpa [hq x hqx] using by omega
      | false => simpa using by omega

/-- **The size of the control plane.**  At most one promotion is running; and as long as no node
joins under a name with a promote job, the management nodes and the nodes that are being promoted
are three at most. -/
theorem control_plane_size {w₀ : Cluster} {events : List Event} (hfresh : w₀.Fresh)
    (hrun : machine.run w₀ events = some w) :
    w.nodes.objs.countP Node.running ≤ 1 ∧
      (machine.Along Cluster.Distinct w₀ events →
        w.nodes.objs.countP isManagementRole + w.nodes.objs.countP Node.running ≤
          defaultSpecManagementNumber) := by
  have hone : OneRunning w := by
    refine Machine.run_invariant (fun _ _ _ h _ hnext => OneRunning.next h (effect_of_next hnext))
      ⟨?_, fun node hnode hrunning => ?_⟩ (Machine.along_true _ _) hrun
    · rw [countP_running hfresh.settled]
      exact Nat.zero_le _
    · simp [(hfresh.settled node hnode).running_eq] at hrunning
  refine ⟨hone.one, fun hdistinct => ?_⟩
  have hsized : Sized w := by
    refine Machine.run_invariant (fun _ _ _ h hd hnext => Sized.next h hd (effect_of_next hnext))
      ⟨?_, fun node _ hjob => ?_⟩ hdistinct hrun
    · rw [countP_placed hfresh.settled]
      exact hfresh.size
    · simp [hfresh.jobs, HasJob, Store.empty] at hjob
  refine Nat.le_trans (countP_add_countP_le ?_ ?_ ?_) hsized.size
  · intro node hnode hrole
    by_contra hrunning
    rw [hone.worker node hnode (by simpa using hrunning)] at hrole
    exact absurd hrole (by simp)
  · intro node hrole
    simp [Node.placed, hrole]
  · intro node hrunning
    have hstatus : node.promoteStatus = some .running := by simpa [Node.running] using hrunning
    simp [Node.placed, hstatus]

namespace Sample

/-- A healthy worker. -/
def worker (name : String) (creationTimestamp : Nat) : Node where
  name
  deleting := false
  typed := true
  creationTimestamp
  master := none
  controlPlane := none
  etcd := none
  managed := true
  mgmtLabel := false
  witnessLabel := false
  workerLabel := false
  zone := ""
  installCordoned := false
  cordonProcessed := false
  maintenanceModeEngaged := false
  conditions := [⟨true, true⟩]
  unschedulable := false
  promoteStatus := none

/-- A management node. -/
def management (node : Node) : Node := { node with controlPlane := some "true" }

def a : Node := management (worker "a" 1)
def b : Node := management (worker "b" 2)
def c : Node := worker "c" 3
def d : Node := worker "d" 4
/-- A node that joins later. -/
def joining : Node := worker "e" 5

/-- Two management nodes and two workers. -/
def cluster : Cluster := ⟨⟨[a, b, c, d], by decide⟩, .empty⟩

/-- The node after its promotion. -/
def promoted (node : Node) : Node := management { node with promoteStatus := some .complete }

/-- Another node joins, and the third one is promoted. -/
def third : List Event :=
  [.join joining, .onNodeChanged "a" [a, b, c, d, joining] .healthy, .jobFinished "c" false,
    .onJobChanged "c" .none .none, .change (promoted c)]

/-- The third node leaves while it is being promoted, the fourth is selected, and the third joins
again. -/
def rejoined : List Event :=
  [.onNodeChanged "a" [a, b, c, d] .healthy, .leave "c", .onNodeChanged "a" [a, b, d] .healthy,
    .join c, .jobFinished "c" false, .onJobChanged "c" .none .none, .change (promoted c)]

theorem cluster_fresh : cluster.Fresh where
  size := by decide
  settled := by
    intro node hnode
    simp only [cluster, List.mem_cons, List.not_mem_nil, or_false] at hnode
    rcases hnode with rfl | rfl | rfl | rfl <;> exact .inl rfl
  jobs := rfl

end Sample

open Sample in
/-- A promotion that goes well. -/
theorem control_plane_size_third : ∃ w, machine.run cluster third = some w ∧
    w.nodes.objs.countP isManagementRole = 3 ∧ w.nodes.objs.countP Node.running ≤ 1 ∧
    w.nodes.objs.countP isManagementRole + w.nodes.objs.countP Node.running ≤
      defaultSpecManagementNumber := by
  have hdistinct : machine.Along Cluster.Distinct cluster third := by
    decide
  have hw := Machine.run_get (by decide : (machine.run cluster third).isSome)
  obtain ⟨hone, hsize⟩ := control_plane_size cluster_fresh hw
  exact ⟨_, hw, by decide, hone, hsize hdistinct⟩

open Sample in
/-- **A fourth management node**: a promotion is running while three nodes have the role. -/
theorem fourth_management_node : ∃ w, machine.run cluster rejoined = some w ∧
    w.nodes.objs.countP isManagementRole = 3 ∧ w.nodes.objs.countP Node.running = 1 := by
  decide

/-! ### Promotions without a job -/

/-- Every node whose promotion is running has a promote job. -/
def Supplied (w : Cluster) : Prop :=
  ∀ node ∈ w.nodes.objs, node.running = true → HasJob w.jobs node.name

/-- When a reconcile selects and marks a node, the requests after that go through, and a job is gone
only when its end has been written to its node. -/
def Cluster.Careful (w : Cluster) : Event → Prop
  | .onNodeChanged _ nodeList a =>
    (selectPromoteNode nodeList).isSome → a.update ≠ .refused → a.Created
  | .jobGone name => ∀ node ∈ w.nodes.objs, node.name = name → node.running = false
  | _ => True

instance (w : Cluster) (e : Event) : Decidable (w.Careful e) := by
  unfold Cluster.Careful
  split <;> infer_instance

theorem forall_running_put (P : String → Prop)
    (h : ∀ node ∈ w.nodes.objs, node.running = true → P node.name) {old : Node}
    (hmem : old ∈ w.nodes.objs) (hname : node.name = old.name)
    (hrunning : node.running = true → old.running = true) :
    ∀ u ∈ (w.nodes.put node).objs, u.running = true → P u.name :=
  Store.forall_mem_put (fun hr => hname ▸ h old hmem (hrunning hr)) fun u hu _ => h u hu

theorem Supplied.next (h : Supplied w) (hcareful : w.Careful e) (heffect : Effect w e w') :
    Supplied w' := by
  cases heffect with
  | jobs hjobs => exact fun u hu hr => (hjobs _).2 (h u hu hr)
  | gone he =>
    subst he
    refine fun u hu hr => hasJob_delete.2 ⟨h u hu hr, fun heq => ?_⟩
    simp [hcareful u hu heq] at hr
  | start he hmem hrole hsettled hfew hadded hselected hmarked hcreated =>
    subst he
    exact Store.forall_mem_put (fun _ => hcreated (hcareful hselected hmarked))
      fun u hu _ hr => (hadded _).2 (.inr (h u hu hr))
  | finish hmem hjob hstatus =>
    exact forall_running_put (HasJob w.jobs) h hmem rfl
      fun hr => absurd hr (Node.not_running_finish hstatus)
  | change hmem hname hstatus hrole =>
    exact forall_running_put (HasJob w.jobs) h hmem hname
      fun hr => Node.running_congr hstatus ▸ hr
  | @join node he hnew hrole hstatus =>
    exact Store.forall_mem_put (fun hr => by simp [Node.running, hstatus] at hr)
      fun u hu _ => h u hu
  | leave he => exact fun u hu hu' => h u (Store.mem_delete.1 hu).1 hu'

/-- **Every node whose promotion is running has a promote job**, in every careful run. -/
theorem running_has_job {w₀ : Cluster} {events : List Event} (hfresh : w₀.Fresh)
    (hcareful : machine.Along Cluster.Careful w₀ events) (hrun : machine.run w₀ events = some w) :
    ∀ node ∈ w.nodes.objs, node.promoteStatus = some .running →
      ∃ job ∈ w.jobs.objs, job.node = node.name := by
  have hsupplied : Supplied w := by
    refine Machine.run_invariant (fun _ _ _ h hc hnext => Supplied.next h hc (effect_of_next hnext))
      (fun node hnode hrunning => ?_) hcareful hrun
    simp [(hfresh.settled node hnode).running_eq] at hrunning
  exact fun node hnode hstatus => hsupplied node hnode (by simp [Node.running, hstatus])

/-- One node alone is being promoted, and it has no promote job. -/
structure Stuck (name : String) (w : Cluster) : Prop where
  running : ∃ node ∈ w.nodes.objs, node.name = name ∧ node.running = true
  alone : ∀ node ∈ w.nodes.objs, node.running = true → node.name = name
  noJob : ∀ job ∈ w.jobs.objs, job.node ≠ name

/-- **A node without a job stays so** until it leaves. -/
theorem Stuck.next (h : Stuck name w) (hstay : e ≠ .leave name) (heffect : Effect w e w') :
    Stuck name w' := by
  have ⟨⟨node, hnode, hname, hrunning⟩, halone, hnoJob⟩ := h
  cases heffect with
  | jobs hjobs =>
    refine ⟨h.running, halone, fun job' hjob' heq => ?_⟩
    obtain ⟨job, hjob, hname⟩ := (hjobs name).1 ⟨job', hjob', heq⟩
    exact hnoJob job hjob hname
  | gone he =>
    exact ⟨h.running, halone, fun job hjob => hnoJob job (Store.mem_delete.1 hjob).1⟩
  | start he hmem hrole hsettled hfew hadded hcreated =>
    -- The selection does not get past the node.
    simp [(hsettled node hnode).running_eq] at hrunning
  | @finish other status hmem hjob hstatus =>
    refine ⟨⟨node, Store.mem_put.2 (.inr ⟨hnode, fun heq => ?_⟩), hname, hrunning⟩, ?_, hnoJob⟩
    · obtain ⟨job, hjob, hother⟩ := hjob
      exact hnoJob job hjob (hother.trans (heq.symm.trans hname))
    · exact forall_running_put (· = name) halone hmem rfl fun hr =>
        absurd hr (Node.not_running_finish hstatus)
  | @change old new hmem hsame hstatus hrole =>
    have hrunning' := Node.running_congr hstatus
    refine ⟨?_, forall_running_put (· = name) halone hmem hsame fun hr => hrunning' ▸ hr, hnoJob⟩
    by_cases heq : node.name = new.name
    · have hold : node = old := Store.eq_of_key hnode hmem (heq.trans hsame)
      subst hold
      exact ⟨new, Store.mem_put_self, hsame.trans hname, hrunning'.trans hrunning⟩
    · exact ⟨node, Store.mem_put.2 (.inr ⟨hnode, heq⟩), hname, hrunning⟩
  | @join new he hnew hrole hstatus =>
    have hne := Store.not_mem_of_get_eq_none hnew hnode
    refine ⟨⟨node, Store.mem_put.2 (.inr ⟨hnode, hne⟩), hname, hrunning⟩,
      Store.forall_mem_put (fun hr => ?_) fun u hu _ => halone u hu, hnoJob⟩
    simp [Node.running, hstatus] at hr
  | @leave other he =>
    refine ⟨⟨node, Store.mem_delete.2 ⟨hnode, fun heq => hstay ?_⟩, hname, hrunning⟩, ?_, hnoJob⟩
    · rw [he, ← hname, heq]
    · exact fun u hu hu' => halone u (Store.mem_delete.1 hu).1 hu'

instance (name : String) (w : Cluster) : Decidable (Stuck name w) :=
  decidable_of_iff (_ ∧ _ ∧ _) ⟨fun h => ⟨h.1, h.2.1, h.2.2⟩, fun h => ⟨h.1, h.2, h.3⟩⟩

namespace Sample

/-- The image of the job cannot be found. -/
def noImage : Answers := { Answers.healthy with fetchImage := .error (.other "no image") }

end Sample

open Sample in
/-- While the third node is being promoted, its job is there. -/
theorem running_has_job_third : ∃ w,
    machine.run cluster [.onNodeChanged "a" [a, b, c, d] .healthy] = some w ∧
      ∃ node ∈ w.nodes.objs, node.promoteStatus = some .running ∧
        ∃ job ∈ w.jobs.objs, job.node = node.name := by
  have hcareful : machine.Along Cluster.Careful cluster
      [.onNodeChanged "a" [a, b, c, d] .healthy] := by
    decide
  exact ⟨_, Machine.run_get (by decide), c.start, by decide, rfl,
    running_has_job cluster_fresh hcareful (Machine.run_get _) _ (by decide) rfl⟩

open Sample in
/-- **A promotion that is stuck**: the image is not found once.  Whatever follows, the node never
has a job, and no other node is promoted. -/
theorem promotion_stuck : ∃ w,
    machine.run cluster [.onNodeChanged "a" [a, b, c, d] noImage] = some w ∧
      (∃ node ∈ w.nodes.objs, node.name = "c" ∧ node.promoteStatus = some .running ∧
        node.unschedulable = true) ∧
      ∀ events w', machine.Along (fun _ e => e ≠ .leave "c") w events →
        machine.run w events = some w' → Stuck "c" w' := by
  refine ⟨_, Machine.run_get (by decide), by decide, fun events w' hstay hrun' => ?_⟩
  exact Machine.run_invariant (fun _ _ _ h hs hnext => Stuck.next h hs (effect_of_next hnext))
    (by decide) hstay hrun'

end Promote

end Harvester
