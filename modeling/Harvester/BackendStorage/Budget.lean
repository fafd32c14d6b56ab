import Harvester.BackendStorage.Runs

/-!
# The number of copy jobs

A job that has failed is deleted, and then the retry is counted by an update of the VM.  When the
update does not come about, the next reconcile starts a job for free (`jobs_uncounted`).

`Budget`: as long as the clone is open, the number of jobs that have been created is the count, and
one more while a job is there that is not being deleted.  Every step keeps it in which the deletion
of a job is recorded (`World.Safe`), and it gives the bound (`clone_after_copy`).
-/

namespace Harvester

namespace BackendStorage

open Control Control.Action

/-! ### Steps that are recorded -/

/-- The controller may still create jobs for the clone. -/
def Open (vm : VM) : Prop :=
  vm.deleting = false ∧ vm.annotations.status = some .inProgress ∧
    vm.annotations.stage ≠ some .preCompleted
  deriving Decidable

/-- A move that leaves the VM alone and deletes no job. -/
def Move.calm : Move → Bool
  | .jobStatus _ _ => true
  | .jobGone _ => true
  | _ => false

/-- Deletions of jobs are carried out and answered, and updates of the VM are carried out. -/
def Call.recorded : Call → Fault → Bool
  | .deleteJob _, fault => fault = .none
  | .updateVM, fault => fault ≠ .refused
  | _, _ => true

/-- A reconcile that records what it deletes. -/
def Env.Recorded (env : Env) : Prop :=
  ∀ p ∈ env.slots, p.2.meanwhile.all Move.calm = true ∧ p.1.recorded p.2.fault = true
  deriving Decidable

/-- As long as the clone is open, a reconcile starts from the current VM and records what it
deletes, and the TTL controller deletes no job of it. -/
def World.Safe (w : World) : Event → Prop
  | .reconcile v env => v = w.vms.now ∧ (Open w.vms.live → env.Recorded)
  | .move (.jobExpired name) =>
    Open w.vms.live → ∀ job ∈ w.jobs.objs, job.name = name → ¬ Own w.vms.live job
  | _ => True

instance (w : World) (e : Event) : Decidable (w.Safe e) := by
  unfold World.Safe
  split <;> infer_instance

theorem Env.Recorded.slot {env : Env} (h : env.Recorded) (c : Call) :
    (∀ mv ∈ (env.slot c).meanwhile, mv.calm = true) ∧ c.recorded (env.slot c).fault = true := by
  unfold Env.slot
  cases hlookup : env.slots.lookup c with
  | none => exact ⟨by simp, by cases c <;> rfl⟩
  | some slot =>
    obtain ⟨before, after, hslots, -⟩ := List.lookup_eq_some_iff.1 hlookup
    obtain ⟨hcalm, hrecorded⟩ := h (c, slot) (by simp [hslots])
    exact ⟨List.all_eq_true.1 hcalm, hrecorded⟩

/-! ### Jobs that go on -/

/-- What a job is made of. -/
def Job.base (job : Job) : Job := { job with deleting := false, conditions := [] }

theorem own_congr {vm : VM} {job job' : Job} (h : job.base = job'.base) :
    Own vm job ↔ Own vm job' := by
  show Own vm job.base ↔ Own vm job'.base
  rw [h]

/-- No job is new, and neither the VM nor the number of jobs has changed. -/
structure Inherits (w w' : World) : Prop where
  vms : w'.vms = w.vms
  created : w'.created = w.created
  jobs : ∀ job' ∈ w'.jobs.objs, ∃ job ∈ w.jobs.objs, job.base = job'.base

section

variable {w w' : World}

theorem Inherits.refl (w : World) : Inherits w w := ⟨rfl, rfl, fun job hjob => ⟨job, hjob, rfl⟩⟩

theorem Inherits.putJob {job : Job} (job' : Job) (hjob : job ∈ w.jobs.objs)
    (hbase : job.base = job'.base) (succeeded : List Nat) :
    Inherits w { w.putJob job' with succeeded } := by
  refine ⟨rfl, rfl, fun u hu => ?_⟩
  rcases Store.mem_put.1 hu with rfl | ⟨hu, -⟩
  · exact ⟨job, hjob, hbase⟩
  · exact ⟨u, hu, rfl⟩

theorem inherits_deleteRequest (name : Nat) : Inherits w ((deleteRequest name).run w).2 := by
  simp only [run, deleteRequest]
  split
  · exact Inherits.refl w
  · next job hget =>
    exact Inherits.putJob { job with deleting := true } (Store.mem_of_get hget) rfl w.succeeded

theorem inherits_move {mv : Move} (hcalm : mv.calm = true) : Inherits w (w.move mv) := by
  cases mv with
  | jobStatus name conditions =>
    cases hget : w.jobs.get name with
    | none => simpa only [World.move, hget] using Inherits.refl w
    | some job =>
      simp only [World.move, hget]
      exact Inherits.putJob { job with conditions } (Store.mem_of_get hget) rfl _
  | jobGone name => exact ⟨rfl, rfl, fun job hjob => ⟨job, List.mem_of_mem_filter hjob, rfl⟩⟩
  | jobExpired name | vmChanged | vmDeleted => simp [Move.calm] at hcalm

theorem eq_of_get {name : Nat} {job u : Job} (hget : w.jobs.get name = some job)
    (hu : u ∈ w.jobs.objs) (hname : u.name = name) : u = job := by
  have hget' := Store.get_of_mem hu
  rw [hname, hget] at hget'
  exact (Option.some.inj hget').symm

end

/-! ### The budget -/

section

variable (vm₀ : VM) (w : World)

/-- The jobs of the clone are found by their labels. -/
def Labelled : Prop :=
  ∀ job ∈ w.jobs.objs, Own vm₀ job →
    job.vmLabel = some vm₀.name ∧ job.generatedBy = some generatedByHarvester

/-- All jobs of the clone are being deleted. -/
def Idle : Prop := ∀ job ∈ w.jobs.objs, Own vm₀ job → job.deleting = true

/-- No more than `n` jobs of the clone have been created, and the VM is in `P`. -/
structure Held (P : History VM → Prop) (n : Int) (w : World) : Prop where
  labelled : Labelled vm₀ w
  created : (w.created.length : Int) ≤ n
  vms : P w.vms

/-- A handler has read the current VM, and all jobs are counted but for the one that is there. -/
structure Started (v : Nat) (vm : VM) (w : World) : Prop where
  labelled : Labelled vm₀ w
  now : w.vms.now = v
  live : w.vms.live = vm
  retries : vm.retries ≤ maxBackendStorageCloneRetries
  counted : (w.created.length : Int) ≤ vm.retries + 1
  idle : Idle vm₀ w → (w.created.length : Int) ≤ vm.retries

/-- The clone is over. -/
def Closed : Prop := Held vm₀ (fun vms => ¬ Open vms.live) (maxBackendStorageCloneRetries + 1) w

/-- **The jobs that have been created and the count of retries.** -/
structure Budget : Prop where
  labelled : Labelled vm₀ w
  total : (w.created.length : Int) ≤ maxBackendStorageCloneRetries + 1
  started : Open w.vms.live → Started vm₀ w.vms.now w.vms.live w

end

section

variable {vm₀ vm vm' : VM} {v : Nat} {n : Int} {S : Prop} {w w' : World} {env : Env} {c : Call}
  {P : History VM → Prop}

theorem Started.budget (h : Started vm₀ v vm w) : Budget vm₀ w := by
  have hretries := h.retries
  have hcounted := h.counted
  obtain ⟨rfl, rfl⟩ := And.intro h.now h.live
  exact ⟨h.labelled, by omega, fun _ => h⟩

theorem Closed.budget (h : Closed vm₀ w) : Budget vm₀ w :=
  ⟨h.labelled, h.created, fun hopen => absurd hopen h.vms⟩

theorem Budget.closed (h : Budget vm₀ w) (hclosed : ¬ Open w.vms.live) : Closed vm₀ w :=
  ⟨h.labelled, h.total, hclosed⟩

theorem Inherits.labelled (h : Inherits w w') (hw : Labelled vm₀ w) : Labelled vm₀ w' := by
  intro job' hjob' hown
  obtain ⟨job, hjob, hbase⟩ := h.jobs job' hjob'
  obtain ⟨hlabel, hgenerated⟩ := hw job hjob ((own_congr hbase).2 hown)
  exact ⟨(congrArg Job.vmLabel hbase).symm.trans hlabel,
    (congrArg Job.generatedBy hbase).symm.trans hgenerated⟩

theorem Inherits.held (h : Inherits w w') (hw : Held vm₀ P n w) : Held vm₀ P n w' :=
  ⟨h.labelled hw.labelled, by rw [h.created]; exact hw.created, by rw [h.vms]; exact hw.vms⟩

theorem Inherits.started (h : Inherits w w') (hidle : Idle vm₀ w' → Idle vm₀ w)
    (hw : Started vm₀ v vm w) : Started vm₀ v vm w' := by
  refine ⟨h.labelled hw.labelled, h.vms ▸ hw.now, h.vms ▸ hw.live, hw.retries, ?_, ?_⟩
  · rw [h.created]
    exact hw.counted
  · rw [h.created]
    exact fun hw' => hw.idle (hidle hw')

theorem idle_of_move {mv : Move} (hcalm : mv.calm = true) (h : Idle vm₀ (w.move mv)) :
    Idle vm₀ w := by
  intro job hjob hown
  cases mv with
  | jobStatus name conditions =>
    cases hget : w.jobs.get name with
    | none =>
      simp only [World.move, hget] at h
      exact h job hjob hown
    | some target =>
      simp only [World.move, hget] at h
      by_cases hname : job.name = name
      · obtain rfl := eq_of_get hget hjob hname
        exact h { job with conditions } (Store.mem_put.2 (.inl rfl)) hown
      · have hkey : target.name = name := Store.key_of_get hget
        exact h job (Store.mem_put.2 (.inr ⟨hjob, fun heq => hname (heq.trans hkey)⟩)) hown
  | jobGone name =>
    by_contra hdeleting
    have hstays : job ∈ (w.move (.jobGone name)).jobs.objs :=
      List.mem_filter.2 ⟨hjob, by simp [hdeleting]⟩
    simp [h job hstays hown] at hdeleting
  | jobExpired name | vmChanged | vmDeleted => simp [Move.calm] at hcalm

theorem Started.move {mv : Move} (hcalm : mv.calm = true) (h : Started vm₀ v vm w) :
    Started vm₀ v vm (w.move mv) :=
  (inherits_move hcalm).started (idle_of_move hcalm) h

theorem Started.held (h : Started vm₀ v vm w) :
    Held vm₀ (·.now = v) (maxBackendStorageCloneRetries + 1) w :=
  ⟨h.labelled, h.budget.total, h.now⟩

theorem Started.create (h : Started vm₀ v vm w) (hversion : Version vm₀ S vm) (hopen : Open vm)
    (hroom : (w.created.length : Int) ≤ vm.retries) :
    Started vm₀ v vm ((createRequest vm).run w).2 := by
  have hown : Own vm₀ (newJob vm w.nextName) := (hversion.own_iff hopen.2.1).1 (own_newJob _ _)
  refine ⟨fun job hjob hjob' => ?_, h.now, h.live, h.retries, ?_, fun hidle => ?_⟩
  · rcases Store.mem_put.1 hjob with rfl | ⟨hjob, -⟩
    · exact ⟨congrArg some hversion.name, rfl⟩
    · exact h.labelled job hjob hjob'
  · simpa [run, createRequest] using hroom
  · -- The new job is not being deleted.
    have hdeleting := hidle _ (Store.mem_put.2 (.inl rfl)) hown
    simp [newJob] at hdeleting

/-! ### What a list of jobs says -/

/-- What a list of jobs says about the jobs there are. -/
structure Listed (vm₀ vm : VM) (jobs : List Job) (w : World) : Prop where
  foreign : ∀ job ∈ jobs, ¬ Own vm₀ job → ∀ u ∈ w.jobs.objs, u.name = job.name → ¬ Own vm₀ u
  clear : (∀ job ∈ jobs, ¬ Own vm₀ job) → (w.created.length : Int) ≤ vm.retries

theorem Inherits.listed {jobs : List Job} (h : Inherits w w') (hw : Listed vm₀ vm jobs w) :
    Listed vm₀ vm jobs w' := by
  refine ⟨fun job hjob hforeign u' hu' hname hown => ?_, fun hclear => ?_⟩
  · obtain ⟨u, hu, hbase⟩ := h.jobs u' hu'
    exact hw.foreign job hjob hforeign u hu ((congrArg Job.name hbase).trans hname)
      ((own_congr hbase).2 hown)
  · rw [h.created]
    exact hw.clear hclear

theorem listed_of_filter (h : Started vm₀ v vm w) (hname : vm.name = vm₀.name) :
    Listed vm₀ vm (w.jobs.objs.filter fun job =>
      job.vmLabel = some vm.name && job.generatedBy = some generatedByHarvester) w := by
  refine ⟨fun job hjob hforeign u hu hu' => ?_, fun hclear => ?_⟩
  · rwa [eq_of_get (Store.get_of_mem (List.mem_of_mem_filter hjob)) hu hu']
  refine h.idle fun job hjob hown => absurd hown (hclear job ?_)
  obtain ⟨hlabel, hgenerated⟩ := h.labelled job hjob hown
  exact List.mem_filter.2 ⟨hjob, by simp [hlabel, hgenerated, hname]⟩

theorem idle_of_deleteRequest {name : Nat}
    (hforeign : ∀ u ∈ w.jobs.objs, u.name = name → ¬ Own vm₀ u)
    (h : Idle vm₀ ((deleteRequest name).run w).2) : Idle vm₀ w := by
  intro job hjob hown
  have hne : job.name ≠ name := fun heq => hforeign job hjob heq hown
  simp only [run, deleteRequest] at h
  split at h
  · exact h job hjob hown
  · next target hget =>
    have hkey : target.name = name := Store.key_of_get hget
    exact h job (Store.mem_put.2 (.inr ⟨hjob, fun heq => hne (heq.trans hkey)⟩)) hown

/-! ### Clones that are over -/

theorem Closed.pushVM (h : Closed vm₀ w) (hclosed : ¬ Open vm') : Closed vm₀ (w.pushVM vm') :=
  ⟨h.labelled, h.created, by rwa [World.pushVM, History.live_push]⟩

theorem stable_closed : Stable (Closed vm₀) := by
  have hdelete : ∀ name, Preserves (Closed vm₀) (deleteRequest name) :=
    fun name _ hw => (inherits_deleteRequest name).held hw
  refine ⟨fun mv w h => ?_, hdelete⟩
  cases mv with
  | jobStatus name conditions | jobGone name => exact (inherits_move rfl).held h
  | jobExpired name =>
    rcases move_jobExpired w name with heq | heq <;> rw [heq]
    · exact h
    · exact hdelete name w h
  | vmChanged => exact h.pushVM h.vms
  | vmDeleted => exact h.pushVM (by simp [Open])

theorem closed_completeBackendStorageClone :
    Preserves (Closed vm₀) (completeBackendStorageClone env v vm) := by
  refine (stable_closed.call fun w hw => ?_).mapError
  simp only [run, updateRequest]
  split
  · exact hw.pushVM (by simp [Open, cleanUpBSCloneAnnotations])
  · exact hw

theorem closed_reconcileBackendStorageClone (hclosed : ¬ Open vm) :
    Preserves (Closed vm₀) (reconcileBackendStorageClone env v vm) := by
  unfold reconcileBackendStorageClone
  split
  · exact .pure ()
  next hneeds =>
  split
  · exact stable_closed.finalize closed_completeBackendStorageClone
  next hstage =>
  simp only [needsBackendStorageCloneReconcile, Bool.not_eq_false, Bool.and_eq_true,
    Bool.not_eq_true', decide_eq_true_eq] at hneeds
  exact absurd ⟨hneeds.1.1.1.1, hneeds.1.1.2, hstage⟩ hclosed

/-! ### Requests of a reconcile that records what it deletes -/

section

variable (hrec : env.Recorded)
include hrec

theorem written_update (vm' : VM) :
    Triple (Held vm₀ (·.now = v) n) (update env v vm') fun _ => Held vm₀ (·.live = vm') n := by
  obtain ⟨hcalm, hfault⟩ := hrec.slot .updateVM
  have hwrite : Triple (Held vm₀ (·.now = v) n) (updateRequest v vm') fun _ =>
      Held vm₀ (·.live = vm') n := by
    intro w hw
    have hrun : (updateRequest v vm').run w = (.ok (), w.pushVM vm') := if_pos hw.vms.symm
    rw [hrun]
    exact ⟨hw.labelled, hw.created, History.live_push _ _⟩
  have hcall : Triple (Held vm₀ (·.now = v) n) (env.call .updateVM (updateRequest v vm')) fun _ =>
      Held vm₀ (·.live = vm') n := by
    refine triple_call (fun mv hmv _ hw => (inherits_move (hcalm mv hmv)).held hw) ?_
    refine .requestCases (fun _ => hwrite) (fun hrefused => ?_) fun _ => hwrite
    simp [Call.recorded, hrefused] at hfault
  exact hcall.mapError fun _ _ hw => hw

theorem update_closes (hclosed : ¬ Open vm') :
    Triple (Held vm₀ (·.now = v) (maxBackendStorageCloneRetries + 1)) (update env v vm')
      fun _ => Closed vm₀ :=
  (written_update hrec vm').weaken (fun _ hw => hw) fun _ _ hw =>
    ⟨hw.labelled, hw.created, hw.vms ▸ hclosed⟩

/-! ### Lists of jobs -/

theorem started_list :
    Preserves (Started vm₀ v vm) (mapError Halt.error (env.call c (listRequest vm))) :=
  preserves_list fun mv hmv _ hw => hw.move ((hrec.slot c).1 mv hmv)

theorem listed_list (hname : vm.name = vm₀.name) :
    Ensures (Started vm₀ v vm) (mapError Halt.error (env.call c (listRequest vm)))
      (Listed vm₀ vm) := by
  refine .mapError (triple_call (fun mv hmv _ hw => hw.move ((hrec.slot c).1 mv hmv))
    (Ensures.request fun w hw jobs hjobs => ?_))
  cases hjobs
  exact listed_of_filter hw hname

theorem started_deleteStale {jobs : List Job} {job : Job} (hjob : job ∈ jobs)
    (hforeign : ¬ Own vm₀ job) :
    Preserves (fun w => Started vm₀ v vm w ∧ Listed vm₀ vm jobs w) (delete env c job.name) := by
  refine preserves_delete (fun mv hmv _ hw => ?_) fun w hw => ?_
  · have hcalm := (hrec.slot c).1 mv hmv
    exact ⟨hw.1.move hcalm, (inherits_move hcalm).listed hw.2⟩
  have hinherits := inherits_deleteRequest (w := w) job.name
  have hidle : Idle vm₀ ((deleteRequest job.name).run w).2 → Idle vm₀ w :=
    idle_of_deleteRequest (hw.2.foreign job hjob hforeign)
  exact ⟨hinherits.started hidle hw.1, hinherits.listed hw.2⟩

theorem started_getCurrentBackendStorageJob (hversion : Version vm₀ S vm)
    (hopen : Open vm) {deleteStale : Nat → Call} :
    Triple (Started vm₀ v vm) (getCurrentBackendStorageJob env c deleteStale vm)
      (Finds (Started vm₀ v vm) (fun _ _ => True)
        fun w => (w.created.length : Int) ≤ vm.retries) := by
  refine .bind ((started_list hrec).and (listed_list hrec hversion.name))
    (fun jobs => ?_) fun e w hw => ⟨hw.1, by simp, by simp⟩
  have hown : ∀ job, Own vm job ↔ Own vm₀ job := fun job => hversion.own_iff hopen.2.1
  have hscan : Yields (fun w => Started vm₀ v vm w ∧ Listed vm₀ vm jobs w)
      (Scan vm jobs none false) (scanJobs env deleteStale vm jobs none false) :=
    yields_scanJobs (fun job hjob hforeign =>
      started_deleteStale hrec hjob (mt (hown job).2 hforeign)) none false
  refine hscan.weaken (fun w hw => ⟨hw.1, hw.2 jobs rfl⟩) fun r w hw =>
    ⟨hw.1.1, fun _ _ _ => True.intro, fun hr => ?_⟩
  obtain ⟨-, -, hclear⟩ := (hw.2 _ hr).clear rfl
  exact hw.1.2.clear fun job hjob => mt (hown job).2 (hclear job hjob)

/-! ### Creating a job -/

theorem started_createJob (hversion : Version vm₀ S vm) (hopen : Open vm) :
    Triple (fun w => Started vm₀ v vm w ∧ (w.created.length : Int) ≤ vm.retries)
      (createJob env vm) fun _ => Started vm₀ v vm := by
  refine .bind (Q := fun _ w => Started vm₀ v vm w ∧ (w.created.length : Int) ≤ vm.retries)
    (Triple.ofExcept fun w hw => hw) (fun _ => ?_) fun _ _ hw => hw.1
  have hcall : Triple (fun w => Started vm₀ v vm w ∧ (w.created.length : Int) ≤ vm.retries)
      (env.call .createJob (createRequest vm)) fun _ => Started vm₀ v vm := by
    refine triple_call (fun mv hmv w hw => ?_) ?_
    · have hcalm := (hrec.slot .createJob).1 mv hmv
      refine ⟨hw.1.move hcalm, ?_⟩
      rw [(inherits_move hcalm).created]
      exact hw.2
    · exact .request (fun w hw => hw.1.create hversion hopen hw.2) (fun w hw => hw.1)
        fun _ _ hw => hw
  exact hcall

/-! ### Deleting jobs of the clone -/

theorem held_delete (name : Nat) :
    Triple (Held vm₀ P n) (delete env (.deleteJob name) name)
      (Ends (fun _ => False) fun _ => Held vm₀ P n) := by
  obtain ⟨hcalm, hfault⟩ := hrec.slot (.deleteJob name)
  have hnone : (env.slot (.deleteJob name)).fault = .none := by
    simpa [Call.recorded] using hfault
  have hcall : Triple (Held vm₀ P n) (env.call (.deleteJob name) (deleteRequest name)) fun r w =>
      (∀ e, r = .error e → e.isNotFound = true) ∧ Held vm₀ P n w := by
    refine triple_call (fun mv hmv _ hw => (inherits_move (hcalm mv hmv)).held hw) ?_
    rw [hnone]
    refine fun w hw => ⟨fun e he => ?_, (inherits_deleteRequest name).held hw⟩
    simp only [request, run, deleteRequest] at he
    split at he
    · obtain rfl := Except.error.inj he
      rfl
    · simp at he
  refine .attemptBind hcall fun r => ?_
  rcases r with e | ⟨⟩
  · intro w hw
    simp only [hw.1 e rfl]
    exact hw.2
  · exact fun w hw => hw.2

theorem held_deleteOwnedJobs (vm' : VM) (jobs : List Job) :
    Triple (Held vm₀ P n) (deleteOwnedJobs env vm' jobs)
      (Ends (fun _ => False) fun _ => Held vm₀ P n) := by
  induction jobs with
  | nil => exact .pure fun w hw => hw
  | cons job jobs ih =>
    have hjob : Triple (Held vm₀ P n) (Action.when (isOwnedByVM vm' job.ownerUIDs)
        (delete env (.deleteJob job.name) job.name))
      (Ends (fun _ => False) fun _ => Held vm₀ P n) :=
      .when (fun _ => held_delete hrec job.name) fun _ w hw => hw
    exact hjob.andThen fun _ => ih

/-- A clone that fails: its jobs are deleted and its end is recorded, or nothing happens. -/
theorem budget_failBackendStorageClone :
    Triple (Started vm₀ v vm) (failBackendStorageClone env v vm) fun _ => Budget vm₀ := by
  have hjobs : Triple (Started vm₀ v vm) (deleteBackendStorageCloneJobs env vm)
      (Ends (Budget vm₀) fun _ => Held vm₀ (·.now = v) (maxBackendStorageCloneRetries + 1)) := by
    refine .bind (started_list hrec) (fun jobs => ?_) fun e w hw => hw.budget
    refine (held_deleteOwnedJobs hrec vm jobs).weaken (fun w hw => hw.held) ?_
    rintro (e | ⟨⟩) w hw
    · exact False.elim hw
    · exact hw
  refine .bind hjobs (fun _ => ?_) fun _ _ hw => hw
  exact (update_closes hrec (by simp [Open, cleanUpBSCloneAnnotations])).weaken
    (fun _ hw => hw) fun _ _ hw => hw.budget

theorem budget_completeBackendStorageClone :
    Triple (Started vm₀ v vm) (completeBackendStorageClone env v vm) fun _ => Budget vm₀ := by
  exact (update_closes hrec (by simp [Open, cleanUpBSCloneAnnotations])).weaken
    (fun w hw => hw.held) fun _ _ hw => hw.budget

theorem budget_handleBackendStorageCloneJobFailure (job : Job) :
    Triple (Started vm₀ v vm) (handleBackendStorageCloneJobFailure env v vm job)
      fun _ => Budget vm₀ := by
  unfold handleBackendStorageCloneJobFailure
  split
  · exact budget_failBackendStorageClone hrec
  next hretries =>
  refine .weaken (P := Held vm₀ (·.now = v) (vm.retries + 1)) ?_
    (fun w hw => ⟨hw.labelled, hw.counted, hw.now⟩) fun _ _ hw => hw
  refine .bind (held_delete hrec job.name) (fun _ => ?_) fun _ _ => False.elim
  refine (written_update hrec vm.retry).weaken (fun _ hw => hw) fun _ w hw => ?_
  have hcount : vm.retry.retries = vm.retries + 1 := rfl
  have hcreated := hw.created
  have hcounted : Started vm₀ w.vms.now vm.retry w :=
    ⟨hw.labelled, rfl, hw.vms, by omega, by omega, fun _ => by omega⟩
  exact hcounted.budget

theorem budget_handleBackendStorageCloneJobSuccess (job : Job) :
    Triple (Started vm₀ v vm) (handleBackendStorageCloneJobSuccess env v vm job)
      fun _ => Budget vm₀ := by
  have hrecord : Triple (Started vm₀ v vm) (update env v vm.preCompleted) fun _ => Closed vm₀ :=
    (update_closes hrec (by simp [Open, VM.preCompleted])).weaken (fun _ hw => hw.held)
      fun _ _ hw => hw
  exact .bind hrecord (fun _ => (stable_closed.deleteJob job.name).weaken (fun _ hw => hw)
    fun _ _ hw => hw.budget) fun _ _ hw => hw.budget

theorem budget_followJob (job : Job) :
    Triple (Started vm₀ v vm) (followJob env v vm job) fun _ => Budget vm₀ := by
  unfold followJob
  split
  · exact .pure fun w hw => hw.budget
  · exact budget_handleBackendStorageCloneJobFailure hrec job
  · exact budget_handleBackendStorageCloneJobSuccess hrec job

theorem budget_reconcileBackendStorageClone (hversion : Version vm₀ S vm)
    (hopen : Open vm) :
    Triple (Started vm₀ v vm) (reconcileBackendStorageClone env v vm) fun _ => Budget vm₀ := by
  refine triple_reconcileBackendStorageClone (fun w hw => hw.budget) fun _ =>
    ⟨fun hstage => absurd hstage hopen.2.2, budget_failBackendStorageClone hrec,
      fun _ => budget_completeBackendStorageClone hrec,
      started_getCurrentBackendStorageJob hrec hversion hopen, ?_, fun job => ?_⟩
  · exact (started_createJob hrec hversion hopen).weaken (fun _ hw => hw) fun _ _ hw =>
      ⟨hw, fun _ _ => True.intro⟩
  · exact (budget_followJob hrec job).weaken (fun _ hw => hw.1) fun _ _ hw => hw

end

/-! ### Runs -/

theorem Budget.move (h : Budget vm₀ w) (hgenuine : Genuine vm₀ w) {mv : Move}
    (hsafe : w.Safe (.move mv)) : Budget vm₀ (w.move mv) := by
  by_cases hopen : Open w.vms.live
  · have hstarted := h.started hopen
    cases mv with
    | jobStatus name conditions | jobGone name => exact (hstarted.move rfl).budget
    | jobExpired name =>
      -- The job is none of the clone's, so that the ones of the clone stay.
      have hforeign : ∀ u ∈ w.jobs.objs, u.name = name → ¬ Own vm₀ u := fun u hu hu' =>
        mt (hgenuine.versions.live.own_iff hopen.2.1).2 (hsafe hopen u hu hu')
      rcases move_jobExpired w name with heq | heq <;> rw [heq]
      · exact h
      · exact ((inherits_deleteRequest name).started (idle_of_deleteRequest hforeign)
          hstarted).budget
    | vmChanged =>
      have hpushed : Started vm₀ (w.vms.now + 1) w.vms.live (w.pushVM w.vms.live) :=
        ⟨h.labelled, rfl, History.live_push _ _, hstarted.retries, hstarted.counted, hstarted.idle⟩
      exact hpushed.budget
    | vmDeleted =>
      exact Closed.budget ⟨h.labelled, h.total, by simp [World.move, World.pushVM, Open]⟩
  · exact (stable_closed.move mv w (h.closed hopen)).budget

/-- **Every step that records what it deletes keeps the budget.** -/
theorem Budget.next (h : Budget vm₀ w) (hgenuine : Genuine vm₀ w) {e : Event} (hsafe : w.Safe e)
    (hnext : machine.next w e = some w') : Budget vm₀ w' := by
  cases e with
  | reconcile v env =>
    simp only [machine, World.next, Machine.guarded_eq_some] at hnext
    obtain ⟨-, rfl⟩ := hnext
    obtain ⟨rfl, hrec⟩ := hsafe
    by_cases hopen : Open w.vms.live
    · exact budget_reconcileBackendStorageClone (hrec hopen) hgenuine.versions.live hopen w
        (h.started hopen)
    · exact (closed_reconcileBackendStorageClone hopen w (h.closed hopen)).budget
  | remove v env =>
    simp only [machine, World.next, Machine.guarded_eq_some] at hnext
    obtain ⟨⟨hv, hdeleting⟩, rfl⟩ := hnext
    have hclosed : ¬ Open w.vms.live := fun hopen => by
      have hlive := hgenuine.deletion v hv hdeleting
      simp [hopen.1] at hlive
    have hkeep : Preserves (Closed vm₀) (cleanUpBackendStorageClone env (w.vms.get v)) :=
      Preserves.when fun _ => stable_closed.deleteJobs
    exact (hkeep w (h.closed hclosed)).budget
  | move mv =>
    cases hnext
    exact h.move hgenuine hsafe

theorem prepared {newVM : VM} {runStrategy : Except Err String} {sourcePVCs : Except Err (List PVC)}
    {sourceVM cloneAction now : String} (hnew : newVM.annotations = {})
    (h : prepareBackendStorageClone runStrategy sourcePVCs sourceVM cloneAction now newVM =
      .ok vm₀) :
    vm₀.annotations.status ≠ some .complete ∧ vm₀.annotations.stage = none ∧
      vm₀.annotations.retries = none := by
  obtain ⟨_, -, h⟩ := except_bind_eq_ok.1 h
  obtain ⟨pvcs, -, h⟩ := except_bind_eq_ok.1 h
  split at h
  · cases h
    simp [hnew]
  · cases h
    simp
  · simp at h

theorem genuine_initial {jobs : Store Job.name} (hstatus : vm₀.annotations.status ≠ some .complete)
    (hstage : vm₀.annotations.stage = none) (hjobs : ∀ job ∈ jobs.objs, ¬ Own vm₀ job) :
    Genuine vm₀ (World.initial vm₀ jobs) where
  versions := fun _ _ _ =>
    ⟨rfl, rfl, fun _ => ⟨rfl, rfl⟩, fun h => by simp [World.initial, History.init, hstage] at h,
      fun h => absurd h (by simp [World.initial, History.init, hstatus])⟩
  jobs := fun job hjob hown => absurd hown (hjobs job hjob)
  deletion := fun _ _ h => h

theorem budget_initial {jobs : Store Job.name} (hretries : vm₀.annotations.retries = none)
    (hjobs : ∀ job ∈ jobs.objs, ¬ Own vm₀ job) : Budget vm₀ (World.initial vm₀ jobs) := by
  have hzero : (World.initial vm₀ jobs).vms.live.retries = 0 := by
    simp [World.initial, History.live, History.init, VM.retries, hretries]
  have hnone : ((World.initial vm₀ jobs).created.length : Int) = 0 := rfl
  exact Started.budget ⟨fun job hjob hown => absurd hown (hjobs job hjob), rfl, rfl, by omega,
    by omega, fun _ => by omega⟩

/-- **A clone of the backend storage.**  The VM is marked as cloned, or has a new run strategy, only
if no copy was asked for or a copy job has succeeded; and in every safe run no more jobs are created
than the limit of retries and one. -/
theorem clone_after_copy {newVM : VM} {runStrategy : Except Err String}
    {sourcePVCs : Except Err (List PVC)} {sourceVM cloneAction now : String}
    {jobs : Store Job.name} {events : List Event} (hnew : newVM.annotations = {})
    (hprepare :
      prepareBackendStorageClone runStrategy sourcePVCs sourceVM cloneAction now newVM = .ok vm₀)
    (hjobs : ∀ job ∈ jobs.objs, ¬ Own vm₀ job)
    (hrun : machine.run (World.initial vm₀ jobs) events = some w) :
    (w.vms.live.annotations.status = some .complete ∨ w.vms.live.runStrategy ≠ vm₀.runStrategy →
      vm₀.annotations.actions.getD "" = "" ∨ w.Succeeded) ∧
    (machine.Along World.Safe (World.initial vm₀ jobs) events →
      w.created.length ≤ maxBackendStorageCloneRetries + 1) := by
  obtain ⟨hstatus, hstage, hretries⟩ := prepared hnew hprepare
  have hgenuine : Genuine vm₀ (World.initial vm₀ jobs) := genuine_initial hstatus hstage hjobs
  constructor
  · have hlast : Genuine vm₀ w :=
      Machine.run_invariant (fun _ _ _ h _ hnext => Genuine.next h hnext) hgenuine
        (Machine.along_true _ _) hrun
    exact hlast.versions.live.marked
  · intro hsafe
    have hstep : ∀ w e w', Genuine vm₀ w ∧ Budget vm₀ w → w.Safe e → machine.next w e = some w' →
        Genuine vm₀ w' ∧ Budget vm₀ w' :=
      fun w e w' h hsafe hnext => ⟨h.1.next hnext, h.2.next h.1 hsafe hnext⟩
    have hlast := Machine.run_invariant hstep ⟨hgenuine, budget_initial hretries hjobs⟩ hsafe hrun
    have htotal := hlast.2.total
    omega

end

namespace Sample

def pvc : PVC := ⟨"persistent-state", ["uid"], .bound⟩

def newVM : VM := ⟨"copy", "uid", false, true, some "Always", {}⟩

/-- The VM with the annotations of a clone. -/
def cloning : VM :=
  { newVM with
    runStrategy := some "Halted"
    annotations :=
      { status := some .inProgress, sourceVM := some "vm", runStrategy := some "Always",
        actions := some "rename-efi", startTime := some "2026-01-01T00:00:00Z" } }

/-- The PVC is there, and every request goes through. -/
def calm : Env where
  now := 0
  parseTime _ := .ok 0
  pvcs := ⟨.ok [pvc], .ok [pvc], .ok pvc, .ok [pvc], fun _ => .ok false⟩
  fetchImage := .ok ()
  slots := []

/-- The VM cannot be updated. -/
def noUpdate : Env :=
  { calm with slots := [(.updateVM, { fault := .refused, err := .other "timeout" })] }

/-- The job succeeds. -/
def copied : List Event :=
  [.reconcile 0 calm, .move (.jobStatus 0 [⟨.complete, true⟩]), .reconcile 0 calm,
    .move (.jobGone 0), .reconcile 1 calm]

/-- A job fails and is deleted, but the retry is not counted. -/
def uncounted (name : Nat) : List Event :=
  [.reconcile 0 calm, .move (.jobStatus name [⟨.failed, true⟩]), .reconcile 0 noUpdate,
    .move (.jobGone name)]

end Sample

open Sample in
/-- A clone that goes well. -/
theorem clone_after_copy_succeeded : ∃ w,
    machine.run (World.initial cloning .empty) copied = some w ∧
      w.vms.live.runStrategy = some "Always" ∧ w.Succeeded ∧
      w.created.length ≤ maxBackendStorageCloneRetries + 1 := by
  have hprepare : prepareBackendStorageClone (.ok "Always") (.ok [pvc]) "vm" "rename-efi"
      "2026-01-01T00:00:00Z" newVM = .ok cloning := rfl
  have hsafe : machine.Along World.Safe (World.initial cloning .empty) copied := by
    decide
  have hw := Machine.run_get
    (by decide : (machine.run (World.initial cloning .empty) copied).isSome)
  obtain ⟨hgenuine, hbound⟩ :=
    clone_after_copy rfl hprepare (fun job hjob => by simp [Store.empty] at hjob) hw
  exact ⟨_, hw, by decide, (hgenuine (by decide)).resolve_left (by decide),
    hbound hsafe⟩

open Sample in
/-- **Jobs that are not counted**: seven jobs for one clone. -/
theorem jobs_uncounted : ∃ w,
    machine.run (World.initial cloning .empty) ((List.range 7).flatMap uncounted) = some w ∧
      maxBackendStorageCloneRetries + 1 < w.created.length := by
  decide

end BackendStorage

end Harvester
