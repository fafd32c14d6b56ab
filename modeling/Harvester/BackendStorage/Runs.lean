import Harvester.BackendStorage.Clone
import Harvester.Control.Machine

/-!
# Runs of a clone

A reconcile may start from any version that the VM has had, and each of its requests may go wrong.

`Genuine` holds in every run: a version of the VM that is marked as cloned, or has another run
strategy than at the start, belongs to a clone that asked for no copy or to one whose own job has
succeeded.
-/

namespace Harvester

namespace BackendStorage

open Control Control.Action

/-! ### The system -/

/-- A call, or a move of the others. -/
inductive Event where
  /-- `ReconcileBackendStorageClone` with version `v` of the VM. -/
  | reconcile (v : Nat) (env : Env)
  /-- `CleanUpBackendStorageClone` with version `v` of the VM. -/
  | remove (v : Nat) (env : Env)
  | move (m : Move)

/-- One step. -/
def World.next (w : World) : Event → Option World
  | .reconcile v env =>
    if v ≤ w.vms.now then some ((reconcileBackendStorageClone env v (w.vms.get v)).run w).2
    else none
  | .remove v env =>
    if v ≤ w.vms.now ∧ (w.vms.get v).deleting then
      some ((cleanUpBackendStorageClone env (w.vms.get v)).run w).2
    else none
  | .move m => some (w.move m)

/-- The system. -/
def machine : Machine World Event := ⟨World.next⟩

/-- A VM that has just been created, among the jobs of the namespace. -/
def World.initial (vm : VM) (jobs : Store Job.name) : World where
  vms := .init vm
  jobs
  nextName := jobs.objs.foldr (fun job n => max (job.name + 1) n) 0
  created := []
  succeeded := []

/-- A job that has been created for the clone has succeeded. -/
def World.Succeeded (w : World) : Prop := ∃ name ∈ w.created, name ∈ w.succeeded

/-- The job belongs to the clone. -/
def Own (vm : VM) (job : Job) : Prop :=
  isOwnedByVM vm job.ownerUIDs = true ∧ job.startTime = vm.annotations.startTime.getD ""
  deriving Decidable

theorem own_newJob (vm : VM) (name : Nat) : Own vm (newJob vm name) :=
  ⟨by simp [isOwnedByVM, newJob], rfl⟩

/-! ### Requests -/

section

variable {env : Env} {c : Call} {vm : VM} {v : Nat} {I E : World → Prop}

theorem foldl_move {P : World → Prop} {moves : List Move}
    (hmoves : ∀ mv ∈ moves, ∀ w, P w → P (w.move mv)) {w : World} (h : P w) :
    P (moves.foldl World.move w) := by
  induction moves generalizing w with
  | nil => exact h
  | cons mv moves ih =>
    exact ih (fun mv' hmv' => hmoves mv' (List.mem_cons_of_mem _ hmv'))
      (hmoves mv List.mem_cons_self w h)

theorem move_jobExpired (w : World) (name : Nat) :
    w.move (.jobExpired name) = w ∨ w.move (.jobExpired name) = ((deleteRequest name).run w).2 := by
  simp only [World.move, run, deleteRequest]
  split
  · exact .inl rfl
  · split
    · exact .inr rfl
    · exact .inl rfl

theorem triple_call {α : Type} {P : World → Prop} {Q : Except Err α → World → Prop}
    {m : Action World Err α} (hmoves : ∀ mv ∈ (env.slot c).meanwhile, ∀ w, P w → P (w.move mv))
    (hm : Triple P (request (env.slot c).fault (env.slot c).err m) Q) :
    Triple P (env.call c m) Q :=
  fun _ hw => hm _ (foldl_move hmoves hw)

theorem preserves_call {α : Type} {m : Action World Err α}
    (hmoves : ∀ mv ∈ (env.slot c).meanwhile, ∀ w, I w → I (w.move mv)) (hm : Preserves I m) :
    Preserves I (env.call c m) :=
  triple_call hmoves hm.request

theorem preserves_delete {name : Nat}
    (hmoves : ∀ mv ∈ (env.slot c).meanwhile, ∀ w, I w → I (w.move mv))
    (hm : Preserves I (deleteRequest name)) : Preserves I (delete env c name) := by
  refine (preserves_call hmoves hm).attempt.bind fun r => ?_
  rcases r with e | ⟨⟩
  · dsimp only
    split
    · exact .pure ()
    · exact .fail _
  · exact .pure ()

theorem preserves_list
    (hmoves : ∀ mv ∈ (env.slot c).meanwhile, ∀ w, I w → I (w.move mv)) :
    Preserves I (mapError Halt.error (env.call c (listRequest vm))) :=
  (preserves_call (m := listRequest vm) hmoves fun _ hw => hw).mapError

/-- What neither others nor the deletion of a job change. -/
structure Stable (I : World → Prop) : Prop where
  move : ∀ mv w, I w → I (w.move mv)
  delete : ∀ name, Preserves I (deleteRequest name)

theorem Stable.call {α : Type} (h : Stable I) {m : Action World Err α}
    (hm : Preserves I m) : Preserves I (env.call c m) :=
  preserves_call (fun mv _ => h.move mv) hm

theorem Stable.deleteJob (h : Stable I) (name : Nat) :
    Preserves I (Harvester.BackendStorage.delete env c name) :=
  preserves_delete (fun mv _ => h.move mv) (h.delete name)

theorem Stable.deleteJobs (h : Stable I) :
    Preserves I (deleteBackendStorageCloneJobs env vm) :=
  (preserves_list fun mv _ => h.move mv).bind fun _ => Preserves.forEach fun job _ =>
    Preserves.when fun _ => h.deleteJob job.name

/-! ### The loop over the jobs -/

/-- What the loop of `getCurrentBackendStorageJob` finds among the jobs. -/
structure Scan (vm : VM) (jobs : List Job) (currentJob : Option Job) (waitForDeletion : Bool)
    (r : Option Job × Bool) : Prop where
  found : ∀ job, r.1 = some job → currentJob = some job ∨ job ∈ jobs ∧ Own vm job
  /-- No job, and no reason to wait. -/
  clear : r = (none, false) →
    currentJob = none ∧ waitForDeletion = false ∧ ∀ job ∈ jobs, ¬ Own vm job

theorem Scan.cons {jobs : List Job} {job : Job} {currentJob : Option Job} {wait wait' : Bool}
    {r : Option Job × Bool} (h : Scan vm jobs currentJob wait' r)
    (hjob : wait' = false → wait = false ∧ ¬ Own vm job) :
    Scan vm (job :: jobs) currentJob wait r where
  found := fun job' hjob' => (h.found job' hjob').imp_right fun ⟨hmem, hown⟩ =>
    ⟨List.mem_cons_of_mem _ hmem, hown⟩
  clear := fun hr => by
    obtain ⟨hcurrent, hwait, hnone⟩ := h.clear hr
    exact ⟨hcurrent, (hjob hwait).1, List.forall_mem_cons.2 ⟨(hjob hwait).2, hnone⟩⟩

/-- **The loop** finds a job of the clone or tells that there is none, and deletes jobs of other
clones only. -/
theorem yields_scanJobs {deleteStale : Nat → Call} {jobs : List Job}
    (hdelete : ∀ job ∈ jobs, ¬ Own vm job →
      Preserves I (delete env (deleteStale job.name) job.name)) (currentJob : Option Job)
    (wait : Bool) :
    Yields I (Scan vm jobs currentJob wait) (scanJobs env deleteStale vm jobs currentJob wait) := by
  induction jobs generalizing currentJob wait with
  | nil =>
    refine .pure ?_
    cases wait
    · exact ⟨fun job hjob => .inl hjob, fun hr => ⟨congrArg Prod.fst hr, rfl, by simp⟩⟩
    · exact ⟨fun job hjob => by simp at hjob, fun hr => by simp at hr⟩
  | cons job jobs ih =>
    replace ih := ih fun job' hjob' => hdelete job' (List.mem_cons_of_mem _ hjob')
    unfold scanJobs
    by_cases howned : isOwnedByVM vm job.ownerUIDs = false
    · rw [if_pos howned]
      exact (ih currentJob wait).mono fun r hr =>
        hr.cons fun hwait => ⟨hwait, fun hown => by simp [hown.1] at howned⟩
    rw [if_neg howned]
    by_cases hstale : job.startTime ≠ vm.annotations.startTime.getD ""
    · rw [if_pos hstale]
      have hkeep : Preserves I (Action.when (job.deleting = false)
          (delete env (deleteStale job.name) job.name)) :=
        Preserves.when fun _ => hdelete job List.mem_cons_self fun hown => hstale hown.2
      exact hkeep.yields.andThen fun _ _ =>
        (ih currentJob true).mono fun r hr => hr.cons fun hwait => by simp at hwait
    rw [if_neg hstale]
    have hown : Own vm job := ⟨by simpa using howned, not_not.1 hstale⟩
    by_cases hdeleting : job.deleting = true
    · rw [if_pos hdeleting]
      exact (ih currentJob true).mono fun r hr => hr.cons fun hwait => by simp at hwait
    rw [if_neg hdeleting]
    by_cases hcurrent : currentJob.isSome = true
    · rw [if_pos hcurrent]
      exact fun w hw => ⟨hw, fun _ ha => by simp [run, fail] at ha⟩
    rw [if_neg hcurrent]
    refine (ih (some job) wait).mono fun r hr => ⟨fun job' hjob' => .inr ?_, fun hclear => ?_⟩
    · rcases hr.found job' hjob' with heq | ⟨hmem, hown'⟩
      · cases heq
        exact ⟨List.mem_cons_self, hown⟩
      · exact ⟨List.mem_cons_of_mem _ hmem, hown'⟩
    · exact absurd (hr.clear hclear).1 (by simp)

theorem Stable.finalize (h : Stable I)
    (hcomplete : Preserves I (completeBackendStorageClone env v vm)) :
    Preserves I (finalizeBackendStorageClone env v vm) := by
  have hcurrent : Preserves I (getCurrentBackendStorageJob env .listJobs .deleteStaleJob vm) := by
    refine (preserves_list fun mv _ => h.move mv).bind fun jobs w hw => ?_
    exact (yields_scanJobs (fun job _ _ => h.deleteJob job.name) none false w hw).1
  refine hcurrent.bind fun r => ?_
  rcases r with ⟨job | job, _ | _⟩
  · exact hcomplete
  · exact .pure ()
  · exact .when fun _ => h.deleteJob job.name
  · exact .when fun _ => h.deleteJob job.name

/-! ### The handler -/

/-- A job that is found is in `J`, and without one `C` holds. -/
def Finds (I : World → Prop) (J : Job → World → Prop) (C : World → Prop)
    (r : Except (Halt Err) (Option Job × Bool)) (w : World) : Prop :=
  I w ∧ (∀ job wait, r = .ok (some job, wait) → J job w) ∧ (r = .ok (none, false) → C w)

/-- What the parts of the handler do, from states in `I` to states in `E`. -/
structure Handles (env : Env) (v : Nat) (vm : VM) (I E : World → Prop) (J : Job → World → Prop)
    (C : World → Prop) : Prop where
  finalize : vm.annotations.stage = some .preCompleted →
    Triple I (finalizeBackendStorageClone env v vm) fun _ => E
  fail : Triple I (failBackendStorageClone env v vm) fun _ => E
  complete : vm.annotations.actions.getD "" = "" →
    Triple I (completeBackendStorageClone env v vm) fun _ => E
  current : ∀ {c deleteStale},
    Triple I (getCurrentBackendStorageJob env c deleteStale vm) (Finds I J C)
  create : Triple (fun w => I w ∧ C w) (createJob env vm) fun r w =>
    I w ∧ ∀ job, r = .ok (.ok job) → J job w
  follow : ∀ job, Triple (fun w => I w ∧ J job w) (followJob env v vm job) fun _ => E

variable {J : Job → World → Prop} {C : World → Prop}

theorem Handles.job (h : Handles env v vm I E J C) :
    Triple I (reconcileBackendStorageJob env vm) (Finds I J fun _ => True) := by
  refine .bind h.current (fun r => ?_) fun e w hw => ⟨hw.1, by simp, by simp⟩
  rcases r with ⟨job | job, _ | _⟩
  · refine .bind (h.create.weaken (fun w hw => ⟨hw.1, hw.2.2 rfl⟩) fun _ _ hw => hw)
      (fun r => ?_) fun e w hw => ⟨hw.1, by simp, by simp⟩
    rcases r with e | job
    · dsimp only
      split
      · exact h.current.weaken (fun _ hw => hw.1) fun _ _ hw => ⟨hw.1, hw.2.1, fun _ => True.intro⟩
      · exact .fail fun w hw => ⟨hw.1, by simp, by simp⟩
    · refine .pure fun w hw => ⟨hw.1, fun job' wait heq => ?_, by simp⟩
      cases heq
      exact hw.2 job rfl
  · exact .pure fun w hw => ⟨hw.1, by simp, by simp⟩
  · exact .pure fun w hw => ⟨hw.1, hw.2.1, by simp⟩
  · exact .pure fun w hw => ⟨hw.1, by simp, by simp⟩

/-- **The handler**, put together from its parts. -/
theorem triple_reconcileBackendStorageClone (hE : ∀ w, I w → E w)
    (h : vm.annotations.status = some .inProgress → Handles env v vm I E J C) :
    Triple I (reconcileBackendStorageClone env v vm) fun _ => E := by
  unfold reconcileBackendStorageClone
  split
  · exact .pure hE
  next hneeds =>
  simp only [needsBackendStorageCloneReconcile, Bool.not_eq_false, Bool.and_eq_true,
    decide_eq_true_eq] at hneeds
  replace h := h hneeds.1.1.2
  split
  · next hstage => exact h.finalize hstage
  refine .bind (Preserves.ofExcept _) (fun expired => ?_) fun _ => hE
  split
  · exact h.fail
  split
  · next hactions => exact h.complete hactions
  refine .bind (Preserves.ofExcept _) (fun r => ?_) fun _ => hE
  rcases r with ⟨pvc | pvc, _ | _⟩
  · exact .pure hE
  · exact h.fail
  · exact .pure hE
  refine .bind h.job (fun r => ?_) fun e w hw => hE w hw.1
  rcases r with ⟨job | job, _ | _⟩
  · exact fun w hw => hE w hw.1
  · exact .pure fun w hw => hE w hw.1
  · exact (h.follow job).weaken (fun w hw => ⟨hw.1, hw.2.1 job false rfl⟩) fun _ _ hw => hw
  · exact .pure fun w hw => hE w hw.1

end

/-! ### Versions of the VM -/

/-- What is known of a version of the VM; `S` stands for the success of the clone's own job. -/
structure Version (vm₀ : VM) (S : Prop) (vm : VM) : Prop where
  uid : vm.uid = vm₀.uid
  name : vm.name = vm₀.name
  running : vm.annotations.status = some .inProgress →
    vm.annotations.actions = vm₀.annotations.actions ∧
      vm.annotations.startTime = vm₀.annotations.startTime
  stage : vm.annotations.stage = some .preCompleted → S
  marked : vm.annotations.status = some .complete ∨ vm.runStrategy ≠ vm₀.runStrategy →
    vm₀.annotations.actions.getD "" = "" ∨ S

section

variable {vm₀ vm : VM} {S S' : Prop}

theorem Version.mono (h : Version vm₀ S vm) (hS : S → S') : Version vm₀ S' vm :=
  ⟨h.uid, h.name, h.running, fun hstage => hS (h.stage hstage),
    fun hmarked => (h.marked hmarked).imp_right hS⟩

theorem Version.own_iff (h : Version vm₀ S vm) (hrunning : vm.annotations.status = some .inProgress)
    {job : Job} : Own vm job ↔ Own vm₀ job := by
  rw [Own, Own, isOwnedByVM, isOwnedByVM, h.uid, (h.running hrunning).2]

theorem Version.retry (h : Version vm₀ S vm) : Version vm₀ S vm.retry :=
  ⟨h.uid, h.name, h.running, h.stage, h.marked⟩

theorem Version.preCompleted (h : Version vm₀ S vm) (hS : S) : Version vm₀ S vm.preCompleted :=
  ⟨h.uid, h.name, h.running, fun _ => hS, h.marked⟩

theorem Version.deleted (h : Version vm₀ S vm) : Version vm₀ S { vm with deleting := true } :=
  ⟨h.uid, h.name, h.running, h.stage, h.marked⟩

theorem Version.failed (h : Version vm₀ S vm) :
    Version vm₀ S (cleanUpBSCloneAnnotations vm .failed) where
  uid := h.uid
  name := h.name
  running := by simp [cleanUpBSCloneAnnotations]
  stage := by simp [cleanUpBSCloneAnnotations]
  marked := by
    intro hmarked
    refine h.marked (.inr (hmarked.resolve_left ?_))
    simp [cleanUpBSCloneAnnotations]

theorem Version.complete (h : Version vm₀ S vm) {runStrategy : Option String}
    (hdone : vm₀.annotations.actions.getD "" = "" ∨ S) :
    Version vm₀ S (cleanUpBSCloneAnnotations { vm with runStrategy } .complete) where
  uid := h.uid
  name := h.name
  running := by simp [cleanUpBSCloneAnnotations]
  stage := by simp [cleanUpBSCloneAnnotations]
  marked := fun _ => hdone

end

/-! ### Genuine clones -/

/-- **The invariant of every run.** -/
structure Genuine (vm₀ : VM) (w : World) : Prop where
  versions : w.vms.Since 0 (Version vm₀ w.Succeeded)
  jobs : ∀ job ∈ w.jobs.objs, Own vm₀ job →
    job.name ∈ w.created ∧ (job.succeeded = true → job.name ∈ w.succeeded)
  /-- A VM that is being deleted stays so. -/
  deletion : ∀ i ≤ w.vms.now, (w.vms.get i).deleting = true → w.vms.live.deleting = true

/-- What a handler knows that has read `vm` as version `v`, if `P` implies the success of the job.
-/
structure Known (vm₀ : VM) (v : Nat) (vm : VM) (P : Prop) (w : World) : Prop where
  genuine : Genuine vm₀ w
  read : w.vms.At v vm
  success : P → w.Succeeded

section

variable {vm₀ vm vm' : VM} {v : Nat} {P : Prop} {w w' : World} {env : Env} {c : Call}

theorem Known.jobsChanged (h : Known vm₀ v vm P w) (hvms : w'.vms = w.vms)
    (hcreated : ∀ n ∈ w.created, n ∈ w'.created) (hsucceeded : ∀ n ∈ w.succeeded, n ∈ w'.succeeded)
    (hjobs : ∀ job ∈ w'.jobs.objs, Own vm₀ job →
      job.name ∈ w'.created ∧ (job.succeeded = true → job.name ∈ w'.succeeded)) :
    Known vm₀ v vm P w' := by
  have hmono : w.Succeeded → w'.Succeeded := fun ⟨n, hn, hn'⟩ =>
    ⟨n, hcreated n hn, hsucceeded n hn'⟩
  refine ⟨⟨?_, hjobs, hvms ▸ h.genuine.deletion⟩, hvms ▸ h.read, fun hP => hmono (h.success hP)⟩
  rw [hvms]
  exact fun i hi hi' => (h.genuine.versions i hi hi').mono hmono

theorem Known.putJob (h : Known vm₀ v vm P w) {job : Job} (job' : Job) (hjob : job ∈ w.jobs.objs)
    (hname : job'.name = job.name) (howners : job'.ownerUIDs = job.ownerUIDs)
    (hstart : job'.startTime = job.startTime) {succeeded : List Nat}
    (hsucceeded : ∀ n ∈ w.succeeded, n ∈ succeeded)
    (hjob' : job'.succeeded = true → job.succeeded = true ∨ job.name ∈ succeeded) :
    Known vm₀ v vm P { w.putJob job' with succeeded } := by
  refine h.jobsChanged rfl (fun _ hn => hn) hsucceeded fun u hu hown => ?_
  rcases Store.mem_put.1 hu with rfl | ⟨hu, -⟩
  · have hown' : Own vm₀ job := by
      rw [Own, howners, hstart] at hown
      exact hown
    obtain ⟨hmem, hsucc⟩ := h.genuine.jobs job hjob hown'
    rw [hname]
    exact ⟨hmem, fun hs => (hjob' hs).elim (fun hs => hsucceeded _ (hsucc hs)) id⟩
  · obtain ⟨hmem, hsucc⟩ := h.genuine.jobs u hu hown
    exact ⟨hmem, fun hs => hsucceeded _ (hsucc hs)⟩

theorem known_deleteRequest (name : Nat) : Preserves (Known vm₀ v vm P) (deleteRequest name) := by
  intro w hw
  simp only [run, deleteRequest]
  split
  · exact hw
  · next job hget =>
    exact hw.putJob { job with deleting := true } (Store.mem_of_get hget) rfl rfl rfl
      (fun _ hn => hn) .inl

theorem Known.pushVM (h : Known vm₀ v vm P w) (hversion : Version vm₀ w.Succeeded vm')
    (hdeleting : w.vms.live.deleting = true → vm'.deleting = true) :
    Known vm₀ v vm P (w.pushVM vm') := by
  have hlive : (w.pushVM vm').vms.live = vm' := History.live_push _ _
  refine ⟨⟨h.genuine.versions.push hversion, h.genuine.jobs, fun i hi hd => ?_⟩, h.read.push vm',
    h.success⟩
  rw [hlive]
  by_cases hnow : i ≤ w.vms.now
  · have hget : (w.pushVM vm').vms.get i = w.vms.get i := History.get_push_of_le hnow vm'
    rw [hget] at hd
    exact hdeleting (h.genuine.deletion i hnow hd)
  · have hi' : i = w.vms.now + 1 := by
      have : i ≤ w.vms.now + 1 := hi
      omega
    rw [hi'] at hd
    rwa [show (w.pushVM vm').vms.get (w.vms.now + 1) = vm' from hlive] at hd

theorem Known.move (h : Known vm₀ v vm P w) (mv : Move) : Known vm₀ v vm P (w.move mv) := by
  cases mv with
  | jobStatus name conditions =>
    cases hget : w.jobs.get name with
    | none => simpa only [World.move, hget] using h
    | some job =>
      simp only [World.move, hget]
      refine h.putJob { job with conditions } (Store.mem_of_get hget) rfl rfl rfl (fun n hn => ?_)
        fun hs => .inr ?_
      · split
        · exact List.mem_cons_of_mem _ hn
        · exact hn
      · rw [if_pos hs, Store.key_of_get hget]
        exact List.mem_cons_self
  | jobExpired name =>
    rcases move_jobExpired w name with heq | heq <;> rw [heq]
    · exact h
    · exact known_deleteRequest name w h
  | jobGone name =>
    exact h.jobsChanged rfl (fun _ hn => hn) (fun _ hn => hn) fun job hjob =>
      h.genuine.jobs job (List.mem_of_mem_filter hjob)
  | vmChanged => exact h.pushVM h.genuine.versions.live id
  | vmDeleted => exact h.pushVM h.genuine.versions.live.deleted fun _ => rfl

theorem stable_known : Stable (Known vm₀ v vm P) := ⟨fun mv _ h => h.move mv, known_deleteRequest⟩

/-- The handler writes a version that is fine, if `P` implies what it says. -/
theorem known_update (hversion : Version vm₀ P vm') (hdeleting : vm'.deleting = vm.deleting) :
    Preserves (Known vm₀ v vm P) (update env v vm') := by
  refine (stable_known.call fun w hw => ?_).mapError
  simp only [run, updateRequest]
  split
  · next hnow =>
    -- The version that was read is the current one.
    have hlive : w.vms.live = vm := by
      rw [History.live, ← hnow]
      exact hw.read.get
    refine hw.pushVM (hversion.mono hw.success) ?_
    rw [hlive, hdeleting]
    exact id
  · exact hw

theorem ensures_list (vm' : VM) :
    Ensures (Known vm₀ v vm P) (mapError Halt.error (env.call c (listRequest vm'))) fun jobs w =>
      (∃ job ∈ jobs, Own vm₀ job ∧ job.succeeded = true) → w.Succeeded := by
  refine .mapError (triple_call (fun mv _ _ hw => hw.move mv) (Ensures.request ?_))
  rintro w hw jobs hjobs ⟨job, hjob, hown, hsucceeded⟩
  cases hjobs
  obtain ⟨hcreated, hsucc⟩ := hw.genuine.jobs job (List.mem_of_mem_filter hjob) hown
  exact ⟨job.name, hcreated, hsucc hsucceeded⟩

theorem finds_getCurrentBackendStorageJob (hversion : Version vm₀ P vm)
    (hrunning : vm.annotations.status = some .inProgress) {deleteStale : Nat → Call} :
    Triple (Known vm₀ v vm P) (getCurrentBackendStorageJob env c deleteStale vm)
      (Finds (Known vm₀ v vm P) (fun job w => job.succeeded = true → w.Succeeded)
        fun _ => True) := by
  refine .bind ((preserves_list fun mv _ _ hw => hw.move mv).and (ensures_list vm)) (fun jobs => ?_)
    fun e w hw => ⟨hw.1, by simp, by simp⟩
  -- The success of one of the jobs is kept as a proposition, whatever the loop deletes.
  have hscan : Yields (Known vm₀ v vm (P ∨ ∃ job ∈ jobs, Own vm₀ job ∧ job.succeeded = true))
      (Scan vm jobs none false) (scanJobs env deleteStale vm jobs none false) :=
    yields_scanJobs (fun job _ _ => stable_known.deleteJob job.name) none false
  refine hscan.weaken (fun w hw => ⟨hw.1.genuine, hw.1.read, ?_⟩) fun r w hw =>
    ⟨?_, ?_, fun _ => True.intro⟩
  · exact fun h => h.elim hw.1.success (hw.2 jobs rfl)
  · exact ⟨hw.1.genuine, hw.1.read, fun hP => hw.1.success (.inl hP)⟩
  · intro job wait hr hsucceeded
    obtain ⟨hmem, hown⟩ := ((hw.2 _ hr).found job rfl).resolve_left (by simp)
    exact hw.1.success (.inr ⟨job, hmem, (hversion.own_iff hrunning).1 hown, hsucceeded⟩)

theorem known_createJob (vm' : VM) :
    Yields (Known vm₀ v vm P) (fun r => ∀ job, r = .ok job → job.succeeded = false)
      (createJob env vm') := by
  refine (Preserves.ofExcept _).yields.andThen fun _ _ => Yields.attempt ?_
  refine triple_call (fun mv _ _ hw => hw.move mv) (Yields.request fun w hw => ⟨?_, ?_⟩)
  · refine hw.jobsChanged rfl (fun n hn => List.mem_cons_of_mem _ hn) (fun _ hn => hn) ?_
    intro job hjob hown
    rcases Store.mem_put.1 hjob with rfl | ⟨hjob, -⟩
    · exact ⟨List.mem_cons_self, fun hs => by simp [Job.succeeded, newJob] at hs⟩
    · obtain ⟨hcreated, hsucc⟩ := hw.genuine.jobs job hjob hown
      exact ⟨List.mem_cons_of_mem _ hcreated, hsucc⟩
  · intro job hjob
    cases hjob
    rfl

theorem known_failBackendStorageClone (hversion : Version vm₀ P vm) :
    Preserves (Known vm₀ v vm P) (failBackendStorageClone env v vm) :=
  stable_known.deleteJobs.bind fun _ => known_update hversion.failed rfl

theorem known_completeBackendStorageClone (hversion : Version vm₀ P vm)
    (hdone : vm₀.annotations.actions.getD "" = "" ∨ P) :
    Preserves (Known vm₀ v vm P) (completeBackendStorageClone env v vm) :=
  known_update (hversion.complete hdone) rfl

theorem succeeded_of_status {job : Job} (h : getBackendStorageJobStatus job = (true, false)) :
    job.succeeded = true := by
  unfold getBackendStorageJobStatus at h
  split at h
  · simp at h
  next cond hfind =>
  have hcond := List.find?_some hfind
  simp only [Prod.mk.injEq, decide_eq_false_iff_not] at h
  simp only [Bool.and_eq_true, Bool.or_eq_true, decide_eq_true_eq, h, or_false] at hcond
  refine List.any_eq_true.2 ⟨cond, List.mem_of_find?_eq_some hfind, ?_⟩
  simp [hcond.1, hcond.2]

theorem known_followJob (hversion : Version vm₀ P vm) (job : Job) :
    Triple (fun w => Known vm₀ v vm P w ∧ (job.succeeded = true → w.Succeeded))
      (followJob env v vm job) fun _ => Known vm₀ v vm P := by
  unfold followJob
  split
  · exact .pure fun w hw => hw.1
  · refine .weaken ?_
      (fun w hw => hw.1) fun _ _ hw => hw
    unfold handleBackendStorageCloneJobFailure
    split
    · exact known_failBackendStorageClone hversion
    · exact (stable_known.deleteJob job.name).bind fun _ => known_update hversion.retry rfl
  · next hstatus =>
    have hrecord : Preserves (Known vm₀ v vm True) (update env v vm.preCompleted) :=
      known_update ((hversion.mono fun _ => trivial).preCompleted trivial) rfl
    have hsuccess : Preserves (Known vm₀ v vm True)
        (handleBackendStorageCloneJobSuccess env v vm job) :=
      hrecord.bind fun _ => stable_known.deleteJob job.name
    refine hsuccess.weaken (fun w hw => ⟨hw.1.genuine, hw.1.read, fun _ => ?_⟩) fun _ w hw =>
      ⟨hw.genuine, hw.read, fun _ => hw.success trivial⟩
    exact hw.2 (succeeded_of_status hstatus)

theorem known_reconcileBackendStorageClone (hversion : Version vm₀ P vm) :
    Preserves (Known vm₀ v vm P) (reconcileBackendStorageClone env v vm) := by
  refine triple_reconcileBackendStorageClone (fun _ hw => hw) fun hrunning =>
    ⟨fun hstage => ?_, known_failBackendStorageClone hversion, fun hactions => ?_,
      finds_getCurrentBackendStorageJob hversion hrunning, ?_, known_followJob hversion⟩
  · exact stable_known.finalize
      (known_completeBackendStorageClone hversion (.inr (hversion.stage hstage)))
  · rw [(hversion.running hrunning).1] at hactions
    exact known_completeBackendStorageClone hversion (.inl hactions)
  · refine (known_createJob vm).weaken (fun _ hw => hw.1) fun r w hw => ⟨hw.1, fun job hr hs => ?_⟩
    simp [hw.2 _ hr job rfl] at hs

/-- **Every step keeps a clone genuine.** -/
theorem Genuine.next (h : Genuine vm₀ w) {e : Event} (hnext : machine.next w e = some w') :
    Genuine vm₀ w' := by
  -- What the handler knows is what is true when it starts.
  have hknown : ∀ v ≤ w.vms.now, Known vm₀ v (w.vms.get v) w.Succeeded w :=
    fun v hv => ⟨h, ⟨hv, rfl⟩, id⟩
  cases e with
  | reconcile v env =>
    simp only [machine, World.next, Machine.guarded_eq_some] at hnext
    obtain ⟨hv, rfl⟩ := hnext
    have hversion := h.versions v (Nat.zero_le _) hv
    exact (known_reconcileBackendStorageClone hversion w (hknown v hv)).genuine
  | remove v env =>
    simp only [machine, World.next, Machine.guarded_eq_some] at hnext
    obtain ⟨⟨hv, -⟩, rfl⟩ := hnext
    have hkeep : Preserves (Known vm₀ v (w.vms.get v) w.Succeeded)
        (cleanUpBackendStorageClone env (w.vms.get v)) :=
      Preserves.when fun _ => stable_known.deleteJobs
    exact (hkeep w (hknown v hv)).genuine
  | move mv =>
    cases hnext
    exact ((hknown w.vms.now (Nat.le_refl _)).move mv).genuine

end

end BackendStorage

end Harvester
