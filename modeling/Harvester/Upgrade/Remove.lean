import Harvester.Upgrade.System

/-!
# The removal of an Upgrade

`OnRemove` of the upgrade controller runs while a finalizer keeps the deleted Upgrade: after a call
without an error there is no other.  The cleanup works on the objects of `World`, the RKE config,
the plans of the system upgrade controller and the managed charts.

`removed_upgrade_cleaned` says when a call without an error has cleaned up, and
`removed_while_waiting` is one that ends before it has started to.
-/

namespace Harvester

namespace Upgrades

open Control Action

/-! ### The cluster during the removal -/

/-- The RKE config of the local cluster. -/
structure RKEConfig where
  provisionGeneration : Int
  registries : String
  /-- The upgrade strategy and everything else; `none` when nothing is set. -/
  others : Option String
  deriving DecidableEq, Repr

/-- The config without what an upgrade has set. -/
def RKEConfig.reset (config : RKEConfig) : RKEConfig := { config with others := none }

/-- A plan of the upgrade. -/
structure Plan where
  name : String
  /-- It has a deletion timestamp. -/
  deleting : Bool
  deriving DecidableEq, Repr

/-- A managed chart. -/
structure ManagedChart where
  name : String
  paused : Bool
  deriving DecidableEq, Repr

/-- The objects of the cleanup. -/
structure Removal where
  world : World
  rkeConfig : RKEConfig
  plans : Store Plan.name
  charts : Store ManagedChart.name

/-- Calls of `OnRemove`. -/
abbrev RemovalAct (α : Type) := Action Removal Err α

/-- The requests of a call. -/
inductive RemovalRequest where
  | createPlan
  | cleanupRepo
  | updateCluster
  | deleteJob (key : JobKey)
  | deletePlan (name : String)
  | updateWorkloadMethods
  | updateChart (name : String)
  deriving DecidableEq, Repr

/-- The circumstances of a call: those of the requests of `World`, and those of the other objects.
-/
structure RemovalEnv where
  env : Env
  cluster : Except Err RKEConfig
  plans : Except Err (List Plan)
  /-- The jobs of a plan that are not being deleted. -/
  jobs : String → Except Err (List JobKey)
  charts : Except Err (List ManagedChart)
  fault : RemovalRequest → Fault × String

namespace RemovalEnv

variable (e : RemovalEnv)

/-- A request with its fault. -/
def request {α : Type} (r : RemovalRequest) (m : RemovalAct α) : RemovalAct α :=
  Action.request (e.fault r).1 (.other (e.fault r).2) m

end RemovalEnv

/-- A request for the objects of `World`. -/
def onWorld {α : Type} (m : Act α) : RemovalAct α :=
  zoom Removal.world (fun world r => { r with world }) m

/-- An error that is ignored when the object is not found. -/
def ignoreNotFound (m : RemovalAct Unit) : RemovalAct Unit := do
  match ← attempt m with
  | .ok () => pure ()
  | .error e => if e.isNotFound then pure () else fail e

/-! ### `OnRemove` -/

section

variable (c : Cluster) (e : RemovalEnv)

/-- The plan that removes the skip files. -/
def skipManifestsRemovePlan : String := c.upgrade ++ "-skip-manifests-remove"

/-- `planClient.Create` for this plan, which may be there already. -/
def createSkipManifestPlan : RemovalAct Unit := do
  let created ← attempt (e.request .createPlan fun r =>
    match r.plans.get (skipManifestsRemovePlan c) with
    | some _ => (.error (.alreadyExists ⟨"cattle-system", skipManifestsRemovePlan c⟩), r)
    | none => (.ok (), { r with plans := r.plans.put ⟨skipManifestsRemovePlan c, false⟩ }))
  match created with
  | .ok () => pure ()
  | .error err => if err.isAlreadyExists then pure () else fail err

/-- Whether the removal waits until the skip files are gone. -/
def Upgrade.waitsForManifests (u : Upgrade) : Bool :=
  u.annotations.skipManifestsApplied && !u.annotations.skipManifestsRemoved

/-- The part of `cleanup` that resets the RKE config. -/
def resetRKEConfig : RemovalAct Unit :=
  match e.cluster with
  | .error err => fail err
  | .ok cached =>
    if cached.reset = cached then pure ()
    else e.request .updateCluster fun r =>
      if r.rkeConfig = cached then (.ok (), { r with rkeConfig := cached.reset })
      else (.error (.conflict ⟨"fleet-local", "local"⟩), r)

/-- `jobClient.Delete`. -/
def deleteJob (key : JobKey) : RemovalAct Unit :=
  ignoreNotFound (e.request (.deleteJob key) (onWorld fun w =>
    match w.jobs.live.get key with
    | none => (.error (.notFound ⟨"cattle-system", key.node⟩), w)
    | some _ => (.ok (), { w with jobs := w.jobs.push (w.jobs.live.delete key) })))

/-- `planClient.Delete`. -/
def deletePlan (name : String) : RemovalAct Unit :=
  ignoreNotFound (e.request (.deletePlan name) fun r =>
    match r.plans.get name with
    | none => (.error (.notFound ⟨"cattle-system", name⟩), r)
    | some _ => (.ok (), { r with plans := r.plans.delete name }))

/-- One round of the loop of `cleanup` over the plans. -/
def cleanPlan (cleanJobs : Bool) (plan : Plan) : RemovalAct Unit := do
  when cleanJobs do
    let jobs ← Action.ofExcept (e.jobs plan.name)
    forEach (deleteJob e) jobs
  when (!plan.deleting) (deletePlan e plan.name)

/-- The charts that `resumeManagedCharts` resumes. -/
def targetManagedCharts : List String :=
  ["harvester-crd", "harvester", "rancher-logging-crd", "rancher-monitoring-crd"]

/-- One round of the loop of `resumeManagedCharts`. -/
def resumeChart (chart : ManagedChart) : RemovalAct Unit :=
  if chart.paused = true ∧ chart.name ∈ targetManagedCharts then
    mapError (fun err => .other ("failed to resume managedchart " ++ chart.name ++ " " ++
        err.text))
      (e.request (.updateChart chart.name) fun r =>
        if r.charts.get chart.name = some chart then
          (.ok (), { r with charts := r.charts.put { chart with paused := false } })
        else (.error (.conflict ⟨"fleet-local", chart.name⟩), r))
  else pure ()

/-- `resumeManagedCharts`.  The error of the list is not reported. -/
def resumeManagedCharts : RemovalAct Unit :=
  match e.charts with
  | .error _ => pure ()
  | .ok charts => forEach (resumeChart e) charts

/-- `cleanup` with the objects that it works on. -/
def cleanupObjects (u : Upgrade) (cleanJobs : Bool) : RemovalAct Unit := do
  e.request .cleanupRepo (pure ())
  resetRKEConfig e
  let plans ← Action.ofExcept e.plans
  forEach (cleanPlan e cleanJobs) plans
  let (version, u) ← onWorld (restoreLonghornSettings e.env u)
  onWorld (endUpgradeLog e.env u)
  let _ ← onWorld (reenableAddons e.env version u)
  e.request .updateWorkloadMethods (pure ())
  resumeManagedCharts e

/-- `OnRemove` for the Upgrade in the cache. -/
def onRemove (u : Upgrade) : RemovalAct Unit :=
  if u.waitsForManifests then createSkipManifestPlan c e
  else cleanupObjects e u true

end

/-! ### What a cleanup leaves -/

/-- The cleanup has been done for `u`. -/
structure Cleaned (u : Upgrade) (r : Removal) : Prop where
  /-- The Longhorn setting has its old value, unless that had been restored before. -/
  setting : u.singleNode = "" → u.annotations.longhornSettingsRestored = false →
    ∀ value ∈ u.annotations.replicaReplenishment, r.world.replicaReplenishment = value
  /-- Nothing of the upgrade is left in the RKE config. -/
  rkeConfig : r.rkeConfig.others = none
  plans : ∀ plan ∈ r.plans.objs, plan.deleting = true
  charts : ∀ chart ∈ r.charts.objs, chart.name ∈ targetManagedCharts → chart.paused = false

/-- A call that finds what there is to do: the skip files are gone, the managed charts can be
listed, and the caches show the objects that have to be cleaned up. -/
structure RemovalSafe (e : RemovalEnv) (u : Upgrade) (r : Removal) : Prop where
  manifests : u.waitsForManifests = false
  setting : e.env.ShowsSetting u r.world
  rkeConfig : ∀ cached, e.cluster = .ok cached → cached.others = none → r.rkeConfig.others = none
  plans : ∀ plans, e.plans = .ok plans → ∀ plan ∈ r.plans.objs, plan.deleting = false →
    ∃ shown ∈ plans, shown.name = plan.name ∧ shown.deleting = false
  charts : ∃ charts, e.charts = .ok charts ∧ ∀ chart ∈ r.charts.objs,
    chart.name ∈ targetManagedCharts → chart.paused = true → chart ∈ charts

section

variable {e : RemovalEnv} {u : Upgrade} {r : Removal} {I : Removal → Prop}

theorem preserves_ignoreNotFound {m : RemovalAct Unit}
    (h : Preserves I m) : Preserves I (ignoreNotFound m) := by
  refine Triple.attemptBind h fun result => ?_
  rcases result with err | ⟨⟩
  · dsimp only
    split
    · exact Preserves.pure ()
    · exact Preserves.fail _
  · exact Preserves.pure ()

theorem preserves_deleteJob {key : JobKey}
    (h : ∀ r jobs, I r → I { r with world := { r.world with jobs } }) :
    Preserves I (deleteJob e key) := by
  refine preserves_ignoreNotFound (Preserves.request fun r hr => ?_)
  simp only [run, onWorld, zoom]
  split
  · exact hr
  · exact h r _ hr

/-- A config in the cache that has been reset is not old. -/
def ConfigShown (e : RemovalEnv) (r : Removal) : Prop :=
  ∀ cached, e.cluster = .ok cached → cached.others = none → r.rkeConfig.others = none

/-- The list shows the plans that have to be deleted. -/
def PlansShown (plans : List Plan) (r : Removal) : Prop :=
  ∀ plan ∈ r.plans.objs, plan.deleting = false →
    ∃ shown ∈ plans, shown.name = plan.name ∧ shown.deleting = false

/-- The list shows the charts that have to be resumed. -/
def ChartsShown (charts : List ManagedChart) (r : Removal) : Prop :=
  ∀ chart ∈ r.charts.objs, chart.name ∈ targetManagedCharts → chart.paused = true → chart ∈ charts

/-! ### The parts of the cleanup -/

theorem ensures_resetRKEConfig
    (hI : ∀ r rkeConfig, I r → I { r with rkeConfig }) :
    Ensures (fun r => I r ∧ ConfigShown e r) (resetRKEConfig e) fun _ r =>
      I r ∧ r.rkeConfig.others = none := by
  unfold resetRKEConfig
  split
  · exact .fail
  next cached hcached =>
  split
  · next hreset =>
    have hothers : cached.others = none := (congrArg RKEConfig.others hreset).symm
    exact .pure fun r hr => ⟨hr.1, hr.2 cached hcached hothers⟩
  refine .request fun r hr a ha => ?_
  simp only [run] at ha ⊢
  split
  · exact ⟨hI r _ hr.1, rfl⟩
  · next hne => simp [hne] at ha

theorem ensures_cleanPlan {cleanJobs : Bool} (plan : Plan)
    (hjobs : ∀ r jobs, I r → I { r with world := { r.world with jobs } })
    (hplans : ∀ r name, I r → I { r with plans := r.plans.delete name }) :
    Ensures I (cleanPlan e cleanJobs plan) fun _ r =>
      I r ∧ (plan.deleting = false → r.plans.get plan.name = none) := by
  have hdelete : Preserves I (when cleanJobs do
      let jobs ← Action.ofExcept (e.jobs plan.name)
      forEach (deleteJob e) jobs) :=
    .when fun _ => (Preserves.ofExcept _).bind fun jobs => .forEach fun key _ =>
      preserves_deleteJob hjobs
  refine hdelete.ensures.bind fun _ => ?_
  unfold when
  split
  · refine .attemptBind (Q := fun result r => I r ∧
      ((result = .ok () ∨ ∃ key, result = .error (.notFound key)) → r.plans.get plan.name = none))
      ?_ fun result => ?_
    · refine .request (fun r hr => ?_) (fun r hr => ⟨hr, by simp⟩)
        fun _ _ hr => ⟨hr.1, by simp⟩
      simp only [run]
      rcases hget : r.plans.get plan.name with _ | found
      · exact ⟨hr, fun _ => hget⟩
      · exact ⟨hplans r _ hr, fun _ => Store.get_delete_self ..⟩
    · rcases result with err | ⟨⟩
      · dsimp only
        split
        · next hnotFound =>
          refine Ensures.pure fun r hr => ⟨hr.1, fun _ => hr.2 (.inr ?_)⟩
          cases err with
          | notFound key => exact ⟨key, rfl⟩
          | _ => simp [Err.isNotFound] at hnotFound
        · exact Ensures.fail
      · exact Ensures.pure fun r hr => ⟨hr.1, fun _ => hr.2 (.inl rfl)⟩
  · next hdeleting =>
    exact .pure fun r hr => ⟨hr, fun h => by simp [h] at hdeleting⟩

/-- **The loop over the plans** leaves only plans that are being deleted. -/
theorem ensures_cleanPlans {cleanJobs : Bool} {plans : List Plan}
    (hjobs : ∀ r jobs, I r → I { r with world := { r.world with jobs } })
    (hplans : ∀ r plans, I r → I { r with plans }) :
    Ensures (fun r => I r ∧ PlansShown plans r) (forEach (cleanPlan e cleanJobs) plans)
      fun _ r => I r ∧ ∀ plan ∈ r.plans.objs, plan.deleting = true := by
  refine .weaken (Ensures.forEach
    (R := fun plan r => plan.deleting = false → r.plans.get plan.name = none)
    (fun plan _ => ?_) fun plan other => ?_) fun _ r hr => ⟨hr.1.1, fun plan hplan => ?_⟩
  · refine ensures_cleanPlan plan (fun r jobs hr => ⟨hjobs r jobs hr.1, hr.2⟩)
      fun r name hr => ⟨hplans r _ hr.1, fun plan hplan => ?_⟩
    exact hr.2 plan (List.mem_filter.1 hplan).1
  · refine (ensures_cleanPlan plan (fun _ _ hr => hr) fun r name hr hother => ?_).weaken
      fun _ _ hr => hr.1
    by_cases heq : other.name = name
    · exact heq ▸ Store.get_delete_self ..
    · exact (Store.get_delete_of_ne _ heq).trans (hr hother)
  · by_contra hdeleting
    obtain ⟨shown, hshown, hname, hfalse⟩ := hr.1.2 plan hplan (by simpa using hdeleting)
    have hgone := hr.2 shown hshown hfalse
    rw [hname, Store.get_of_mem hplan] at hgone
    simp at hgone

theorem ensures_resumeChart (chart : ManagedChart)
    (hI : ∀ r, I r → chart.name ∈ targetManagedCharts →
      I { r with charts := r.charts.put { chart with paused := false } }) :
    Ensures I (resumeChart e chart) fun _ r =>
      I r ∧ (chart.paused = true → chart.name ∈ targetManagedCharts →
        ∀ found ∈ r.charts.objs, found.name = chart.name → found.paused = false) := by
  unfold resumeChart
  split
  · next htarget =>
    refine .mapError (Ensures.request fun r hr a ha => ?_)
    simp only [run] at ha ⊢
    split
    · refine ⟨hI r hr htarget.2, fun _ _ found hfound hname => ?_⟩
      rcases Store.mem_put.1 hfound with rfl | ⟨-, hne⟩
      · rfl
      · exact absurd hname hne
    · next hne => simp [hne] at ha
  · next hnot => exact .pure fun r hr => ⟨hr, fun hpaused hname => absurd ⟨hpaused, hname⟩ hnot⟩

/-- **The loop over the managed charts** leaves no chart paused that the list shows. -/
theorem ensures_resumeCharts {charts : List ManagedChart}
    (hcharts : ∀ r charts, I r → I { r with charts }) :
    Ensures (fun r => I r ∧ ChartsShown charts r) (forEach (resumeChart e) charts) fun _ r =>
      I r ∧ ∀ chart ∈ r.charts.objs, chart.name ∈ targetManagedCharts →
        chart.paused = false := by
  refine .weaken (Ensures.forEach
    (R := fun chart r => chart.paused = true → chart.name ∈ targetManagedCharts →
      ∀ found ∈ r.charts.objs, found.name = chart.name → found.paused = false)
    (fun chart _ => ?_) fun chart other => ?_)
    fun _ r hr => ⟨hr.1.1, fun chart hchart htarget => ?_⟩
  · refine ensures_resumeChart chart fun r hr _ => ⟨hcharts r _ hr.1, fun found hfound => ?_⟩
    rcases Store.mem_put.1 hfound with rfl | ⟨hmem, -⟩
    · exact fun _ hpaused => by simp at hpaused
    · exact hr.2 found hmem
  · refine (ensures_resumeChart chart fun r hr _ hpaused htarget found hfound hname => ?_).weaken
      fun _ _ hr => hr.1
    rcases Store.mem_put.1 hfound with rfl | ⟨hmem, -⟩
    · rfl
    · exact hr hpaused htarget found hmem hname
  · by_contra hpaused
    have hpaused : chart.paused = true := by simpa using hpaused
    have hshown := hr.1.2 chart hchart htarget hpaused
    have hresumed := hr.2 chart hshown hpaused htarget chart hchart rfl
    simp [hpaused] at hresumed

/-- The setting has the value that was saved. -/
def SettingBack (u : Upgrade) (w : World) : Prop :=
  u.singleNode = "" → u.annotations.longhornSettingsRestored = false →
    ∀ value ∈ u.annotations.replicaReplenishment, w.replicaReplenishment = value

theorem ensures_setReplicaReplenishmentValue {env : Env} {value : Int} :
    Ensures (fun w => env.oldSetting 2 = some value → w.replicaReplenishment = value)
      (setReplicaReplenishmentValue env value) fun _ w => w.replicaReplenishment = value := by
  have hget : Ensures (fun w => env.oldSetting 2 = some value → w.replicaReplenishment = value)
      (getReplicaReplenishmentValue env 2) fun current w =>
        (env.oldSetting 2).getD w.replicaReplenishment = current ∧
          (env.oldSetting 2 = some value → w.replicaReplenishment = value) :=
    Ensures.request fun w hw a ha => ⟨Except.ok.inj ha, hw⟩
  refine hget.bind fun current => ?_
  split
  · next heq =>
    refine .pure fun w ⟨hcurrent, hshown⟩ => ?_
    rcases hold : env.oldSetting 2 with _ | copy
    · rw [hold] at hcurrent
      exact hcurrent.trans heq.symm
    · rw [hold] at hcurrent hshown
      exact hshown (congrArg some (hcurrent.trans heq.symm))
  · refine .request fun w _ a ha => ?_
    simp only [run] at ha ⊢
    split
    · rfl
    · next hold => simp [hold] at ha

theorem preserves_reenableAddons {env : Env} {version : Nat} {value : Int} :
    Preserves (fun w => w.replicaReplenishment = value) (reenableAddons env version u) := by
  unfold reenableAddons
  split
  · refine .bind ?_ fun _ => Preserves.bind ?_ fun _ => .pure _
    · refine .bind (Preserves.request fun _ hw => hw) fun addon => ?_
      split
      · exact .pure ()
      · refine .when fun _ => Preserves.request fun _ hw => ?_
        simp only [run]
        split
        · exact hw
        · exact hw
    · refine .request fun w hw => ?_
      simp only [run]
      split
      · exact hw
      · exact hw
  · exact .pure _

theorem ensures_restoreLonghornSettings {env : Env} :
    Ensures (env.ShowsSetting u) (restoreLonghornSettings env u) fun _ w => SettingBack u w := by
  unfold restoreLonghornSettings
  split
  · next hcondition =>
    have hload : Ensures (env.ShowsSetting u)
        (do loadReplicaReplenishmentFromUpgradeAnnotation env u) fun _ w => SettingBack u w := by
      unfold loadReplicaReplenishmentFromUpgradeAnnotation
      split
      · next hnone => exact .pure fun w _ _ _ value hvalue => by simp [hnone] at hvalue
      · next saved hsaved =>
        intro w hw a ha
        have hset := ensures_setReplicaReplenishmentValue w (hw hcondition.2 saved hsaved) a ha
        intro _ _ value hvalue
        rw [hsaved] at hvalue
        exact hset.trans (Option.some.inj hvalue)
    refine hload.bind fun _ => Ensures.bind (Ensures.request fun w hw a ha => ?_)
      fun _ => Ensures.pure fun _ hw => hw
    simp only [run] at ha ⊢
    split
    · exact hw
    · exact hw
  · next hnot =>
    exact .pure fun w _ hsingle hrestored => absurd ⟨hsingle, hrestored⟩ hnot

/-- **A cleanup without an error has cleaned up** everything that it could find. -/
theorem ensures_cleanupObjects {cleanJobs : Bool} {charts : List ManagedChart}
    (hcharts : e.charts = .ok charts) :
    Ensures
      (fun r => ((∀ plans, e.plans = .ok plans → PlansShown plans r) ∧ ChartsShown charts r ∧
        e.env.ShowsSetting u r.world) ∧ ConfigShown e r)
      (cleanupObjects e u cleanJobs) fun _ => Cleaned u := by
  have hother : ∀ {I : Removal → Prop} r, Preserves I (e.request r (pure ())) :=
    fun r => (Preserves.pure ()).request
  -- Each part works on objects that the parts after it do not touch.
  let Left (r : Removal) : Prop := (r.rkeConfig.others = none ∧ ChartsShown charts r) ∧
    ∀ plan ∈ r.plans.objs, plan.deleting = true
  refine (hother _).ensures.bind fun _ => ?_
  refine (ensures_resetRKEConfig fun _ _ hr => hr).bind fun _ => ?_
  refine .bind (Q := fun plans r => (r.rkeConfig.others = none ∧ ChartsShown charts r ∧
    e.env.ShowsSetting u r.world) ∧ PlansShown plans r)
    (.ofExcept fun plans r hplans hr => ⟨⟨hr.2, hr.1.2⟩, hr.1.1 plans hplans⟩) fun plans => ?_
  refine (ensures_cleanPlans (fun _ _ hr => hr) fun _ _ hr => hr).bind fun _ => ?_
  refine .bind (Q := fun _ r => Left r ∧ SettingBack u r.world)
    (Ensures.zoom fun r hr a ha => ⟨⟨⟨hr.1.1, hr.1.2.1⟩, hr.2⟩,
      ensures_restoreLonghornSettings r.world hr.1.2.2 a ha⟩) ?_
  rintro ⟨version, v⟩
  have hworld : ∀ {α : Type} {m : Act α}, (∀ value, Preserves
      (fun w => w.replicaReplenishment = value) m) →
      Preserves (fun r => Left r ∧ SettingBack u r.world) (onWorld m) := by
    intro α m hm r hr
    refine ⟨hr.1, fun hsingle hrestored value hvalue => ?_⟩
    exact hm value r.world (hr.2 hsingle hrestored value hvalue)
  refine (hworld fun value => preserves_endUpgradeLog fun _ _ hw => hw).ensures.bind fun _ => ?_
  refine (hworld fun value => preserves_reenableAddons).ensures.bind fun _ => ?_
  refine (hother _).ensures.bind fun _ => ?_
  rw [resumeManagedCharts, hcharts]
  intro r hr a ha
  have hresumed := ensures_resumeCharts (I := fun r => (r.rkeConfig.others = none ∧
    ∀ plan ∈ r.plans.objs, plan.deleting = true) ∧ SettingBack u r.world)
    (fun _ _ hr => hr) r ⟨⟨⟨hr.1.1.1, hr.1.2⟩, hr.2⟩, hr.1.1.2⟩ a ha
  exact ⟨hresumed.1.2, hresumed.1.1.1, hresumed.1.1.2, hresumed.2⟩

/-- **A call of `OnRemove` without an error**, when it finds what there is to do. -/
theorem cleaned_of_onRemove {c : Cluster} (hsafe : RemovalSafe e u r)
    (hok : ((onRemove c e u).run r).1 = .ok ()) : Cleaned u ((onRemove c e u).run r).2 := by
  obtain ⟨charts, hcharts, hshown⟩ := hsafe.charts
  rw [onRemove, if_neg (by simp [hsafe.manifests])] at hok ⊢
  exact ensures_cleanupObjects hcharts r ⟨⟨hsafe.plans, hshown, hsafe.setting⟩, hsafe.rkeConfig⟩ ()
    hok

end

/-! ### The finalizer -/

/-- The removal of an Upgrade. -/
structure Finalizing where
  removal : Removal
  /-- The finalizer of the upgrade controller is still there. -/
  finalizer : Bool
  /-- The Upgrade of the last step, if this was a call of `OnRemove` without an error. -/
  removed : Option Upgrade

/-- The steps of a removal. -/
inductive RemovalEvent where
  /-- `OnRemove` is called, and the finalizer is removed unless this fails. -/
  | remove (e : RemovalEnv) (answered : Bool)
  /-- Something else happens in the cluster. -/
  | change (removal : Removal)

/-- The remove handler of wrangler around `OnRemove`. -/
def finalizerMachine (c : Cluster) : Machine Finalizing RemovalEvent where
  next s ev :=
    if s.finalizer then
      match ev with
      | .remove e answered =>
        let u := s.removal.world.upgrade.get e.env.version
        let result := (onRemove c e u).run s.removal
        match result.1 with
        | .ok () => some ⟨result.2, !answered, some u⟩
        | .error _ => some ⟨result.2, true, none⟩
      | .change removal => some ⟨removal, true, none⟩
    else none

/-- The calls of `OnRemove` are safe. -/
def RemovalEvent.Safe (s : Finalizing) : RemovalEvent → Prop
  | .remove e _ => RemovalSafe e (s.removal.world.upgrade.get e.env.version) s.removal
  | .change _ => True

/-- **A removed Upgrade is cleaned up** by every call without an error, in every safe run, and the
finalizer is removed only after such a call. -/
theorem removed_upgrade_cleaned {c : Cluster} {s₀ s : Finalizing} {evs : List RemovalEvent}
    (hstart : s₀.finalizer = true ∧ s₀.removed = none)
    (hsafe : (finalizerMachine c).Along RemovalEvent.Safe s₀ evs)
    (hrun : (finalizerMachine c).run s₀ evs = some s) :
    (∀ u, s.removed = some u → Cleaned u s.removal) ∧
      (s.finalizer = false → ∃ u, s.removed = some u) := by
  refine Machine.run_invariant (I := fun s => (∀ u, s.removed = some u → Cleaned u s.removal) ∧
    (s.finalizer = false → ∃ u, s.removed = some u)) ?_ ?_ hsafe hrun
  · intro s ev s' h hev hnext
    simp only [finalizerMachine] at hnext
    split at hnext
    · cases ev with
      | remove e answered =>
        dsimp only at hnext
        split at hnext
        · next hok =>
          cases hnext
          refine ⟨fun u hu => ?_, fun _ => ⟨_, rfl⟩⟩
          cases hu
          exact cleaned_of_onRemove hev hok
        · cases hnext
          exact ⟨by simp, by simp⟩
      | change removal =>
        cases hnext
        exact ⟨by simp, by simp⟩
    · simp at hnext
  · exact ⟨by simp [hstart.2], by simp [hstart.1]⟩

namespace RemoveSample

open Sample

/-- An upgrade that has raised the setting, with or without the skip files. -/
def raised (removed : Bool) : Upgrade := { upgrade with
  latest := true
  annotations := { annotations with
    replicaReplenishment := some 600
    skipManifestsApplied := true
    skipManifestsRemoved := removed } }

def config : RKEConfig := ⟨7, "registry", some "upgrade strategy"⟩

def preparePlan : Plan := ⟨"hvst-upgrade-prepare", false⟩

def chart : ManagedChart := ⟨"harvester", true⟩

/-- The Upgrade has been deleted, and the controller has not been called yet. -/
def deleted (removed : Bool) : Finalizing where
  removal := {
    world := { world (raised removed) with replicaReplenishment := 1800 }
    rkeConfig := config
    plans := Store.empty.put preparePlan
    charts := Store.empty.put chart }
  finalizer := true
  removed := none

/-- All requests are answered, and the caches show everything. -/
def call : RemovalEnv where
  env := answering 0 0 0
  cluster := .ok config
  plans := .ok [preparePlan]
  jobs _ := .ok []
  charts := .ok [chart]
  fault _ := (.none, "")

/-- The setting, the RKE config, the plans and the charts. -/
def objects (s : Finalizing) : Int × RKEConfig × List Plan × List ManagedChart :=
  (s.removal.world.replicaReplenishment, s.removal.rkeConfig, s.removal.plans.objs,
    s.removal.charts.objs)

/-- The update of the Upgrade is refused after the setting has been restored. -/
def refused : RemovalEnv := { call with env := refusing (.updateUpgrade 0) 0 0 0 }

/-- The call is repeated with the copy of the setting from before. -/
def repeated : RemovalEnv := { call with
  env := { answering 0 0 0 with oldSetting := fun _ => some 600 }
  cluster := .ok config.reset
  plans := .ok [] }

/-- A call that fails, and its retry. -/
def calls : List RemovalEvent := [.remove refused true, .remove repeated true]

theorem safe_calls :
    (finalizerMachine cluster).Along RemovalEvent.Safe (deleted true) calls := by
  have hplans : ∀ plan ∈ (deleted true).removal.plans.objs, plan.deleting = false →
      ∃ shown ∈ [preparePlan], shown.name = plan.name ∧ shown.deleting = false := by decide
  have hcharts : ∀ chart' ∈ (deleted true).removal.charts.objs,
      chart'.name ∈ targetManagedCharts → chart'.paused = true → chart' ∈ [chart] := by decide
  refine ⟨⟨rfl, by decide, fun cached hcached hreset => ?_, fun plans hshown => ?_, [chart], rfl,
    hcharts⟩, fun s hs => ?_⟩
  · cases hcached
    exact absurd hreset (by decide)
  · cases hshown
    exact hplans
  cases hs
  refine ⟨⟨rfl, by decide, fun _ _ _ => rfl, fun plans _ plan hplan => ?_, [chart], rfl, hcharts⟩,
    fun _ _ => trivial⟩
  exact absurd hplan List.not_mem_nil

end RemoveSample

open Sample RemoveSample in
/-- With the skip files gone, two calls clean up. -/
theorem removed_upgrade_cleaned_sample :
    ∃ s, (finalizerMachine cluster).run (deleted true) calls = some s ∧
      objects s = (600, config.reset, [], [{ chart with paused := false }]) ∧
      s.finalizer = false ∧ ∀ u, s.removed = some u → Cleaned u s.removal :=
  ⟨_, Machine.run_get (by decide), by decide, by decide,
    (removed_upgrade_cleaned ⟨rfl, rfl⟩ safe_calls (Machine.run_get _)).1⟩

open Sample RemoveSample in
/-- **A removal without a cleanup**: the call creates the plan that removes the skip files and ends
without an error, and the finalizer goes. -/
theorem removed_while_waiting :
    ∃ s u, (finalizerMachine cluster).run (deleted false) [.remove call true] = some s ∧
      s.finalizer = false ∧ s.removed = some u ∧
      objects s = (1800, config, [⟨"hvst-upgrade-skip-manifests-remove", false⟩, preparePlan],
        [chart]) ∧ ¬ Cleaned u s.removal := by
  refine ⟨_, _, Machine.run_get (by decide), by decide,
    (Option.some_get (by decide)).symm, by decide, fun hcleaned => ?_⟩
  exact absurd (hcleaned.plans preparePlan (by decide)) (by decide)

end Upgrades

end Harvester
