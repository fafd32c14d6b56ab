import Harvester.Upgrade.Effects

/-!
# What the upgrade controller can do

`UpgradeStep` lists the edits that `upgradeHandler` makes, each with the conditions under which it
is made, and `upgradeHandler_effects` is its footprint, whatever faults its requests meet.
-/

namespace Harvester

namespace Upgrades

open Control Action Relation

/-! ### Edits -/

section

variable (f : UpgradeFindings) (u : Upgrade)

/-- The upgrade goes on: it has not ended and does not wait for its log. -/
@[mk_iff] structure Upgrade.Running : Prop where
  completed : u.status .completed = some .conditionUnknown
  log : ¬ (u.logEnabled = true ∧ u.status .logReady = some .conditionUnknown)

/-- The upgrade has ended. -/
def Upgrade.Ended : Prop :=
  u.status .completed ≠ none ∧ u.status .completed ≠ some .conditionUnknown

theorem Upgrade.ended_finish {u : Upgrade} {s : ConditionStatus} {state : State}
    (hs : s ≠ .conditionUnknown) : (u.finish s state).Ended := by
  have hstatus : (u.finish s state).status .completed = some s := by
    have hset : (u.finish s state).status .completed =
        (u.setStatus .completed s).status .completed :=
      rfl
    rw [hset, Upgrade.status_setStatus, if_pos rfl]
  exact ⟨by simp [hstatus], by simpa [hstatus] using hs⟩

/-- The statuses of nodes whose images are not preloaded. -/
def Upgrade.skipPreload (nodes : List String) : Upgrade :=
  nodes.foldl (fun u node => u.setNodeUpgradeStatus node .imagesPreloaded "" "") u

/-- The edits with which an upgrade goes from stage to stage. -/
inductive StageStep (f : UpgradeFindings) (u : Upgrade) : Upgrade → Prop
  | initWithoutLog (h : u.status .completed = none) :
    StageStep f u { u.initStatus.setLogReadyCondition .conditionFalse "Disabled"
      "Upgrade observability is administratively disabled" with
      state := some .loggingInfraPrepared }
  | init (h : u.status .completed = none) (hlog : u.logEnabled = true) {x : Upgrade}
    (hx : (∃ name, x = { u.initStatus with upgradeLog := name }) ∨
      ∃ reason, x = u.initStatus.setLogReadyCondition .conditionFalse reason "") :
    StageStep f u (x.createUnknownIfNotExists .logReady)
  | logTimeout (h : u.status .completed ≠ none) (reason message reason' message' : String) :
    StageStep f u
      ((u.setLogReadyCondition .conditionFalse reason message).fail reason' message')
  | fail (h : u.Running) {singleNode : String}
    (hs : singleNode = u.singleNode ∨
      u.status .nodesPrepared = none ∧ f.isSingleNodeCluster = .ok singleNode)
    (repoInfo reason : String) :
    StageStep f u ({ u with singleNode, repoInfo }.fail reason "")
  | createImage (h : u.Running) (imageID : String) :
    StageStep f u ({ u with imageID }.createUnknownIfNotExists .imageReady)
  | startRepo (h : u.Running) (hrepo : u.status .repoProvisioned = none) :
    StageStep f u ({ u with state := some .preparingRepo }.createUnknownIfNotExists
      .repoProvisioned)
  | skipPreload (h : u.Running) (hrepo : u.status .repoProvisioned = some .conditionTrue)
    (hnodes : u.status .nodesPrepared = none) {singleNode : String}
    (hs : f.isSingleNodeCluster = .ok singleNode) (repoInfo : String) (nodes : List String) :
    StageStep f u ({ { u with singleNode, repoInfo }.skipPreload nodes with
      state := some .preparingNodes }.setNodesPreparedCondition .conditionTrue "" "")
  | preparePlan (h : u.Running) (hrepo : u.status .repoProvisioned = some .conditionTrue)
    (hnodes : u.status .nodesPrepared = none) {singleNode : String}
    (hs : f.isSingleNodeCluster = .ok singleNode) (repoInfo : String) :
    StageStep f u ({ u with singleNode, repoInfo, state := some .preparingNodes
      }.createUnknownIfNotExists .nodesPrepared)
  | systemServices (h : u.Running) (hnodes : u.status .nodesPrepared = some .conditionTrue)
    (hservices : u.status .systemServicesUpgraded = none) :
    StageStep f u ({ u with state := some .upgradingSystemServices }.setHelmChartUpgradeStatus
      .conditionUnknown "" "")
  | singleNode (h : u.Running)
    (hservices : u.status .systemServicesUpgraded = some .conditionTrue)
    {state : NodeState} (hstate : state ∈ [.imagesPreloaded, .upgradePaused])
    (reason message : String) :
    StageStep f u (u.setNodeUpgradeStatus u.singleNode state reason message)
  | upgradingNodes (h : u.Running)
    (hservices : u.status .systemServicesUpgraded = some .conditionTrue)
    (hnodes : u.status .nodesUpgraded = none) : StageStep f u u.upgradingNodes

/-- The edits of the cleanup. -/
inductive CleanupStep (u : Upgrade) : Upgrade → Prop
  | mk (h : u.Ended) (annotations : Annotations) (cleanup : Option CleanupState) :
    CleanupStep u { u with annotations, cleanup }

/-- The edits of `upgradeHandler`. -/
inductive UpgradeStep (f : UpgradeFindings) (u : Upgrade) : Upgrade → Prop
  | stage {x : Upgrade} (h : StageStep f u x) : UpgradeStep f u x
  | cleanup {x : Upgrade} (h : CleanupStep u x) : UpgradeStep f u x
  | saveSettings (h : u.Running)
    (hservices : u.status .systemServicesUpgraded = some .conditionTrue)
    (annotations : Annotations) : UpgradeStep f u { u with annotations }

/-- The footprint of the stages that neither change settings nor clean up. -/
def stageFootprint : Footprint where
  edit := StageStep f
  creates u job := job.type = .applyManifests ∨ job.type = .singleNodeUpgrade ∧ u.singleNode ≠ ""
  plans u := u.status .repoProvisioned = some .conditionTrue
  cleans := False
  acknowledges := False
  settings := False

/-- The footprint of the cleanup. -/
def cleanupFootprint : Footprint :=
  ⟨CleanupStep, fun _ _ => False, fun _ => False, True, False, True⟩

/-- The footprint of `upgradeHandler`. -/
def upgradeFootprint : Footprint where
  edit := UpgradeStep f
  creates u job := job.type = .applyManifests ∨ job.type = .singleNodeUpgrade ∧ u.singleNode ≠ ""
  plans u := u.status .repoProvisioned = some .conditionTrue
  cleans := True
  acknowledges := False
  settings := True

theorem stage_le_upgrade : (stageFootprint f).Le (upgradeFootprint f) :=
  ⟨.stage, id, id, False.elim, id, False.elim⟩

end

variable {f : UpgradeFindings} {w₀ w : World} {n : Nat} {u : Upgrade} {env : Env} {c : Cluster}

/-! ### The first steps -/

theorem initUpgrade_within (h : u.status .completed = none) :
    Within (stageFootprint f) env.version u (initUpgrade env f u) := by
  refine .of_preserves fun w₀ => (Preserves.ofExcept _).bind fun _ => ?_
  split
  · exact preserves_writeUpgrade (StageStep.initWithoutLog h)
  next hlog =>
  refine .attemptBind (Preserves.request fun w hw => ?_) fun r =>
    preserves_writeUpgrade (StageStep.init h (by simpa using hlog) ?_)
  · simp only [run]
    split
    · exact hw
    · exact hw.step (.log _)
  · rcases r with e | ⟨⟩
    · dsimp only
      split
      · exact .inl ⟨_, rfl⟩
      · exact .inr ⟨_, rfl⟩
    · exact .inl ⟨_, rfl⟩

theorem checkLogReadyCondition_within (h : u.status .completed ≠ none) :
    Within (stageFootprint f) env.version u (checkLogReadyCondition env f u) := by
  unfold checkLogReadyCondition
  split
  · exact .fail _
  · exact .pure ()
  refine .of_preserves fun w₀ => ?_
  refine .attemptBind (Preserves.request fun _ hw => hw) fun r => ?_
  split
  · refine (preserves_updateLog Working.keptByLog).mapError.bind fun _ => preserves_writeUpgrade ?_
    exact StageStep.logTimeout h ..
  · exact preserves_writeUpgrade (StageStep.logTimeout h ..)

section

variable (h : u.Running)

include h

theorem within_fail (reason : String) :
    Within (stageFootprint f) env.version u (env.writeUpgrade (u.fail reason "")) :=
  within_writeUpgrade (StageStep.fail h (.inl rfl) u.repoInfo reason)

theorem createImage_within : Within (stageFootprint f) env.version u (createImage env f u) := by
  unfold createImage
  split
  · exact within_fail h _
  · exact .fail _
  · exact within_writeUpgrade (StageStep.createImage h _)

theorem startRepo_within (hrepo : u.status .repoProvisioned = none) :
    Within (stageFootprint f) env.version u (startRepo env f u) := by
  unfold startRepo
  split
  · exact within_fail h _
  · exact within_writeUpgrade (StageStep.startRepo h hrepo)

theorem prepareNodes_within (hrepo : u.status .repoProvisioned = some .conditionTrue)
    (hnodes : u.status .nodesPrepared = none) :
    Within (stageFootprint f) env.version u (prepareNodes env f u) := by
  refine .of_preserves fun w₀ => ?_
  refine Yields.bind
    (Yields.ofExcept fun _ hs => hs) fun singleNode hs => ?_
  split
  · exact preserves_writeUpgrade (StageStep.fail h (.inr ⟨hnodes, hs⟩) _ _)
  next repoInfo _ =>
  split
  · exact preserves_writeUpgrade (StageStep.fail h (.inr ⟨hnodes, hs⟩) _ _)
  unfold prepareNodesForUpgrade
  split
  · exact Preserves.fail _
  · next nodes _ =>
    exact preserves_writeUpgrade (StageStep.skipPreload h hrepo hnodes hs repoInfo nodes)
  have hplan : Preserves (Working (stageFootprint f) w₀ env.version u)
      (env.request .createPlan
        (Action.modify fun w => { w with preparePlan := true })) :=
    (Preserves.modify fun _ hw => hw.step (.plan hw.reads hrepo)).request
  refine Triple.attemptBind hplan fun r => ?_
  split
  · exact preserves_writeUpgrade (StageStep.fail h (.inr ⟨hnodes, hs⟩) _ _)
  · exact preserves_writeUpgrade (StageStep.preparePlan h hrepo hnodes hs repoInfo)

theorem upgradeSystemServices_within (hnodes : u.status .nodesPrepared = some .conditionTrue)
    (hservices : u.status .systemServicesUpgraded = none) :
    Within (stageFootprint f) env.version u (upgradeSystemServices c env u) := by
  unfold upgradeSystemServices
  split
  · exact within_fail h _
  · exact within_ensureJob_bind (.inl rfl) (.systemServices h hnodes hservices)

/-! ### The nodes -/

variable (hservices : u.status .systemServicesUpgraded = some .conditionTrue)
  (hnodes : u.status .nodesUpgraded = none)

include hservices hnodes

theorem upgradeSingleNode_within (hsingle : u.singleNode ≠ "") :
    Within (stageFootprint f) env.version u (upgradeSingleNode env u) := by
  unfold upgradeSingleNode
  split
  · split
    · exact .pure ()
    · exact within_writeUpgrade (StageStep.singleNode h hservices (by simp) _ _)
  · split
    · exact within_writeUpgrade (StageStep.singleNode h hservices (by simp) _ _)
    · exact within_ensureJob_bind (.inr ⟨rfl, hsingle⟩)
        (.upgradingNodes h hservices hnodes)

omit h hservices hnodes

theorem preserves_ensureSkipManifestPlanCompleted {I : World → Prop} {completed : Bool} :
    Preserves I (ensureSkipManifestPlanCompleted env completed) :=
  (Preserves.when fun _ => preserves_other _).bind fun _ => .pure _

theorem preserves_getReplicaReplenishmentValue {I : World → Prop} {k : Nat} :
    Preserves I (getReplicaReplenishmentValue env k) :=
  Preserves.request fun _ hw => hw

theorem preserves_setReplicaReplenishmentValue {F : Footprint} (h : F.settings) {value : Int} :
    Preserves (Working F w₀ n u) (setReplicaReplenishmentValue env value) := by
  refine preserves_getReplicaReplenishmentValue.bind fun current => ?_
  split
  · exact .pure ()
  · refine .request fun w hw => ?_
    simp only [run]
    split
    · exact hw.step (.setting h value)
    · exact hw

/-- Only the annotations differ. -/
def Upgrade.Annotated (u v : Upgrade) : Prop := ∃ annotations, v = { u with annotations }

theorem yields_extendReplicaReplenishment {F : Footprint} (h : F.settings) :
    Yields (Working F w₀ n u) u.Annotated (extendReplicaReplenishment env u) := by
  refine preserves_getReplicaReplenishmentValue.yields.andThen fun value _ => ?_
  split
  · refine .andThen (V := u.Annotated) ?_ fun v hv => ?_
    · exact preserves_getReplicaReplenishmentValue.yields.andThen fun _ _ => .pure ⟨_, rfl⟩
    · exact (preserves_setReplicaReplenishmentValue h).yields.andThen fun _ _ => .pure hv
  · exact .pure ⟨_, rfl⟩

theorem yields_addUpgradeLabelToDeschedulerAddons {F : Footprint} (h : F.settings) {v : Upgrade}
    (hv : u.Annotated v) :
    Yields (Working F w₀ n u) u.Annotated (addUpgradeLabelToDeschedulerAddons env v) := by
  obtain ⟨annotations, rfl⟩ := hv
  have hget : Preserves (Working F w₀ n u) (getAddon env) :=
    Preserves.request fun _ hw => hw
  refine hget.yields.andThen fun addon _ => ?_
  split
  · exact .pure ⟨_, rfl⟩
  · split
    · exact (preserves_updateAddon h).yields.andThen fun _ _ => .pure ⟨_, rfl⟩
    · exact .pure ⟨_, rfl⟩

theorem annotated_saveShutdownVM {v : Upgrade} (hv : u.Annotated v) (shutdown : Bool) :
    u.Annotated (v.saveShutdownVM shutdown) := by
  obtain ⟨annotations, rfl⟩ := hv
  unfold Upgrade.saveShutdownVM
  split
  · exact ⟨_, rfl⟩
  · exact ⟨_, rfl⟩

include h hservices hnodes

theorem upgradeNodes_within : Within (upgradeFootprint f) env.version u (upgradeNodes env f u) := by
  refine .bind (fun _ => preserves_ensureSkipManifestPlanCompleted) fun waiting => ?_
  split
  · exact .pure ()
  have hsettings : (upgradeFootprint f).settings := trivial
  refine .yieldsBind (fun _ => yields_extendReplicaReplenishment hsettings) fun v hv => ?_
  refine .yieldsBind (fun _ => yields_addUpgradeLabelToDeschedulerAddons hsettings hv)
    fun v' hv' => ?_
  obtain ⟨annotations, hx⟩ := annotated_saveShutdownVM hv' f.shutdownVMOnMigrationFailure
  have hrunning : { u with annotations }.Running := ⟨h.completed, h.log⟩
  rw [hx]
  refine within_updateUpgrade_bind (UpgradeStep.saveSettings h hservices annotations)
    fun version => .bind (fun _ => preserves_other _) fun _ => ?_
  exact within_updateUpgrade_bind
    (UpgradeStep.stage (.upgradingNodes hrunning hservices hnodes)) fun _ => .pure ()

end

/-! ### Cleanup -/

/-- The outcome of a part of the cleanup: the version that it ends with meets `C`. -/
def Hands (E : World → Prop) (C : Nat → Upgrade → World → Prop) :
    Except Err (Nat × Upgrade) → World → Prop
  | .ok (n, u) => C n u
  | .error _ => E

theorem preserves_endUpgradeLog {I : World → Prop} (h : KeptByLog I) :
    Preserves I (endUpgradeLog env u) := by
  unfold endUpgradeLog
  split
  · refine .bind (Preserves.request fun _ hw => hw) fun log => ?_
    split
    · exact .pure ()
    · exact .when fun _ => preserves_updateLog h
  · exact .pure ()

section

variable {E : World → Prop} {C D K : Nat → Upgrade → World → Prop} {cleanJobs : Bool}

/-- **The steps of the cleanup**, each from the version of the one before. -/
theorem triple_cleanup (hE₀ : ∀ w, C env.version u w → E w) (hE₁ : ∀ n u w, D n u w → E w)
    (hE₂ : ∀ n u w, K n u w → E w)
    (hjobs : cleanJobs = true → ∀ w, C env.version u w → C env.version u
      { w with jobs := w.jobs.push (w.jobs.live.filter fun job => job.type ≠ .prepare) })
    (hrestore : Triple (C env.version u) (restoreLonghornSettings env u) (Hands E D))
    (hlog : ∀ n u, KeptByLog (D n u))
    (hreenable : ∀ n u, Triple (D n u) (reenableAddons env n u) (Hands E K)) :
    Triple (C env.version u) (cleanup env u cleanJobs) (Hands E K) := by
  have hresources : Preserves (C env.version u)
      (env.request .cleanupResources (Action.modify fun w =>
        if cleanJobs then
          { w with jobs := w.jobs.push (w.jobs.live.filter fun job => job.type ≠ .prepare) }
        else w) : Act Unit) := by
    refine (Preserves.modify fun w hw => ?_).request
    split
    · next hclean => exact hjobs hclean w hw
    · exact hw
  refine .bind hresources (fun _ => ?_) fun _ => hE₀
  refine .bind hrestore ?_ fun _ _ hw => hw
  rintro ⟨n, v⟩
  refine .bind (preserves_endUpgradeLog (hlog n v)) (fun _ => ?_) fun _ => hE₁ n v
  refine .bind (hreenable n v) ?_ fun _ _ hw => hw
  rintro ⟨n, v⟩
  exact .bind (preserves_other _) (fun _ => .pure fun _ hw => hw) fun _ => hE₂ n v

theorem triple_cleanupUpgrade (hE₀ : ∀ w, C env.version u w → E w)
    (hrecord : ∀ cleanJobs, (cleanJobs = true → u.status .completed = some .conditionTrue) →
      Triple (C env.version u) (cleanupAndRecord env u cleanJobs) fun _ => E)
    (himage : ∀ annotations : Annotations,
      annotations = { u.annotations with imageCleanup := some false } →
      Triple (C env.version u) (env.writeUpgrade { u with annotations }) fun _ => E) :
    Triple (C env.version u) (cleanupUpgrade env f u) fun _ => E := by
  have hwait : Preserves (C env.version u) (waitForManifests env u) := by
    unfold waitForManifests
    split
    · exact preserves_ensureSkipManifestPlanCompleted
    · exact .pure _
  refine .bind hwait (fun waiting => ?_) fun _ => hE₀
  split
  · exact .pure hE₀
  split
  · next hcompleted =>
    unfold cleanupSucceeded
    split
    · split
      · exact .pure hE₀
      · exact .bind (Preserves.ofExcept _) (fun _ => hrecord true fun _ => hcompleted)
          fun _ => hE₀
    · split
      · exact .fail hE₀
      · exact himage _ rfl
      · exact (preserves_other _).weaken (fun _ hw => hw) fun _ => hE₀
  · split
    · exact .pure hE₀
    · exact hrecord false (by simp)

end

/-- The footprint allows the cleanup, of the prepare jobs too if `cleans` holds. -/
structure Footprint.Cleanup (F : Footprint) (cleans : Prop) : Prop where
  edit : ∀ {u x}, CleanupStep u x → F.edit u x
  settings : F.settings
  cleans : cleans → F.cleans

/-- The cleanup of an upgrade that has ended. -/
structure CleansUp (F : Footprint) (w₀ : World) (n : Nat) (u : Upgrade) (w : World) : Prop
    extends Working F w₀ n u w where
  ended : u.Ended

section

variable {F : Footprint} {cleans : Prop} (hF : F.Cleanup cleans)

include hF

theorem triple_updateAnnotations {k : Nat} {annotations : Annotations} :
    Triple (CleansUp F w₀ n u)
      (do
        let version ← env.updateUpgrade k n { u with annotations }
        return (version, { u with annotations }))
      (Hands (Effects F w₀) (CleansUp F w₀)) := by
  intro w hw
  exact Triple.bind
    (triple_updateUpgrade (hF.edit (.mk hw.ended annotations u.cleanup)))
    (fun _ => .pure fun _ hv => ⟨hv.2, hw.ended⟩) (fun _ _ hv => hv.effects) w hw.toWorking

theorem triple_restoreLonghornSettings :
    Triple (CleansUp F w₀ env.version u) (restoreLonghornSettings env u)
      (Hands (Effects F w₀) (CleansUp F w₀)) := by
  unfold restoreLonghornSettings
  split
  · have hload : Preserves (CleansUp F w₀ env.version u)
        (do loadReplicaReplenishmentFromUpgradeAnnotation env u) := by
      unfold loadReplicaReplenishmentFromUpgradeAnnotation
      split
      · exact .pure ()
      · exact fun w hw =>
          ⟨preserves_setReplicaReplenishmentValue hF.settings w hw.toWorking, hw.ended⟩
    exact .bind hload (fun _ => triple_updateAnnotations hF) fun _ _ hw => hw.effects
  · exact .pure fun _ hw => hw

theorem triple_reenableAddons :
    Triple (CleansUp F w₀ n u) (reenableAddons env n u)
      (Hands (Effects F w₀) (CleansUp F w₀)) := by
  unfold reenableAddons
  split
  · have henable : Preserves (CleansUp F w₀ n u) (enableDescheduler env) := by
      refine .bind (Preserves.request fun _ hw => hw) fun addon => ?_
      split
      · exact .pure ()
      · exact .when fun _ w hw => ⟨preserves_updateAddon hF.settings w hw.toWorking, hw.ended⟩
    exact .bind henable (fun _ => triple_updateAnnotations hF) fun _ _ hw => hw.effects
  · exact .pure fun _ hw => hw

theorem cleanupAndRecord_within {cleanJobs : Bool} (hjobs : cleanJobs = true → cleans) :
    Triple (CleansUp F w₀ env.version u) (cleanupAndRecord env u cleanJobs)
      fun _ => Effects F w₀ := by
  have hcleanup : Triple (CleansUp F w₀ env.version u) (cleanup env u cleanJobs)
      (Hands (Effects F w₀) (CleansUp F w₀)) :=
    triple_cleanup (fun _ hw => hw.effects) (fun _ _ _ hw => hw.effects)
      (fun _ _ _ hw => hw.effects)
      (fun hclean _ hw => ⟨hw.step (.cleanJobs (hF.cleans (hjobs hclean))), hw.ended⟩)
      (triple_restoreLonghornSettings hF)
      (fun _ _ _ log hw => ⟨hw.step (.log log), hw.ended⟩) fun _ _ => triple_reenableAddons hF
  refine .bind hcleanup ?_ fun _ _ hw => hw
  rintro ⟨n, v⟩ w hw
  exact within_updateUpgrade_bind (hF.edit (.mk hw.ended v.annotations (some .succeeded)))
    (fun _ => .pure ()) w₀ w hw.toWorking

omit hF in
theorem cleanupUpgrade_within (h : u.Ended)
    (hF : F.Cleanup (u.status .completed = some .conditionTrue)) :
    Within F env.version u (cleanupUpgrade env f u) := fun w₀ w hw =>
  triple_cleanupUpgrade (fun _ hw => hw.effects)
    (fun _ => cleanupAndRecord_within hF)
    (fun annotations _ w hw =>
      within_writeUpgrade (hF.edit (.mk h annotations u.cleanup)) w₀ w hw.toWorking) w ⟨hw, h⟩

end

/-! ### All steps -/

/-- A reconcile of the upgrade controller is a stage that leaves the settings alone, the cleanup
after the end, or the start of the upgrade of the nodes. -/
inductive Reconciles (env : Env) (f : UpgradeFindings) (u : Upgrade) (w : World) :
    Except Err Unit × World → Prop
  | stage {result : Except Err Unit × World} (h : Effects (stageFootprint f) w result.2) :
    Reconciles env f u w result
  | cleanup (h : u.Ended) : Reconciles env f u w ((cleanupUpgrade env f u).run w)
  | nodes (h : u.Running) (hservices : u.status .systemServicesUpgraded = some .conditionTrue)
    (hnodes : u.status .nodesUpgraded = none) (hsingle : u.singleNode = "") :
    Reconciles env f u w ((upgradeNodes env f u).run w)

theorem startNodes_reconciles (hn : w.upgrade.At env.version u) (h : u.Running)
    (hservices : u.status .systemServicesUpgraded = some .conditionTrue)
    (hnodes : u.status .nodesUpgraded = none) :
    Reconciles env f u w ((startNodes c env f u).run w) := by
  rcases hos : c.releaseOS u.repoInfo with e | os
  · have hrun : (startNodes c env f u).run w = (.error e, w) := by
      simp [startNodes, run, Action.ofExcept, Bind.bind, hos]
    exact hrun ▸ .stage ReflTransGen.refl
  · have hrun : (startNodes c env f u).run w =
        (if u.singleNode ≠ "" then upgradeSingleNode env u else upgradeNodes env f u).run w := by
      simp only [startNodes, Action.ofExcept, Bind.bind, hos]
    rw [hrun]
    split
    · next hsingle =>
      exact .stage (upgradeSingleNode_within h hservices hnodes hsingle w w
        ⟨ReflTransGen.refl, hn⟩)
    · next hsingle => exact .nodes h hservices hnodes (not_not.1 hsingle)

/-- **The cases of the upgrade controller.** -/
theorem upgradeHandler_reconciles (hn : env.version ≤ w.upgrade.now) :
    Reconciles env f (w.upgrade.get env.version) w ((upgradeHandler c env f).run w) := by
  have hreads : w.upgrade.At env.version (w.upgrade.get env.version) := ⟨hn, rfl⟩
  have hstage : ∀ {m : Act Unit},
      Within (stageFootprint f) env.version (w.upgrade.get env.version) m →
      Reconciles env f (w.upgrade.get env.version) w (m.run w) :=
    fun hm => .stage (hm w w ⟨ReflTransGen.refl, hreads⟩)
  rw [upgradeHandler, run_getUpgrade]
  generalize w.upgrade.get env.version = u at hreads hstage ⊢
  split
  · next h => exact hstage (initUpgrade_within h)
  next h =>
  split
  · exact hstage (checkLogReadyCondition_within h)
  next hlog =>
  split
  · next himage => exact hstage (createImage_within ⟨himage.1, hlog⟩)
  split
  · exact hstage (.pure ())
  split
  · next hended => exact .cleanup ⟨h, hended⟩
  next hrunning =>
  have hu : u.Running := ⟨not_not.1 hrunning, hlog⟩
  split
  · next hrepo => exact hstage (startRepo_within hu hrepo.2)
  split
  · next hnodes => exact hstage (prepareNodes_within hu hnodes.1 hnodes.2)
  split
  · next hservices =>
    exact hstage (upgradeSystemServices_within hu hservices.1 hservices.2)
  · split
    · next hstart => exact startNodes_reconciles hreads hu hstart.1 hstart.2
    · exact hstage (.pure ())

/-- **The footprint of the upgrade controller.** -/
theorem upgradeHandler_effects (hn : env.version ≤ w.upgrade.now) :
    Effects (upgradeFootprint f) w ((upgradeHandler c env f).run w).2 := by
  have hreconciles := upgradeHandler_reconciles (c := c) (f := f) hn
  generalize (upgradeHandler c env f).run w = result at hreconciles
  cases hreconciles with
  | stage h => exact h.mono (stage_le_upgrade f)
  | cleanup h =>
    exact cleanupUpgrade_within h ⟨UpgradeStep.cleanup, True.intro, fun _ => True.intro⟩ w w
      (Working.init hn)
  | nodes h hservices hnodes =>
    exact upgradeNodes_within h hservices hnodes w w (Working.init hn)

end Upgrades

end Harvester
