import Mathlib.Logic.Relation
import Harvester.Upgrade.Controller

/-!
# What the upgrade controllers can do

Whichever of its requests fail, what a reconcile has done to the cluster is a sequence of `Effect`s
from a `Footprint`: which edits of the Upgrade it makes, which jobs it creates, whether it touches
secrets or settings.  The theorems `…_effects` give the footprint of each handler, once for all the
invariants.  Every new version of the Upgrade is an edit of the version before it, even if the
caches are behind.
-/

namespace Harvester

namespace Upgrades

open Control Action Relation

/-! ### Footprints -/

/-- What a reconcile may do.  What it decides from the Upgrade, it decides from some version. -/
structure Footprint where
  /-- The new versions of the Upgrade, given the version before. -/
  edit : Upgrade → Upgrade → Prop
  creates : Upgrade → Job → Prop
  /-- The prepare plan is created. -/
  plans : Upgrade → Prop
  /-- The prepare jobs are removed. -/
  cleans : Prop
  /-- Machine-plan secrets are updated. -/
  acknowledges : Prop
  /-- The Longhorn setting or the descheduler addon is changed. -/
  settings : Prop

/-- A reconcile that only edits the Upgrade. -/
def Footprint.edits (E : Upgrade → Upgrade → Prop) : Footprint :=
  ⟨E, fun _ _ => False, fun _ => False, False, False, False⟩

/-- One change of the cluster. -/
inductive Effect (F : Footprint) (w : World) : World → Prop
  | edit {x : Upgrade} (h : F.edit w.upgrade.live x) :
    Effect F w { w with upgrade := w.upgrade.push x }
  | createJob {n : Nat} {u : Upgrade} {job : Job} (hu : w.upgrade.At n u) (h : F.creates u job) :
    Effect F w { w with jobs := w.jobs.push (w.jobs.live.put job) }
  | cleanJobs (h : F.cleans) :
    Effect F w
      { w with jobs := w.jobs.push (w.jobs.live.filter fun job => job.type ≠ .prepare) }
  | secret (h : F.acknowledges) (secret : Secret) :
    Effect F w { w with secrets := w.secrets.put secret }
  | setting (h : F.settings) (value : Int) : Effect F w { w with replicaReplenishment := value }
  | addon (h : F.settings) (addon : Addon) : Effect F w { w with descheduler := some addon }
  | plan {n : Nat} {u : Upgrade} (hu : w.upgrade.At n u) (h : F.plans u) :
    Effect F w { w with preparePlan := true }
  | log (log : History (Option UpgradeLog)) : Effect F w { w with log }

/-- Some effects in a row. -/
def Effects (F : Footprint) : World → World → Prop := ReflTransGen (Effect F)

/-- A larger footprint. -/
structure Footprint.Le (F F' : Footprint) : Prop where
  edit : ∀ {u x}, F.edit u x → F'.edit u x
  creates : ∀ {u job}, F.creates u job → F'.creates u job
  plans : ∀ {u}, F.plans u → F'.plans u
  cleans : F.cleans → F'.cleans
  acknowledges : F.acknowledges → F'.acknowledges
  settings : F.settings → F'.settings

theorem Effects.mono {F F' : Footprint} {w w' : World} (h : Effects F w w') (hF : F.Le F') :
    Effects F' w w' := by
  refine ReflTransGen.mono (fun w w' heffect => ?_) _ _ h
  cases heffect with
  | edit h => exact .edit (hF.edit h)
  | createJob hu h => exact .createJob hu (hF.creates h)
  | cleanJobs h => exact .cleanJobs (hF.cleans h)
  | secret h => exact .secret (hF.acknowledges h) _
  | setting h => exact .setting (hF.settings h) _
  | addon h => exact .addon (hF.settings h) _
  | plan hu h => exact .plan hu (hF.plans h)
  | log => exact .log _

/-- A handler at work: it has read `u` as version `n` of the Upgrade. -/
structure Working (F : Footprint) (w₀ : World) (n : Nat) (u : Upgrade) (w : World) : Prop where
  effects : Effects F w₀ w
  reads : w.upgrade.At n u

variable {F : Footprint} {I : World → Prop} {w₀ w w' : World} {n k : Nat} {u x : Upgrade}
  {job : Job} {env : Env}

theorem Effect.reads (h : Effect F w w') (hu : w.upgrade.At n u) : w'.upgrade.At n u := by
  cases h with
  | edit => exact hu.push _
  | _ => exact hu

theorem Working.step (hw : Working F w₀ n u w) (h : Effect F w w') : Working F w₀ n u w' :=
  ⟨hw.effects.tail h, h.reads hw.reads⟩

theorem Working.init (hn : n ≤ w.upgrade.now) : Working F w n (w.upgrade.get n) w :=
  ⟨ReflTransGen.refl, hn, rfl⟩

/-- The handler does no more than `F` allows. -/
def Within (F : Footprint) (n : Nat) (u : Upgrade) {α : Type} (m : Act α) : Prop :=
  ∀ w₀, Triple (Working F w₀ n u) m fun _ w => Effects F w₀ w

theorem Within.of_preserves {α : Type} {m : Act α}
    (h : ∀ w₀, Preserves (Working F w₀ n u) m) : Within F n u m :=
  fun w₀ w hw => (h w₀ w hw).effects

theorem Within.bind {α β : Type} {m : Act α} {f : α → Act β}
    (hm : ∀ w₀, Preserves (Working F w₀ n u) m) (hf : ∀ a, Within F n u (f a)) :
    Within F n u (m >>= f) :=
  fun w₀ => Triple.bind (hm w₀) (fun a => hf a w₀) fun _ _ hw => hw.effects

theorem Within.yieldsBind {α β : Type} {V : α → Prop} {m : Act α} {f : α → Act β}
    (hm : ∀ w₀, Yields (Working F w₀ n u) V m) (hf : ∀ a, V a → Within F n u (f a)) :
    Within F n u (m >>= f) :=
  fun w₀ => (hm w₀).bindTriple (fun a ha => hf a ha w₀) fun _ _ hw => hw.effects

theorem Within.pure {α : Type} (a : α) : Within F n u (Pure.pure a : Act α) :=
  .of_preserves fun _ => Preserves.pure a

theorem Within.fail {α : Type} (e : Err) : Within F n u (fail e : Act α) :=
  .of_preserves fun _ => Preserves.fail e

/-! ### Requests -/

theorem preserves_other (r : ApiRequest) : Preserves I (env.other r) :=
  (Preserves.pure ()).request

/-- What stays when the job is created. -/
def KeptByJob (I : World → Prop) (job : Job) : Prop :=
  ∀ w, I w → I { w with jobs := w.jobs.push (w.jobs.live.put job) }

theorem Working.keptByJob (h : F.creates u job) : KeptByJob (Working F w₀ n u) job :=
  fun _ hw => hw.step (.createJob hw.reads h)

theorem preserves_createJob (h : KeptByJob I job) : Preserves I (env.createJob job) := by
  refine .request fun w hw => ?_
  simp only [run]
  split
  · exact hw
  · exact h w hw

theorem preserves_ensureJob {report : Err → Err}
    (h : KeptByJob I job) : Preserves I (env.ensureJob job report) := by
  refine Triple.attemptBind (preserves_createJob h) fun r => ?_
  rcases r with e | ⟨⟩
  · dsimp only
    split
    · exact Preserves.pure ()
    · exact Preserves.fail _
  · exact Preserves.pure ()

/-- What stays when the UpgradeLog changes. -/
def KeptByLog (I : World → Prop) : Prop :=
  ∀ (w : World) (log : History (Option UpgradeLog)), I w → I { w with log }

theorem Working.keptByLog : KeptByLog (Working F w₀ n u) :=
  fun _ log hw => hw.step (.log log)

theorem preserves_updateLog (h : KeptByLog I) {log : UpgradeLog} :
    Preserves I (env.updateLog log) := by
  refine .request fun w hw => ?_
  by_cases hnow : w.log.now = env.logVersion
  · simpa [run, hnow] using h w _ hw
  · simpa [run, hnow] using hw

/-- After an update the handler goes on with the version that it has written. -/
theorem triple_updateUpgrade (h : F.edit u x) : Triple (Working F w₀ n u) (env.updateUpgrade k n x)
      (Ends (Working F w₀ n u) fun n' w => Working F w₀ n u w ∧ Working F w₀ n' x w) := by
  refine .requestEnds (fun w hw => ?_) (fun w hw => hw) fun _ _ hw => hw.1
  by_cases hnow : w.upgrade.now = n
  · have hlive : w.upgrade.live = u := by
      rw [History.live, hnow, hw.reads.get]
    have hstep := hw.step (.edit (hlive.symm ▸ h))
    simp only [run, hnow]
    exact ⟨hstep, hstep.effects, hnow ▸ History.at_push _ _⟩
  · simpa [run, hnow, Ends] using hw

theorem preserves_updateUpgrade (h : F.edit u x) :
    Preserves (Working F w₀ n u) (env.updateUpgrade k n x) :=
  (triple_updateUpgrade h).weaken (fun _ hw => hw) (Ends.elim fun _ _ hw => hw.1)

theorem within_updateUpgrade_bind {α : Type} {f : Nat → Act α} (h : F.edit u x)
    (hf : ∀ n', Within F n' x (f n')) : Within F n u (env.updateUpgrade k n x >>= f) :=
  fun w₀ => Triple.bind (triple_updateUpgrade h)
    (fun n' w hw => hf n' w₀ w hw.2) fun _ _ hw => hw.effects

theorem preserves_writeUpgrade (h : F.edit u x) :
    Preserves (Working F w₀ env.version u) (env.writeUpgrade x) :=
  (preserves_updateUpgrade h).bind fun _ => Preserves.pure ()

theorem within_writeUpgrade (h : F.edit u x) : Within F env.version u (env.writeUpgrade x) :=
  .of_preserves fun _ => preserves_writeUpgrade h

theorem within_ensureJob_bind {report : Err → Err} (hjob : F.creates u job) (hx : F.edit u x) :
    Within F env.version u (do env.ensureJob job report; env.writeUpgrade x) :=
  .bind (fun _ => preserves_ensureJob (Working.keptByJob hjob)) fun _ => within_writeUpgrade hx

theorem run_getUpgrade {α : Type} {f : Upgrade → Act α} :
    (env.getUpgrade >>= f).run w = (f (w.upgrade.get env.version)).run w := rfl

theorem effects_getUpgrade {f : Upgrade → Act Unit} (hn : env.version ≤ w.upgrade.now)
    (hf : Within F env.version (w.upgrade.get env.version) (f (w.upgrade.get env.version))) :
    Effects F w ((env.getUpgrade >>= f).run w).2 :=
  hf w w (Working.init hn)

/-! ### Handlers that only edit the Upgrade -/

theorem edit_effects {f : Upgrade → Option Upgrade} (hn : env.version ≤ w.upgrade.now) :
    Effects (.edits fun u x => f u = some x) w ((env.edit f).run w).2 := by
  refine effects_getUpgrade hn ?_
  rcases hx : f (w.upgrade.get env.version) with _ | x
  · exact .pure ()
  · exact within_writeUpgrade hx

/-! ### Jobs, nodes and secrets -/

/-- One new status of a node, with one of the given states. -/
inductive NodeEdit (states : List NodeState) (node : String) (u : Upgrade) : Upgrade → Prop
  | set {state : NodeState} (h : state ∈ states) (reason message : String) :
    NodeEdit states node u (u.setNodeUpgradeStatus node state reason message)

/-- Some edits in a row. -/
def NodeEdits (states : List NodeState) (node : String) : Upgrade → Upgrade → Prop :=
  ReflTransGen (NodeEdit states node)

/-- The states that a prepare job gives to its node. -/
def prepareStates : List NodeState := [.imagesPreloading, .imagesPreloaded, .failed]

/-- The states that a hook job gives to its node. -/
def hookStates : List NodeState := [.preDrained, .waitingReboot, .succeeded, .failed]

theorem nodeEdits_of_planJobChanged (hx : u.planJobChanged job = some x) :
    NodeEdits prepareStates job.node u x := by
  have hfold : ∀ (conditions : List JobCondition) (v : Upgrade),
      NodeEdits prepareStates job.node u v → NodeEdits prepareStates job.node u
        (conditions.foldl (Upgrade.prepareCondition job.node) v) := by
    intro conditions
    induction conditions with
    | nil => exact fun _ hv => hv
    | cons c conditions ih =>
      refine fun v hv => ih _ ?_
      unfold Upgrade.prepareCondition
      split
      · exact hv.tail (.set (by decide) _ _)
      · split
        · exact hv.tail (.set (by decide) _ _)
        · exact hv
  unfold Upgrade.planJobChanged at hx
  split at hx
  · simp at hx
  rw [← Upgrade.eq_of_changed hx]
  refine hfold _ _ ?_
  split
  · exact .single (.set (by decide) _ _)
  · exact .refl

/-- The edits of `jobHandler`. -/
inductive JobStep (job : Job) (u : Upgrade) : Upgrade → Prop
  | prepare {x : Upgrade} (h : job.type = .prepare) (hx : u.planJobChanged job = some x) :
    JobStep job u x
  | manifests {x : Upgrade} (hx : u.manifestJobChanged job = some x) : JobStep job u x
  | hook {x : Upgrade} (h : job.type ∈ [.preDrain, .postDrain, .singleNodeUpgrade])
    (hx : NodeEdits hookStates job.node u x) : JobStep job u x

/-- `jobHandler` and `nodeHandler` create jobs that restore VMs. -/
def hookFootprint (E : Upgrade → Upgrade → Prop) : Footprint :=
  ⟨E, fun _ job => job.type = .restoreVM, fun _ => False, False, True, False⟩

section

variable {E E' : Upgrade → Upgrade → Prop} {c : Cluster} {f : Findings} {node : NodeInfo}

theorem edits_le_hook (h : ∀ u x, E u x → E' u x) : (Footprint.edits E).Le (hookFootprint E') :=
  ⟨h _ _, False.elim, False.elim, False.elim, False.elim, False.elim⟩

theorem hook_le_hook (h : ∀ u x, E u x → E' u x) : (hookFootprint E).Le (hookFootprint E') :=
  ⟨h _ _, id, id, id, id, id⟩

theorem preserves_sendRestoreVMJob (h : KeptByJob I (.new .restoreVM node.name)) :
    Preserves I (sendRestoreVMJob env f node) := by
  unfold sendRestoreVMJob
  split
  · exact .pure ()
  split
  · split
    · exact .pure ()
    · exact .fail _
  · refine .when fun _ w hw => ?_
    simp only [run, createRestoreVMJob]
    split
    · exact hw
    · exact preserves_ensureJob h w hw

theorem preserves_updateSecret {secret : Secret} (h : F.acknowledges) :
    Preserves (Working F w₀ n u) (env.updateSecret secret) :=
  (Preserves.modify fun _ hw => hw.step (.secret h secret)).request

theorem preserves_planSecret {machine : String} : Preserves I (planSecret env machine) := by
  refine .bind (Preserves.request fun _ hw => hw) fun secrets => ?_
  split
  · exact .pure _
  · exact .fail _

/-- What a condition of a hook job can do. -/
inductive HookStep (u : Upgrade) (job : Job) (node : String) (r : HookResult) : HookResult → Prop
  | failed (reason message : String) :
    HookStep u job node r
      { r with toUpdate := r.toUpdate.setNodeUpgradeStatus node .failed reason message }
  | preDrained (hcomplete : job.has .complete) (htype : job.type = .preDrain)
    (hstate : u.nodeState node = some .preDraining) :
    HookStep u job node r { r with
      toUpdate := r.toUpdate.setNodeUpgradeStatus node .preDrained "" ""
      preDrained := true }
  | upgraded {postDrained : Bool} (hcomplete : job.has .complete)
    (htype : job.type = .postDrain ∧ u.nodeState node = some .postDraining ∧ postDrained = true ∨
      job.type = .singleNodeUpgrade ∧ postDrained = r.postDrained) :
    HookStep u job node r { r with
      toUpdate := r.toUpdate.setNodeUpgradeStatus node .succeeded "" ""
      postDrained }
  | waitingReboot :
    HookStep u job node r
      { r with toUpdate := r.toUpdate.setNodeUpgradeStatus node .waitingReboot "" "" }

/-- Some steps in a row. -/
def HookSteps (u : Upgrade) (job : Job) (node : String) : HookResult → HookResult → Prop :=
  ReflTransGen (HookStep u job node)

/-- **The loop of `syncNodeJob`.** -/
theorem yields_syncConditions (h : KeptByJob I (.new .restoreVM node.name))
    {os : String} {conditions : List JobCondition} (hsub : conditions ⊆ job.conditions)
    {r₀ r : HookResult} (hr : HookSteps u job node.name r₀ r) :
    Yields I (HookSteps u job node.name r₀)
      (syncConditions env f u os job node conditions r) := by
  induction conditions generalizing r with
  | nil => exact .pure hr
  | cons condition conditions ih =>
    rw [List.cons_subset] at hsub
    refine .andThen ?_ fun _ => ih hsub.2
    have hcomplete : condition.type = .complete ∧ condition.status → job.has .complete :=
      fun hcondition => List.any_eq_true.2 ⟨condition, hsub.1, by simp [hcondition]⟩
    have hupgraded : ∀ postDrained : Bool, job.has .complete →
        (job.type = .postDrain ∧ u.nodeState node.name = some .postDraining ∧
            postDrained = true ∨ job.type = .singleNodeUpgrade ∧ postDrained = r.postDrained) →
        Yields I (HookSteps u job node.name r₀)
          (nodeUpgraded env f os node r postDrained) := by
      intro postDrained hjob htype
      unfold nodeUpgraded
      split
      · exact (preserves_sendRestoreVMJob h).yields.andThen fun _ _ =>
          .pure (hr.tail (.upgraded hjob htype))
      · exact (preserves_other _).yields.andThen fun _ _ => .pure (hr.tail .waitingReboot)
    unfold syncCondition
    split
    · exact .pure (hr.tail (.failed _ _))
    split
    · next hcondition =>
      split
      · next hpre => exact .pure (hr.tail (.preDrained (hcomplete hcondition) hpre.1 hpre.2))
      · split
        · next hpost =>
          exact hupgraded true (hcomplete hcondition) (.inl ⟨hpost.1, hpost.2, rfl⟩)
        · split
          · next hsingle =>
            exact hupgraded r.postDrained (hcomplete hcondition) (.inr ⟨hsingle, rfl⟩)
          · exact .pure hr
    · exact .pure hr

theorem nodeEdits_of_hookSteps {nodeName : String} {r₀ r : HookResult}
    (h : HookSteps u job nodeName r₀ r) :
    NodeEdits hookStates nodeName r₀.toUpdate r.toUpdate := by
  induction h with
  | refl => exact .refl
  | tail _ hstep ih =>
    cases hstep with
    | failed | preDrained | upgraded | waitingReboot => exact ih.tail (.set (by decide) _ _)

theorem syncNodeJob_effects (hn : env.version ≤ w.upgrade.now) :
    Effects
      (hookFootprint (NodeEdits hookStates job.node)) w ((syncNodeJob c env f job).run w).2 := by
  unfold syncNodeJob
  split
  · next node machine hnode _ =>
    have hname : node.name = job.node := Store.key_of_get hnode
    refine effects_getUpgrade hn (.of_preserves fun w₀ => ?_)
    refine (Preserves.ofExcept _).bind fun os => ?_
    refine Yields.bind (yields_syncConditions (Working.keptByJob rfl)
      (List.Subset.refl _) ReflTransGen.refl) fun r hr => ?_
    refine .bind (.when fun _ => ?_) fun _ => ?_
    · exact preserves_writeUpgrade
        (hname ▸ nodeEdits_of_hookSteps hr)
    · refine preserves_planSecret.bind fun secret => ?_
      refine .bind (.when fun _ => ?_) fun _ => .when fun _ => ?_
      · exact preserves_updateSecret trivial
      · exact preserves_updateSecret trivial
  · exact .refl

/-- **The footprint of the job handler.** -/
theorem jobHandler_effects (hn : env.version ≤ w.upgrade.now) :
    Effects (hookFootprint (JobStep job)) w ((jobHandler c env f job).run w).2 := by
  unfold jobHandler
  split
  · next htype =>
    exact (edit_effects hn).mono (edits_le_hook fun _ _ => .prepare htype)
  · next htype =>
    exact (syncNodeJob_effects hn).mono (hook_le_hook fun _ _ => .hook (by simp [htype]))
  · next htype =>
    exact (syncNodeJob_effects hn).mono (hook_le_hook fun _ _ => .hook (by simp [htype]))
  · next htype =>
    exact (syncNodeJob_effects hn).mono (hook_le_hook fun _ _ => .hook (by simp [htype]))
  · exact (edit_effects hn).mono (edits_le_hook fun _ _ => .manifests)
  · exact .refl

/-- The edits of `nodeHandler`. -/
inductive RebootStep (node : String) (u : Upgrade) : Upgrade → Prop
  | mk (h : u.state = some .upgradingNodes) (hnode : u.nodeState node = some .waitingReboot) :
    RebootStep node u (u.setNodeUpgradeStatus node .succeeded "" "")

theorem run_ensureSingleUpgrade {g : Upgrade → Act Unit} (w : World) :
    (ensureSingleUpgrade env >>= g).run w = (g (w.upgrade.get env.version)).run w ∨
      ((ensureSingleUpgrade env >>= g).run w).2 = w := by
  have hrun : (ensureSingleUpgrade env >>= g).run w =
      ((if (w.upgrade.get env.version).latest then pure (w.upgrade.get env.version)
        else fail (.other "there are 0 on-going upgrades")) >>= g : Act Unit).run w := rfl
  rw [hrun]
  split
  · exact .inl rfl
  · exact .inr rfl

theorem ensureSingleUpgrade_within {g : Upgrade → Act Unit} (hn : env.version ≤ w.upgrade.now)
    (hg : Within F env.version (w.upgrade.get env.version) (g (w.upgrade.get env.version))) :
    Effects F w ((ensureSingleUpgrade env >>= g).run w).2 := by
  rcases run_ensureSingleUpgrade w with hrun | hrun
  · rw [hrun]
    exact hg w w (Working.init hn)
  · rw [hrun]
    exact .refl

/-- **The footprint of the node handler.** -/
theorem nodeHandler_effects (hn : env.version ≤ w.upgrade.now) :
    Effects (hookFootprint (RebootStep node.name)) w ((nodeHandler c env f node).run w).2 := by
  unfold nodeHandler
  split
  · exact .refl
  refine ensureSingleUpgrade_within hn (.of_preserves fun w₀ => ?_)
  split
  · next hwaiting =>
    split
    · exact .pure ()
    · refine preserves_planSecret.bind fun secret => ?_
      split
      · refine (Preserves.when fun _ =>
          preserves_sendRestoreVMJob (Working.keptByJob rfl)).bind fun _ => ?_
        refine (preserves_writeUpgrade ?_).bind fun _ => ?_
        · exact RebootStep.mk hwaiting.1 hwaiting.2
        · refine (Preserves.when fun _ => ?_).bind fun _ => preserves_other _
          exact preserves_updateSecret trivial
      · exact .pure ()
  · exact .pure ()

/-- The edits of `secretHandler`. -/
inductive SecretStep (u : Upgrade) : Upgrade → Prop
  | mk (node : String) (state : NodeState) (reason message : String)
    (h : state ∈ [.upgradePaused, .imagesPreloaded, .preDraining, .postDraining]) :
    SecretStep u (u.setNodeUpgradeStatus node state reason message)

/-- `secretHandler` creates the hook jobs. -/
def secretFootprint : Footprint :=
  ⟨SecretStep, fun u job => job.isHook ∧ u.state = some .upgradingNodes, fun _ => False, False,
    False, False⟩

theorem preserves_createHookJob {node : String} {jobType : JobType} {nextState : NodeState}
    (htype : (Job.new jobType node).isHook) (hu : u.state = some .upgradingNodes)
    (hstate : nextState ∈ [.upgradePaused, .imagesPreloaded, .preDraining, .postDraining]) :
    Preserves (Working secretFootprint w₀ env.version u)
      (createHookJob c env u node jobType nextState) := by
  have hcreates : secretFootprint.creates u (.new jobType node) := ⟨htype, hu⟩
  have hpending : Preserves (Working secretFootprint w₀ env.version u)
      (checkPendingHookJobs c env) := by
    refine .request fun w hw => ?_
    simp only [run]
    split
    · exact hw
    · exact hw
  refine hpending.bind fun _ => (Preserves.ofExcept _).bind fun _ => ?_
  refine (preserves_ensureJob (Working.keptByJob hcreates)).bind fun _ => preserves_writeUpgrade ?_
  exact SecretStep.mk node nextState "" "" hstate

/-- **The footprint of the secret handler.** -/
theorem secretHandler_effects {secret : Secret} (hn : env.version ≤ w.upgrade.now) :
    Effects secretFootprint w ((secretHandler c env secret).run w).2 := by
  unfold secretHandler
  split
  · exact .refl
  refine ensureSingleUpgrade_within hn (.of_preserves fun w₀ => ?_)
  split
  · exact .pure ()
  next hstate =>
  have hu := not_not.1 hstate
  split
  · exact .pure ()
  next node _ =>
  unfold drainNode
  split
  · split
    · exact .pure ()
    · split
      · exact preserves_writeUpgrade (SecretStep.mk node _ _ _ (by simp))
      · exact (Preserves.ofExcept _).bind fun _ =>
          preserves_createHookJob rfl hu (by simp)
  · split
    · exact .pure ()
    · exact preserves_writeUpgrade (SecretStep.mk node _ _ _ (by simp))
  · split
    · exact (Preserves.ofExcept _).bind fun _ =>
        preserves_createHookJob rfl hu (by simp)
    · exact .pure ()
  · exact .pure ()

end

/-! ### The addon and the UpgradeLog -/

/-- `addonHandler` changes nothing but the addon. -/
def addonFootprint : Footprint :=
  ⟨fun _ _ => False, fun _ _ => False, fun _ => False, False, False, True⟩

theorem preserves_updateAddon {addon : Addon} (h : F.settings) :
    Preserves (Working F w₀ n u) (updateAddon env addon) := by
  refine .request fun w hw => ?_
  simp only [run]
  split
  · exact hw.step (.addon h addon)
  · exact hw

/-- **The footprint of the addon handler.** -/
theorem addonHandler_effects (hn : env.version ≤ w.upgrade.now) :
    Effects addonFootprint w ((addonHandler env).run w).2 := by
  refine effects_getUpgrade hn (.of_preserves fun w₀ w hw => ?_)
  simp only [run]
  split
  · split
    · exact preserves_updateAddon True.intro w hw
    · exact hw
  · exact hw

/-- The UpgradeLog says that the upgrade can go on. -/
def UpgradeLog.signals (log : UpgradeLog) : Bool :=
  log.upgradeLogReady = some .conditionTrue && log.upgradeEnded = none

/-- The edits of `OnUpgradeLogChange`: it sends its signal to the Upgrade that it has read. -/
structure LogStep (w : World) (env : Env) (u x : Upgrade) : Prop where
  reads : u = w.upgrade.get env.version
  signals : (w.log.get env.logVersion).any UpgradeLog.signals
  edit : x = u.loggingInfraPrepared

theorem yields_getUpgrade : Yields (Working F w₀ env.version u) (fun v => v = u) env.getUpgrade :=
  fun _ hw => ⟨hw, fun _ hv => (Except.ok.inj hv).symm.trans hw.reads.get⟩

/-- **The footprint of the UpgradeLog handler.** -/
theorem onUpgradeLogChange_effects {loggingAddon : Except Err Bool}
    (hn : env.version ≤ w.upgrade.now) :
    Effects (.edits (LogStep w env)) w ((onUpgradeLogChange env loggingAddon).run w).2 := by
  refine (?_ : Within (.edits (LogStep w env)) env.version (w.upgrade.get env.version)
    (upgradeLogChanged env loggingAddon (w.log.get env.logVersion))) w w (Working.init hn)
  refine .of_preserves fun w₀ => ?_
  have hcreate : ∀ log : UpgradeLog, Preserves
      (Working (.edits (LogStep w env)) w₀ env.version (w.upgrade.get env.version))
      (do env.other .createLogging; env.updateLog log) :=
    fun log => (preserves_other _).bind fun _ => preserves_updateLog Working.keptByLog
  unfold upgradeLogChanged
  split
  · exact .pure ()
  next log hlog =>
  split
  · exact preserves_updateLog Working.keptByLog
  split
  · split
    · exact preserves_updateLog Working.keptByLog
    · exact hcreate _
    · split
      · exact hcreate _
      · exact .fail _
  · split
    · exact hcreate _
    · split
      · split
        · exact preserves_updateLog Working.keptByLog
        · exact .pure ()
      · split
        · split
          · exact preserves_updateLog Working.keptByLog
          · exact preserves_other _
        · split
          · next hsignals =>
            refine yields_getUpgrade.bind fun v hv => ?_
            refine (preserves_writeUpgrade ?_).bind fun _ => preserves_updateLog Working.keptByLog
            exact ⟨rfl, by simp [hlog, UpgradeLog.signals, hsignals],
              congrArg Upgrade.loggingInfraPrepared hv⟩
          · split
            · exact hcreate _
            · split
              · exact hcreate _
              · exact .pure ()

end Upgrades

end Harvester
