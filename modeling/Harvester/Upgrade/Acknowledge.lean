import Harvester.Upgrade.Frames

/-!
# The acknowledgement of drain hooks

RKE2 asks for a hook with an annotation of the machine-plan secret and waits until Harvester has
copied it to an annotation of its own.  When a hook job is complete, `jobHandler` records this in
the Upgrade and then updates the secret; `nodeHandler` does the same for a node that had to reboot.

`hooks_acknowledged`: every recorded hook is acknowledged as long as the reconciles that record a
hook also get through to the secret.  Otherwise the retry finds the hook recorded and does nothing
(`failed_acknowledgement_not_retried`).
-/

namespace Harvester

namespace Upgrades

open Control Action Relation

/-! ### Hooks -/

/-- The hooks of RKE2. -/
inductive Hook where
  | preDrain
  | postDrain
  deriving DecidableEq, Repr

namespace Hook

/-- The job of the hook. -/
def job : Hook → JobType
  | preDrain => .preDrain
  | postDrain => .postDrain

/-- The state of a node whose hook job runs. -/
def running : Hook → NodeState
  | preDrain => .preDraining
  | postDrain => .postDraining

/-- The state of a node whose hook is recorded as done. -/
def recorded : Hook → NodeState
  | preDrain => .preDrained
  | postDrain => .succeeded

/-- What RKE2 asks for. -/
def asked : Hook → Secret → String
  | preDrain => Secret.rke2PreDrain
  | postDrain => Secret.rke2PostDrain

/-- What Harvester has answered. -/
def answered : Hook → Secret → String
  | preDrain => Secret.preDrain
  | postDrain => Secret.postDrain

/-- The secret with the answer. -/
def answer : Hook → Secret → Secret
  | preDrain, secret => { secret with preDrain := secret.rke2PreDrain }
  | postDrain, secret => { secret with postDrain := secret.rke2PostDrain }

/-- `syncNodeJob` has recorded the hook and has to answer. -/
def owed (r : HookResult) : Hook → Bool
  | preDrain => r.preDrained
  | postDrain => r.postDrained

variable {hook hook' : Hook} {secret : Secret}

@[simp] theorem name_answer : (hook.answer secret).name = secret.name := by cases hook <;> rfl

@[simp] theorem machine_answer : (hook.answer secret).machine = secret.machine := by
  cases hook <;> rfl

@[simp] theorem asked_answer : hook'.asked (hook.answer secret) = hook'.asked secret := by
  cases hook <;> cases hook' <;> rfl

theorem answered_answer : hook.answered (hook.answer secret) = hook.asked secret := by
  cases hook <;> rfl

theorem answered_answer_of_ne (h : hook' ≠ hook) :
    hook'.answered (hook.answer secret) = hook'.answered secret := by
  cases hook <;> cases hook' <;> first | rfl | exact absurd rfl h

theorem recorded_mem (hook : Hook) : hook.recorded ∈ [NodeState.preDrained, .succeeded] := by
  cases hook <;> decide

theorem recorded_injective (h : hook.recorded = hook'.recorded) : hook = hook' := by
  cases hook <;> cases hook' <;> first | rfl | simp [recorded] at h

theorem job_injective (h : hook.job = hook'.job) : hook = hook' := by
  cases hook <;> cases hook' <;> first | rfl | simp [job] at h

end Hook

/-- Every recorded hook is acknowledged, except for the hooks that are owed to a node. -/
def Owes (c : Cluster) (node : String) (owed : Hook → Prop) (w : World) : Prop :=
  ∀ (hook : Hook) node' machine, w.upgrade.live.nodeState node' = some hook.recorded →
    c.machine node' = some machine → ∀ secret ∈ w.secrets.objs, secret.machine = some machine →
    node' = node ∧ owed hook ∨ hook.answered secret = hook.asked secret

/-- When the Upgrade says that a node is pre-drained, or that it has succeeded, the annotation of
Harvester in its machine-plan secret is that of RKE2. -/
def Acknowledged (c : Cluster) (w : World) : Prop :=
  ∀ (hook : Hook) node machine, w.upgrade.live.nodeState node = some hook.recorded →
    c.machine node = some machine → ∀ secret ∈ w.secrets.objs, secret.machine = some machine →
    hook.answered secret = hook.asked secret

variable {c : Cluster} {w w' v : World} {env : Env} {u x : Upgrade}

section

variable {hook : Hook} {node machine : String} {owed : Hook → Prop} {secret : Secret}

theorem Acknowledged.owes (h : Acknowledged c w) : Owes c node owed w :=
  fun hook node' machine hstate hmachine secret hmem hsecret =>
    .inr (h hook node' machine hstate hmachine secret hmem hsecret)

theorem Owes.acknowledged (h : Owes c node owed w) (howed : ∀ hook, ¬ owed hook) :
    Acknowledged c w :=
  fun hook node' machine hstate hmachine secret hmem hsecret =>
    (h hook node' machine hstate hmachine secret hmem hsecret).resolve_left
      fun h => howed hook h.2

/-- The only secret of a machine. -/
def World.PlanSecret (w : World) (machine : String) (secret : Secret) : Prop :=
  w.secrets.objs.filter (fun secret => secret.machine = some machine) = [secret]

theorem World.PlanSecret.mem_iff (h : w.PlanSecret machine secret) (s : Secret) :
    s ∈ w.secrets.objs ∧ s.machine = some machine ↔ s = secret := by
  have hmem : s ∈ w.secrets.objs.filter (fun secret => secret.machine = some machine) ↔
      s = secret := by rw [h, List.mem_singleton]
  simpa using hmem

theorem Owes.answer (h : Owes c node owed w) (howed : ∀ hook', owed hook' → hook' = hook)
    (hmachine : c.machine node = some machine) (hsecret : w.PlanSecret machine secret) :
    Acknowledged c { w with secrets := w.secrets.put (hook.answer secret) } := by
  obtain ⟨hmem, hof⟩ := (hsecret.mem_iff secret).2 rfl
  intro hook' node' machine' hstate hmachine' s hs hsmachine
  rcases Store.mem_put.1 hs with rfl | ⟨hsmem, hname⟩
  · rw [Hook.machine_answer] at hsmachine
    rw [Hook.asked_answer]
    by_cases hhook : hook' = hook
    · rw [hhook, Hook.answered_answer]
    · rw [Hook.answered_answer_of_ne hhook]
      refine (h hook' node' machine' hstate hmachine' secret hmem hsmachine).resolve_left ?_
      exact fun ho => hhook (howed hook' ho.2)
  · refine (h hook' node' machine' hstate hmachine' s hsmem hsmachine).resolve_left ?_
    rintro ⟨rfl, -⟩
    -- The machine has no other secret.
    have hsame : s = secret := by
      refine (hsecret.mem_iff s).1 ⟨hsmem, ?_⟩
      rw [hsmachine, ← hmachine', hmachine]
    exact hname (by rw [hsame, Hook.name_answer])

/-! ### Edits -/

/-- The edit records no other hooks than those that are owed to the node. -/
def Records (u x : Upgrade) (node : String) (owed : Hook → Prop) : Prop :=
  ∀ (hook : Hook) node', x.nodeState node' = some hook.recorded →
    node' = node ∧ owed hook ∨ u.nodeState node' = some hook.recorded

/-- The edit records no hook. -/
def Unrecorded (u x : Upgrade) : Prop :=
  ∀ (hook : Hook) node, x.nodeState node = some hook.recorded →
    u.nodeState node = some hook.recorded

theorem unrecorded_set {state : NodeState} {reason message : String}
    (h : state ∉ [.preDrained, .succeeded]) :
    Unrecorded u (u.setNodeUpgradeStatus node state reason message) := by
  intro hook node' hx
  rw [Upgrade.nodeState_setNodeUpgradeStatus] at hx
  split at hx
  · exact absurd (Option.some.inj hx ▸ hook.recorded_mem) h
  · exact hx

theorem Quiet.unrecorded (h : Quiet u x) : Unrecorded u x :=
  fun _ _ hx => h.nodeState ▸ hx

theorem unrecorded_nodeEdits {states : List NodeState}
    (h : ∀ state ∈ states, state ∉ [.preDrained, .succeeded]) (hx : NodeEdits states node u x) :
    Unrecorded u x := by
  induction hx with
  | refl => exact fun _ _ hx => hx
  | tail _ hedit ih =>
    obtain ⟨hstate, reason, message⟩ := hedit
    exact fun hook node hx => ih hook node (unrecorded_set (h _ hstate) hook node hx)

theorem Staged.unrecorded {f : UpgradeFindings} (h : Staged f u x) : Unrecorded u x := by
  intro hook node hx
  rcases h.nodeState node with heq | hmem
  · exact heq ▸ hx
  · rw [hx] at hmem
    cases hook <;> simp [Hook.recorded] at hmem

theorem unrecorded_upgradeStep {f : UpgradeFindings} (hx : UpgradeStep f u x) :
    Unrecorded u x := by
  cases hx with
  | stage h => exact (staged_of_stageStep h).unrecorded
  | cleanup h =>
    cases h
    exact fun _ _ hx => hx
  | saveSettings => exact fun _ _ hx => hx

theorem Acknowledged.effects {F : Footprint} (heffects : Effects F w w') (h : Acknowledged c w)
    (hedit : ∀ u x, F.edit u x → Unrecorded u x) (hsecrets : ¬ F.acknowledges) :
    Acknowledged c w' := by
  induction heffects with
  | refl => exact h
  | tail _ heffect ih =>
    cases heffect with
    | edit hx =>
      intro hook node machine hstate
      simp only [History.live_push] at hstate
      exact ih hook node machine (hedit _ _ hx hook node hstate)
    | secret hs => exact absurd hs hsecrets
    | _ => exact ih

/-! ### Recording and answering -/

/-- The update of the Upgrade in a reconcile is carried out, unless its answer is lost. -/
def Env.Records (env : Env) (w : World) : Prop :=
  env.version = w.upgrade.now ∧ (env.fault (.updateUpgrade 0)).1 ≠ .refused
  deriving Decidable

/-- What has not changed yet. -/
def Before (w v : World) : Prop := v.upgrade = w.upgrade ∧ v.secrets = w.secrets

/-- The handler has written the Upgrade, and the answers are owed. -/
def Recorded (c : Cluster) (env : Env) (w : World) (node : String) (owed : Hook → Prop)
    (v : World) : Prop :=
  v.secrets = w.secrets ∧ Owes c node (fun hook => owed hook ∧ env.Records w) v

theorem Acknowledged.before (h : Acknowledged c w) (hv : Before w v) : Acknowledged c v := by
  simpa only [Acknowledged, hv.1, hv.2] using h

theorem triple_writeUpgrade (h : Acknowledged c w)
    (hx : Records (w.upgrade.get env.version) x node owed)
    (hanswers : ∀ hook, owed hook → env.Records w →
      (env.fault (.updateUpgrade 0)).1 = .none) :
    Triple (Before w) (env.writeUpgrade x)
      (Ends (Acknowledged c) fun _ => Recorded c env w node owed) := by
  have hpush : ∀ v, Before w v → env.Records w →
      Recorded c env w node owed { v with upgrade := v.upgrade.push x } := by
    refine fun v hv hrecords =>
      ⟨hv.2, fun hook node' machine hstate hmachine secret hmem hsecret => ?_⟩
    simp only [History.live_push] at hstate
    rcases hx hook node' hstate with ⟨rfl, howed⟩ | hbefore
    · exact .inl ⟨rfl, howed, hrecords⟩
    · rw [hrecords.1] at hbefore
      exact .inr (h hook node' machine hbefore hmachine secret (hv.2 ▸ hmem) hsecret)
  have hnow : ∀ v, Before w v → v.upgrade.now = env.version → env.version = w.upgrade.now :=
    fun v hv hnow => by rw [← hnow, hv.1]
  refine .andThen (Q := fun _ => Recorded c env w node owed) ?_ fun _ => .pure fun _ hv => hv
  refine .requestCases (fun hnone v hv => ?_) (fun _ v hv => h.before hv) fun hlost v hv => ?_
  · simp only [run]
    split
    · next heq => exact hpush v hv ⟨hnow v hv heq, by simp [hnone]⟩
    · exact h.before hv
  · simp only [run]
    split
    · next heq =>
      have hrecords : env.Records w := ⟨hnow v hv heq, by simp [hlost]⟩
      refine (hpush v hv hrecords).2.acknowledged fun hook howed => ?_
      simpa [hlost] using hanswers hook howed.1 hrecords
    · exact h.before hv

/-- The requests after the update get through to the only secret of the machine. -/
structure Env.Answers (env : Env) (w : World) (machine : String) : Prop where
  updateUpgrade : (env.fault (.updateUpgrade 0)).1 = .none
  listSecrets : (env.fault .listSecrets).1 = .none
  planSecret : (w.secrets.objs.filter fun secret => secret.machine = some machine).length = 1
  updateSecret : (env.fault .updateSecret).1 ≠ .refused

instance (env : Env) (w : World) (machine : String) : Decidable (env.Answers w machine) :=
  decidable_of_iff (_ ∧ _ ∧ _ ∧ _)
    ⟨fun h => ⟨h.1, h.2.1, h.2.2.1, h.2.2.2⟩, fun h => ⟨h.1, h.2, h.3, h.4⟩⟩

theorem triple_planSecret {P : World → Prop} (hP : ∀ v, P v → v.secrets = w.secrets) :
    Triple P (planSecret env machine) (Ends (fun v => P v ∧ ¬ env.Answers w machine)
      fun secret v => P v ∧ w.PlanSecret machine secret) := by
  refine .andThen (Q := fun secrets v => P v ∧
    (w.secrets.objs.filter fun secret => secret.machine = some machine) = secrets) ?_
    fun secrets => ?_
  · refine .requestCases (fun _ v hv => ⟨hv, by rw [hP v hv]⟩)
      (fun hrefused v hv => ⟨hv, fun ha => ?_⟩) fun hlost v hv => ⟨hv, fun ha => ?_⟩
    · simpa [hrefused] using ha.listSecrets
    · simpa [hlost] using ha.listSecrets
  · split
    · exact .pure fun v hv => hv
    · next hother =>
      refine .fail fun v hv => ⟨hv.1, fun ha => ?_⟩
      have hone := ha.planSecret
      rw [hv.2] at hone
      obtain ⟨secret, rfl⟩ := List.length_eq_one_iff.1 hone
      exact hother secret rfl

theorem triple_updateSecret (hook : Hook) (hmachine : c.machine node = some machine)
    (hsecret : w.PlanSecret machine secret) (howed : ∀ hook', owed hook' → hook' = hook)
    (hanswers : ∀ hook, owed hook → env.Records w → (env.fault .updateSecret).1 ≠ .refused) :
    Triple (Recorded c env w node owed) (env.updateSecret (hook.answer secret))
      fun _ v => Acknowledged c v := by
  have hput : ∀ v, Recorded c env w node owed v →
      Acknowledged c { v with secrets := v.secrets.put (hook.answer secret) } := by
    refine fun v hv => hv.2.answer (fun hook' h => howed hook' h.1) hmachine ?_
    rw [World.PlanSecret, hv.1]
    exact hsecret
  refine .requestCases (fun _ => hput) (fun hrefused v hv => ?_) fun _ => hput
  exact hv.2.acknowledged fun hook h => hanswers hook h.1 h.2 hrefused

theorem triple_acknowledge {r : HookResult} (hmachine : c.machine node = some machine)
    (hsecret : w.PlanSecret machine secret)
    (hone : ∀ hook hook' : Hook, hook.owed r → hook'.owed r → hook' = hook)
    (hanswers : ∀ hook, Hook.owed r hook → env.Records w →
      (env.fault .updateSecret).1 ≠ .refused) :
    Triple (Recorded c env w node fun hook => hook.owed r)
      (do
        when r.preDrained (acknowledgePreDrain env secret)
        when r.postDrained (acknowledgePostDrain env secret))
      fun _ v => Acknowledged c v := by
  have hupdate : ∀ hook : Hook, hook.owed r →
      Triple (Recorded c env w node fun hook => hook.owed r)
        (env.updateSecret (hook.answer secret)) fun _ v => Acknowledged c v := fun hook howed =>
    triple_updateSecret hook hmachine hsecret (fun hook' => hone hook hook' howed) hanswers
  by_cases hpre : r.preDrained = true
  · have hpost : r.postDrained ≠ true := fun hpost => by
      simpa using hone .preDrain .postDrain hpre hpost
    simp only [when, if_pos hpre, if_neg hpost]
    exact .bind (hupdate .preDrain hpre) (fun _ => .pure fun _ hv => hv) fun _ _ hv => hv
  · simp only [when, if_neg hpre]
    split
    · next hpost => exact hupdate .postDrain hpost
    · next hpost =>
      refine .pure fun v hv => hv.2.acknowledged fun hook howed => ?_
      cases hook with
      | preDrain => exact hpre howed.1
      | postDrain => exact hpost howed.1

/-! ### The handlers -/

/-- What a complete hook job records, and when. -/
structure JobRecords (u : Upgrade) (job : Job) (node : String) (r : HookResult) : Prop where
  records : Records u r.toUpdate node fun hook => hook.owed r
  owes : ∀ hook : Hook, hook.owed r → job.has .complete ∧ job.type = hook.job ∧
    u.nodeState node = some hook.running

theorem records_set (hook : Hook) {reason message : String} (h : Records u x node owed)
    (howed : owed hook) :
    Records u (x.setNodeUpgradeStatus node hook.recorded reason message) node owed := by
  intro hook' node' hx
  rw [Upgrade.nodeState_setNodeUpgradeStatus] at hx
  split at hx
  · next heq => exact .inl ⟨heq, Hook.recorded_injective (Option.some.inj hx) ▸ howed⟩
  · exact h hook' node' hx

theorem Records.unrecorded {y : Upgrade} (h : Records u x node owed) (hy : Unrecorded x y) :
    Records u y node owed :=
  fun hook node' hstate => h hook node' (hy hook node' hstate)

theorem Records.mono {owed' : Hook → Prop} (h : Records u x node owed)
    (howed : ∀ hook, owed hook → owed' hook) : Records u x node owed' :=
  fun hook node' hx => (h hook node' hx).imp_left fun ⟨hnode, ho⟩ => ⟨hnode, howed hook ho⟩

theorem JobRecords.record {job : Job} {r r' : HookResult} {reason message : String}
    (h : JobRecords u job node r) (hook : Hook)
    (hupdate : r'.toUpdate = r.toUpdate.setNodeUpgradeStatus node hook.recorded reason message)
    (howed : ∀ hook' : Hook, hook'.owed r' ↔ hook' = hook ∨ hook'.owed r)
    (hstarted : job.has .complete ∧ job.type = hook.job ∧ u.nodeState node = some hook.running) :
    JobRecords u job node r' := by
  refine ⟨hupdate ▸ records_set hook (h.records.mono fun hook' ho => ?_) ?_, fun hook' ho => ?_⟩
  · exact (howed hook').2 (.inr ho)
  · exact (howed hook).2 (.inl rfl)
  · rcases (howed hook').1 ho with rfl | ho
    · exact hstarted
    · exact h.owes hook' ho

theorem jobRecords_of_hookSteps {job : Job} {r : HookResult}
    (htype : job.type ≠ .singleNodeUpgrade) (h : HookSteps u job node ⟨u, false, false⟩ r) :
    JobRecords u job node r := by
  induction h with
  | refl =>
    refine ⟨fun _ _ hx => .inr hx, fun hook howed => ?_⟩
    cases hook <;> simp [Hook.owed] at howed
  | @tail r r' _ hstep ih =>
    cases hstep with
    | failed | waitingReboot => exact ⟨ih.records.unrecorded (unrecorded_set (by decide)), ih.owes⟩
    | preDrained hcomplete hpre hstate =>
      exact ih.record .preDrain rfl (fun hook' => by cases hook' <;> simp [Hook.owed])
        ⟨hcomplete, hpre, hstate⟩
    | upgraded hcomplete hor =>
      rcases hor with ⟨hpost, hstate, rfl⟩ | ⟨hsingle, -⟩
      · exact ih.record .postDrain rfl (fun hook' => by cases hook' <;> simp [Hook.owed])
          ⟨hcomplete, hpost, hstate⟩
      · exact absurd hsingle htype

section

variable {f : Findings} {job : Job} (h : Acknowledged c w) (htype : job.type ≠ .singleNodeUpgrade)
  (hanswers : ∀ hook : Hook, job.has .complete → job.type = hook.job →
    (w.upgrade.get env.version).nodeState job.node = some hook.running → env.Records w →
    ∀ machine ∈ c.machine job.node, env.Answers w machine)

include h htype hanswers

theorem syncNodeJob_acknowledged :
    Acknowledged c ((syncNodeJob c env f job).run w).2 := by
  have hback : ∀ (e : Err) v, Before w v → Acknowledged c v := fun _ _ hv => h.before hv
  have hread : Yields (Before w) (fun u => u = w.upgrade.get env.version) env.getUpgrade :=
    fun v hv => ⟨hv, fun u hu => by rw [← hv.1]; exact (Except.ok.inj hu).symm⟩
  unfold syncNodeJob
  split
  · next node machine hnode hmachine =>
    have hname : node.name = job.node := Store.key_of_get hnode
    refine hread.bindTriple (R := fun _ v => Acknowledged c v) (fun u hu => ?_) hback w ⟨rfl, rfl⟩
    subst hu
    refine Triple.bind (Preserves.ofExcept _) (fun os => ?_) hback
    refine Yields.bindTriple (yields_syncConditions (fun _ hv => hv) (List.Subset.refl _)
      ReflTransGen.refl) (fun r hr => ?_) hback
    obtain ⟨hrecords, howes⟩ := jobRecords_of_hookSteps htype hr
    rw [hname] at hrecords howes
    have hans : ∀ hook : Hook, hook.owed r → env.Records w → env.Answers w machine := by
      intro hook howed hrec
      obtain ⟨hcomplete, hhook, hstate⟩ := howes hook howed
      exact hanswers hook hcomplete hhook hstate hrec machine hmachine
    have hone : ∀ hook hook' : Hook, hook.owed r → hook'.owed r → hook' = hook :=
      fun hook hook' h h' => Hook.job_injective ((howes hook' h').2.1.symm.trans (howes hook h).2.1)
    refine .bind (Q := Ends (Acknowledged c) fun _ =>
      Recorded c env w job.node fun hook => hook.owed r) ?_ (fun _ => ?_) fun _ _ hv => hv
    · unfold when
      split
      · exact triple_writeUpgrade h hrecords fun hook howed hrec =>
          (hans hook howed hrec).updateUpgrade
      · exact .pure fun v hv => ⟨hv.2, (h.before hv).owes⟩
    · refine .bind (triple_planSecret fun _ hv => hv.1) (fun secret v hv => ?_)
        fun e v hv => ?_
      · exact triple_acknowledge hmachine hv.2 hone
          (fun hook howed hrec => (hans hook howed hrec).updateSecret) v hv.1
      · exact hv.1.2.acknowledged fun hook howed => hv.2 (hans hook howed.1 howed.2)
  · exact h

/-- **The job handler**: a hook that is recorded is answered. -/
theorem Acknowledged.jobHandler (henv : env.Reads w) :
    Acknowledged c ((jobHandler c env f job).run w).2 := by
  unfold Upgrades.jobHandler
  split
  · refine h.effects (edit_effects henv.1) (fun u x hx => ?_) id
    exact unrecorded_nodeEdits (by decide) (nodeEdits_of_planJobChanged hx)
  · exact syncNodeJob_acknowledged h htype hanswers
  · exact syncNodeJob_acknowledged h htype hanswers
  · exact syncNodeJob_acknowledged h htype hanswers
  · refine h.effects (edit_effects henv.1) (fun u x hx => ?_) id
    exact (quiet_manifestJobChanged hx).unrecorded
  · exact h

end

/-- **The node handler**: a reboot that is recorded is answered. -/
theorem nodeHandler_acknowledged (h : Acknowledged c w) {f : Findings} {node : NodeInfo}
    (hsingle : (w.upgrade.get env.version).singleNode = "")
    (hanswers : (w.upgrade.get env.version).nodeState node.name = some .waitingReboot →
      env.Records w →
      (env.fault (.updateUpgrade 0)).1 = .none ∧ (env.fault .updateSecret).1 ≠ .refused) :
    Acknowledged c ((nodeHandler c env f node).run w).2 := by
  have hback : ∀ (e : Err) v, Before w v → Acknowledged c v := fun _ _ hv => h.before hv
  unfold nodeHandler
  split
  · exact h
  rcases run_ensureSingleUpgrade w with hrun | hrun
  · rw [hrun]
    split
    · next hwaiting =>
      split
      · exact h
      · next machine hmachine =>
        refine Triple.bind (R := fun _ v => Acknowledged c v) (triple_planSecret fun _ hv => hv.2)
          (fun secret v hv => ?_) (fun e v hv => hback e v hv.1) w ⟨rfl, rfl⟩
        obtain ⟨hv, hs⟩ := hv
        refine (?_ : Triple (Before w) _ fun _ v => Acknowledged c v) v hv
        split
        · refine .bind (Preserves.when fun _ =>
            preserves_sendRestoreVMJob fun _ hv => hv) (fun _ => ?_) hback
          have hrecords : Records (w.upgrade.get env.version)
              ((w.upgrade.get env.version).setNodeUpgradeStatus node.name .succeeded "" "")
              node.name (· = .postDrain) :=
            records_set .postDrain (fun _ _ hx => .inr hx) rfl
          refine .bind (triple_writeUpgrade h hrecords fun _ _ hrec =>
            (hanswers hwaiting.2 hrec).1) (fun _ => ?_) fun _ _ hv => hv
          refine .bind (Q := fun _ v => Acknowledged c v) ?_
            (fun _ => preserves_other _) fun _ _ hv => hv
          simp only [when, hsingle]
          exact triple_updateSecret .postDrain hmachine hs (fun _ hhook => hhook)
            fun _ _ hrec => (hanswers hwaiting.2 hrec).2
        · exact .pure fun v hv => h.before hv
    · exact h
  · rw [hrun]
    exact h

end

/-! ### Clusters with several nodes -/

/-- The Upgrade and the jobs are those of a cluster with several nodes. -/
structure MultiNode (w : World) : Prop where
  upgrade : w.upgrade.Since 0 fun u => u.singleNode = ""
  jobs : w.jobs.Since 0 fun jobs => ∀ job ∈ jobs.objs, job.type ≠ .singleNodeUpgrade

theorem MultiNode.effects {F : Footprint} (heffects : Effects F w w') (h : MultiNode w)
    (hedit : ∀ u x, F.edit u x → u.singleNode = "" → x.singleNode = "")
    (hcreates : ∀ u job, F.creates u job → u.singleNode = "" → job.type ≠ .singleNodeUpgrade) :
    MultiNode w' := by
  induction heffects with
  | refl => exact h
  | tail _ heffect ih =>
    cases heffect with
    | edit hx => exact ⟨ih.upgrade.push (hedit _ _ hx ih.upgrade.live), ih.jobs⟩
    | createJob hu hjob =>
      refine ⟨ih.upgrade, ih.jobs.push (Store.forall_mem_put ?_ fun job hmem _ => ?_)⟩
      · exact hcreates _ _ hjob (hu.get ▸ ih.upgrade _ (Nat.zero_le _) hu.le)
      · exact ih.jobs.live job hmem
    | cleanJobs =>
      refine ⟨ih.upgrade, ih.jobs.push fun job hmem => ?_⟩
      exact ih.jobs.live job (List.mem_filter.1 hmem).1
    | _ => exact ⟨ih.upgrade, ih.jobs⟩

/-- The upgrade controller does not find a single-node cluster. -/
def Event.SeveralNodes : Event → Prop
  | .upgrade _ f => ∀ name ∈ f.isSingleNodeCluster.toOption, name = ""
  | _ => True

instance (ev : Event) : Decidable ev.SeveralNodes := by
  unfold Event.SeveralNodes
  split <;> infer_instance

theorem MultiNode.reconcile {ev : Event} {m : Act Unit} (h : MultiNode w) (hev : ev.SeveralNodes)
    (hreconcile : reconcile c ev = some (env, m)) (henv : env.Reads w) :
    MultiNode (m.run w).2 := by
  refine h.effects (reconcile_effects hreconcile henv) ?_ ?_
  · intro u x hx hu
    cases ev with
    | upgrade env f =>
      cases hx with
      | stage hstep =>
        rcases (staged_of_stageStep hstep).singleNode with heq | ⟨-, hfound⟩
        · exact heq.trans hu
        · exact hev _ (by simp [hfound, Except.toOption])
      | cleanup hstep =>
        cases hstep
        exact hu
      | saveSettings => exact hu
    | _ => exact (keeps_of_footprint (by simp) hx).2.trans hu
  · intro u job hjob hu
    cases ev with
    | upgrade env f =>
      rcases hjob with htype | ⟨-, hsingle⟩
      · simp [htype]
      · exact absurd hu hsingle
    | job | node => simp [show job.type = .restoreVM from hjob]
    | secret =>
      have hhook : job.isHook = true := hjob.1
      intro htype
      simp [Job.isHook, htype] at hhook
    | _ => exact False.elim hjob

theorem MultiNode.change (h : MultiNode w) (hchange : Change c w w') : MultiNode w' := by
  have hlive : ∀ job ∈ w.jobs.live.objs, job.type ≠ .singleNodeUpgrade := h.jobs.live
  cases hchange with
  | @job job old hold hrunning =>
    refine ⟨h.upgrade, h.jobs.push (Store.forall_mem_put ?_ fun job hmem _ => hlive job hmem)⟩
    have htype : old.type = job.type := congrArg JobKey.type (Store.key_of_get hold)
    exact htype ▸ hlive _ (Store.mem_of_get hold)
  | removeJob key =>
    refine ⟨h.upgrade, h.jobs.push fun job hmem => ?_⟩
    exact hlive job (List.mem_filter.1 hmem).1
  | prepareJob node hplan =>
    exact ⟨h.upgrade, h.jobs.push
      (Store.forall_mem_put (by simp [Job.new]) fun job hmem _ => hlive job hmem)⟩
  | pause annotations =>
    exact ⟨h.upgrade.push h.upgrade.live, h.jobs⟩
  | _ => exact ⟨h.upgrade, h.jobs⟩

/-! ### Runs -/

/-- A reconcile that records a hook gets through to the secret. -/
def AckSafe (c : Cluster) (w : World) : Event → Prop
  | .job env _ key =>
    ∀ job ∈ (w.jobs.get env.jobVersion).get key, job.has .complete →
      ∀ hook ∈ [Hook.preDrain, .postDrain], job.type = hook.job →
      (w.upgrade.get env.version).nodeState job.node = some hook.running → env.Records w →
      ∀ machine ∈ c.machine job.node, env.Answers w machine
  | .node env _ node =>
    (w.upgrade.get env.version).nodeState node.name = some .waitingReboot → env.Records w →
      (env.fault (.updateUpgrade 0)).1 = .none ∧ (env.fault .updateSecret).1 ≠ .refused
  | _ => True

instance (w : World) (ev : Event) : Decidable (AckSafe c w ev) := by
  unfold AckSafe
  split <;> infer_instance

theorem Acknowledged.change (h : Acknowledged c w) (hchange : Change c w w') :
    Acknowledged c w' := by
  cases hchange with
  | @rke2 old secret hold hwaits =>
    intro hook node machine hstate hmachine s hs hsmachine
    rcases Store.mem_put.1 hs with rfl | ⟨hmem, -⟩
    · have hack := h hook node machine hstate hmachine old (Store.mem_of_get hold) hsmachine
      -- RKE2 has not changed what it asks for.
      obtain ⟨status, hstatus, hof⟩ := Option.map_eq_some_iff.1 hstate
      have hnode : status.node = node := Store.key_of_get hstatus
      have hsame := List.any_eq_false.1 hwaits status (Store.mem_of_get hstatus)
      cases hook with
      | preDrain | postDrain => simp_all [Hook.answered, Hook.asked, Hook.recorded]
    · exact h hook node machine hstate hmachine s hmem hsmachine
  | pause annotations =>
    intro hook node machine hstate
    simp only [History.live_push] at hstate
    exact h hook node machine hstate
  | _ => exact h

/-- The invariant of a run. -/
structure AckInv (c : Cluster) (w : World) : Prop where
  multiNode : MultiNode w
  acknowledged : Acknowledged c w

theorem AckInv.next {ev : Event} (h : AckInv c w) (hev : ev.SeveralNodes) (hsafe : AckSafe c w ev)
    (hnext : (machine c).next w ev = some w') : AckInv c w' := by
  rcases next_cases hnext with ⟨env, m, hreconcile, henv, rfl⟩ | ⟨hreconcile, hchange⟩
  · refine ⟨h.multiNode.reconcile hev hreconcile henv, ?_⟩
    have heffects := h.acknowledged.effects (reconcile_effects hreconcile henv)
    cases ev with
    | upgrade => exact heffects (fun _ _ hx => unrecorded_upgradeStep hx) id
    | plan => exact heffects (fun _ _ hx => (quiet_planCompleted hx.2).unrecorded) id
    | deployment => exact heffects (fun _ _ hx => (quiet_repoAvailable hx).unrecorded) id
    | image => exact heffects (fun _ _ hx => (quiet_imageChanged hx).unrecorded) id
    | job env f key =>
      cases hreconcile
      simp only [run, jobEvent]
      split
      · exact h.acknowledged
      · next job hjob =>
        have htype : job.type ≠ .singleNodeUpgrade :=
          h.multiNode.jobs env.jobVersion (Nat.zero_le _) henv.2.1 job (Store.mem_of_get hjob)
        refine h.acknowledged.jobHandler htype (fun hook hcomplete => ?_) henv
        exact hsafe job hjob hcomplete hook (by cases hook <;> decide)
    | node env f node =>
      cases hreconcile
      exact nodeHandler_acknowledged h.acknowledged
        (h.multiNode.upgrade env.version (Nat.zero_le _) henv.1) hsafe
    | secret =>
      refine heffects (fun u x hx => ?_) id
      obtain ⟨node, state, reason, message, hstate⟩ := hx
      exact unrecorded_set (by rcases state <;> simp at hstate ⊢)
    | addon => exact heffects (fun _ _ hx => False.elim hx) id
    | upgradeLog =>
      exact heffects (fun u _ hx => hx.edit ▸ (quiet_loggingInfraPrepared u).unrecorded) id
    | _ => simp [Upgrades.reconcile] at hreconcile
  · have hchange := change_cases hchange
    exact ⟨h.multiNode.change hchange, h.acknowledged.change hchange⟩

/-- **Drain hooks are acknowledged**, in every run in a cluster with several nodes in which the
reconciles that record a hook get through to the secret. -/
theorem hooks_acknowledged {w₀ : World} {evs : List Event} (hmulti : MultiNode w₀)
    (hack : Acknowledged c w₀)
    (hsafe : (machine c).Along (fun w ev => ev.SeveralNodes ∧ AckSafe c w ev) w₀ evs)
    (hrun : (machine c).run w₀ evs = some w) : Acknowledged c w :=
  (Machine.run_invariant
    (fun _ _ _ h hsafe hnext => AckInv.next h hsafe.1 hsafe.2 hnext) ⟨hmulti, hack⟩ hsafe
    hrun).acknowledged

namespace HookSample

open Sample

/-- The first node is drained. -/
def draining : Upgrade := { upgrade with
  state := some .upgradingNodes
  latest := true
  nodeStatuses := (Store.empty.put ⟨"node-0", .preDraining, "", ""⟩).put
    ⟨"node-1", .imagesPreloaded, "", ""⟩ }

/-- The pre-drain job of the first node is complete. -/
def job : Job := ⟨.preDrain, "node-0", 0, 1, [⟨.complete, true, "", ""⟩]⟩

/-- RKE2 waits for the pre-drain hook of the first node. -/
def secret : Secret := ⟨"node-0-machine-plan", some "node-0", "drain", "", "", ""⟩

/-- A hook waits for its answer. -/
def hooked : World := { world draining with
  jobs := .init (Store.empty.put job)
  secrets := Store.empty.put secret }

def findings : Findings where
  nodes := Store.empty.put ⟨"node-0", "Harvester v1.5.0", none, false⟩
  restoreVM := false
  configMap := ""
  restoreVMs := .ok []

/-- The state of the first node, and the secrets. -/
def drained (w : World) : Option NodeState × List Secret :=
  (w.upgrade.live.nodeState "node-0", w.secrets.objs)

theorem multiNode_hooked : MultiNode hooked := by
  have hjobs : ∀ job' ∈ hooked.jobs.live.objs, job'.type ≠ .singleNodeUpgrade := by decide
  exact ⟨fun _ _ _ => rfl, fun _ _ _ => hjobs⟩

theorem acknowledged_hooked : Acknowledged cluster hooked := by
  intro hook node machine hstate
  obtain ⟨status, hstatus, hof⟩ := Option.map_eq_some_iff.1 hstate
  -- No hook is recorded.
  have hnone : ∀ status ∈ draining.nodeStatuses.objs,
      status.state ∉ [NodeState.preDrained, .succeeded] := by decide
  exact absurd (hof ▸ hook.recorded_mem) (hnone status (Store.mem_of_get hstatus))

end HookSample

open Sample HookSample in
/-- The reconcile of the complete job records the hook and answers it. -/
theorem hooks_acknowledged_sample :
    ∃ w, (machine cluster).run hooked [.job (answering 0 0 0) findings job.key] = some w ∧
      drained w = (some .preDrained, [{ secret with preDrain := "drain" }]) ∧
      Acknowledged cluster w := by
  have hsafe : (machine cluster).Along (fun w ev => ev.SeveralNodes ∧ AckSafe cluster w ev) hooked
      [.job (answering 0 0 0) findings job.key] := by decide
  exact ⟨_, Machine.run_get (by decide), by decide,
    hooks_acknowledged multiNode_hooked acknowledged_hooked hsafe (Machine.run_get _)⟩

open Sample HookSample in
/-- **A hook that is never acknowledged**: it is recorded, the update of the secret is refused, and
the retry ends without an error. -/
theorem failed_acknowledgement_not_retried :
    MultiNode hooked ∧ Acknowledged cluster hooked ∧
    ∃ w w', (machine cluster).run hooked [.job (refusing .updateSecret 0 0 0) findings job.key] =
        some w ∧
      (jobHandler cluster (answering 1 0 0) findings job).run w = (.ok (), w') ∧
      drained w' = (some .preDrained, [secret]) ∧ ¬ Acknowledged cluster w' := by
  refine ⟨multiNode_hooked, acknowledged_hooked, ?_⟩
  have hrun : ((machine cluster).run hooked
      [.job (refusing .updateSecret 0 0 0) findings job.key]).any (fun w =>
        let retried := (jobHandler cluster (answering 1 0 0) findings job).run w
        retried.1.isOk ∧ drained retried.2 = (some .preDrained, [secret])) = true := by
    decide
  obtain ⟨w, hw, hfacts⟩ := (Option.any_eq_true _ _).1 hrun
  obtain ⟨hok, hdrained⟩ := of_decide_eq_true hfacts
  rcases hretried : (jobHandler cluster (answering 1 0 0) findings job).run w with ⟨r, w'⟩
  rw [hretried] at hok hdrained
  rcases r with e | ⟨⟩
  · simp [Except.toBool] at hok
  refine ⟨w, w', hw, hretried, hdrained, fun hack => ?_⟩
  have hsecrets : w'.secrets.objs = [secret] := (Prod.mk.inj hdrained).2
  have hanswer := hack .preDrain "node-0" "node-0" (Prod.mk.inj hdrained).1 rfl secret
    (by simp [hsecrets]) rfl
  exact absurd hanswer (by decide)

end Upgrades

end Harvester
