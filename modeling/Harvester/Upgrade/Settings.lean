import Harvester.Upgrade.Frames

/-!
# The settings that an upgrade changes

Before the nodes are upgraded, the controller raises the Longhorn setting
`replica-replenishment-wait-interval` and labels the descheduler addon, which `addonHandler` then
disables.  The cleanup restores both from annotations of the Upgrade.  But these are persisted after
the changes, and the cleanup does not write what the cached copies show to be restored already.

`settings_restorable`: in every run in which a reconcile that changes one of them also persists the
annotations, and no older copy hides a change or what there is to restore, they can be restored at
any time, and they are as before when the cleanup is done.  `failed_update_loses_setting`: after a
failed update the retry finds the raised value and saves nothing.
-/

namespace Harvester

namespace Upgrades

open Control Action Relation

/-- The settings before an upgrade. -/
structure Original where
  replicaReplenishment : Int
  /-- Whether the descheduler addon is enabled; `none` without the addon. -/
  descheduler : Option Bool

/-- The settings as they are. -/
def World.original (w : World) : Original :=
  ⟨w.replicaReplenishment, w.descheduler.map Addon.enabled⟩

/-- **The settings can be restored**, and they are when the cleanup is done. -/
structure Restorable (o : Original) (w : World) : Prop where
  replicaReplenishment : w.replicaReplenishment ≠ o.replicaReplenishment →
    w.upgrade.live.annotations.replicaReplenishment = some o.replicaReplenishment
  descheduler : ∀ addon ∈ w.descheduler, addon.labelled = true →
    w.upgrade.live.annotations.reenableDescheduler = true
  restored : w.upgrade.live.cleanup = some .succeeded → w.original = o

/-! ### The invariant -/

/-- What every version of the Upgrade says about the settings. -/
structure Original.Version (o : Original) (u : Upgrade) : Prop where
  saved : ∀ value ∈ u.annotations.replicaReplenishment, value = o.replicaReplenishment
  marked : u.annotations.reenableDescheduler = true → o.descheduler = some true
  inOrder : u.InOrder
  multiNode : u.annotations.replicaReplenishment ≠ none →
    u.singleNode = "" ∧ u.status .nodesPrepared ≠ none
  restored : u.annotations.longhornSettingsRestored = true → u.Ended
  cleanup : u.cleanup = some .succeeded → u.Ended

/-- What has to be restored is saved. -/
@[mk_iff] structure Saved (o : Original) (w : World) : Prop where
  versions : w.upgrade.Since 0 o.Version
  ended : w.upgrade.Ascending fun u x => u.Ended → x.Ended
  setting : w.replicaReplenishment = o.replicaReplenishment ∨
    w.replicaReplenishment = extendedReplicaReplenishmentWaitInterval ∧
      w.upgrade.live.annotations.replicaReplenishment = some o.replicaReplenishment ∧
      w.upgrade.live.annotations.longhornSettingsRestored = false
  addon : w.descheduler.isSome = o.descheduler.isSome
  unlabelled : ∀ addon ∈ w.descheduler, addon.labelled = false →
    o.descheduler = some addon.enabled
  labelled : ∀ addon ∈ w.descheduler, addon.labelled = true →
    w.upgrade.live.annotations.reenableDescheduler = true
  done : w.upgrade.live.cleanup = some .succeeded →
    w.replicaReplenishment = o.replicaReplenishment ∧
      ∀ addon ∈ w.descheduler, addon.labelled = false

/-- The addon is disabled as soon as it is labelled. -/
def Disabled (w : World) : Prop :=
  ∀ addon ∈ w.descheduler, addon.labelled = true → addon.enabled = false

variable {o : Original} {w w' v : World} {u x : Upgrade} {env : Env} {f : UpgradeFindings}
  {n k : Nat} {c : Cluster}

theorem Saved.restorable (h : Saved o w) : Restorable o w where
  replicaReplenishment hne := (h.setting.resolve_left hne).2.1
  descheduler := h.labelled
  restored hcleanup := by
    obtain ⟨hsetting, hlabels⟩ := h.done hcleanup
    have haddon : w.descheduler.map Addon.enabled = o.descheduler := by
      rcases hd : w.descheduler with _ | addon
      · have hnone := h.addon
        rw [hd] at hnone
        exact (Option.isNone_iff_eq_none.1 (by simpa using hnone.symm)).symm
      · exact (h.unlabelled addon hd (hlabels addon hd)).symm
    rw [World.original, hsetting, haddon]

/-- An edit that leaves the settings of the Upgrade alone. -/
structure KeepsSettings (u x : Upgrade) : Prop extends Keeps u x where
  singleNode : x.singleNode = u.singleNode ∨ u.status .nodesPrepared = none

theorem Original.Version.keeps (h : o.Version u) (hx : KeepsSettings u x) : o.Version x where
  saved := hx.replicaReplenishment ▸ h.saved
  marked := hx.reenableDescheduler ▸ h.marked
  inOrder := hx.inOrder h.inOrder
  multiNode hsome := by
    rw [hx.replicaReplenishment] at hsome
    obtain ⟨hsingle, hprepared⟩ := h.multiNode hsome
    refine ⟨?_, hx.prepared hprepared⟩
    rcases hx.singleNode with heq | hnone
    · exact heq.trans hsingle
    · exact absurd hnone hprepared
  restored hrestored := hx.ended (h.restored (hx.longhornSettingsRestored ▸ hrestored))
  cleanup hcleanup := hx.ended (h.cleanup (hx.cleanup hcleanup))

theorem Saved.of_eq (h : Saved o w) (hupgrade : w'.upgrade = w.upgrade)
    (hsetting : w'.replicaReplenishment = w.replicaReplenishment)
    (haddon : w'.descheduler = w.descheduler) : Saved o w' := by
  simpa only [saved_iff, hupgrade, hsetting, haddon] using h

theorem Saved.live (h : Saved o w) : o.Version w.upgrade.live := h.versions.live

theorem Saved.push (h : Saved o w) (hversion : o.Version x)
    (hended : w.upgrade.live.Ended → x.Ended) :
    (w.upgrade.push x).Since 0 o.Version ∧
      (w.upgrade.push x).Ascending fun u x => u.Ended → x.Ended :=
  ⟨h.versions.push hversion, h.ended.push id (fun hyz hzx hy => hzx (hyz hy)) hended⟩

theorem Saved.edit (h : Saved o w) (hx : KeepsSettings w.upgrade.live x) :
    Saved o { w with upgrade := w.upgrade.push x } := by
  obtain ⟨hversions, hended⟩ := h.push (h.live.keeps hx) hx.ended
  refine ⟨hversions, hended, ?_, h.addon, h.unlabelled, ?_, ?_⟩
  · simp only [History.live_push, hx.replicaReplenishment, hx.longhornSettingsRestored]
    exact h.setting
  · simp only [History.live_push, hx.reenableDescheduler]
    exact h.labelled
  · simp only [History.live_push]
    exact fun hcleanup => h.done (hx.cleanup hcleanup)

theorem Saved.effects {F : Footprint} (heffects : Effects F w w') (h : Saved o w)
    (hedit : ∀ u x, F.edit u x → KeepsSettings u x) (hsettings : ¬ F.settings) : Saved o w' := by
  induction heffects with
  | refl => exact h
  | tail _ heffect ih =>
    cases heffect with
    | edit hx => exact ih.edit (hedit _ _ hx)
    | setting hs | addon hs => exact absurd hs hsettings
    | _ => exact ih.of_eq rfl rfl rfl

theorem keepsSettings_of_stageStep (hx : StageStep f u x) : KeepsSettings u x :=
  ⟨(staged_of_stageStep hx).toKeeps, (staged_of_stageStep hx).singleNode.imp_right And.left⟩

/-! ### The addon -/

/-- `addonHandler` disables the addon as soon as it can. -/
def World.settle (w : World) : World :=
  ((addonHandler (w.current fun _ => (.none, ""))).run w).2

theorem run_addonHandler : (addonHandler env).run w =
    match env.oldAddon.getD w.descheduler with
    | some addon =>
      if addon.enabled && addon.labelled &&
          (w.upgrade.get env.version).annotations.reenableDescheduler then
        (updateAddon env { addon with enabled := false }).run w
      else (.ok (), w)
    | none => (.ok (), w) := rfl

theorem updateAddon_old {copy : Option Addon} (hold : env.oldAddon = some copy) (addon : Addon) :
    ((updateAddon env addon).run w).2 = w := by
  have hkeeps : Preserves (fun v => v = w) (updateAddon env addon) := by
    unfold updateAddon
    rw [hold]
    exact .request fun _ hv => hv
  exact hkeeps w rfl

theorem addonHandler_eq (h : Disabled w) : ((addonHandler env).run w).2 = w := by
  rw [run_addonHandler]
  split
  · next addon haddon =>
    split
    · next hcondition =>
      rcases hold : env.oldAddon with _ | copy
      · simp only [Bool.and_eq_true] at hcondition
        rw [hold] at haddon
        simp [h addon haddon hcondition.1.2] at hcondition
      · exact updateAddon_old hold _
    · rfl
  · rfl

theorem Saved.disable (h : Saved o w) {addon : Addon} (haddon : w.descheduler = some addon)
    (hlabelled : addon.labelled = true) :
    Saved o { w with descheduler := some { addon with enabled := false } } where
  versions := h.versions
  ended := h.ended
  setting := h.setting
  addon := by simpa [haddon] using h.addon
  unlabelled := by simp [hlabelled]
  labelled _ _ _ := h.labelled addon haddon hlabelled
  done hcleanup := by simpa [hlabelled] using (h.done hcleanup).2 addon haddon

theorem Saved.settle (h : Saved o w) : Saved o w.settle ∧ Disabled w.settle := by
  rw [World.settle, run_addonHandler]
  split
  · next addon haddon =>
    split
    · next hcondition =>
      simp only [Bool.and_eq_true] at hcondition
      refine (?_ : Saved o { w with descheduler := some { addon with enabled := false } } ∧
        Disabled { w with descheduler := some { addon with enabled := false } })
      exact ⟨h.disable haddon hcondition.1.2, by simp [Disabled]⟩
    · next hcondition =>
      refine ⟨h, fun addon' haddon' hlabelled => ?_⟩
      obtain rfl : addon = addon' := Option.some.inj (haddon ▸ haddon')
      have hmarked : (w.upgrade.get w.upgrade.now).annotations.reenableDescheduler = true :=
        h.labelled addon haddon hlabelled
      simpa [hlabelled, World.current, hmarked] using hcondition
  · next haddon =>
    have hnone : w.descheduler = none := haddon
    exact ⟨h, fun addon' haddon' => by simp [hnone] at haddon'⟩

/-! ### The start of the upgrade of the nodes -/

/-- The requests are answered. -/
def Env.Answered (env : Env) (rs : List ApiRequest) : Prop := ∀ r ∈ rs, (env.fault r).1 = .none
  deriving Decidable

/-- The cached copies of the setting and of the addon are up to date. -/
def Env.UpToDate (env : Env) : Prop :=
  (∀ k ∈ [0, 1, 2], env.oldSetting k = none) ∧ env.oldAddon = none
  deriving Decidable

namespace World

variable (w : World)

/-- The setting has to be raised. -/
def isLow : Bool := w.replicaReplenishment < extendedReplicaReplenishmentWaitInterval

/-- The addon has to be labelled. -/
def isDescheduling : Bool := w.descheduler.any Addon.enabled

/-- The requests for the setting. -/
def settingRequests : List ApiRequest :=
  .getSetting 0 :: if w.isLow then [.getSetting 1, .getSetting 2, .updateSetting] else []

/-- The requests for the addon. -/
def addonRequests : List ApiRequest :=
  .getAddon :: if w.isDescheduling then [.updateAddon] else []

/-- The setting is raised, if it has to be. -/
def raiseSetting : World :=
  let value := if w.isLow then extendedReplicaReplenishmentWaitInterval else w.replicaReplenishment
  { w with replicaReplenishment := value }

/-- The addon is labelled, if it has to be. -/
def labelAddon : World :=
  let descheduler := w.descheduler.map fun addon =>
    if addon.enabled then { addon with labelled := true } else addon
  { w with descheduler }

end World

/-- The annotation from which the setting is restored. -/
def Upgrade.saveSetting (u : Upgrade) (w : World) : Upgrade :=
  let saved := if w.isLow then some w.replicaReplenishment else u.annotations.replicaReplenishment
  { u with annotations := { u.annotations with replicaReplenishment := saved } }

/-- The annotation from which the addon is restored. -/
def Upgrade.markAddon (u : Upgrade) (w : World) : Upgrade :=
  let marked := w.isDescheduling || u.annotations.reenableDescheduler
  { u with annotations := { u.annotations with reenableDescheduler := marked } }

/-- The reconcile raises the setting. -/
def Env.Raises (env : Env) (w : World) : Prop :=
  w.isLow ∧ env.Answered [.getSetting 0, .getSetting 1, .getSetting 2] ∧
    (env.fault .updateSetting).1 ≠ .refused
  deriving Decidable

/-- The reconcile labels the addon. -/
def Env.Labels (env : Env) (w : World) : Prop :=
  w.isDescheduling ∧ env.Answered (.getAddon :: w.settingRequests) ∧
    (env.fault .updateAddon).1 ≠ .refused

/-- The reconcile gets through to the update of the Upgrade, and the update is carried out. -/
def Env.Persists (env : Env) (w : World) : Prop :=
  env.version = w.upgrade.now ∧ env.Answered (w.settingRequests ++ w.addonRequests) ∧
    (env.fault (.updateUpgrade 0)).1 ≠ .refused
  deriving Decidable

instance (env : Env) (w : World) : Decidable (env.Labels w) := inferInstanceAs (Decidable (_ ∧ _))

theorem triple_read {P : World → Prop} {α : Type} {r : ApiRequest} {g : World → α} :
    Triple P (env.request r fun w => (.ok (g w), w)) (Ends P fun a v => P v ∧ a = g v) :=
  .requestEnds (fun _ hv => ⟨hv, rfl⟩) (fun _ hv => hv) fun _ _ hv => hv.1

theorem run_read {α : Type} {r : ApiRequest} {g : World → α} :
    env.request r (fun w => (.ok (g w), w)) w =
      (if (env.fault r).1 = .none then .ok (g w) else .error (.other (env.fault r).2), w) := by
  cases hfault : (env.fault r).1 <;> simp [Env.request, request, hfault, fail]

/-- A part of the reconcile: it leads to `x` and `w'` when it is answered and fails otherwise, and
it has changed something only if `changes` holds. -/
def Attempts (answered changes : Prop) (x : Upgrade) (w w' : World) (r : Except Err Upgrade)
    (v : World) : Prop :=
  (v = w ∨ changes) ∧ match r with
    | .ok y => answered ∧ y = x ∧ v = w'
    | .error _ => ¬ answered

theorem attempts_extendReplicaReplenishment (hold : ∀ k ∈ [0, 1, 2], env.oldSetting k = none) :
    Triple (fun v => v = w) (extendReplicaReplenishment env u)
      (Attempts (env.Answered w.settingRequests) (env.Raises w) (u.saveSetting w) w
        w.raiseSetting) := by
  rintro v rfl
  obtain ⟨h₀, h₁, h₂⟩ : env.oldSetting 0 = none ∧ env.oldSetting 1 = none ∧
      env.oldSetting 2 = none := by simpa using hold
  simp only [extendReplicaReplenishment, saveReplicaReplenishmentToUpgradeAnnotation,
    setReplicaReplenishmentValue, getReplicaReplenishmentValue, run, Bind.bind, Pure.pure, run_read,
    h₀, h₁, h₂, Option.getD_none]
  by_cases hzero : (env.fault (.getSetting 0)).1 = .none
  · by_cases hlow : v.replicaReplenishment < extendedReplicaReplenishmentWaitInterval
    · by_cases hone : (env.fault (.getSetting 1)).1 = .none
      · by_cases htwo : (env.fault (.getSetting 2)).1 = .none
        · cases hupdate : (env.fault .updateSetting).1 <;>
            simp [Attempts, Env.Answered, World.settingRequests, World.isLow, Env.Raises, hzero,
              hlow, hlow.ne', hone, htwo, hupdate, Env.request, request, fail, Upgrade.saveSetting,
              World.raiseSetting]
        · simp [Attempts, Env.Answered, World.settingRequests, World.isLow, hzero, hlow, hone, htwo]
      · simp [Attempts, Env.Answered, World.settingRequests, World.isLow, hzero, hlow, hone]
    · simp [Attempts, Env.Answered, World.settingRequests, World.isLow, hzero, hlow,
        Upgrade.saveSetting, World.raiseSetting]
  · simp [Attempts, Env.Answered, World.settingRequests, hzero]

theorem attempts_addUpgradeLabel (hold : env.oldAddon = none) :
    Triple (fun v => v = w) (addUpgradeLabelToDeschedulerAddons env u)
      (Attempts (env.Answered w.addonRequests)
        (w.isDescheduling ∧ (env.fault .getAddon).1 = .none ∧ (env.fault .updateAddon).1 ≠ .refused)
        (u.markAddon w) w w.labelAddon) := by
  rintro v rfl
  simp only [addUpgradeLabelToDeschedulerAddons, getAddon, run, Bind.bind, Pure.pure,
    run_read, hold,
    Option.getD_none]
  by_cases hget : (env.fault .getAddon).1 = .none
  · have hsame : ∀ {d}, v.descheduler = d → { v with descheduler := d } = v := fun hd => hd ▸ rfl
    rcases hd : v.descheduler with _ | ⟨_ | _, labelled⟩
    · simp [Attempts, Env.Answered, World.addonRequests, World.isDescheduling, hget, hd,
        Upgrade.markAddon, World.labelAddon, hsame hd]
    · simp [Attempts, Env.Answered, World.addonRequests, World.isDescheduling, hget, hd,
        Upgrade.markAddon, World.labelAddon, hsame hd]
    · cases hupdate : (env.fault .updateAddon).1 <;>
        simp [Attempts, Env.Answered, World.addonRequests, World.isDescheduling, hget, hd, hupdate,
          updateAddon, hold, Env.request, request, fail, Upgrade.markAddon, World.labelAddon]
  · simp [Attempts, Env.Answered, World.addonRequests, hget]

theorem persist_saved (f : UpgradeFindings) (hx : u.Annotated x) (h : u.Running)
    (hservices : u.status .systemServicesUpgraded = some .conditionTrue)
    (hnodes : u.status .nodesUpgraded = none)
    (hsame : ¬ (env.version = v.upgrade.now ∧ (env.fault (.updateUpgrade 0)).1 ≠ .refused) →
      Saved o v)
    (hpush : env.version = v.upgrade.now → Saved o { v with upgrade := v.upgrade.push x }) :
    Saved o ((do
      let version ← env.updateUpgrade 0 env.version x
      env.other .upgradeKubernetes
      let _ ← env.updateUpgrade 1 version x.upgradingNodes : Act Unit).run v).2 := by
  have hupdate : Triple (fun v' => v' = v) (env.updateUpgrade 0 env.version x)
      (Ends (Saved o) fun n' v' => Saved o v' ∧ v'.upgrade.At n' x) := by
    refine .requestCases ?_ (fun hrefused v' hv => ?_) ?_
    · rintro - v' rfl
      simp only [run]
      split
      · next hnow => exact ⟨hpush hnow.symm, hnow ▸ History.at_push _ _⟩
      · next hnow => exact hsame fun hor => hnow hor.1.symm
    · exact hv ▸ hsame fun hor => hor.2 hrefused
    rintro - v' rfl
    simp only [run]
    split
    · next hnow => exact hpush hnow.symm
    · next hnow => exact hsame fun hor => hnow hor.1.symm
  obtain ⟨annotations, rfl⟩ := hx
  refine Triple.bind (R := fun _ v' => Saved o v') hupdate (fun n' v' hv => ?_)
    (fun _ _ hv => hv) v rfl
  have hrest : Within (stageFootprint f) n' { u with annotations } (do
      env.other .upgradeKubernetes
      let _ ← env.updateUpgrade 1 n' { u with annotations }.upgradingNodes : Act Unit) := by
    refine .bind (fun _ => preserves_other _) fun _ =>
      within_updateUpgrade_bind ?_ fun _ => .pure ()
    exact StageStep.upgradingNodes ⟨h.completed, h.log⟩ hservices hnodes
  exact hv.1.effects (hrest v' v' ⟨ReflTransGen.refl, hv.2⟩)
    (fun _ _ => keepsSettings_of_stageStep) id

theorem keepsSettings_saveShutdownVM (u : Upgrade) (shutdown : Bool) :
    KeepsSettings u (u.saveShutdownVM shutdown) := by
  unfold Upgrade.saveShutdownVM
  split
  · exact ⟨.refl u, .inl rfl⟩
  · exact ⟨⟨rfl, rfl, rfl, id, id, id, id⟩, .inl rfl⟩

/-- The setting and the addon are changed, and the annotations are persisted. -/
theorem Saved.raise (h : Saved o w) (hdisabled : Disabled w) (hrunning : w.upgrade.live.Running)
    (hservices : w.upgrade.live.status .systemServicesUpgraded = some .conditionTrue)
    (hsingle : w.upgrade.live.singleNode = "")
    (hx : KeepsSettings ((w.upgrade.live.saveSetting w).markAddon w) x) :
    Saved o { w.raiseSetting.labelAddon with upgrade := w.upgrade.push x } := by
  have hnotended : ¬ w.upgrade.live.Ended := fun hended => hended.2 hrunning.completed
  have hlow : w.isLow → w.replicaReplenishment = o.replicaReplenishment := by
    intro hlow
    refine h.setting.resolve_right fun hraised => ?_
    simp [World.isLow, hraised.1] at hlow
  have hdescheduling : w.isDescheduling → o.descheduler = some true := by
    intro henabled
    obtain ⟨addon, haddon, henabled⟩ := (Option.any_eq_true _ _).1 henabled
    have hlabelled : addon.labelled = false := by
      by_contra hne
      simp [hdisabled addon haddon (by simpa using hne)] at henabled
    rw [h.unlabelled addon haddon hlabelled, henabled]
  have hversion : o.Version ((w.upgrade.live.saveSetting w).markAddon w) := by
    refine ⟨fun value hvalue => ?_, fun hmarked => ?_, h.live.inOrder, fun _ => ⟨hsingle, ?_⟩,
      h.live.restored, h.live.cleanup⟩
    · simp only [Upgrade.saveSetting] at hvalue
      split at hvalue
      · next hl => exact (Option.some.inj hvalue).symm.trans (hlow hl)
      · exact h.live.saved value hvalue
    · simp only [Upgrade.markAddon, Bool.or_eq_true] at hmarked
      exact hmarked.elim hdescheduling h.live.marked
    · exact h.live.inOrder (by simp [hservices])
  have hrestored : w.upgrade.live.annotations.longhornSettingsRestored = false := by
    by_contra hne
    exact hnotended (h.live.restored (by simpa using hne))
  obtain ⟨hversions, hended⟩ := h.push (hversion.keeps hx) fun hended => absurd hended hnotended
  refine ⟨hversions, hended, ?_, ?_, ?_, ?_, ?_⟩
  · simp only [History.live_push, hx.replicaReplenishment, hx.longhornSettingsRestored]
    by_cases hl : w.isLow
    · refine .inr ⟨if_pos hl, ?_, hrestored⟩
      simp [Upgrade.markAddon, Upgrade.saveSetting, hl, hlow hl]
    · simpa [Upgrade.markAddon, Upgrade.saveSetting, World.labelAddon, World.raiseSetting, hl]
        using h.setting
  · simpa [World.labelAddon, World.raiseSetting] using h.addon
  · intro addon haddon hlabelled
    obtain ⟨old, hold, rfl⟩ := Option.map_eq_some_iff.1 haddon
    split at hlabelled
    · simp at hlabelled
    · next hne =>
      rw [if_neg hne]
      exact h.unlabelled old hold hlabelled
  · intro addon haddon hlabelled
    obtain ⟨old, hold, rfl⟩ := Option.map_eq_some_iff.1 haddon
    simp only [History.live_push, hx.reenableDescheduler, Upgrade.markAddon, Bool.or_eq_true]
    split at hlabelled
    · next henabled => exact .inl ((Option.any_eq_true _ _).2 ⟨old, hold, henabled⟩)
    · exact .inr (h.labelled old hold hlabelled)
  · simp only [History.live_push]
    intro hcleanup
    exact absurd (h.live.cleanup (hx.cleanup hcleanup)) hnotended

/-- **The start of the upgrade of the nodes.** -/
theorem upgradeNodes_saved (h : Saved o w) (hdisabled : Disabled w)
    (hu : w.upgrade.At env.version u) (hrunning : u.Running)
    (hservices : u.status .systemServicesUpgraded = some .conditionTrue)
    (hnodes : u.status .nodesUpgraded = none) (hsingle : u.singleNode = "")
    (hsafe : u.annotations.skipManifestsApplied = true →
      env.UpToDate ∧ (env.Raises w ∨ env.Labels w → env.Persists w)) :
    Saved o ((upgradeNodes env f u).run w).2 := by
  have hwaiting : Yields (fun v => v = w)
      (fun waiting => waiting = false → u.annotations.skipManifestsApplied = true)
      (ensureSkipManifestPlanCompleted env u.annotations.skipManifestsApplied) :=
    (Preserves.when fun _ => preserves_other _).yields.andThen fun _ _ =>
      .pure (by simp)
  have hlive : env.version = w.upgrade.now → w.upgrade.live = u := by
    intro hnow
    rw [History.live, ← hnow, hu.get]
  refine hwaiting.bindTriple (R := fun _ v => Saved o v) (fun waiting hcompleted => ?_)
    (fun _ v hv => hv ▸ h) w rfl
  split
  · exact .pure fun v hv => hv ▸ h
  next hfalse =>
  obtain ⟨hold, hpersists⟩ := hsafe (hcompleted (by simpa using hfalse))
  have hsaved : ∀ {v}, v = w ∨ (env.Raises w ∨ env.Labels w) → ¬ env.Persists w → Saved o v :=
    fun hv hnot => hv.resolve_right (fun hor => hnot (hpersists hor)) ▸ h
  refine .bind (attempts_extendReplicaReplenishment hold.1) (fun x => ?_) ?_
  · rintro v ⟨hv, hsetting, rfl, rfl⟩
    have hchanged : ∀ {v}, v = w.raiseSetting ∨ w.isDescheduling ∧
        (env.fault .getAddon).1 = .none ∧ (env.fault .updateAddon).1 ≠ .refused →
        v = w ∨ (env.Raises w ∨ env.Labels w) := by
      rintro v (rfl | ⟨hon, hget, hne⟩)
      · exact hv.imp_right .inl
      · exact .inr (.inr ⟨hon, List.forall_mem_cons.2 ⟨hget, hsetting⟩, hne⟩)
    refine Triple.bind (R := fun _ v => Saved o v) (attempts_addUpgradeLabel hold.2) (fun x => ?_)
      ?_ _ rfl
    · rintro v ⟨hv', -, rfl, rfl⟩
      refine persist_saved f ?_ hrunning hservices hnodes
        (fun hnot => hsaved (hchanged hv') fun hp => hnot ⟨hp.1, hp.2.2⟩) fun hnow => ?_
      · exact annotated_saveShutdownVM ⟨_, rfl⟩ _
      · obtain rfl := hlive hnow
        exact h.raise hdisabled hrunning hservices hsingle (keepsSettings_saveShutdownVM _ _)
    · exact fun e v hv' => hsaved (hchanged hv'.1) fun hp =>
        hv'.2 (List.forall_mem_append.1 hp.2.1).2
  · exact fun e v hv => hsaved (hv.1.imp_right .inl) fun hp =>
      hv.2 (List.forall_mem_append.1 hp.2.1).1

/-! ### The cleanup -/

/-- An older copy of the addon with nothing to enable is right about it. -/
def Env.ShowsAddon (env : Env) (u : Upgrade) (w : World) : Prop :=
  u.annotations.reenableDescheduler = true → ∀ copy ∈ env.oldAddon,
    (∀ addon ∈ copy, addon.enabled = true) → ∀ addon ∈ w.descheduler, addon.enabled = true

instance (env : Env) (u : Upgrade) (w : World) : Decidable (env.ShowsAddon u w) :=
  inferInstanceAs (Decidable (_ → _))

/-- The cleanup of an upgrade that has ended goes on with version `n`. -/
structure Cleaning (o : Original) (env : Env) (n : Nat) (u : Upgrade) (w : World) : Prop where
  saved : Saved o w
  disabled : Disabled w
  reads : w.upgrade.At n u
  ended : u.Ended
  setting : env.ShowsSetting u w
  addon : env.ShowsAddon u w

theorem Cleaning.live (h : Cleaning o env n u w) (hnow : w.upgrade.now = n) :
    w.upgrade.live = u := by
  rw [History.live, hnow, h.reads.get]

theorem Cleaning.version (h : Cleaning o env n u w) : o.Version u :=
  h.reads.get ▸ h.saved.versions n (Nat.zero_le _) h.reads.le

theorem Cleaning.restore (h : Cleaning o env n u w) :
    Cleaning o env n u { w with replicaReplenishment := o.replicaReplenishment } := by
  have hs := h.saved
  exact ⟨⟨hs.versions, hs.ended, .inl rfl, hs.addon, hs.unlabelled, hs.labelled,
    fun hdone => ⟨rfl, (hs.done hdone).2⟩⟩, h.disabled, h.reads, h.ended,
    fun _ value hvalue _ => (h.version.saved value hvalue).symm, h.addon⟩

theorem Cleaning.enable (h : Cleaning o env n u w)
    (hmarked : u.annotations.reenableDescheduler = true) {addon : Addon}
    (haddon : w.descheduler = some addon) :
    Cleaning o env n u { w with descheduler := some ⟨true, false⟩ } where
  saved :=
    { versions := h.saved.versions
      ended := h.saved.ended
      setting := h.saved.setting
      addon := by simpa [haddon] using h.saved.addon
      unlabelled := by simpa using h.version.marked hmarked
      labelled := by simp
      done := fun hdone => ⟨(h.saved.done hdone).1, by simp⟩ }
  disabled := by simp [Disabled]
  reads := h.reads
  ended := h.ended
  setting := h.setting
  addon := by simp [Env.ShowsAddon]

theorem Saved.pushCleanup (h : Saved o w) (hended : w.upgrade.live.Ended)
    (hsetting : w.replicaReplenishment = o.replicaReplenishment) {annotations : Annotations}
    {cleanup : Option CleanupState}
    (hsaved : annotations.replicaReplenishment =
      w.upgrade.live.annotations.replicaReplenishment)
    (hmarked : annotations.reenableDescheduler = w.upgrade.live.annotations.reenableDescheduler ∨
      annotations.reenableDescheduler = false ∧ ∀ addon ∈ w.descheduler, addon.labelled = false)
    (hcleanup : cleanup = w.upgrade.live.cleanup ∨
      ∀ addon ∈ w.descheduler, addon.labelled = false) :
    Saved o { w with upgrade := w.upgrade.push { w.upgrade.live with annotations, cleanup } } := by
  have hversion : o.Version { w.upgrade.live with annotations, cleanup } := by
    refine ⟨hsaved ▸ h.live.saved, fun hmark => ?_, h.live.inOrder, hsaved ▸ h.live.multiNode,
      fun _ => hended, fun _ => hended⟩
    rcases hmarked with heq | ⟨hfalse, -⟩
    · exact h.live.marked (heq ▸ hmark)
    · simp [hfalse] at hmark
  obtain ⟨hversions, hasc⟩ := h.push hversion id
  refine ⟨hversions, hasc, .inl hsetting, h.addon, h.unlabelled, ?_, ?_⟩
  · simp only [History.live_push]
    intro addon haddon hlabelled
    rcases hmarked with heq | ⟨-, hnone⟩
    · exact heq.trans (h.labelled addon haddon hlabelled)
    · simp [hnone addon haddon] at hlabelled
  · simp only [History.live_push]
    intro hdone
    refine ⟨hsetting, ?_⟩
    rcases hcleanup with heq | hnone
    · exact (h.done (heq ▸ hdone)).2
    · exact hnone

/-- `G` is known in case the version is current. -/
structure CleaningWith (o : Original) (env : Env) (G : World → Prop) (n : Nat) (u : Upgrade)
    (w : World) : Prop extends Cleaning o env n u w where
  known : w.upgrade.now = n → G w

/-- The cleanup can stop here. -/
def Stops (o : Original) (w : World) : Prop := Saved o w ∧ Disabled w

theorem Cleaning.stops (h : Cleaning o env n u w) : Stops o w := ⟨h.saved, h.disabled⟩

/-- An edit of the cleanup: it leaves nothing new to restore. -/
structure Cleans (u x : Upgrade) : Prop where
  ended : u.Ended → x.Ended
  setting : x.annotations.longhornSettingsRestored = false →
    u.annotations.longhornSettingsRestored = false
  saved : x.annotations.replicaReplenishment = u.annotations.replicaReplenishment
  addon : x.annotations.reenableDescheduler = true → u.annotations.reenableDescheduler = true

theorem Cleaning.push (h : Cleaning o env n u w) (hx : Cleans u x) (hnow : w.upgrade.now = n)
    (hsaved : Saved o { w with upgrade := w.upgrade.push x }) :
    Cleaning o env (n + 1) x { w with upgrade := w.upgrade.push x } where
  saved := hsaved
  disabled := h.disabled
  reads := hnow ▸ History.at_push _ _
  ended := hx.ended h.ended
  setting hrestored value hvalue := h.setting (hx.setting hrestored) value (hx.saved ▸ hvalue)
  addon hmarked := h.addon (hx.addon hmarked)

section

variable {G : World → Prop}
  (hG : ∀ (v : World) (y : History Upgrade), G v → G { v with upgrade := y })
  (hx : Cleans u x)
  (hpush : ∀ v, Cleaning o env n u v → v.upgrade.live = u → G v →
    Saved o { v with upgrade := v.upgrade.push x })

include hG hx hpush

theorem triple_updateCleaning : Triple (CleaningWith o env G n u) (env.updateUpgrade k n x)
    (Ends (Stops o) fun n' => CleaningWith o env G n' x) := by
  refine .requestEnds (fun v hv => ?_) (fun v hv => hv.stops) fun _ v hv => hv.stops
  simp only [run]
  split
  · next hnow =>
    have hsaved := hpush v hv.toCleaning (hv.live hnow) (hv.known hnow)
    exact ⟨hv.push hx hnow hsaved, fun _ => hG v _ (hv.known hnow)⟩
  · exact hv.stops

theorem triple_handsCleaning : Triple (CleaningWith o env G n u)
    (do
      let version ← env.updateUpgrade k n x
      return (version, x)) (Hands (Stops o) (CleaningWith o env G)) :=
  Triple.bind (triple_updateCleaning hG hx hpush) (fun _ => .pure fun _ hv => hv) fun _ _ hv => hv

theorem triple_endCleaning : Triple (CleaningWith o env G n u)
    (do let _ ← env.updateUpgrade k n x) fun _ => Stops o :=
  Triple.bind (triple_updateCleaning hG hx hpush) (fun _ => .pure fun _ hw => hw.stops)
    fun _ _ hw => hw

end

/-- The setting is as before. -/
def SettingRestored (o : Original) (w : World) : Prop :=
  w.replicaReplenishment = o.replicaReplenishment

/-- The setting is as before, and the addon is not labelled. -/
def AllRestored (o : Original) (w : World) : Prop :=
  w.replicaReplenishment = o.replicaReplenishment ∧
    ∀ addon ∈ w.descheduler, addon.labelled = false

theorem triple_setOriginal (hrestored : u.annotations.longhornSettingsRestored = false)
    (hsaved : u.annotations.replicaReplenishment = some o.replicaReplenishment) :
    Triple (Cleaning o env n u) (setReplicaReplenishmentValue env o.replicaReplenishment)
      (Ends (Cleaning o env n u) fun _ => CleaningWith o env (SettingRestored o) n u) := by
  refine triple_read.andThen fun value => ?_
  rcases hold : env.oldSetting 2 with _ | copy
  · split
    · next heq => exact .pure fun v hv => ⟨hv.1, fun _ => (heq.trans hv.2).symm⟩
    · exact .requestEnds (fun v hv => ⟨hv.1.restore, fun _ => rfl⟩) (fun _ hv => hv.1)
        fun _ _ hv => hv.toCleaning
  -- An older copy: it has the value and is right about it, or its update is refused.
  · split
    · next heq =>
      refine .pure fun v hv => ⟨hv.1, fun _ => hv.1.setting hrestored _ hsaved ?_⟩
      exact hold.trans (congrArg some (heq.trans hv.2).symm)
    · exact .requestEnds (fun v hv => hv.1) (fun _ hv => hv.1) fun _ _ hv => hv.toCleaning

theorem triple_loadReplicaReplenishment
    (hrestored : u.annotations.longhornSettingsRestored = false) :
    Triple (Cleaning o env n u) (do loadReplicaReplenishmentFromUpgradeAnnotation env u)
      (Ends (Cleaning o env n u) fun _ => CleaningWith o env (SettingRestored o) n u) := by
  unfold loadReplicaReplenishmentFromUpgradeAnnotation
  split
  · next hnone =>
    refine .pure fun v hv => ⟨hv, fun hnow => hv.saved.setting.resolve_right fun hraised => ?_⟩
    rw [hv.live hnow, hnone] at hraised
    simp at hraised
  · next value hsome =>
    intro v hv
    obtain rfl := hv.version.saved value hsome
    exact triple_setOriginal hrestored hsome v hv

theorem triple_restoreLonghornSettings_saved :
    Triple (Cleaning o env env.version u) (restoreLonghornSettings env u)
      (Hands (Stops o) (CleaningWith o env (SettingRestored o))) := by
  unfold restoreLonghornSettings
  split
  · next hcondition =>
    refine .bind (triple_loadReplicaReplenishment hcondition.2) (fun _ => ?_)
      fun _ _ hv => hv.stops
    refine triple_handsCleaning (fun _ _ h => h) ⟨id, by simp, rfl, id⟩ ?_
    rintro v hv rfl hsetting
    exact hv.saved.pushCleanup hv.ended hsetting rfl (.inl rfl) (.inl rfl)
  · next hcondition =>
    refine .pure fun v hv => ⟨hv, fun hnow => hv.saved.setting.resolve_right ?_⟩
    rintro ⟨-, hsome, hrestored⟩
    rw [hv.live hnow] at hsome hrestored
    exact hcondition ⟨(hv.version.multiNode (by simp [hsome])).1, hrestored⟩

theorem triple_enableDescheduler (hmarked : u.annotations.reenableDescheduler = true) :
    Triple (CleaningWith o env (SettingRestored o) n u) (enableDescheduler env)
      (Ends (CleaningWith o env (SettingRestored o) n u) fun _ v =>
        CleaningWith o env (SettingRestored o) n u v ∧
          ∀ addon ∈ v.descheduler, addon.labelled = false) := by
  -- When the copy has nothing to enable, neither has the addon itself.
  have hnothing : ∀ {copy v}, CleaningWith o env (SettingRestored o) n u v ∧
      copy = env.oldAddon.getD v.descheduler → (∀ addon ∈ copy, addon.enabled = true) →
      ∀ addon ∈ v.descheduler, addon.labelled = false := by
    rintro copy v ⟨hv, hcopy⟩ henabled addon haddon
    have hreally : addon.enabled = true := by
      rcases hold : env.oldAddon with _ | shown
      · rw [hold] at hcopy
        exact henabled addon (hcopy ▸ haddon)
      · rw [hold] at hcopy
        rw [show copy = shown from hcopy] at henabled
        exact hv.addon hmarked shown hold henabled addon haddon
    by_contra hlabelled
    simp [hv.disabled addon haddon (by simpa using hlabelled)] at hreally
  refine triple_read.andThen fun copy => ?_
  split
  · exact .pure fun v hv => ⟨hv.1, hnothing hv (by simp)⟩
  next addon =>
  refine .when (fun _ => ?_) fun henabled v hv => ⟨hv.1, hnothing hv (by simpa using henabled)⟩
  rcases hold : env.oldAddon with _ | shown
  · unfold updateAddon
    rw [hold]
    refine .requestEnds (fun v hv => ⟨⟨?_, hv.1.known⟩, fun _ hd => Option.some.inj hd ▸ rfl⟩)
      (fun _ hv => hv.1) fun _ _ hv => hv.1
    exact hv.1.enable hmarked hv.2.symm
  · unfold updateAddon
    rw [hold]
    exact .requestEnds (fun _ hv => hv.1) (fun _ hv => hv.1) fun _ _ hv => hv.1

theorem triple_reenableAddons_saved :
    Triple (CleaningWith o env (SettingRestored o) n u) (reenableAddons env n u)
      (Hands (Stops o) (CleaningWith o env (AllRestored o))) := by
  unfold reenableAddons
  split
  · next hmarked =>
    refine .bind (triple_enableDescheduler hmarked) (fun _ => ?_) fun _ _ hv => hv.stops
    refine .weaken (triple_handsCleaning (fun _ _ h => h) (by exact ⟨id, id, rfl, by simp⟩) ?_)
      (fun v hv => ⟨hv.1.toCleaning, fun hnow => ⟨hv.1.known hnow, hv.2⟩⟩) fun _ _ hv => hv
    rintro v hv rfl hrestored
    exact hv.saved.pushCleanup hv.ended hrestored.1 rfl (.inr ⟨rfl, hrestored.2⟩) (.inl rfl)
  · next hmarked =>
    refine .pure fun v hv => ⟨hv.toCleaning, fun hnow => ⟨hv.known hnow, fun addon haddon => ?_⟩⟩
    by_contra hlabelled
    have hmark := hv.saved.labelled addon haddon (by simpa using hlabelled)
    rw [hv.live hnow] at hmark
    exact hmarked hmark

theorem triple_cleanupAndRecord {cleanJobs : Bool} :
    Triple (Cleaning o env env.version u) (cleanupAndRecord env u cleanJobs)
      fun _ => Stops o := by
  have hcleanup : Triple (Cleaning o env env.version u) (cleanup env u cleanJobs)
      (Hands (Stops o) (CleaningWith o env (AllRestored o))) :=
    triple_cleanup (fun _ hw => hw.stops) (fun _ _ _ hw => hw.stops) (fun _ _ _ hw => hw.stops)
      (fun _ _ hw => { hw with saved := hw.saved.of_eq rfl rfl rfl })
      triple_restoreLonghornSettings_saved
      (fun _ _ _ _ hw => { hw with saved := hw.saved.of_eq rfl rfl rfl })
      fun _ _ => triple_reenableAddons_saved
  refine .bind hcleanup ?_ fun _ _ hw => hw
  rintro ⟨n, v⟩
  refine triple_endCleaning (fun _ _ h => h) ⟨id, id, rfl, id⟩ ?_
  rintro v hv rfl hrestored
  exact hv.saved.pushCleanup hv.ended hrestored.1 rfl (.inl rfl) (.inr hrestored.2)

/-- **The cleanup**: it is done only when the settings are as before. -/
theorem cleanupUpgrade_saved :
    Triple (Cleaning o env env.version u) (cleanupUpgrade env f u) fun _ => Stops o := by
  refine triple_cleanupUpgrade (fun _ hw => hw.stops)
    (fun _ _ => triple_cleanupAndRecord) ?_
  rintro _ rfl
  refine .weaken (triple_endCleaning (fun _ _ h => h) (by exact ⟨id, id, rfl, id⟩) ?_)
    (fun v hv => ⟨hv, fun _ => True.intro⟩) fun _ _ hv => hv
  rintro v hv rfl -
  exact hv.saved.edit ⟨⟨rfl, rfl, rfl, id, id, id, id⟩, .inl rfl⟩

/-! ### Runs -/

/-- The settings have not been touched yet. -/
structure Untouched (w : World) : Prop where
  versions : w.upgrade.Since 0 fun u => u.annotations.replicaReplenishment = none ∧
    u.annotations.reenableDescheduler = false ∧ u.annotations.longhornSettingsRestored = false ∧
    u.cleanup ≠ some .succeeded ∧ u.InOrder
  ended : w.upgrade.Ascending fun u x => u.Ended → x.Ended
  descheduler : ∀ addon ∈ w.descheduler, addon.labelled = false

theorem Untouched.saved (h : Untouched w) : Saved w.original w where
  versions k hk hnow := by
    obtain ⟨hsaved, hmarked, hrestored, hcleanup, hinOrder⟩ := h.versions k hk hnow
    refine ⟨?_, ?_, hinOrder, ?_, ?_, fun hdone => absurd hdone hcleanup⟩
    · simp [hsaved]
    · simp [hmarked]
    · simp [hsaved]
    · simp [hrestored]
  ended := h.ended
  setting := .inl rfl
  addon := by simp [World.original]
  unlabelled addon haddon _ := by simp [World.original, show w.descheduler = some addon from haddon]
  labelled addon haddon hlabelled := by simp [h.descheduler addon haddon] at hlabelled
  done hdone := absurd hdone h.versions.live.2.2.2.1

theorem Untouched.disabled (h : Untouched w) : Disabled w :=
  fun addon haddon hlabelled => by simp [h.descheduler addon haddon] at hlabelled

/-- The upgrade system, in which the addon is disabled as soon as it is labelled. -/
def settlingMachine (c : Cluster) : Machine World Event where
  next w ev := ((machine c).next w ev).map World.settle

/-- The upgrade of the nodes of a cluster is to start. -/
def Upgrade.StartsNodes (u : Upgrade) : Prop :=
  u.status .completed = some .conditionUnknown ∧
    u.status .systemServicesUpgraded = some .conditionTrue ∧ u.status .nodesUpgraded = none ∧
    u.singleNode = "" ∧ u.annotations.skipManifestsApplied = true
  deriving Decidable

/-- A reconcile that is to start the upgrade of the nodes reads the setting and the addon as they
are, and when it raises the setting or labels the addon, it persists the annotations.  The older
copies of a cleanup do not hide what there is to restore. -/
def SettingsSafe (w : World) : Event → Prop
  | .upgrade env _ =>
    let u := w.upgrade.get env.version
    (u.StartsNodes → env.UpToDate ∧ (env.Raises w ∨ env.Labels w → env.Persists w)) ∧
      (u.Ended → env.ShowsSetting u w ∧ env.ShowsAddon u w)
  | _ => True

instance (u : Upgrade) : Decidable u.Ended := inferInstanceAs (Decidable (_ ∧ _))

instance (w : World) (ev : Event) : Decidable (SettingsSafe w ev) := by
  apply @Event.casesOn _ ev <;> intros <;> dsimp only [SettingsSafe] <;> infer_instance

theorem upgradeHandler_saved (h : Saved o w) (hdisabled : Disabled w)
    (hn : env.version ≤ w.upgrade.now) (hsafe : SettingsSafe w (.upgrade env f)) :
    Saved o ((upgradeHandler c env f).run w).2 := by
  have hreconciles := upgradeHandler_reconciles (c := c) (f := f) hn
  generalize (upgradeHandler c env f).run w = result at hreconciles
  cases hreconciles with
  | stage heffects => exact h.effects heffects (fun _ _ => keepsSettings_of_stageStep) id
  | cleanup hended =>
    obtain ⟨hsetting, haddon⟩ := hsafe.2 hended
    exact (cleanupUpgrade_saved w ⟨h, hdisabled, ⟨hn, rfl⟩, hended, hsetting, haddon⟩).1
  | nodes hrunning hservices hnodes hsingle =>
    refine upgradeNodes_saved h hdisabled ⟨hn, rfl⟩ hrunning hservices hnodes hsingle ?_
    exact fun happlied => hsafe.1 ⟨hrunning.completed, hservices, hnodes, hsingle, happlied⟩

theorem Saved.change (h : Saved o w) (hchange : Change c w w') : Saved o w' := by
  cases hchange with
  | pause annotations hannotations =>
    refine h.edit ⟨⟨?_, ?_, ?_, id, id, id, id⟩, .inl rfl⟩
    · rw [hannotations]
    · rw [hannotations]
    · rw [hannotations]
  | _ => exact h.of_eq rfl rfl rfl

theorem Saved.next {ev : Event} (h : Saved o w) (hdisabled : Disabled w) (hsafe : SettingsSafe w ev)
    (hnext : (machine c).next w ev = some w') : Saved o w' := by
  rcases next_cases hnext with ⟨env, m, hreconcile, henv, rfl⟩ | ⟨hreconcile, hchange⟩
  · have heffects := reconcile_effects hreconcile henv
    have hkeeps : (∀ env f, ev ≠ .upgrade env f) → ¬ (footprint w ev).settings →
        Saved o (m.run w).2 := by
      refine fun hev hsettings => h.effects heffects (fun u x hx => ?_) hsettings
      obtain ⟨hkeeps, hsingle⟩ := keeps_of_footprint hev hx
      exact ⟨hkeeps, .inl hsingle⟩
    cases ev with
    | upgrade env f =>
      cases hreconcile
      exact upgradeHandler_saved h hdisabled henv.1 hsafe
    | addon env =>
      cases hreconcile
      rw [addonHandler_eq hdisabled]
      exact h
    | _ => exact hkeeps (by simp) id
  · exact h.change (change_cases hchange)

/-- **Settings are restored.**  In every safe run the annotations say how to restore what has been
changed, and when the cleanup is done, all is as it was before. -/
theorem settings_restorable {w₀ : World} {evs : List Event} (h₀ : Untouched w₀)
    (hsafe : (settlingMachine c).Along SettingsSafe w₀ evs)
    (hrun : (settlingMachine c).run w₀ evs = some w) : Restorable w₀.original w := by
  refine (Machine.run_invariant
    (I := fun w => Saved w₀.original w ∧ Disabled w) ?_ ⟨h₀.saved, h₀.disabled⟩ hsafe
    hrun).1.restorable
  intro w ev w' h hsafe hnext
  obtain ⟨v, hv, rfl⟩ := Option.map_eq_some_iff.1 hnext
  exact (h.1.next h.2 hsafe hv).settle

namespace SettingsSample

open Sample

/-- The system services have been upgraded, and the upgrade of the nodes is to start. -/
def prepared : Upgrade := { upgrade with
  logEnabled := false
  state := some .upgradingSystemServices
  latest := true
  annotations := { annotations with skipManifestsApplied := true }
  conditions := fun
    | .completed => some ⟨.conditionUnknown, "", ""⟩
    | .logReady => some ⟨.conditionFalse, "Disabled", ""⟩
    | .nodesUpgraded => none
    | _ => some ⟨.conditionTrue, "", ""⟩
  nodeStatuses := Store.empty.put ⟨"node-0", .imagesPreloaded, "", ""⟩ }

/-- A pre-drain job that has failed. -/
def job : Job := ⟨.preDrain, "node-0", 0, 0, [⟨.failed, true, "BackoffLimitExceeded", ""⟩]⟩

/-- The addon is enabled. -/
def descheduling : World := { world prepared with
  jobs := .init (Store.empty.put job)
  descheduler := some ⟨true, false⟩ }

def findings : Findings where
  nodes := Store.empty.put ⟨"node-0", "Harvester v1.5.0", none, false⟩
  restoreVM := false
  configMap := ""
  restoreVMs := .ok []

/-- The upgrade starts, a node fails, and the manifests are no longer skipped. -/
def started : List Event :=
  [.upgrade (answering 0 0 0) upgradeFindings, .job (answering 2 0 0) findings job.key,
    .plan (answering 3 0 0) .skipManifestsRemove (.ok true)]

/-- The cleanup, with the copy of the setting from before the upgrade in the cache. -/
def delayed : Event :=
  .upgrade { answering 4 0 0 with oldSetting := fun _ => some 600 } upgradeFindings

/-- The cleanup restores the setting but not the addon, and is retried. -/
def events : List Event :=
  started ++ [.upgrade (refusing (.updateUpgrade 0) 4 0 0) upgradeFindings, delayed]

/-- The update with the annotations is refused at first. -/
def retried : List Event :=
  .upgrade (refusing (.updateUpgrade 0) 0 0 0) upgradeFindings ::
    started ++ [.upgrade (answering 4 0 0) upgradeFindings]

/-- Whether the cleanup is done, and the settings. -/
def settings (w : World) : Option CleanupState × Int × Option Addon :=
  (w.upgrade.live.cleanup, w.replicaReplenishment, w.descheduler)

theorem untouched_descheduling : Untouched descheduling where
  versions _ _ _ := by
    have hcleanup : prepared.cleanup ≠ some .succeeded := by decide
    have hnodes : prepared.status .nodesPrepared ≠ none := by decide
    exact ⟨rfl, rfl, rfl, hcleanup, fun _ => hnodes⟩
  ended _ _ _ _ := id
  descheduler := by simp [descheduling]

end SettingsSample

open Sample SettingsSample in
/-- After the cleanup all is as before, though its last reconcile reads an older copy of the
setting. -/
theorem settings_restorable_sample :
    ∃ w, (settlingMachine cluster).run descheduling events = some w ∧
      settings w = (some .succeeded, 600, some ⟨true, false⟩) ∧
      Restorable descheduling.original w := by
  have hsafe : (settlingMachine cluster).Along SettingsSafe descheduling events := by
    decide
  exact ⟨_, Machine.run_get (by decide), by decide,
    settings_restorable untouched_descheduling hsafe (Machine.run_get _)⟩

open Sample SettingsSample in
/-- **A setting that is lost**: the update with the annotations is refused, and the retry saves
nothing; or the cleanup finds the old value in its cache. -/
theorem failed_update_loses_setting :
    Untouched descheduling ∧ descheduling.replicaReplenishment = 600 ∧
    ∀ evs ∈ [retried, started ++ [delayed]],
      ∃ w, (settlingMachine cluster).run descheduling evs = some w ∧
        settings w = (some .succeeded, 1800, some ⟨true, false⟩) ∧
        ¬ Restorable descheduling.original w := by
  have hlost : ∀ {w}, settings w = (some .succeeded, 1800, some ⟨true, false⟩) →
      ¬ Restorable descheduling.original w := by
    intro w hw hrestorable
    have hsetting := congrArg Original.replicaReplenishment
      (hrestorable.restored (congrArg Prod.fst hw))
    exact absurd ((congrArg (·.2.1) hw).symm.trans hsetting) (by decide)
  refine ⟨untouched_descheduling, rfl, fun evs hevs => ?_⟩
  rcases List.mem_pair.1 hevs with rfl | rfl
  · exact ⟨_, Machine.run_get (by decide), by decide, hlost (by decide)⟩
  · exact ⟨_, Machine.run_get (by decide), by decide, hlost (by decide)⟩

end Upgrades

end Harvester
