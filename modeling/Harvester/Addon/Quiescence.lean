import Harvester.Control.Machine
import Harvester.Addon.Controller

/-!
# When the addon controller comes to rest

Reconciles that read some version of the addon, with every request refused or its answer lost, among
changes of the addon by users and of the chart by the Helm controller.  The controller rests when a
reconcile makes no write, does not ask to be run again and does not fail.

`quiescent_settled` says when a controller that rests has finished its operation.  `never_finished`
shows an addon that stays half disabled, and one that refuses every change for ever
(`stuck_forever`).
-/

namespace Harvester

open Control Action

namespace AddonController

/-! ### Steps -/

/-- What happens to the addon and its chart. -/
inductive Event where
  /-- A reconcile that reads a version of the addon. -/
  | reconcile (number : Nat) (env : Env)
  /-- A user changes the spec or the annotation. -/
  | edit (byName : String → Addon → Addon → Except Err Unit) (spec : AddonSpec)
      (encodedValues : Option String)
  /-- The Helm controller records a job and adds its finalizer. -/
  | recordJob (jobName : String)
  | deleteChart (now : Nat)
  /-- A chart that is being deleted is gone. -/
  | removeChart

/-- A version with its number. -/
def World.version (w : World) (number : Nat) : Version := ⟨number, w.addons.get number⟩

/-- The world at the beginning of a reconcile. -/
def World.untraced (w : World) : World := { w with trace := [] }

/-- The addon after a change by a user. -/
def Addon.edited (a : Addon) (spec : AddonSpec) (encodedValues : Option String) : Addon :=
  { a with spec, encodedValues }

/-- The Helm controller starts a job. -/
def HelmChart.withJob (hc : HelmChart) (jobName : String) : HelmChart :=
  { hc with jobName, finalizer := true }

/-- The chart is being deleted. -/
def HelmChart.deleted (hc : HelmChart) (now : Nat) : HelmChart :=
  { hc with deletionTimestamp := some now }

section

variable (decode : String → Except Err String)

/-- One step. -/
def World.next (w : World) : Event → Option World
  | .reconcile number env => do
    guard (number ≤ w.addons.now)
    pure ((monitorAddonPerStatus decode env (w.version number)).run w.untraced).2
  | .edit byName spec encodedValues => do
    guard (validateUpdatedAddon byName (w.addons.live.edited spec encodedValues) w.addons.live
      = .ok ())
    pure { w with addons := w.addons.push (w.addons.live.edited spec encodedValues) }
  | .recordJob jobName => some { w with chart := w.chart.map fun hc => hc.withJob jobName }
  | .deleteChart now => some { w with chart := w.chart.map fun hc => hc.deleted now }
  | .removeChart => do
    guard (w.chart.any fun hc => hc.deletionTimestamp.isSome)
    pure { w with chart := none }

/-- The system. -/
def machine : Machine World Event := ⟨World.next decode⟩

end

/-! ### Rest -/

/-- The action ends without an error, a write or a request to be run again. -/
def Quiet (m : Handler Unit) (w : World) : Prop :=
  (m.run w.untraced).1 = .ok () ∧ (m.run w.untraced).2.trace = []
  deriving Decidable

section

variable (decode : String → Except Err String) (w : World)

/-- A reconcile of the current version has nothing to do. -/
def World.Quiescent : Prop :=
  ∃ env, Quiet (monitorAddonPerStatus decode env (w.version w.addons.now)) w

/-- The chart is the one of the spec. -/
structure HelmChart.Matches (hc : HelmChart) (a : Addon) : Prop where
  values : defaultValues decode a = .ok hc.valuesContent
  version : hc.version = a.spec.version
  chart : hc.chart = a.spec.chart
  repo : hc.repo = a.spec.repo

/-- The last operation has come to its end. -/
structure World.Settled : Prop where
  idle : w.addons.live.inProgress = false
  enabled : w.addons.live.spec.enabled = true →
    (w.addons.live.status.status = .deployed ∧
      ∃ hc, w.chart = some hc ∧ hc.Matches decode w.addons.live) ∨
    w.addons.live.operationFailed = true
  disabled : w.addons.live.spec.enabled = false → w.addons.live.status.status = .disabled

/-- A new addon; there may be a chart with its name. -/
structure World.Created : Prop where
  first : w.addons = .init w.addons.live
  alive : w.addons.live.deleting = false
  status : w.addons.live.status = ⟨.init, none, none, none⟩

/-- An update of the chart has been announced in the status. -/
def Addon.UpdateAnnounced (a : Addon) : Prop :=
  a.spec.enabled = true ∧ a.status.status = .deployed ∧ a.inProgress = true
  deriving Decidable

/-- **The conditions on a step.**  While an update of the chart is announced, a reconcile sees the
current addon and a chart, and the status is written with the chart; and an addon that is being
disabled is enabled only when that has failed. -/
def World.Orderly : Event → Prop
  | .reconcile number env =>
    w.addons.live.UpdateAnnounced →
      number = w.addons.now ∧ w.chart.isSome ∧
        (env.update = .refused ∨ env.update = .none ∧ env.updateStatus ≠ .refused)
  | .edit _ spec _ =>
    w.addons.live.status.status = .disabling → spec.enabled = true →
      w.addons.live.operationFailed = true
  | _ => True

end

instance (w : World) (e : Event) : Decidable (w.Orderly e) := by
  cases e <;> unfold World.Orderly <;> infer_instance

variable {decode : String → Except Err String} {env : Env} {v : Version} {w w' : World} {a : Addon}
  {hc : HelmChart} {vals : String} {e : Event} {α β : Type}

/-! ### What a reconcile writes to the addon -/

/-- The action does not change the addon. -/
def Silent (m : Handler α) : Prop := ∀ addons, Preserves (fun w => w.addons = addons) m

/-- After an action that has read `v`: the same versions, or a new status for `v`. -/
def Wrote (v : Version) (P : AddonStatus → Prop) (before after : History Addon) : Prop :=
  after = before ∨
    v.number = before.now ∧ ∃ s, P s ∧ after = before.push { before.live with status := s }

/-- The action writes a status in `P` at most; and if `L` holds, it fails or leaves a trace. -/
def Writes (v : Version) (P : AddonStatus → Prop) (L : Prop) (m : Handler Unit) : Prop :=
  ∀ addons, Triple (fun w => w.addons = addons) m fun r w =>
    Wrote v P addons w.addons ∧ (L → r = .ok () → w.trace ≠ [])

section

variable {P : AddonStatus → Prop} {L : Prop} {s : AddonStatus} {m : Handler Unit}

theorem Silent.writes (h : Silent m) (hL : ¬ L) : Writes v P L m :=
  fun addons w hw => ⟨.inl (h addons w hw), fun hl => absurd hl hL⟩

theorem Silent.bind {m : Handler α} {f : α → Handler Unit} (hm : Silent m)
    (hf : ∀ a, Writes v P L (f a)) : Writes v P L (m >>= f) :=
  fun addons => Triple.bind (hm addons) (fun a => hf a addons) fun _ _ h => ⟨.inl h, by simp⟩

theorem Writes.request {fault : Fault} {e : Halt Err} (h : Writes v P L m) :
    Writes v P L (request fault e m) :=
  fun addons => Triple.request (h addons) (fun _ h => ⟨.inl h, by simp⟩)
    fun _ _ h => ⟨h.1, by simp⟩

theorem Writes.silent (h : Writes v (fun _ => False) L m) : Silent m := by
  intro addons w hw
  obtain ⟨hsame | ⟨-, s, hs, -⟩, -⟩ := h addons w hw
  · exact hsame
  · exact hs.elim

theorem Writes.not_quiet (h : Writes v P L m) (hL : L) (w : World) : ¬ Quiet m w :=
  fun hq => (h _ w.untraced rfl).2 hL hq.1 hq.2

theorem silent_pure (a : α) : Silent (pure a) := fun _ => Preserves.pure a

theorem silent_ofExcept (x : Guarded Err α) : Silent (Action.ofExcept x) :=
  fun _ => Preserves.ofExcept x

theorem writes_enqueueAfter : Writes v P L enqueueAfter :=
  fun _ _ hw => ⟨.inl hw, by simp [run, enqueueAfter, Action.modify]⟩

theorem preserves_getAddonHelmChart {I : World → Prop} (failure : Option Err) (a : Addon) :
    Preserves I (getAddonHelmChart failure a) := by
  cases failure with
  | some e => exact .fail _
  | none => exact fun _ h => h

theorem silent_getAddonHelmChart (failure : Option Err) (a : Addon) :
    Silent (getAddonHelmChart failure a) := fun _ => preserves_getAddonHelmChart failure a

theorem writes_createChart (key : Key) (hc : HelmChart) : Writes v P L (createChart key hc) := by
  intro addons w hw
  unfold run createChart
  cases w.chart <;> exact ⟨.inl hw, by simp⟩

theorem writes_deployHelmChart (env : Env) (a : Addon) :
    Writes v P L (deployHelmChart decode env a) :=
  (silent_ofExcept _).bind fun _ addons =>
    ((writes_createChart _ _).request addons).mapError fun _ _ h =>
      ⟨h.1, fun hL hr => h.2 hL (except_mapError_eq_ok.1 hr)⟩

theorem silent_deleteChart (now : Nat) (key : Key) : Silent (deleteChart now key) := by
  intro addons w hw
  unfold run deleteChart
  cases w.chart <;> exact hw

theorem silent_storeChart (hc : HelmChart) : Silent (storeChart hc) :=
  fun _ => Preserves.modify fun _ h => h

theorem silent_upgradeChart (env : Env) (v : Version) (vals : String) :
    Silent (upgradeChart env v vals) :=
  fun addons => (silent_getAddonHelmChart _ _ addons).bind fun _ =>
    (silent_ofExcept _ addons).bind fun _ => (silent_storeChart _ addons).request

theorem writes_storeStatus (h : P s) : Writes v P L (storeStatus v s) := by
  rintro addons w rfl
  unfold run storeStatus History.replace
  split
  · next hnow =>
    split at hnow
    · next heq => exact ⟨.inr ⟨heq, s, h, (Option.some.inj hnow).symm⟩, by simp⟩
    · simp at hnow
  · exact ⟨.inl rfl, by simp⟩

theorem writes_updateStatus (h : P s) : Writes v P L (updateStatus env v s) :=
  (writes_storeStatus h).request

end

/-- A status that a reconcile may leave, apart from the announcement of an update. -/
def Sane : Bool → AddonStatus → Prop
  | true, s => s.status ≠ .disabling ∧ (Condition.isTrue s.inProgress = true →
      s.status ≠ .deployed ∧ Condition.isTrue s.operationFailed = false)
  | false, s => s.status = .disabling ∨ s.status = .disabled ∧ Condition.isTrue s.inProgress = false

section

variable {s : AddonStatus} (now : Nat)

theorem isTrue_clearFailed (c : Option Condition) :
    Condition.isTrue (clearFailed now c) = false := by
  simp [clearFailed]

theorem markErrorCondition_inProgress (msg : String) :
    Condition.isTrue (markErrorCondition now s msg).inProgress = false := by
  simp [markErrorCondition]

theorem markCompletedCondition_inProgress :
    Condition.isTrue (markCompletedCondition now s).inProgress = false := by
  simp [markCompletedCondition]

theorem Sane.of_idle (hidle : Condition.isTrue s.inProgress = false)
    (hon : s.status ≠ .disabling) : Sane true s :=
  ⟨hon, fun hp => by simp [hidle] at hp⟩

end

/-- What holds of the addon between the reconciles. -/
structure Sound (a : Addon) : Prop where
  alive : a.deleting = false
  disabling : a.spec.enabled = true → a.status.status = .disabling → a.operationFailed = true
  failed : a.spec.enabled = true → a.operationFailed = true → a.inProgress = false
  disabled : a.spec.enabled = false → a.status.status = .disabled → a.inProgress = false

theorem Sound.withStatus (h : Sound a) {s : AddonStatus} (hs : Sane a.spec.enabled s) :
    Sound { a with status := s } where
  alive := h.alive
  disabling hon hdis := by
    rw [hon] at hs
    exact absurd hdis hs.1
  failed hon hfailed := by
    rw [hon] at hs
    cases hp : Condition.isTrue s.inProgress with
    | false => exact hp
    | true => exact absurd (hfailed.symm.trans (hs.2 hp).2) (by simp)
  disabled hoff hdis := by
    rw [hoff] at hs
    rcases hs with hs | hs
    · exact absurd (hs.symm.trans hdis) (by simp)
    · exact hs.2

/-! ### Disabled addons -/

section

variable {L : Prop} (hdis : v.addon.status.status = .disabling)

theorem sane_disabled_completed (now : Nat) (s : AddonStatus) :
    Sane false { markCompletedCondition now s with status := .disabled } :=
  .inr ⟨rfl, markCompletedCondition_inProgress now⟩

include hdis

theorem sane_disableOutcome (now : Nat) (j : Job) :
    Sane false (disableOutcome now v.addon.status j) := by
  unfold disableOutcome
  dsimp only
  split
  · exact sane_disabled_completed now _
  split <;> exact .inl hdis

theorem writes_followDeletionJob (env : Env) (hc : HelmChart) :
    Writes v (Sane false) L (followDeletionJob env v hc) := by
  unfold followDeletionJob
  split
  · refine (silent_ofExcept _).bind fun (j, ok) => ?_
    dsimp only
    split
    · split
      · exact writes_updateStatus (sane_disableOutcome hdis _ _)
      · exact writes_enqueueAfter
    · exact writes_enqueueAfter
  · exact writes_enqueueAfter

theorem writes_disableUnowned (env : Env) (hc : Option HelmChart) :
    Writes v (Sane false) L (disableUnowned env v hc) := by
  unfold disableUnowned
  cases hc with
  | none => exact writes_updateStatus (sane_disabled_completed _ _)
  | some hc =>
    dsimp only
    split
    · exact writes_enqueueAfter
    · exact writes_updateStatus (.inl hdis)

theorem writes_triggerDeletion (env : Env) :
    Writes v (Sane false) L (triggerDeletion env v) := by
  have hdelete : Silent (mapError (wrap "error deleting helm chart: ")
      (request env.delete (.error env.failure)
        (deleteChart env.now ⟨v.addon.ns, v.addon.name⟩))) :=
    fun addons => (silent_deleteChart _ _ addons).request.mapError
  exact hdelete.bind fun _ => writes_updateStatus (.inl hdis)

theorem writes_waitForAddonDisable (env : Env) :
    Writes v (Sane false) L (waitForAddonDisable env v) := by
  refine (silent_getAddonHelmChart _ _).bind fun (hc, owned) => ?_
  dsimp only
  split
  · refine (silent_ofExcept _).bind fun hc => ?_
    split
    · exact writes_triggerDeletion hdis env
    · exact writes_followDeletionJob hdis env hc
  · exact writes_disableUnowned hdis env hc

omit hdis

theorem writes_processDisabledAddons (env : Env) (hL : v.addon.status.status = .disabled → ¬ L) :
    Writes v (Sane false) L (processDisabledAddons env v) := by
  unfold processDisabledAddons
  split
  · next h => exact (silent_pure ()).writes (hL h)
  split
  · exact writes_enqueueAfter
  split
  · exact writes_updateStatus (.inl rfl)
  · next h => exact writes_waitForAddonDisable (not_not.1 h) env

end

/-! ### Enabled addons -/

section

variable {L : Prop} (hon : v.addon.spec.enabled = true) (hv : Sound v.addon)

include hon hv

theorem Sound.not_failed (hp : v.addon.inProgress = true) :
    Condition.isTrue v.addon.status.operationFailed = false := by
  cases hf : Condition.isTrue v.addon.status.operationFailed with
  | false => rfl
  | true => exact absurd (hp.symm.trans (hv.failed hon hf)) (by simp)

theorem writes_processEnableAddon (env : Env)
    (hstatus : v.addon.status.status = .disabled ∨ v.addon.status.status = .init) :
    Writes v (Sane true) L (processEnableAddon decode env v) := by
  refine (silent_getAddonHelmChart _ _).bind fun (hc, owned) => ?_
  dsimp only
  split
  · exact writes_enqueueAfter
  split
  · exact writes_enqueueAfter
  unfold enableAddon
  split
  · next hp =>
    have hdeploy : Silent (when (hc = none) (mapError
        (wrap "error deploying helmChart: ") (deployHelmChart decode env v.addon))) :=
      fun addons => .when fun _ =>
        ((writes_deployHelmChart env v.addon).silent (v := v) (L := False) addons).mapError
    refine hdeploy.bind fun _ => writes_updateStatus ?_
    exact ⟨by simp, fun _ => ⟨by simp, Sound.not_failed hon hv hp⟩⟩
  · refine writes_updateStatus ⟨?_, fun _ => ⟨?_, isTrue_clearFailed _ _⟩⟩
    · rcases hstatus with h | h <;> simp [markInProgressCondition, h]
    · rcases hstatus with h | h <;> simp [markInProgressCondition, h]

omit hon hv in
theorem sane_installOutcome (now : Nat) (j : Job) (h : Sane true v.addon.status) :
    Sane true (installOutcome now v.addon.status j .deployed) := by
  unfold installOutcome
  dsimp only
  split
  · exact .of_idle (markCompletedCondition_inProgress now) (by simp)
  split
  · exact .of_idle (markErrorCondition_inProgress now _) h.1
  · exact h

theorem writes_processEnablingAddon (env : Env)
    (hstatus : v.addon.status.status = .enabling ∨ v.addon.status.status = .updating)
    (hL : v.addon.operationFailed = true → ¬ L) :
    Writes v (Sane true) L (processEnablingAddon env v) := by
  have hdis : v.addon.status.status ≠ .disabling := by rcases hstatus with h | h <;> simp [h]
  have hdep : v.addon.status.status ≠ .deployed := by rcases hstatus with h | h <;> simp [h]
  have hsane : Sane true v.addon.status := ⟨hdis, fun hp => ⟨hdep, Sound.not_failed hon hv hp⟩⟩
  refine (silent_getAddonHelmChart _ _).bind fun (hc, owned) => ?_
  dsimp only
  split
  · next hfailed => exact (silent_pure ()).writes (hL hfailed)
  split
  · exact writes_updateStatus (.of_idle (markCompletedCondition_inProgress _) (by simp))
  · refine (silent_ofExcept _).bind fun (j, ok) => ?_
    dsimp only
    split
    · exact writes_enqueueAfter
    split
    · next hfailed => exact (silent_pure ()).writes (hL hfailed.2)
    · exact writes_updateStatus (sane_installOutcome _ _ hsane)

omit hon in
/-- **A reconcile of an addon that is not deployed.** -/
theorem writes_monitorAddonPerStatus (env : Env)
    (hdep : v.addon.spec.enabled = true → v.addon.status.status ≠ .deployed)
    (hoff : v.addon.spec.enabled = false → v.addon.status.status = .disabled → ¬ L)
    (hrest : v.addon.spec.enabled = true →
      v.addon.operationFailed = true ∨ v.addon.status.status = .disabling → ¬ L) :
    Writes v (Sane v.addon.spec.enabled) L (monitorAddonPerStatus decode env v) := by
  unfold monitorAddonPerStatus
  rw [if_neg (by simp [hv.alive])]
  split
  · next hon =>
    rw [hon]
    unfold processEnabledAddons
    split
    · next hs => exact writes_processEnableAddon hon hv env (.inl hs)
    · next hs => exact writes_processEnableAddon hon hv env (.inr hs)
    · next hs => exact writes_processEnablingAddon hon hv env (.inl hs) fun h => hrest hon (.inl h)
    · next hs => exact writes_processEnablingAddon hon hv env (.inr hs) fun h => hrest hon (.inl h)
    · next hs => exact absurd hs (hdep hon)
    · next hs => exact (silent_pure ()).writes (hrest hon (.inr hs))
  · next hon =>
    have hon := Bool.not_eq_true _ ▸ hon
    rw [hon]
    exact writes_processDisabledAddons env (hoff hon)

omit hv in
theorem monitorAddonPerStatus_of_deployed (env : Env) (halive : v.addon.deleting = false)
    (hdep : v.addon.status.status = .deployed) :
    monitorAddonPerStatus decode env v = processAddonUpgrades decode env v := by
  unfold monitorAddonPerStatus processEnabledAddons
  rw [if_neg (by simp [halive]), if_pos hon, hdep]

theorem writes_upgradeChart_updateStatus (env : Env) (vals : String)
    (hp : v.addon.inProgress = true) :
    Writes v (Sane true) L (upgradeChart env v vals >>= fun _ =>
      updateStatus env v { v.addon.status with status := .updating }) := by
  refine (silent_upgradeChart env v vals).bind fun _ => writes_updateStatus ?_
  exact ⟨by simp, fun _ => ⟨by simp, Sound.not_failed hon hv hp⟩⟩

end

/-! ### Updates of the chart -/

theorem isHelmchartUpdateNeeded_eq_ok {needed : Bool}
    (h : isHelmchartUpdateNeeded decode a hc = .ok (needed, vals)) :
    needed = false ↔ hc.Matches decode a := by
  obtain ⟨vals', hvals, h⟩ := except_bind_eq_ok.1 h
  have hvals := except_mapError_eq_ok.1 hvals
  cases h
  rw [decide_eq_false_iff_not]
  simp only [not_or, not_not]
  constructor
  · rintro ⟨rfl, hversion, hchart, hrepo⟩
    exact ⟨hvals, hversion, hchart, hrepo⟩
  · intro h
    exact ⟨(Except.ok.inj (hvals.symm.trans h.values)).symm, h.version, h.chart, h.repo⟩

theorem run_getAddonHelmChart (failure : Option Err) (a : Addon) (w : World) :
    (∃ err, (getAddonHelmChart failure a).run w = (.error err, w)) ∨
      ∃ owned, (getAddonHelmChart failure a).run w = (.ok (w.chart, owned), w) := by
  cases failure with
  | some e => exact .inl ⟨_, rfl⟩
  | none => exact .inr ⟨_, rfl⟩

theorem upgradeIfNeeded_of_ok {needed : Bool} (env : Env)
    (h : isHelmchartUpdateNeeded decode v.addon hc = .ok (needed, vals)) :
    upgradeIfNeeded decode env v hc = if needed then upgradeAddon env v vals else pure () := by
  unfold upgradeIfNeeded
  rw [h]
  rfl

theorem upgradeIfNeeded_of_error {err : Err} (env : Env)
    (h : isHelmchartUpdateNeeded decode v.addon hc = .error err) :
    upgradeIfNeeded decode env v hc = .fail (.error err) := by
  unfold upgradeIfNeeded
  rw [h]
  rfl

/-- **What a reconcile of a deployed addon does.** -/
theorem processAddonUpgrades_cases (decode : String → Except Err String) (env : Env)
    (v : Version) (w : World) (hdep : v.addon.status.status = .deployed) :
    (∃ err, (processAddonUpgrades decode env v).run w = (.error err, w)) ∨
      (∃ hc, w.chart = some hc ∧ hc.Matches decode v.addon) ∧
        (processAddonUpgrades decode env v).run w = (.ok (), w) ∨
      w.chart = none ∧
        (processAddonUpgrades decode env v).run w = (deployHelmChart decode env v.addon).run w ∨
      (∀ hc, w.chart = some hc → ¬ hc.Matches decode v.addon) ∧
        (v.addon.inProgress = false ∧ (processAddonUpgrades decode env v).run w =
            (updateStatus env v (markInProgressCondition env.now v.addon.status)).run w ∨
          v.addon.inProgress = true ∧ ∃ vals, (processAddonUpgrades decode env v).run w =
            (upgradeChart env v vals >>= fun _ =>
              updateStatus env v { v.addon.status with status := .updating }).run w) := by
  unfold processAddonUpgrades
  rcases run_getAddonHelmChart env.getChart v.addon w with ⟨err, hget⟩ | ⟨owned, hget⟩
  · exact .inl ⟨err, run_bind_of_run_error hget⟩
  rw [run_bind_of_run_ok hget]
  cases hchart : w.chart with
  | none => exact .inr (.inr (.inl ⟨rfl, rfl⟩))
  | some hc =>
    dsimp only
    rcases hneeded : isHelmchartUpdateNeeded decode v.addon hc with err | ⟨needed, vals⟩
    · exact .inl ⟨.error err, by rw [upgradeIfNeeded_of_error env hneeded]; rfl⟩
    have hmatches := isHelmchartUpdateNeeded_eq_ok hneeded
    rw [upgradeIfNeeded_of_ok env hneeded]
    cases needed with
    | false => exact .inr (.inl ⟨⟨hc, rfl, hmatches.1 rfl⟩, rfl⟩)
    | true =>
      have hdiffers : ∀ hc', some hc = some hc' → ¬ hc'.Matches decode v.addon := by
        rintro _ ⟨⟩ h
        exact absurd (hmatches.2 h) (by simp)
      refine .inr (.inr (.inr ⟨hdiffers, ?_⟩))
      unfold upgradeAddon
      cases hp : v.addon.inProgress with
      | false => exact .inl ⟨rfl, by simp [hdep]⟩
      | true => exact .inr ⟨rfl, vals, by simp [hdep]⟩

/-- An update that nothing interrupts takes the chart and the status together. -/
theorem upgradeChart_updateStatus (vals : String) (s : AddonStatus)
    (hfaults : env.update = .refused ∨ env.update = .none ∧ env.updateStatus ≠ .refused)
    (hnow : v.number = w.addons.now) :
    Triple (· = w) (upgradeChart env v vals >>= fun _ => updateStatus env v s) fun _ w' =>
      w' = w ∨ w'.addons = w.addons.push { w.addons.live with status := s } := by
  have hchart : Triple (· = w) (upgradeChart env v vals) fun r w' =>
      r = .ok () ∧ w'.addons = w.addons ∧ env.updateStatus ≠ .refused ∨
        (∃ e, r = .error e) ∧ w' = w := by
    refine .bind (preserves_getAddonHelmChart _ _) (fun hc => ?_)
      fun e _ hw => .inr ⟨⟨e, rfl⟩, hw⟩
    refine .bind (Preserves.ofExcept _) (fun hc => ?_) fun e _ hw => .inr ⟨⟨e, rfl⟩, hw⟩
    refine .requestCases (fun hnone w' hw => ?_) (fun _ _ hw => .inr ⟨⟨_, rfl⟩, hw⟩)
      fun hlost => by simp [hlost] at hfaults
    subst hw
    exact .inl ⟨rfl, rfl, (hfaults.resolve_left (by simp [hnone])).2⟩
  have hstore : Triple (fun w' => w'.addons = w.addons) (storeStatus v s) fun _ w' =>
      w'.addons = w.addons.push { w.addons.live with status := s } := by
    intro w' haddons
    unfold run storeStatus
    rw [haddons, hnow, History.replace_now]
  refine .bind hchart (fun _ w' hw' => ?_) fun e w' hw' => ?_
  · obtain ⟨-, haddons, hstatus⟩ := hw'.resolve_right (by simp)
    exact .inr (hstore.requestState hstatus w' haddons)
  · exact .inl (hw'.resolve_left (by simp)).2

/-! ### The invariant -/

/-- The versions are sound, and an update that is announced is still to be made. -/
structure World.Inv (decode : String → Except Err String) (w : World) : Prop where
  sound : w.addons.Since 0 Sound
  differs : w.addons.live.UpdateAnnounced →
    ∀ hc, w.chart = some hc → ¬ hc.Matches decode w.addons.live

theorem Wrote.sound {before after : History Addon} (h : before.Since 0 Sound)
    (hv : v.number = before.now → v.addon = before.live)
    (hw : Wrote v (Sane v.addon.spec.enabled) before after) : after.Since 0 Sound := by
  rcases hw with rfl | ⟨hnow, s, hs, rfl⟩
  · exact h
  · rw [hv hnow] at hs
    exact h.push (h.live.withStatus hs)

theorem Wrote.not_announced {before after : History Addon} (h : ¬ before.live.UpdateAnnounced)
    (hv : v.number = before.now → v.addon = before.live)
    (hw : Wrote v (Sane v.addon.spec.enabled) before after) : ¬ after.live.UpdateAnnounced := by
  rcases hw with rfl | ⟨hnow, s, hs, rfl⟩
  · exact h
  rw [hv hnow] at hs
  rw [History.live_push]
  rintro ⟨hon, hdep, hp⟩
  rw [show before.live.spec.enabled = true from hon] at hs
  exact (hs.2 hp).1 hdep

theorem World.Inv.of_wrote (h : w.Inv decode) (hidle : ¬ w.addons.live.UpdateAnnounced)
    (hv : v.number = w.addons.now → v.addon = w.addons.live)
    (hw : Wrote v (Sane v.addon.spec.enabled) w.addons w'.addons) : w'.Inv decode where
  sound := hw.sound h.sound hv
  differs hann := absurd hann (hw.not_announced hidle hv)

theorem World.Inv.announce (h : w.Inv decode) (hidle : ¬ w.addons.live.UpdateAnnounced)
    (hv : v.number = w.addons.now → v.addon = w.addons.live) (hon : v.addon.spec.enabled = true)
    (hdep : v.addon.status.status = .deployed)
    (hdiffers : ∀ hc, w.chart = some hc → ¬ hc.Matches decode v.addon) (now : Nat)
    (hchart : w'.chart = w.chart)
    (hw : Wrote v (· = markInProgressCondition now v.addon.status) w.addons w'.addons) :
    w'.Inv decode := by
  rcases hw with hsame | ⟨hnow, s, rfl, hpush⟩
  · exact ⟨hsame ▸ h.sound, fun hann => absurd hann (hsame ▸ hidle)⟩
  rw [hv hnow] at hon hdep hdiffers
  refine ⟨hpush ▸ h.sound.push ?_, fun _ hc hsome hmatches => ?_⟩
  · exact {
      alive := h.sound.live.alive
      disabling := fun _ hdis => by
        rw [hv hnow] at hdis
        simp [markInProgressCondition, hdep] at hdis
      failed := fun _ hfailed => by
        simp [Addon.operationFailed, markInProgressCondition, isTrue_clearFailed] at hfailed
      disabled := fun hoff => by simp [hon] at hoff }
  · rw [hpush, History.live_push] at hmatches
    exact hdiffers hc (hchart ▸ hsome)
      ⟨hmatches.values, hmatches.version, hmatches.chart, hmatches.repo⟩

theorem updateStatus_chart (env : Env) (v : Version) (s : AddonStatus) (w : World) :
    ((updateStatus env v s).run w).2.chart = w.chart := by
  have hstore : Preserves (fun w' => w'.chart = w.chart) (storeStatus v s) := by
    intro w' hw'
    unfold run storeStatus
    cases w'.addons.replace v.number { w'.addons.live with status := s } <;> exact hw'
  exact hstore.request w rfl

/-- **A reconcile of a deployed addon** keeps the invariant. -/
theorem World.Inv.processAddonUpgrades (h : w.Inv decode)
    (hv : v.number = w.addons.now → v.addon = w.addons.live) (hsound : Sound v.addon)
    (hon : v.addon.spec.enabled = true) (hdep : v.addon.status.status = .deployed)
    (hG : w.addons.live.UpdateAnnounced → v.number = w.addons.now ∧ w.chart.isSome ∧
      (env.update = .refused ∨ env.update = .none ∧ env.updateStatus ≠ .refused)) :
    ((processAddonUpgrades decode env v).run w).2.Inv decode := by
  have hsilent : w.chart = none → ((deployHelmChart decode env v.addon).run w).2.Inv decode := by
    intro hnone
    have hidle : ¬ w.addons.live.UpdateAnnounced := by
      intro hann
      simpa [hnone] using (hG hann).2.1
    exact h.of_wrote hidle hv (writes_deployHelmChart (L := False) env v.addon w.addons w rfl).1
  rcases processAddonUpgrades_cases decode env v w hdep with ⟨err, hrun⟩ | ⟨-, hrun⟩ |
    ⟨hnone, hrun⟩ | ⟨hdiffers, ⟨hp, hrun⟩ | ⟨hp, vals, hrun⟩⟩
  · rwa [hrun]
  · rwa [hrun]
  · rw [hrun]
    exact hsilent hnone
  · rw [hrun]
    have hidle : ¬ w.addons.live.UpdateAnnounced := by
      intro hann
      have hlive := hv (hG hann).1
      exact absurd (hp.symm.trans (hlive ▸ hann.2.2)) (by simp)
    exact h.announce hidle hv hon hdep hdiffers env.now (updateStatus_chart _ _ _ _)
      (writes_updateStatus (P := (· = markInProgressCondition env.now v.addon.status))
        (L := False) rfl w.addons w rfl).1
  · rw [hrun]
    have hwrote :=
      (writes_upgradeChart_updateStatus (L := False) hon hsound env vals hp w.addons w rfl).1
    rw [← hon] at hwrote
    by_cases hann : w.addons.live.UpdateAnnounced
    · -- The update that has been announced: the chart and the status change together.
      obtain ⟨hnow, -, hfaults⟩ := hG hann
      rcases upgradeChart_updateStatus vals { v.addon.status with status := .updating } hfaults hnow
        w rfl with hsame | hpush
      · rwa [hsame]
      · refine ⟨hwrote.sound h.sound hv, fun hann' => ?_⟩
        rw [hpush] at hann'
        exact absurd hann'.2.1 (by simp)
    · exact h.of_wrote hann hv hwrote

/-- **A reconcile** keeps the invariant. -/
theorem World.Inv.reconcile (h : w.Inv decode) (number : Nat) (hle : number ≤ w.addons.now)
    (hG : w.Orderly (.reconcile number env)) :
    ((monitorAddonPerStatus decode env (w.version number)).run w).2.Inv decode := by
  have hv : (w.version number).number = w.addons.now → (w.version number).addon = w.addons.live :=
    fun hnow => congrArg w.addons.get hnow
  have hsound : Sound (w.version number).addon := h.sound number (Nat.zero_le _) hle
  by_cases hdep : (w.version number).addon.spec.enabled = true ∧
      (w.version number).addon.status.status = .deployed
  · rw [monitorAddonPerStatus_of_deployed hdep.1 env hsound.alive hdep.2]
    exact h.processAddonUpgrades hv hsound hdep.1 hdep.2 hG
  · -- A reconcile that announces nothing and reads another addon than the one with an announcement.
    have hidle : ¬ w.addons.live.UpdateAnnounced := fun hann =>
      hdep (hv (hG hann).1 ▸ ⟨hann.1, hann.2.1⟩)
    have hwrites : Writes (w.version number) _ False (monitorAddonPerStatus decode env _) :=
      writes_monitorAddonPerStatus hsound env (fun hon hs => hdep ⟨hon, hs⟩) (fun _ _ => id)
        fun _ _ => id
    exact h.of_wrote hidle hv (hwrites w.addons w rfl).1

theorem validateUpdatedAddon_eq_ok {byName : String → Addon → Addon → Except Err Unit}
    {newAddon oldAddon : Addon} (h : validateUpdatedAddon byName newAddon oldAddon = .ok ()) :
    oldAddon.inProgress = false := by
  unfold validateUpdatedAddon at h
  by_cases hchart : newAddon.spec.chart = oldAddon.spec.chart
  · cases hp : oldAddon.inProgress with
    | true => simp [hchart, hp, bind, Except.bind] at h
    | false => rfl
  · simp [hchart, bind, Except.bind] at h

theorem World.Inv.edit (h : w.Inv decode) {byName : String → Addon → Addon → Except Err Unit}
    {spec : AddonSpec} {encodedValues : Option String}
    (hidle : w.addons.live.inProgress = false) (hG : w.Orderly (.edit byName spec encodedValues)) :
    World.Inv decode
      { w with addons := w.addons.push (w.addons.live.edited spec encodedValues) } where
  sound := h.sound.push {
    alive := h.sound.live.alive
    disabling := fun hon hdis => hG hdis hon
    failed := fun _ _ => hidle
    disabled := fun _ _ => hidle }
  differs hann := by
    rw [History.live_push] at hann
    exact absurd (hidle.symm.trans hann.2.2) (by simp)

theorem World.Inv.changeChart (h : w.Inv decode) {f : HelmChart → HelmChart}
    (hf : ∀ hc, (f hc).Matches decode w.addons.live → hc.Matches decode w.addons.live) :
    World.Inv decode { w with chart := w.chart.map f } where
  sound := h.sound
  differs hann hc hsome hmatches := by
    obtain ⟨hc', hchart, rfl⟩ := Option.map_eq_some_iff.1 hsome
    exact h.differs hann hc' hchart (hf hc' hmatches)

/-- **Every step** keeps the invariant. -/
theorem World.Inv.next (h : w.Inv decode) (hG : w.Orderly e) (hnext : w.next decode e = some w') :
    w'.Inv decode := by
  cases e with
  | reconcile number env =>
    obtain ⟨_, hguard, hw'⟩ := Option.bind_eq_some_iff.1 hnext
    cases hw'
    have hle := (Option.guard_eq_some' _).1 hguard
    have huntraced : w.untraced.Inv decode := ⟨h.sound, h.differs⟩
    exact huntraced.reconcile number hle hG
  | edit byName spec encodedValues =>
    obtain ⟨_, hguard, hw'⟩ := Option.bind_eq_some_iff.1 hnext
    cases hw'
    have hvalid := validateUpdatedAddon_eq_ok ((Option.guard_eq_some' _).1 hguard)
    exact h.edit hvalid hG
  | recordJob jobName | deleteChart now =>
    cases hnext
    exact h.changeChart fun hc hm => ⟨hm.values, hm.version, hm.chart, hm.repo⟩
  | removeChart =>
    obtain ⟨_, -, hw'⟩ := Option.bind_eq_some_iff.1 hnext
    cases hw'
    exact ⟨h.sound, fun _ hc hsome => by simp at hsome⟩

theorem World.Created.inv (h : w.Created) : w.Inv decode where
  sound := by
    intro k _ hk
    have hget : w.addons.get k = w.addons.live := by rw [h.first]; rfl
    rw [hget]
    exact {
      alive := h.alive
      disabling := fun _ hdis => by simp [h.status] at hdis
      failed := fun _ _ => by simp [Addon.inProgress, h.status, Condition.isTrue]
      disabled := fun _ _ => by simp [Addon.inProgress, h.status, Condition.isTrue] }
  differs hann := by simp [Addon.UpdateAnnounced, h.status] at hann

/-! ### When a reconcile is quiet -/

theorem quiet_processAddonUpgrades (hdep : v.addon.status.status = .deployed)
    (h : Quiet (processAddonUpgrades decode env v) w) :
    ∃ hc, w.chart = some hc ∧ hc.Matches decode v.addon := by
  have hloud {m : Handler Unit} (hm : Writes v (fun _ => True) True m)
      (hrun : (processAddonUpgrades decode env v).run w.untraced = m.run w.untraced) : False := by
    unfold Quiet at h
    rw [hrun] at h
    exact hm.not_quiet trivial w h
  rcases processAddonUpgrades_cases decode env v w.untraced hdep with ⟨err, hrun⟩ | ⟨hc, -⟩ |
    ⟨-, hrun⟩ | ⟨-, ⟨-, hrun⟩ | ⟨-, vals, hrun⟩⟩
  · unfold Quiet at h
    rw [hrun] at h
    simp at h
  · exact hc
  · exact absurd hrun (hloud (writes_deployHelmChart env v.addon))
  · exact absurd hrun (hloud (writes_updateStatus trivial))
  · exact absurd hrun (hloud ((silent_upgradeChart env v vals).bind fun _ =>
      writes_updateStatus trivial))

/-- **When a reconcile is quiet.** -/
theorem quiet_monitorAddonPerStatus (hv : Sound v.addon)
    (h : Quiet (monitorAddonPerStatus decode env v) w) :
    v.addon.spec.enabled = false ∧ v.addon.status.status = .disabled ∨
      v.addon.spec.enabled = true ∧
        ((v.addon.status.status = .deployed ∧ ∃ hc, w.chart = some hc ∧ hc.Matches decode v.addon) ∨
          v.addon.operationFailed = true ∨ v.addon.status.status = .disabling) := by
  by_cases hdep : v.addon.spec.enabled = true ∧ v.addon.status.status = .deployed
  · rw [monitorAddonPerStatus_of_deployed hdep.1 env hv.alive hdep.2] at h
    exact .inr ⟨hdep.1, .inl ⟨hdep.2, quiet_processAddonUpgrades hdep.2 h⟩⟩
  · by_contra hnot
    refine (writes_monitorAddonPerStatus (L := True) hv env (fun hon hs => hdep ⟨hon, hs⟩)
      (fun hoff hs => absurd (.inl ⟨hoff, hs⟩) hnot)
      fun hon hs => absurd (.inr ⟨hon, .inr hs⟩) hnot).not_quiet True.intro w h

theorem World.Inv.settled (h : w.Inv decode) (hq : w.Quiescent decode) : w.Settled decode := by
  obtain ⟨env, hq⟩ := hq
  have hsound := h.sound.live
  rcases quiet_monitorAddonPerStatus hsound hq with ⟨hoff, hdis⟩ | ⟨hon, hcases⟩
  · change w.addons.live.spec.enabled = false at hoff
    exact ⟨hsound.disabled hoff hdis, fun hon => by simp [hon] at hoff, fun _ => hdis⟩
  change w.addons.live.spec.enabled = true at hon
  have hoff : w.addons.live.spec.enabled = false → w.addons.live.status.status = .disabled :=
    fun hoff => by simp [hon] at hoff
  have hfailed (hf : w.addons.live.operationFailed = true) : w.Settled decode :=
    ⟨hsound.failed hon hf, fun _ => .inr hf, hoff⟩
  rcases hcases with ⟨hdep, hc, hchart, hmatches⟩ | hf | hdis
  · refine ⟨?_, fun _ => .inl ⟨hdep, hc, hchart, hmatches⟩, hoff⟩
    cases hp : w.addons.live.inProgress with
    | false => rfl
    | true => exact absurd hmatches (h.differs ⟨hon, hdep, hp⟩ hc hchart)
  · exact hfailed hf
  · exact hfailed (hsound.disabling hon hdis)

/-- **A controller that rests has finished**, in every orderly run. -/
theorem quiescent_settled {events : List Event} (h : w.Created)
    (hG : (machine decode).Along World.Orderly w events)
    (hrun : (machine decode).run w events = some w') (hq : w'.Quiescent decode) :
    w'.Settled decode := by
  have hinv : w'.Inv decode :=
    Machine.run_invariant (fun _ _ _ hinv hG hnext => hinv.next hG hnext) h.inv hG hrun
  exact hinv.settled hq

namespace Sample

/-- An addon with a state and without conditions. -/
def addon (enabled : Bool) : Addon :=
  ⟨"v1", "Addon", "ns", "a", "u", false, none, ⟨"repo", "chart", "1", enabled, "x: 1"⟩,
    ⟨.init, none, none, none⟩⟩

/-- A cluster with a new addon. -/
def world (enabled : Bool) : World := ⟨.init (addon enabled), none, []⟩

/-- A job that has installed or removed a chart. -/
def job : Job := ⟨"job", 5, some 5, [], 0, 1⟩

/-- No request fails. -/
def calm : Env := ⟨5, none, none, fun _ => .ok job, .none, .none, .none, .none, .other "down"⟩

/-- The update of the status is refused. -/
def statusDown : Env := { calm with updateStatus := .refused }

/-- The values are not encoded. -/
def plain (s : String) : Except Err String := .ok s

/-- A change of the version and the switch. -/
def edit (version : String) (enabled : Bool) : Event :=
  .edit (fun _ _ _ => .ok ()) ⟨"repo", "chart", version, enabled, "x: 1"⟩ none

/-- The addon is installed: the condition, the chart, the job and the outcome. -/
def install : List Event :=
  [.reconcile 0 calm, .reconcile 1 calm, .recordJob "helm-install-a", .reconcile 2 calm]

/-- The addon is installed and then updated. -/
def update : List Event :=
  install ++ [edit "2" true, .reconcile 4 calm, .reconcile 5 calm, .recordJob "helm-install-a",
    .reconcile 6 calm]

/-- The parts of the state that matter here. -/
def summary (w : World) : Bool × AddonState × Bool × Bool × Option String :=
  (w.addons.live.spec.enabled, w.addons.live.status.status, w.addons.live.inProgress,
    w.addons.live.operationFailed, w.chart.map HelmChart.version)

end Sample

open Sample in
/-- The controller rests after an update. -/
theorem quiescent_settled_installed :
    ∃ w', (machine plain).run (world true) update = some w' ∧
      (machine plain).Along World.Orderly (world true) update ∧ w'.Quiescent plain ∧
      w'.Settled plain := by
  have hcreated : (world true).Created := ⟨rfl, rfl, rfl⟩
  have hG : (machine plain).Along World.Orderly (world true) update := by decide
  exact ⟨_, Machine.run_get (by decide), hG, ⟨calm, by decide⟩,
    quiescent_settled hcreated hG (Machine.run_get _) ⟨calm, by decide⟩⟩

open Sample in
/-- An addon that is enabled again while it is `AddonDisabling` rests there; and so does one whose
status `AddonUpdating` is refused after the update of the chart. -/
theorem never_finished :
    (∃ w', (machine plain).run (world true)
        (install ++ [edit "1" false, .reconcile 4 calm, edit "1" true]) = some w' ∧
      w'.Quiescent plain ∧ ¬ w'.Settled plain ∧
      summary w' = (true, .disabling, false, false, some "1")) ∧
    ∃ w', (machine plain).run (world true)
        (install ++ [edit "2" true, .reconcile 4 calm, .reconcile 5 statusDown]) = some w' ∧
      w'.Quiescent plain ∧ ¬ w'.Settled plain ∧
      summary w' = (true, .deployed, true, false, some "2") := by
  constructor
  · refine ⟨_, Machine.run_get (by decide), ⟨calm, by decide⟩, fun hs => ?_,
      by decide⟩
    exact (hs.enabled (by decide)).elim (fun h => absurd h.1 (by decide))
      fun h => absurd h (by decide)
  · refine ⟨_, Machine.run_get (by decide), ⟨calm, by decide⟩, fun hs => ?_,
      by decide⟩
    exact absurd hs.idle (by decide)

/-! ### An announcement that stays -/

/-- Reconciles that read the current addon, changes by users, and jobs. -/
def World.Usual (w : World) : Event → Prop
  | .reconcile number _ => number = w.addons.now
  | .edit .. => True
  | .recordJob _ => True
  | _ => False

/-- An update has been announced and made, and the status has not followed. -/
structure World.Stuck (decode : String → Except Err String) (addons : History Addon) (w : World) :
    Prop where
  same : w.addons = addons
  alive : w.addons.live.deleting = false
  announced : w.addons.live.UpdateAnnounced
  made : ∃ hc, w.chart = some hc ∧ hc.Matches decode w.addons.live

theorem World.Stuck.next {addons : History Addon} (h : w.Stuck decode addons) (hG : w.Usual e)
    (hnext : w.next decode e = some w') : w'.Stuck decode addons := by
  cases e with
  | reconcile number env =>
    obtain ⟨_, -, hw'⟩ := Option.bind_eq_some_iff.1 hnext
    cases hw'
    obtain rfl : number = w.addons.now := hG
    have hsame : ((monitorAddonPerStatus decode env (w.version w.addons.now)).run w.untraced).2 =
        w.untraced := by
      rw [monitorAddonPerStatus_of_deployed h.announced.1 env h.alive h.announced.2.1]
      rcases processAddonUpgrades_cases decode env (w.version w.addons.now) w.untraced
        h.announced.2.1 with ⟨err, hrun⟩ | ⟨-, hrun⟩ | ⟨hnone, -⟩ | ⟨hdiffers, -⟩
      · exact congrArg Prod.snd hrun
      · exact congrArg Prod.snd hrun
      · obtain ⟨hc, hsome, -⟩ := h.made
        exact absurd (hsome.symm.trans hnone) (by simp)
      · obtain ⟨hc, hsome, hmatches⟩ := h.made
        exact absurd hmatches (hdiffers hc hsome)
    rw [hsame]
    exact ⟨h.same, h.alive, h.announced, h.made⟩
  | edit byName spec encodedValues =>
    obtain ⟨_, hguard, -⟩ := Option.bind_eq_some_iff.1 hnext
    have hvalid := validateUpdatedAddon_eq_ok ((Option.guard_eq_some' _).1 hguard)
    exact absurd (hvalid.symm.trans h.announced.2.2) (by simp)
  | recordJob jobName =>
    cases hnext
    obtain ⟨hc, hsome, hm⟩ := h.made
    exact ⟨h.same, h.alive, h.announced, hc.withJob jobName, by simp [hsome],
      ⟨hm.values, hm.version, hm.chart, hm.repo⟩⟩
  | deleteChart now | removeChart => exact absurd hG id

/-- **An announcement that is not taken back stays for ever**: reconciles and jobs do not change the
addon, and the webhook refuses every change. -/
theorem stuck_forever {events : List Event} (h : w.Stuck decode w.addons)
    (hG : (machine decode).Along World.Usual w events)
    (hrun : (machine decode).run w events = some w') : w'.addons = w.addons := by
  have hstuck : w'.Stuck decode w.addons :=
    Machine.run_invariant (fun _ _ _ hs hG hnext => hs.next hG hnext) h hG hrun
  exact hstuck.same

open Sample in
/-- The status `AddonUpdating` was refused after the chart had been updated. -/
theorem stuck_forever_updated : ∃ w w', (machine plain).run (world true)
      (install ++ [edit "2" true, .reconcile 4 calm, .reconcile 5 statusDown]) = some w ∧
    (machine plain).run w [.reconcile 5 calm, .recordJob "helm-install-b",
      .reconcile 5 statusDown] = some w' ∧ w'.addons = w.addons :=
  ⟨_, _, Machine.run_get (by decide), Machine.run_get (by decide),
    stuck_forever ⟨rfl, by decide, by decide, _, rfl, rfl, rfl, rfl, rfl⟩ (by
      refine ⟨rfl, fun w₁ h₁ => ?_⟩
      cases h₁
      refine ⟨True.intro, fun w₂ h₂ => ?_⟩
      cases h₂
      exact ⟨rfl, fun _ _ => True.intro⟩) (Machine.run_get _)⟩

end AddonController

end Harvester
