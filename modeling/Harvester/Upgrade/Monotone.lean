import Harvester.Upgrade.System

/-!
# The state label moves forward

The handlers drop events that do not belong to the state in the label `upgradeState`, so a label
that goes back stalls the upgrade.

`label_monotone`: the label only moves forward if every signal of the UpgradeLog goes to an Upgrade
that still waits for it.  The controller of the UpgradeLog writes the Upgrade and then the
UpgradeLog, and when the second write fails it starts again with the first
(`retried_signal_resets_label`).

The proof relates the label to the conditions (`LabelInv`): each stage creates its condition
together with its label, so the stage of a condition that does not exist yet is ahead of the label.
-/

namespace Harvester

namespace Upgrades

open Control Relation

/-! ### The order of the states -/

/-- The place of a state in an upgrade. -/
def State.rank : State → Nat
  | preparingLoggingInfra => 1
  | loggingInfraPrepared => 2
  | preparingRepo => 3
  | repoPrepared => 4
  | preparingNodes => 5
  | upgradingSystemServices => 6
  | upgradingNodes => 7
  | succeeded => 8
  | failed => 8

/-- The place of the label; `0` without a label. -/
def Upgrade.rank (u : Upgrade) : Nat := u.state.elim 0 State.rank

/-- The label and the conditions fit together, up to a result that is not marked yet. -/
structure LabelCore (u : Upgrade) : Prop where
  fresh : u.status .completed = none → u.rank = 0
  ended : u.Ended → u.rank = 8
  running : ¬ u.Ended → u.rank ≤ 7
  repo : ¬ u.Ended → u.status .repoProvisioned = none → u.rank ≤ 2
  nodes : ¬ u.Ended → u.status .nodesPrepared = none → u.rank ≤ 4
  services : ¬ u.Ended → u.status .systemServicesUpgraded = none → u.rank ≤ 5
  upgraded : ¬ u.Ended → u.status .nodesUpgraded = none → u.rank ≤ 6
  nodesAfterRepo : u.status .nodesPrepared ≠ none → u.status .repoProvisioned ≠ none
  servicesAfterNodes : u.status .systemServicesUpgraded ≠ none → u.status .nodesPrepared ≠ none
  log : u.status .completed = some .conditionUnknown →
    u.status .logReady = some .conditionUnknown → u.rank = 1 ∧ u.logEnabled = true

/-- The label and the conditions fit together, and a result is marked. -/
structure LabelInv (u : Upgrade) : Prop extends LabelCore u where
  settled : u.Failing ∨ u.Succeeding → u.Ended

/-- The label does not go back, and the condition of the repository stays. -/
structure Progress (u x : Upgrade) : Prop where
  rank : u.rank ≤ x.rank
  repo : u.status .repoProvisioned ≠ none → x.status .repoProvisioned ≠ none

/-- An edit that keeps the invariant and moves forward. -/
structure Advances (u x : Upgrade) : Prop where
  inv : LabelInv x
  progress : Progress u x

variable {u v x : Upgrade} {t : ConditionType} {s : ConditionStatus} {reason message : String}

theorem Progress.refl (u : Upgrade) : Progress u u := ⟨Nat.le_refl _, id⟩

theorem Progress.trans (h : Progress u v) (h' : Progress v x) : Progress u x :=
  ⟨Nat.le_trans h.rank h'.rank, h'.repo ∘ h.repo⟩

theorem Advances.refl (h : LabelInv u) : Advances u u := ⟨h, Progress.refl u⟩

theorem Advances.trans (h : Progress u v) (h' : Advances v x) : Advances u x :=
  ⟨h'.inv, h.trans h'.progress⟩

/-! ### The setters -/

theorem LabelInv.congr (h : LabelInv u) (hstate : x.state = u.state)
    (hconditions : x.conditions = u.conditions) (hlog : x.logEnabled = u.logEnabled) :
    Advances u x := by
  have hstatus := Upgrade.status_eq_of_conditions hconditions
  have hrank : x.rank = u.rank := by simp only [Upgrade.rank, hstate]
  obtain ⟨hcore, hsettled⟩ := h
  refine ⟨⟨?_, ?_⟩, hrank.ge, hstatus ▸ id⟩
  · obtain ⟨h₁, h₂, h₃, h₄, h₅, h₆, h₇, h₈, h₉, h₁₀⟩ := hcore
    constructor <;> simp only [Upgrade.Ended, hstatus, hrank, hlog] <;> assumption
  · simpa only [Upgrade.Failing, Upgrade.Succeeding, Upgrade.Ended, hstatus] using hsettled

theorem LabelCore.setCondition (h : LabelCore u) (ht : t ≠ .completed)
    (hnodes : t = .nodesPrepared → u.status .repoProvisioned ≠ none)
    (hservices : t = .systemServicesUpgraded → u.status .nodesPrepared ≠ none)
    (hlog : t = .logReady → s ≠ .conditionUnknown) :
    LabelCore (u.setCondition t s reason message) := by
  have hstatus : ∀ t', (u.setCondition t s reason message).status t' =
      if t' = t then some s else u.status t' := fun _ => Upgrade.status_setCondition
  have hrank : (u.setCondition t s reason message).rank = u.rank := rfl
  have henabled : (u.setCondition t s reason message).logEnabled = u.logEnabled := rfl
  obtain ⟨h₁, h₂, h₃, h₄, h₅, h₆, h₇, h₈, h₉, h₁₀⟩ := h
  simp only [Upgrade.Ended] at *
  constructor <;> simp only [Upgrade.Ended, hstatus] <;> grind

theorem progress_setCondition : Progress u (u.setCondition t s reason message) := by
  refine ⟨Nat.le_refl _, fun h => ?_⟩
  rw [Upgrade.status_setCondition]
  split
  · simp
  · exact h

theorem LabelInv.of_ended (hended : x.Ended) (hrank : x.rank = 8)
    (hnodes : x.status .nodesPrepared ≠ none → x.status .repoProvisioned ≠ none)
    (hservices : x.status .systemServicesUpgraded ≠ none → x.status .nodesPrepared ≠ none) :
    LabelInv x where
  fresh h := absurd h hended.1
  ended _ := hrank
  running h := absurd hended h
  repo h := absurd hended h
  nodes h := absurd hended h
  services h := absurd hended h
  upgraded h := absurd hended h
  nodesAfterRepo := hnodes
  servicesAfterNodes := hservices
  log h := absurd h hended.2
  settled _ := hended

theorem LabelCore.rank_le (h : LabelCore u) : u.rank ≤ 8 := by
  by_cases hended : u.Ended
  · exact (h.ended hended).le
  · exact (h.running hended).trans (by decide)

theorem LabelCore.finish (h : LabelCore u) (hs : s ≠ .conditionUnknown) {state : State}
    (hstate : state.rank = 8) : Advances u (u.finish s state) := by
  have hrank : (u.finish s state).rank = 8 := hstate
  refine ⟨.of_ended (Upgrade.ended_finish hs) hrank ?_ ?_, hrank ▸ h.rank_le, ?_⟩
  · exact h.nodesAfterRepo
  · exact h.servicesAfterNodes
  · exact id

theorem LabelCore.markComplete (h : LabelCore u) : Advances u u.markComplete := by
  rcases Upgrade.markComplete_cases u with ⟨-, heq⟩ | ⟨-, heq⟩ | ⟨hfailing, hsucceeding, heq⟩
  · exact heq ▸ h.finish (by decide) rfl
  · exact heq ▸ h.finish (by decide) rfl
  · exact heq.symm ▸ .refl ⟨h, fun hresult => (hresult.elim hfailing hsucceeding).elim⟩

theorem LabelCore.setMarked (h : LabelCore u) (ht : t ≠ .completed)
    (hnodes : t = .nodesPrepared → u.status .repoProvisioned ≠ none)
    (hservices : t = .systemServicesUpgraded → u.status .nodesPrepared ≠ none)
    (hlog : t = .logReady → s ≠ .conditionUnknown) :
    Advances u (u.setMarked t s reason message) :=
  .trans progress_setCondition (h.setCondition ht hnodes hservices hlog).markComplete

theorem LabelCore.fail (h : LabelCore u) : Advances u (u.fail reason message) := by
  have hended : (u.fail reason message).Ended := by simp [Upgrade.Ended]
  refine ⟨.of_ended hended rfl ?_ ?_, h.rank_le, ?_⟩
  · simpa using h.nodesAfterRepo
  · simpa using h.servicesAfterNodes
  · simp

/-- A new status of a node can be the end of the upgrade; otherwise the label stays. -/
theorem LabelInv.setNodeUpgradeStatus (h : LabelInv u) {node : String} {state : NodeState} :
    Advances u (u.setNodeUpgradeStatus node state reason message) := by
  have hput : ∀ nodeStatuses, Advances u { u with nodeStatuses } :=
    fun _ => h.congr rfl rfl rfl
  refine Upgrade.setNodeUpgradeStatus_rec hput fun nodeStatuses _ _ _ => ?_
  exact .trans (hput nodeStatuses).progress
    ((hput nodeStatuses).inv.setMarked (by decide) (by simp) (by simp) (by simp))

theorem LabelInv.nodeEdits {states : List NodeState} {node : String} (h : LabelInv u)
    (hx : NodeEdits states node u x) : Advances u x := by
  induction hx with
  | refl => exact .refl h
  | tail _ hedit ih =>
    obtain ⟨-, reason, message⟩ := hedit
    exact .trans ih.progress ih.inv.setNodeUpgradeStatus

/-! ### The stages -/

theorem Upgrade.Running.not_ended (h : u.Running) : ¬ u.Ended := fun hended => hended.2 h.completed

theorem LabelInv.running_of_rank (h : LabelInv u) (hlt : 1 < u.rank) (hle : u.rank ≤ 7) :
    u.Running := by
  have hnone : u.status .completed ≠ none := fun hnone => by simp [h.fresh hnone] at hlt
  have hended : ¬ u.Ended := fun hended => by simp [h.ended hended] at hle
  have hunknown : u.status .completed = some .conditionUnknown :=
    not_not.1 fun hunknown => hended ⟨hnone, hunknown⟩
  refine ⟨hunknown, fun hlog => ?_⟩
  simp [(h.log hunknown hlog.2).1] at hlt

/-- How far the label can be in the stage of a condition. -/
def Upgrade.InStage (u : Upgrade) (t : ConditionType) (rank : Nat) : Prop :=
  match t with
  | .repoProvisioned => rank ≤ 4
  | .nodesPrepared => rank ≤ 5 ∧ u.status .repoProvisioned ≠ none
  | .systemServicesUpgraded => rank ≤ 6 ∧ u.status .nodesPrepared ≠ none
  | .nodesUpgraded => rank ≤ 7 ∧ u.status .systemServicesUpgraded ≠ none
  | _ => False

/-- The next stage starts: the label moves on and the condition of the stage is set. -/
theorem LabelCore.advance (h : LabelCore u) (hu : u.Running)
    (hstatus : ∀ t', x.status t' = if t' = t then some s else u.status t')
    (hstage : u.InStage t x.rank) :
    LabelCore x := by
  obtain ⟨hcompleted, hwaiting⟩ := hu
  have hnolog : u.status .logReady ≠ some .conditionUnknown :=
    fun hready => hwaiting ⟨(h.log hcompleted hready).2, hready⟩
  have hnodes := h.nodesAfterRepo
  have hservices := h.servicesAfterNodes
  cases t <;> simp only [Upgrade.InStage] at hstage <;> constructor <;>
    simp only [Upgrade.Ended, hstatus] <;> grind

theorem progress_of_status (hrank : u.rank ≤ x.rank)
    (hstatus : ∀ t', x.status t' = if t' = t then some s else u.status t') : Progress u x := by
  refine ⟨hrank, fun h => ?_⟩
  rw [hstatus]
  split
  · simp
  · exact h

theorem LabelInv.createStage (h : LabelInv u) (hu : u.Running)
    (hconditions : v.conditions = u.conditions) {state : State} (hstate : v.state = some state)
    (ht : u.status t = none) (hrank : u.rank ≤ state.rank) (hstage : u.InStage t state.rank) :
    Advances u (v.createUnknownIfNotExists t) := by
  have hv := Upgrade.status_eq_of_conditions hconditions
  have hx : (v.createUnknownIfNotExists t).rank = state.rank := by simp [Upgrade.rank, hstate]
  have hstatus : ∀ t', (v.createUnknownIfNotExists t).status t' =
      if t' = t then some .conditionUnknown else u.status t' := by
    simp [hv, ht]
  refine ⟨⟨h.advance hu hstatus (hx.symm ▸ hstage), fun hresult => ?_⟩,
    progress_of_status (hx.symm ▸ hrank) hstatus⟩
  -- An unknown condition is not a result.
  refine absurd (h.settled ?_) hu.not_ended
  simp only [Upgrade.Failing, Upgrade.Succeeding] at hresult ⊢
  grind

theorem LabelInv.markStage (h : LabelInv u) (hu : u.Running)
    (hconditions : v.conditions = u.conditions) {state : State} (hstate : v.state = some state)
    (hrank : u.rank ≤ state.rank)
    (hstage : u.InStage t state.rank) : Advances u (v.setMarked t s reason message) := by
  have hv := Upgrade.status_eq_of_conditions hconditions
  have hx : (v.setCondition t s reason message).rank = state.rank := by
    simp [Upgrade.rank, Upgrade.setCondition, hstate]
  have hstatus : ∀ t', (v.setCondition t s reason message).status t' =
      if t' = t then some s else u.status t' := by
    simp [hv]
  have hprogress : Progress u (v.setCondition t s reason message) :=
    progress_of_status (hx.symm ▸ hrank) hstatus
  have hcore : LabelCore (v.setCondition t s reason message) :=
    h.advance hu hstatus (hx.symm ▸ hstage)
  exact .trans hprogress hcore.markComplete

/-! ### The first step -/

theorem LabelInv.setLogReadyCondition_eq (hfailing : ¬ u.Failing) (hsucceeding : ¬ u.Succeeding) :
    u.setLogReadyCondition s reason message = u.setCondition .logReady s reason message := by
  refine Upgrade.markComplete_of_open ?_ ?_
  · simpa [Upgrade.Failing] using hfailing
  · simpa [Upgrade.Succeeding] using hsucceeding

theorem LabelInv.initialized (h : LabelInv u) (hfresh : u.status .completed = none)
    (hstatus : ∀ t, x.status t = if t = .completed then some .conditionUnknown
      else if t = .logReady then some s else u.status t)
    (hstate : x.state = some .preparingLoggingInfra ∧ x.logEnabled = true ∨
      x.state = some .loggingInfraPrepared ∧ s ≠ .conditionUnknown) : Advances u x := by
  have hnotended : ¬ u.Ended := fun hended => hended.1 hfresh
  have hresult : ¬ (x.Failing ∨ x.Succeeding) := by
    intro hresult
    refine hnotended (h.settled ?_)
    simpa [Upgrade.Failing, Upgrade.Succeeding, hstatus] using hresult
  have hnodes := h.nodesAfterRepo
  have hservices := h.servicesAfterNodes
  refine ⟨⟨?_, fun hr => (hresult hr).elim⟩, h.fresh hfresh ▸ Nat.zero_le _, ?_⟩
  · rcases hstate with ⟨hstate, henabled⟩ | ⟨hstate, hs⟩
    · have hrank : x.rank = 1 := by simp [Upgrade.rank, hstate, State.rank]
      constructor <;> simp only [Upgrade.Ended, hstatus] <;> grind
    · have hrank : x.rank = 2 := by simp [Upgrade.rank, hstate, State.rank]
      constructor <;> simp only [Upgrade.Ended, hstatus] <;> grind
  · simp [hstatus]

theorem LabelInv.init (h : LabelInv u) (hfresh : u.status .completed = none) :
    ¬ u.initStatus.Failing ∧ ¬ u.initStatus.Succeeding ∧
      ∀ t, u.initStatus.status t = if t = .completed then some .conditionUnknown
        else u.status t := by
  have hstatus : ∀ t, u.initStatus.status t = if t = .completed then some .conditionUnknown
      else u.status t := by
    intro t
    have hcreate : u.initStatus.status t = (u.createUnknownIfNotExists .completed).status t := rfl
    rw [hcreate, Upgrade.status_createUnknownIfNotExists, hfresh]
    rfl
  have hresult : ¬ (u.Failing ∨ u.Succeeding) := fun hr => (h.settled hr).1 hfresh
  refine ⟨fun hr => hresult (.inl ?_), fun hr => hresult (.inr ?_), hstatus⟩
  · simpa [Upgrade.Failing, hstatus] using hr
  · simpa [Upgrade.Succeeding, hstatus] using hr

/-! ### Edits -/

theorem LabelInv.createImage (h : LabelInv u) (imageID : String) :
    Advances u ({ u with imageID }.createUnknownIfNotExists .imageReady) := by
  have hstatus : ∀ t, ({ u with imageID }.createUnknownIfNotExists .imageReady).status t =
      if t = .imageReady then some ((u.status .imageReady).getD .conditionUnknown)
      else u.status t :=
    fun _ => Upgrade.status_createUnknownIfNotExists
  have hrank : ({ u with imageID }.createUnknownIfNotExists .imageReady).rank = u.rank :=
    congrArg (Option.elim · 0 State.rank) Upgrade.state_createUnknownIfNotExists
  have hlog : ({ u with imageID }.createUnknownIfNotExists .imageReady).logEnabled =
      u.logEnabled := Upgrade.framed_createUnknownIfNotExists.logEnabled
  have hfalse : some ((u.status .imageReady).getD .conditionUnknown) = some .conditionFalse →
      u.status .imageReady = some .conditionFalse := by
    rcases u.status .imageReady with _ | _ <;> simp
  obtain ⟨⟨h₁, h₂, h₃, h₄, h₅, h₆, h₇, h₈, h₉, h₁₀⟩, hsettled⟩ := h
  simp only [Upgrade.Ended, Upgrade.Failing, Upgrade.Succeeding] at *
  refine ⟨⟨?_, ?_⟩, hrank.ge, ?_⟩
  · constructor <;> simp only [Upgrade.Ended, hstatus] <;> grind
  · simp only [Upgrade.Ended, Upgrade.Failing, Upgrade.Succeeding]
    grind
  · simp [hstatus]

theorem conditions_skipPreload {l : List String} (hu : u.state ≠ some .upgradingNodes) :
    (u.skipPreload l).conditions = u.conditions := by
  induction l generalizing u with
  | nil => rfl
  | cons node nodes ih =>
    have hset : (u.setNodeUpgradeStatus node .imagesPreloaded "" "").conditions = u.conditions ∧
        (u.setNodeUpgradeStatus node .imagesPreloaded "" "").state = u.state :=
      Upgrade.conditions_setNodeUpgradeStatus (by decide) hu
    exact (ih (hset.2.symm ▸ hu)).trans hset.1

theorem LabelInv.stageStep {f : UpgradeFindings} (h : LabelInv u) (hx : StageStep f u x) :
    Advances u x := by
  cases hx with
  | initWithoutLog hfresh =>
    obtain ⟨hfailing, hsucceeding, hinit⟩ := h.init hfresh
    refine h.initialized (s := .conditionFalse) hfresh (fun t => ?_) (.inr ⟨rfl, by decide⟩)
    rw [LabelInv.setLogReadyCondition_eq hfailing hsucceeding]
    refine Upgrade.status_setCondition.trans ?_
    rw [hinit]
    cases t <;> simp
  | init hfresh hlog hx =>
    obtain ⟨hfailing, hsucceeding, hinit⟩ := h.init hfresh
    have henabled : u.initStatus.logEnabled = u.logEnabled :=
      Upgrade.framed_createUnknownIfNotExists.logEnabled
    rcases hx with ⟨name, rfl⟩ | ⟨reason, rfl⟩
    · refine h.initialized (s := (u.status .logReady).getD .conditionUnknown) hfresh (fun t => ?_)
        (.inl ⟨?_, ?_⟩)
      · have hname : { u.initStatus with upgradeLog := name }.status = u.initStatus.status := rfl
        rw [Upgrade.status_createUnknownIfNotExists, hname, hinit, hinit]
        cases t <;> simp
      · exact Upgrade.state_createUnknownIfNotExists
      · exact Upgrade.framed_createUnknownIfNotExists.logEnabled.trans (henabled.trans hlog)
    · rw [LabelInv.setLogReadyCondition_eq hfailing hsucceeding]
      refine h.initialized (s := .conditionFalse) hfresh (fun t => ?_) (.inl ⟨?_, ?_⟩)
      · simp only [Upgrade.status_createUnknownIfNotExists, Upgrade.status_setCondition, hinit]
        cases t <;> simp
      · exact Upgrade.state_createUnknownIfNotExists
      · exact Upgrade.framed_createUnknownIfNotExists.logEnabled.trans (henabled.trans hlog)
  | logTimeout hnone reason message reason' message' =>
    have hset : Advances u (u.setLogReadyCondition .conditionFalse reason message) :=
      h.setMarked (by decide) (by simp) (by simp) (by simp)
    exact .trans hset.progress hset.inv.fail
  | @fail hu singleNode hs repoInfo reason =>
    have hset : Advances u { u with singleNode, repoInfo } := h.congr rfl rfl rfl
    exact .trans hset.progress hset.inv.fail
  | createImage hu imageID => exact h.createImage imageID
  | startRepo hu hrepo =>
    have hrank := h.repo hu.not_ended hrepo
    exact h.createStage hu rfl rfl hrepo (hrank.trans (by decide))
      (by simp [Upgrade.InStage, State.rank])
  | @skipPreload hu hrepo hnodes singleNode hs repoInfo nodes =>
    have hrank := h.nodes hu.not_ended hnodes
    have hstate : u.state ≠ some .upgradingNodes := fun hstate => by
      simp [Upgrade.rank, hstate, State.rank] at hrank
    have hconditions := conditions_skipPreload (l := nodes) (u := { u with singleNode, repoInfo })
      hstate
    exact h.markStage hu hconditions rfl (hrank.trans (by decide))
      ⟨by decide, by simp [hrepo]⟩
  | preparePlan hu hrepo hnodes hs repoInfo =>
    have hrank := h.nodes hu.not_ended hnodes
    exact h.createStage hu rfl rfl hnodes (hrank.trans (by decide))
      ⟨by decide, by simp [hrepo]⟩
  | systemServices hu hnodes hservices =>
    have hrank := h.services hu.not_ended hservices
    have hset : { u with state := some .upgradingSystemServices }.setHelmChartUpgradeStatus
        .conditionUnknown "" "" = { u with state := some .upgradingSystemServices }.setMarked
          .systemServicesUpgraded .conditionUnknown "" "" := by
      refine if_neg fun hor => ?_
      have hsome : u.status .systemServicesUpgraded = some .conditionTrue ∨
        u.status .systemServicesUpgraded = some .conditionFalse := hor
      simp [hservices] at hsome
    rw [hset]
    exact h.markStage hu rfl rfl (hrank.trans (by decide)) ⟨by decide, by simp [hnodes]⟩
  | singleNode hu hservices hstate reason message => exact h.setNodeUpgradeStatus
  | upgradingNodes hu hservices hnodes =>
    have hrank := h.upgraded hu.not_ended hnodes
    exact h.createStage hu rfl rfl hnodes (hrank.trans (by decide))
      ⟨by decide, by simp [hservices]⟩

/-- **The edits of the upgrade controller move forward.** -/
theorem LabelInv.upgradeStep {f : UpgradeFindings} (h : LabelInv u) (hx : UpgradeStep f u x) :
    Advances u x := by
  cases hx with
  | stage hx => exact h.stageStep hx
  | cleanup hx =>
    cases hx
    exact h.congr rfl rfl rfl
  | saveSettings => exact h.congr rfl rfl rfl

theorem LabelInv.manifestJobChanged {job : Job} (h : LabelInv u)
    (hx : u.manifestJobChanged job = some x) : Advances u x := by
  refine Upgrade.manifestJobChanged_rec hx (.refl h) fun _ _ _ _ hv hservices => ?_
  exact .trans hv.progress (hv.inv.setMarked (by decide) (by simp)
    (fun _ => hv.inv.servicesAfterNodes hservices) (by simp))

theorem LabelInv.jobStep {job : Job} (h : LabelInv u) (hx : JobStep job u x) : Advances u x := by
  cases hx with
  | prepare _ hx => exact h.nodeEdits (nodeEdits_of_planJobChanged hx)
  | manifests hx => exact h.manifestJobChanged hx
  | hook _ hx => exact h.nodeEdits hx

theorem LabelInv.planCompleted {component : PlanComponent} (h : LabelInv u)
    (hrepo : component = .node → u.status .repoProvisioned ≠ none)
    (hx : u.planCompleted component = some x) : Advances u x := by
  cases component with
  | node =>
    simp only [Upgrade.planCompleted] at hx
    split at hx
    · simp at hx
    · cases hx
      exact h.setMarked (by decide) (fun _ => hrepo rfl) (by simp) (by simp)
  | _ => exact Option.some.inj hx ▸ h.congr rfl rfl rfl

theorem LabelInv.repoAvailable (h : LabelInv u) (hx : u.repoAvailable = some x) :
    Advances u x := by
  unfold Upgrade.repoAvailable at hx
  split at hx
  · next hstate =>
    have hrank : u.rank = 3 := by simp [Upgrade.rank, hstate, State.rank]
    have hu : u.Running := h.running_of_rank (by simp [hrank]) (by simp [hrank])
    cases hx
    exact h.markStage hu rfl rfl (hrank.trans_le (by decide))
      (by simp [Upgrade.InStage, State.rank])
  · simp at hx

theorem LabelInv.imageChanged {image : ImageInfo} (h : LabelInv u)
    (hx : u.imageChanged image = some x) : Advances u x := by
  refine Upgrade.imageChanged_rec hx (.refl h) fun _ _ _ => ?_
  exact h.setMarked (by decide) (by simp) (by simp) (by simp)

/-! ### Runs -/

/-- The Upgrade still waits for its log. -/
def Upgrade.Waiting (u : Upgrade) : Prop :=
  u.status .completed = some .conditionUnknown ∧ u.status .logReady = some .conditionUnknown
  deriving Decidable

theorem LabelInv.loggingInfraPrepared (h : LabelInv u) (hu : u.Waiting) :
    Advances u u.loggingInfraPrepared := by
  obtain ⟨hrank, henabled⟩ := h.log hu.1 hu.2
  have hstatus : ∀ t, u.loggingInfraPrepared.status t =
      if t = .logReady then some .conditionTrue else u.status t :=
    fun _ => Upgrade.status_setCondition
  have hx : u.loggingInfraPrepared.rank = 2 := rfl
  have hcompleted := hu.1
  have hnodes := h.nodesAfterRepo
  have hservices := h.servicesAfterNodes
  have hsettled := h.settled
  refine ⟨⟨?_, ?_⟩, by simp [hrank, hx], by simp [hstatus]⟩
  · constructor <;> simp only [Upgrade.Ended, hstatus] <;> grind
  · simpa [Upgrade.Ended, Upgrade.Failing, Upgrade.Succeeding, hstatus] using hsettled

/-- The label has only moved forward, and the prepare plan comes after the repository. -/
structure Forward (w : World) : Prop where
  inv : LabelInv w.upgrade.live
  ascending : w.upgrade.Ascending Progress
  plan : w.preparePlan = true → w.upgrade.live.status .repoProvisioned ≠ none

variable {w w' : World} {c : Cluster} {ev : Event}

theorem Forward.edit (h : Forward w) (hx : Advances w.upgrade.live x) :
    Forward { w with upgrade := w.upgrade.push x } where
  inv := (History.live_push _ x).symm ▸ hx.inv
  ascending := h.ascending.push (Progress.refl x) Progress.trans hx.progress
  plan hplan := (History.live_push _ x).symm ▸ hx.progress.repo (h.plan hplan)

theorem Forward.effects {F : Footprint} (h : Forward w) (heffects : Effects F w w')
    (hF : ∀ v x, Forward v → (w.preparePlan = true → v.preparePlan = true) →
      F.edit v.upgrade.live x → Advances v.upgrade.live x)
    (hplans : ∀ u, F.plans u → u.status .repoProvisioned ≠ none) : Forward w' := by
  suffices hall : Forward w' ∧ (w.preparePlan = true → w'.preparePlan = true) from hall.1
  induction heffects with
  | refl => exact ⟨h, id⟩
  | tail _ heffect ih =>
    obtain ⟨hv, hplan⟩ := ih
    cases heffect with
    | edit hx => exact ⟨hv.edit (hF _ _ hv hplan hx), hplan⟩
    | plan hu hx =>
      refine ⟨⟨hv.inv, hv.ascending, fun _ => ?_⟩, fun _ => rfl⟩
      exact (hv.ascending _ _ hu.le (Nat.le_refl _)).repo (hu.get.symm ▸ hplans _ hx)
    | _ => exact ⟨⟨hv.inv, hv.ascending, hv.plan⟩, hplan⟩

/-- Every signal of the UpgradeLog goes to an Upgrade that still waits for it. -/
def LogSafe (w : World) : Event → Prop
  | .upgradeLog env _ =>
    (w.log.get env.logVersion).any UpgradeLog.signals → (w.upgrade.get env.version).Waiting
  | _ => True

instance (w : World) (ev : Event) : Decidable (LogSafe w ev) := by
  unfold LogSafe
  split <;> infer_instance

theorem Forward.next (h : Forward w) (hsafe : LogSafe w ev)
    (hnext : (machine c).next w ev = some w') : Forward w' := by
  rcases next_cases hnext with ⟨env, m, hreconcile, henv, rfl⟩ | ⟨hreconcile, hchange⟩
  · have heffects := reconcile_effects hreconcile henv
    cases ev with
    | upgrade env f =>
      refine h.effects heffects (fun _ _ hv _ hx => hv.inv.upgradeStep hx) fun u hu => ?_
      simp [show u.status .repoProvisioned = some .conditionTrue from hu]
    | plan env component allAtLatestHash =>
      refine h.effects heffects (fun v x hv hplan hx => ?_) fun _ => False.elim
      exact hv.inv.planCompleted (fun hnode => hv.plan (hplan (hx.1 hnode))) hx.2
    | deployment env isRepo isReady =>
      exact h.effects heffects (fun _ _ hv _ hx => hv.inv.repoAvailable hx) fun _ => False.elim
    | image env image =>
      exact h.effects heffects (fun _ _ hv _ hx => hv.inv.imageChanged hx) fun _ => False.elim
    | job env f key =>
      exact h.effects heffects (fun _ _ hv _ ⟨_, _, hx⟩ => hv.inv.jobStep hx) fun _ => False.elim
    | node env f node =>
      exact h.effects heffects (fun _ _ hv _ ⟨_, _⟩ => hv.inv.setNodeUpgradeStatus)
        fun _ => False.elim
    | secret env secret =>
      exact h.effects heffects (fun _ _ hv _ ⟨_, _, _, _, _⟩ => hv.inv.setNodeUpgradeStatus)
        fun _ => False.elim
    | addon env => exact h.effects heffects (fun _ _ _ _ => False.elim) fun _ => False.elim
    | upgradeLog env loggingAddon =>
      refine h.effects heffects (fun v x hv _ hx => ?_) fun _ => False.elim
      exact hx.edit ▸ hv.inv.loggingInfraPrepared (hx.reads ▸ hsafe hx.signals)
    | _ => simp [reconcile] at hreconcile
  · cases change_cases hchange with
    | pause annotations => exact h.edit (h.inv.congr rfl rfl rfl)
    | _ => exact ⟨h.inv, h.ascending, h.plan⟩

/-- An upgrade that the user has just created. -/
structure Starting (w : World) : Prop where
  now : w.upgrade.now = 0
  state : w.upgrade.live.state = none
  status : ∀ t, w.upgrade.live.status t = none
  plan : w.preparePlan = false

theorem Starting.forward (h : Starting w) : Forward w where
  inv := by
    have hrank : w.upgrade.live.rank = 0 := by simp [Upgrade.rank, h.state]
    refine ⟨?_, ?_⟩
    · constructor <;> simp [Upgrade.Ended, h.status, hrank]
    · simp [Upgrade.Failing, Upgrade.Succeeding, h.status]
  ascending i j hij hj := by
    have hzero : i = j := by
      rw [h.now] at hj
      omega
    exact hzero ▸ Progress.refl _
  plan hplan := by simp [h.plan] at hplan

/-- **The state label is monotone** in every run in which the signals of the UpgradeLog go to an
Upgrade that still waits for them. -/
theorem label_monotone {w₀ : World} {evs : List Event} (h₀ : Starting w₀)
    (hsafe : (machine c).Along LogSafe w₀ evs) (hrun : (machine c).run w₀ evs = some w)
    {i j : Nat} (hij : i ≤ j) (hj : j ≤ w.upgrade.now) :
    (w.upgrade.get i).rank ≤ (w.upgrade.get j).rank := by
  have hforward : Forward w := Machine.run_invariant
    (fun _ _ _ h hsafe hnext => h.next hsafe hnext) h₀.forward hsafe hrun
  exact (hforward.ascending i j hij hj).rank

namespace LabelSample

open Sample

/-- The logging infrastructure is up. -/
def ready : UpgradeLog :=
  ⟨none, some .conditionTrue, none, none, none, true, true, true, true, none⟩

def image : ImageInfo := ⟨some ⟨.conditionTrue, "", ""⟩, none⟩

/-- The upgrade starts, and its log becomes ready. -/
def logReady : List Event :=
  [.upgrade (answering 0 0 0) upgradeFindings, .upgradeLog (answering 1 0 1) (.ok true),
    .upgradeLog (answering 1 0 2) (.ok true), .upgradeLog (answering 1 0 3) (.ok true),
    .logChanged ready,
    .upgradeLog (answering 1 0 5) (.ok true), .upgradeLog (answering 1 0 6) (.ok true)]

/-- The log sends its signal, and the upgrade goes on to prepare its repository. -/
def preparingRepo (signal : Env) : List Event :=
  logReady ++ [.upgradeLog signal (.ok true), .upgrade (answering 2 0 7) upgradeFindings,
    .image (answering 3 0 7) image, .upgrade (answering 4 0 7) upgradeFindings]

theorem starting : Starting (world upgrade) := ⟨rfl, rfl, fun _ => rfl, rfl⟩

end LabelSample

open Sample LabelSample in
/-- The label of an upgrade that prepares its repository has moved forward. -/
theorem label_monotone_sample :
    ∃ w, (machine cluster).run (world upgrade) (preparingRepo (answering 1 0 7)) = some w ∧
      w.upgrade.live.state = some .preparingRepo ∧
      (w.upgrade.get 2).rank ≤ w.upgrade.live.rank := by
  have hsafe :
      (machine cluster).Along LogSafe (world upgrade) (preparingRepo (answering 1 0 7)) := by
    decide
  exact ⟨_, Machine.run_get (by decide), by decide,
    label_monotone starting hsafe (Machine.run_get _) (by decide) (Nat.le_refl _)⟩

open Sample LabelSample in
/-- **A signal that is sent twice** sets the label back. -/
theorem retried_signal_resets_label :
    Starting (world upgrade) ∧
    ∃ w w', (machine cluster).run (world upgrade)
        (preparingRepo (refusing .updateLog 1 0 7)) = some w ∧
      w.upgrade.live.state = some .preparingRepo ∧
      (machine cluster).next w (.upgradeLog (answering 5 0 7) (.ok true)) = some w' ∧
      w'.upgrade.live.state = some .loggingInfraPrepared ∧
      w'.upgrade.live.rank < (w'.upgrade.get 5).rank := by
  exact ⟨starting, _, _, Machine.run_get (by decide), by decide,
    (Option.some_get (by decide)).symm, by decide⟩

end Upgrades

end Harvester
