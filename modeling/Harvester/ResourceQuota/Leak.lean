import Harvester.ResourceQuota.Reconciles

/-!
# Shares that are never released

A share has an *owner* when its VMI is there, and so is a migration of the VMI whose end has not
been handled yet.  Steps that meet `Event.Safe` leave every share with an owner, so
`no_leaked_share` finds a quota without shares and compensation after all migrations have finished
and been handled.  In `shares_leaked` a share loses its owner and stays forever.
-/

namespace Harvester

namespace ResourceQuota

open Control

namespace Leak

/-! ### The reconciles on their way -/

/-- What is known about the reconcile of a migration on its way. -/
structure RunsAt (s : State) (uid : String) (r : Reconcile) : Prop where
  parts : r.parts ⊆ onVmimChanged r.vmim
  vmi : ∀ now, s.vmims.live.get uid = some now →
    now.vmiName = r.vmi.name ∧ s.vmiUID r.vmi.name = some r.vmi.uid
  exist : r.vmim.phase.isFinished = false → (s.vmims.live.get uid).isSome = true
  /-- A reconcile works on the latest version, or another one follows. -/
  latest : s.vmims.Handled uid → ∀ now, s.vmims.live.get uid = some now → now = r.vmim

/-- What is known about a migration that the controller sees, and about its reconcile. -/
structure TrackedAt (s : State) (uid : String) : Prop where
  vmiName : ∀ vmim, s.vmims.Shows vmim → vmim.uid = uid → ∀ now, s.vmims.live.get uid = some now →
    now.vmiName = vmim.vmiName
  exist : ∀ vmim, s.vmims.Shows vmim → vmim.uid = uid → vmim.phase.isFinished = false →
    (s.vmims.live.get uid).isSome = true
  running : ∀ r, s.running.get uid = some r → RunsAt s uid r

/-- What is known about all migrations. -/
def Tracked (s : State) : Prop := ∀ uid, TrackedAt s uid

/-- The VMI of the share is there, and so is a migration of it whose end has not been handled. -/
def Owned (s : State) (k : AnnotationKey) : Prop :=
  ∃ name uid vmim, k = .migratingUID uid ∧ s.vmiUID name = some uid ∧
    s.vmims.live.get vmim.uid = some vmim ∧ vmim.vmiName = name ∧ ¬ s.Settled vmim.uid

section

variable {s s' : State} {vmim : Vmim} {uid : String}

theorem migrates_cases (h : s.migrates vmim = true) :
    (s.vmims.live.get vmim.uid = none ∧ vmim.phase = .unset ∧ s.vmims.Handled vmim.uid ∧
      s.running.get vmim.uid = none) ∨
    ∃ old, s.vmims.live.get vmim.uid = some old ∧ old.phase.isFinished = false ∧
      old.vmiName = vmim.vmiName := by
  unfold State.migrates at h
  split at h
  · next hnone =>
    simp only [Bool.and_eq_true, decide_eq_true_eq, Option.isNone_iff_eq_none] at h
    exact .inl ⟨hnone, h.1.1, h.1.2, h.2⟩
  · next old hold =>
    simp only [Bool.and_eq_true, Bool.not_eq_true', decide_eq_true_eq] at h
    exact .inr ⟨old, hold, h.1, h.2⟩

theorem not_shows (hnone : s.vmims.live.get vmim.uid = none) (h : s.vmims.Handled vmim.uid) :
    ¬ s.vmims.Shows vmim := by
  rintro (hcache | hchange)
  · rw [h.get_cache, hnone] at hcache
    cases hcache
  · exact h.2 _ hchange rfl

theorem get_live_put_self :
    (s.vmims.change (.put vmim)).live.get vmim.uid = some vmim :=
  s.vmims.live.get_put_self vmim

/-- A reconcile goes on with what it has to do. -/
def Continues (r' r : Reconcile) : Prop := r.vmim = r'.vmim ∧ r.vmi = r'.vmi ∧ r.parts ⊆ r'.parts

theorem continues_self {r : Reconcile} (hr : s.running.get uid = some r) :
    ∃ r', s.running.get uid = some r' ∧ Continues r' r :=
  ⟨r, hr, rfl, rfl, List.Subset.refl _⟩

theorem TrackedAt.frame (h : TrackedAt s uid)
    (hlive : s'.vmims.live.get uid = s.vmims.live.get uid) (hvmis : s'.vmis = s.vmis)
    (hshows : ∀ v, v.uid = uid → s'.vmims.Shows v → s.vmims.Shows v)
    (hrunning : ∀ r, s'.running.get uid = some r → ∃ r', s.running.get uid = some r' ∧
      Continues r' r)
    (hhandled : s'.vmims.Handled uid → s.vmims.Handled uid) : TrackedAt s' uid := by
  constructor
  · exact fun v hv huid => hlive ▸ h.vmiName v (hshows v huid hv) huid
  · exact fun v hv huid => hlive ▸ h.exist v (hshows v huid hv) huid
  · intro r hr
    obtain ⟨r', hr', hvmim, hvmi, hparts⟩ := hrunning r hr
    have hold := h.running r' hr'
    constructor
    · exact hvmim ▸ List.Subset.trans hparts hold.parts
    · rw [hlive, hvmi, State.vmiUID, hvmis]
      exact hold.vmi
    · rw [hlive, hvmim]
      exact hold.exist
    · rw [hlive, hvmim]
      exact fun hh => hold.latest (hhandled hh)

theorem TrackedAt.change (h : TrackedAt s uid) {c : Change Vmim.uid} (hne : uid ≠ c.target) :
    TrackedAt { s with vmims := s.vmims.change c } uid := by
  refine h.frame (Change.get_apply_of_ne hne) rfl (fun v hv hshows => ?_) (fun _ => continues_self)
    Informer.handled_of_change
  refine (Informer.shows_change hshows).resolve_right fun heq => hne ?_
  rw [← hv, heq, Change.target]

theorem Tracked.migration (h : Tracked s) (hmig : s.migrates vmim = true) :
    Tracked { s with vmims := s.vmims.change (.put vmim) } := by
  intro uid
  by_cases huid : uid = vmim.uid
  · subst huid
    have hold : ∀ {v}, s.vmims.Shows v ∧ v.uid = vmim.uid ∨ s.running.get vmim.uid ≠ none →
        ∃ old, s.vmims.live.get vmim.uid = some old ∧ old.vmiName = vmim.vmiName := by
      intro v hv
      rcases migrates_cases hmig with ⟨hnone, -, hhandled, hidle⟩ | ⟨old, hlive, -, hname⟩
      · rcases hv with ⟨hv, huid⟩ | hv
        · exact absurd hv (not_shows (huid ▸ hnone) (huid ▸ hhandled))
        · exact absurd hidle hv
      · exact ⟨old, hlive, hname⟩
    constructor
    · intro v hv huid now hnow
      rw [get_live_put_self] at hnow
      cases hnow
      rcases Informer.shows_change hv with hshown | heq
      · obtain ⟨old, hlive, hname⟩ := hold (.inl ⟨hshown, huid⟩)
        exact hname ▸ (h _).vmiName v hshown huid old hlive
      · rw [Change.put.inj heq]
    · exact fun _ _ _ _ => by rw [get_live_put_self]; rfl
    · intro r hr
      have hruns := (h _).running r hr
      refine ⟨hruns.parts, fun now hnow => ?_, fun _ => by rw [get_live_put_self]; rfl,
        fun hh => absurd hh Informer.not_handled_change⟩
      rw [get_live_put_self] at hnow
      cases hnow
      obtain ⟨old, hlive, hname⟩ := hold (v := vmim) (.inr (by simp [hr]))
      exact hname ▸ hruns.vmi old hlive
  · exact (h uid).change huid

theorem Tracked.deleteMigration (h : Tracked s) (hsettled : s.Settled uid) :
    Tracked { s with vmims := s.vmims.change (.delete uid) } := by
  intro uid'
  by_cases huid : uid' = uid
  · subst huid
    obtain ⟨hfinished, hhandled, hidle⟩ := hsettled
    have hnone : (s.vmims.change (.delete uid')).live.get uid' = none :=
      s.vmims.live.get_delete_self uid'
    refine ⟨fun v _ _ now hnow => ?_, fun v hv huid hphase => ?_, by simp_all⟩
    · cases hnone.symm.trans hnow
    · subst huid
      rcases (Informer.shows_change hv).resolve_right (by simp) with hcache | hchange
      · -- The cache shows the end of the migration.
        rw [hhandled.get_cache] at hcache
        rw [hcache, Option.any_some, hphase] at hfinished
        cases hfinished
      · exact absurd rfl (hhandled.2 _ hchange)
  · exact (h uid').change huid

theorem start_cases (s : State) (uid : String) (j : Nat) :
    (s.start uid j = { s with vmims := s.vmims.take uid } ∧
      ∀ vmim, s.vmims.cache.get uid = some vmim →
        (s.vmis.get j).get vmim.vmiName = none ∨ onVmimChanged vmim = []) ∨
    ∃ vmim vmi, s.vmims.cache.get uid = some vmim ∧
      (s.vmis.get j).get vmim.vmiName = some vmi ∧
      s.start uid j = { s with
        vmims := s.vmims.take uid, running := s.running.put ⟨vmim, vmi, onVmimChanged vmim⟩ } := by
  have htake : (s.vmims.take uid).cache = s.vmims.cache := rfl
  simp only [State.start, htake]
  split
  · next hnone => exact .inl ⟨rfl, fun vmim hvmim => by simp [hnone] at hvmim⟩
  next vmim hvmim =>
  split
  · next hgone =>
    refine .inl ⟨rfl, fun vmim' hvmim' => .inl ?_⟩
    rw [← Option.some.inj (hvmim.symm.trans hvmim'), hgone]
  · next vmi hvmi =>
    split
    · next hparts =>
      refine .inl ⟨rfl, fun vmim' hvmim' => .inr ?_⟩
      rw [← Option.some.inj (hvmim.symm.trans hvmim'), hparts]
    · exact .inr ⟨vmim, vmi, hvmim, hvmi, rfl⟩

theorem Tracked.start (h : Tracked s) {j : Nat} (hidle : s.running.get uid = none)
    (hread : ∀ vmim ∈ s.vmims.cache.get uid,
      ((s.vmis.get j).get vmim.vmiName).map VMI.uid = s.vmiUID vmim.vmiName) :
    Tracked (s.start uid j) := by
  intro uid'
  rcases start_cases s uid j with ⟨heq, -⟩ | ⟨vmim, vmi, hcache, hvmi, heq⟩
  · rw [heq]
    by_cases huid : uid' = uid
    · exact ⟨(h uid').vmiName, (h uid').exist, by simp [huid, hidle]⟩
    · exact (h uid').frame rfl rfl (fun _ _ hv => hv) (fun _ => continues_self)
        (Informer.handled_of_take huid)
  · obtain rfl : vmim.uid = uid := Store.key_of_get hcache
    have hname : vmi.name = vmim.vmiName := Store.key_of_get hvmi
    have hvmiUID : s.vmiUID vmi.name = some vmi.uid := by
      rw [hname, ← hread vmim hcache, hvmi]
      rfl
    rw [heq]
    by_cases huid : uid' = vmim.uid
    · subst huid
      refine ⟨(h _).vmiName, (h _).exist, fun r hr => ?_⟩
      obtain rfl := Option.some.inj
        (hr.symm.trans (s.running.get_put_self ⟨vmim, vmi, onVmimChanged vmim⟩))
      refine ⟨List.Subset.refl _, fun now hnow => ?_, (h _).exist vmim (.inl hcache) rfl,
        fun hhandled now hnow => ?_⟩
      · exact ⟨((h _).vmiName vmim (.inl hcache) rfl now hnow).trans hname.symm, hvmiUID⟩
      · -- Nothing is on its way, so that the cache has shown the latest version.
        have hlatest := Informer.get_cache hhandled.2
        exact Option.some.inj ((hnow.symm.trans hlatest.symm).trans hcache)
    · refine (h uid').frame rfl rfl (fun _ _ hv => hv) (fun r hr => ?_)
        (Informer.handled_of_take huid)
      exact continues_self ((s.running.get_put_of_ne huid).symm.trans hr)

theorem Tracked.wrote (h : Tracked s) {r : Reconcile} (hr : s.running.get r.uid = some r)
    {part : Part} {rest : List Part} (hparts : r.parts = part :: rest) (quota : History Quota)
    (ok : Bool) : Tracked (s.wrote r rest quota ok) := by
  have hdelete : ∀ {uid r'}, (s.running.delete r.uid).get uid = some r' →
      ∃ r'', s.running.get uid = some r'' ∧ Continues r'' r' := by
    intro uid r' hr'
    by_cases huid : uid = r.uid
    · rw [huid, Store.get_delete_self] at hr'
      cases hr'
    · exact continues_self ((s.running.get_delete_of_ne huid).symm.trans hr')
  intro uid
  unfold State.wrote
  split
  · refine (h uid).frame rfl rfl (fun _ _ hv => hv) (fun r' hr' => ?_) fun hhandled => hhandled
    split at hr'
    · exact hdelete hr'
    · by_cases huid : uid = r.uid
      · subst huid
        cases hr'.symm.trans (s.running.get_put_self { r with parts := rest })
        exact ⟨r, hr, rfl, rfl, hparts ▸ List.subset_cons_self part rest⟩
      · have hput : (s.running.put { r with parts := rest }).get uid = s.running.get uid :=
          s.running.get_put_of_ne huid
        exact continues_self (hput.symm.trans hr')
  · exact (h uid).frame rfl rfl (fun _ _ hv => hv) (fun _ => hdelete) Informer.handled_of_enqueue

/-! ### Shares have owners -/

variable {k : AnnotationKey}

theorem Owned.frame (h : Owned s k) (hlive : s'.vmims.live = s.vmims.live)
    (hvmis : s'.vmis = s.vmis)
    (hsettled : ∀ vmim, s.vmims.live.get vmim.uid = some vmim →
      (s.vmiUID vmim.vmiName).isSome = true → s'.Settled vmim.uid → s.Settled vmim.uid) :
    Owned s' k := by
  obtain ⟨name, uid, vmim, hk, huid, hvmim, hname, hnot⟩ := h
  refine ⟨name, uid, vmim, hk, ?_, hlive ▸ hvmim, hname, fun hs => hnot ?_⟩
  · rwa [State.vmiUID, hvmis]
  · exact hsettled vmim hvmim (by rw [hname, huid]; rfl) hs

theorem Settled.of_change {c : Change Vmim.uid} (hne : uid ≠ c.target)
    (h : ({ s with vmims := s.vmims.change c } : State).Settled uid) : s.Settled uid := by
  obtain ⟨hfinished, hhandled, hidle⟩ := h
  have hget : (s.vmims.change c).live.get uid = s.vmims.live.get uid := Change.get_apply_of_ne hne
  exact ⟨hget ▸ hfinished, Informer.handled_of_change hhandled, hidle⟩

theorem Owned.change (h : Owned s k) {c : Change Vmim.uid}
    (hc : ∀ v, s.vmims.live.get v.uid = some v → v.uid = c.target → ¬ s.Settled v.uid →
      ∃ v', c = .put v' ∧ v'.vmiName = v.vmiName) :
    Owned { s with vmims := s.vmims.change c } k := by
  obtain ⟨name, uid, v, hk, huid, hv, hname, hnot⟩ := h
  by_cases hsame : v.uid = c.target
  · obtain ⟨v', rfl, hname'⟩ := hc v hv hsame hnot
    exact ⟨name, uid, v', hk, huid, get_live_put_self, hname'.trans hname,
      fun hs => Informer.not_handled_change hs.2.1⟩
  · exact ⟨name, uid, v, hk, huid, (Change.get_apply_of_ne hsame).trans hv, hname,
      fun hs => hnot (Settled.of_change hsame hs)⟩

theorem onVmimChanged_of_finished (h : vmim.phase.isFinished = true) :
    onVmimChanged vmim = [.restore] := by
  unfold onVmimChanged
  cases hphase : vmim.phase <;> simp_all [MigrationPhase.isFinished]

theorem Settled.of_start {j : Nat} (hread : ∀ vmim ∈ s.vmims.cache.get uid,
      ((s.vmis.get j).get vmim.vmiName).map VMI.uid = s.vmiUID vmim.vmiName)
    (hlive : s.vmims.live.get vmim.uid = some vmim)
    (hvmi : (s.vmiUID vmim.vmiName).isSome = true) (h : (s.start uid j).Settled vmim.uid) :
    s.Settled vmim.uid := by
  rcases start_cases s uid j with ⟨heq, hnothing⟩ | ⟨vmim', vmi, hcache, -, heq⟩
  · rw [heq] at h
    obtain ⟨hfinished, hhandled, hrunning⟩ := h
    by_cases huid : vmim.uid = uid
    · -- The cache has shown the end of the migration, and its VMI.
      have hcache : s.vmims.cache.get uid = some vmim := by
        rw [← huid, ← hlive]
        exact Informer.get_cache hhandled.2
      have hend : vmim.phase.isFinished = true := by
        simpa [show (s.vmims.take uid).live = s.vmims.live from rfl, hlive] using hfinished
      rcases hnothing vmim hcache with hgone | hempty
      · rw [← hread vmim hcache, hgone] at hvmi
        cases hvmi
      · rw [onVmimChanged_of_finished hend] at hempty
        cases hempty
    · exact ⟨hfinished, Informer.handled_of_take huid hhandled, hrunning⟩
  · rw [heq] at h
    obtain ⟨hfinished, hhandled, hrunning⟩ := h
    have hkey : vmim'.uid = uid := Store.key_of_get hcache
    by_cases huid : vmim.uid = uid
    · rw [huid, ← hkey] at hrunning
      rw [show (s.running.put ⟨vmim', vmi, onVmimChanged vmim'⟩).get vmim'.uid = some _ from
        s.running.get_put_self _] at hrunning
      cases hrunning
    · have hget : (s.running.put ⟨vmim', vmi, onVmimChanged vmim'⟩).get vmim.uid =
          s.running.get vmim.uid :=
        s.running.get_put_of_ne fun hsame => huid (hsame.trans hkey)
      refine ⟨hfinished, Informer.handled_of_take huid hhandled, ?_⟩
      rwa [hget] at hrunning

theorem Settled.of_wrote (ht : Tracked s) {r : Reconcile} (hr : s.running.get r.uid = some r)
    {part : Part} {rest : List Part} (hparts : r.parts = part :: rest) {quota : History Quota}
    {ok : Bool} (hlive : s.vmims.live.get vmim.uid = some vmim)
    (h : (s.wrote r rest quota ok).Settled vmim.uid) :
    s.Settled vmim.uid ∨ vmim.uid = r.uid ∧ part = .restore ∧ ok = true := by
  by_cases huid : vmim.uid = r.uid
  · right
    unfold State.wrote at h
    cases ok with
    | false => exact absurd (huid ▸ h.2.1) Informer.not_handled_enqueue
    | true =>
      refine ⟨huid, ?_, rfl⟩
      have hruns := (ht _).running r hr
      have hlatest : vmim = r.vmim := hruns.latest (huid ▸ h.2.1) vmim (huid ▸ hlive)
      have hpart : part ∈ onVmimChanged r.vmim := hruns.parts (by simp [hparts])
      refine (finished_iff_restore hpart).1 (hlatest ▸ ?_)
      simpa [hlive] using h.1
  · left
    have hget : ∀ rest', (s.running.put { r with parts := rest' }).get vmim.uid =
        s.running.get vmim.uid := fun rest' => s.running.get_put_of_ne huid
    unfold State.wrote at h
    cases ok with
    | false =>
      obtain ⟨hfinished, hhandled, hrunning⟩ := h
      refine ⟨hfinished, Informer.handled_of_enqueue hhandled, ?_⟩
      rwa [← s.running.get_delete_of_ne huid]
    | true =>
      obtain ⟨hfinished, hhandled, hrunning⟩ := h
      refine ⟨hfinished, hhandled, ?_⟩
      simp only [if_true] at hrunning
      split at hrunning
      · rwa [← s.running.get_delete_of_ne huid]
      · rwa [← hget rest]

end

/-! ### The invariant -/

theorem writeQuota_cases (quota : History Quota) (i : Nat) (fault : Fault)
    (rq : Except Error (Option Quota)) :
    ((writeQuota quota i fault rq).1 = quota ∧
      ((writeQuota quota i fault rq).2 = true → rq = .ok none)) ∨
    ∃ rq', rq = .ok (some rq') ∧ i = quota.now ∧
      (writeQuota quota i fault rq).1 = quota.push rq' := by
  rcases rq with e | _ | rq'
  · exact .inl ⟨rfl, by simp [writeQuota]⟩
  · exact .inl ⟨rfl, fun _ => rfl⟩
  by_cases hi : i = quota.now
  · cases fault with
    | none => exact .inr ⟨rq', rfl, hi, by simp [writeQuota, hi]⟩
    | refused => exact .inl (by simp [writeQuota])
    | lost => exact .inr ⟨rq', rfl, hi, by simp [writeQuota, hi]⟩
  · exact .inl (by simp [writeQuota, hi])

/-- Every share has an owner, and there is no compensation without a share. -/
structure Inv (s : State) : Prop where
  tracked : Tracked s
  owned : ∀ k, k.migrating.isSome = true → s.quota.live.Has k → Owned s k
  compensation : s.quota.live.Has .migratingCompensation →
    ∃ k, k.migrating.isSome = true ∧ s.quota.live.Has k

section

variable {getMemoryOverhead : VMI → String → Quantity} {s s' : State} {r : Reconcile}

theorem Inv.sameQuota (h : Inv s) (hquota : s'.quota = s.quota) (htracked : Tracked s')
    (howned : ∀ k, Owned s k → Owned s' k) : Inv s' :=
  ⟨htracked, fun k hk hhas => howned k (h.owned k hk (hquota ▸ hhas)),
    fun hcomp => hquota ▸ h.compensation (hquota ▸ hcomp)⟩

theorem Inv.resourceQuota (h : Inv s) {read : Readings} {es : Entries} {i : Nat} {fault : Fault} :
    Inv { s with quota := (writeQuota s.quota i fault
      (onResourceQuotaChanged read (s.quota.get i) es)).1 } := by
  have hframe : ∀ quota k, Owned s k → Owned { s with quota } k :=
    fun quota k hk => hk.frame rfl rfl fun _ _ _ hs => hs
  have htracked : ∀ quota, Tracked { s with quota } := fun quota uid =>
    (h.tracked uid).frame rfl rfl (fun _ _ hv => hv) (fun _ => continues_self) fun hh => hh
  rcases writeQuota_cases s.quota i fault (onResourceQuotaChanged read (s.quota.get i) es) with
    ⟨hsame, -⟩ | ⟨rq', hrq, rfl, hpush⟩
  · rw [hsame]
    exact h
  have hhas : ∀ k, Accounts k → (rq'.Has k ↔ s.quota.live.Has k) :=
    fun k hk => has_onResourceQuotaChanged hrq hk
  rw [hpush]
  refine ⟨htracked _, fun k hk hnew => hframe _ k (h.owned k hk ?_), ?_⟩
  · rwa [← hhas k (.inl hk), ← s.quota.live_push rq']
  rw [s.quota.live_push]
  intro hcomp
  obtain ⟨k, hk, hold⟩ := h.compensation ((hhas _ (.inr rfl)).1 hcomp)
  exact ⟨k, hk, (hhas k (.inl hk)).2 hold⟩

theorem not_settled_of_running {uid : String} (hr : s.running.get uid = some r) :
    ¬ s.Settled uid := by
  intro hs
  have hrunning := hs.2.2
  rw [hr] at hrunning
  cases hrunning

theorem Inv.vmis (h : Inv s) {vmis : History (Store VMI.name)}
    (hkeep : ∀ vmim uid, s.vmims.live.get vmim.uid = some vmim → ¬ s.Settled vmim.uid →
      s.vmiUID vmim.vmiName = some uid → (vmis.live.get vmim.vmiName).map VMI.uid = some uid) :
    Inv { s with vmis } := by
  refine h.sameQuota rfl (fun uid => ?_) fun k hk => ?_
  · have ht := h.tracked uid
    refine ⟨ht.vmiName, ht.exist, fun r hr => ?_⟩
    obtain ⟨hparts, hvmi, hexist, hlatest⟩ := ht.running r hr
    refine ⟨hparts, fun now hnow => ?_, hexist, hlatest⟩
    obtain rfl : now.uid = uid := Store.key_of_get hnow
    obtain ⟨hname, huid⟩ := hvmi now hnow
    exact ⟨hname, hname ▸ hkeep now _ hnow (not_settled_of_running hr) (hname ▸ huid)⟩
  · obtain ⟨_, uid, v, hk, huid, hv, rfl, hnot⟩ := hk
    exact ⟨_, uid, v, hk, hkeep v uid hv hnot huid, hv, rfl, hnot⟩

variable {part : Part} {rest : List Part} {quota : History Quota} {ok : Bool}

theorem wrote_frame : (s.wrote r rest quota ok).quota = quota ∧
    (s.wrote r rest quota ok).vmims.live = s.vmims.live ∧
    (s.wrote r rest quota ok).vmis = s.vmis := by
  unfold State.wrote
  split <;> exact ⟨rfl, rfl, rfl⟩

/-- After a write, only the share that it was to release can be without an owner. -/
theorem Owned.wrote {k : AnnotationKey} (h : Owned s k) (ht : Tracked s)
    (hr : s.running.get r.uid = some r) (hparts : r.parts = part :: rest)
    (hk : part = .restore → ok = true → k ≠ .migratingUID r.vmi.uid) :
    Owned (s.wrote r rest quota ok) k := by
  obtain ⟨name, uid', vmim, hkey, huid, hvmim, hname, hnot⟩ := h
  refine ⟨name, uid', vmim, hkey, ?_, ?_, hname, fun hs => ?_⟩
  · rwa [State.vmiUID, wrote_frame.2.2]
  · rwa [wrote_frame.2.1]
  rcases Settled.of_wrote ht hr hparts hvmim hs with hold | ⟨hsame, hpart, hok⟩
  · exact hnot hold
  obtain ⟨hvmi, hvmiUID⟩ := ((ht _).running r hr).vmi vmim (hsame ▸ hvmim)
  rw [← hname, hvmi, hvmiUID] at huid
  exact hk hpart hok (hkey.trans (congrArg _ (Option.some.inj huid).symm))

theorem owned_of_pending (ht : Tracked s) (hr : s.running.get r.uid = some r)
    (hparts : r.parts = part :: rest) (hpart : part ≠ .restore) :
    Owned (s.wrote r rest quota ok) (.migratingUID r.vmi.uid) := by
  have hruns := (ht _).running r hr
  have hphase : r.vmim.phase.isFinished = false := by
    rw [← Bool.not_eq_true, finished_iff_restore (hruns.parts (hparts ▸ List.mem_cons_self))]
    exact hpart
  obtain ⟨now, hnow⟩ := Option.isSome_iff_exists.1 (hruns.exist hphase)
  obtain ⟨hvmi, hvmiUID⟩ := hruns.vmi now hnow
  have huid : now.uid = r.uid := Store.key_of_get hnow
  refine Owned.wrote ⟨r.vmi.name, r.vmi.uid, now, rfl, hvmiUID, huid.symm ▸ hnow, hvmi, ?_⟩ ht hr
    hparts fun hrestore => absurd hrestore hpart
  rw [huid]
  exact not_settled_of_running hr

theorem Inv.wrote (h : Inv s) (hr : s.running.get r.uid = some r) (hparts : r.parts = part :: rest)
    (howned : ∀ k, k.migrating.isSome = true → quota.live.Has k →
      k = .migratingUID r.vmi.uid ∧ part ≠ .restore ∨
        s.quota.live.Has k ∧ (part = .restore → ok = true → k ≠ .migratingUID r.vmi.uid))
    (hcomp : quota.live.Has .migratingCompensation →
      ∃ k, k.migrating.isSome = true ∧ quota.live.Has k) :
    Inv (s.wrote r rest quota ok) := by
  refine ⟨h.tracked.wrote hr hparts quota ok, fun k hk hhas => ?_, ?_⟩
  · rw [wrote_frame.1] at hhas
    rcases howned k hk hhas with ⟨rfl, hpart⟩ | ⟨hold, hrelease⟩
    · exact owned_of_pending h.tracked hr hparts hpart
    · exact (h.owned k hk hold).wrote h.tracked hr hparts hrelease
  · rw [wrote_frame.1]
    exact hcomp

theorem Inv.write (h : Inv s) (hr : s.running.get r.uid = some r) (hparts : r.parts = part :: rest)
    {read : Readings} {i : Nat} {fault : Fault}
    (hsafe : part = .restore → s.quota.live.Has (.migratingUID r.vmi.uid) →
      (s.quota.get i).Has (.migratingUID r.vmi.uid)) :
    let written :=
      writeQuota s.quota i fault (part.quota getMemoryOverhead read r.vmi (s.quota.get i))
    Inv (s.wrote r rest written.1 written.2) := by
  intro written
  rcases writeQuota_cases s.quota i fault (part.quota getMemoryOverhead read r.vmi (s.quota.get i))
    with ⟨hsame, hnone⟩ | ⟨rq', hrq, rfl, hpush⟩
  · rw [hsame]
    refine h.wrote hr hparts (fun k hk hhas => .inr ⟨hhas, fun hpart hok => ?_⟩) h.compensation
    -- There was no share in the version of the quota that was read, and so there is none.
    rintro rfl
    subst hpart
    have hread := not_has_of_restore_none (Except.ok.inj (hnone hok))
    exact hread (hsafe rfl hhas)
  · rw [hpush]
    refine h.wrote hr hparts ?_ ?_
    all_goals rw [s.quota.live_push]
    · intro k hk hhas
      rcases has_part hrq hk hhas with hnew | ⟨hold, hrelease⟩
      · exact .inl hnew
      · exact .inr ⟨hold, fun hpart _ => hrelease hpart⟩
    · exact compensation_part hrq

/-- **A step of the system.** -/
theorem Inv.next {e : Event} (h : Inv s) (hsafe : e.Safe s)
    (hnext : next getMemoryOverhead s e = some s') : Inv s' := by
  cases e with
  | migration vmim =>
    simp only [Leak.next, Machine.guarded_eq_some] at hnext
    obtain ⟨hmig, rfl⟩ := hnext
    refine h.sameQuota rfl (h.tracked.migration hmig) fun k hk => hk.change fun v hv huid _ => ?_
    rcases migrates_cases hmig with ⟨hnone, -⟩ | ⟨old, hold, -, hname⟩
    · cases (hnone.symm.trans (congrArg _ huid.symm)).trans hv
    · cases (hold.symm.trans (congrArg _ huid.symm)).trans hv
      exact ⟨vmim, rfl, hname.symm⟩
  | deleteMigration uid =>
    cases hnext
    exact h.sameQuota rfl (h.tracked.deleteMigration hsafe) fun k hk =>
      hk.change fun v _ huid hnot => absurd (huid ▸ hsafe) hnot
  | createVMI vmi =>
    simp only [Leak.next, Machine.guarded_eq_some] at hnext
    obtain ⟨hfree, rfl⟩ := hnext
    refine h.vmis fun v uid _ _ huid => ?_
    have hne : v.vmiName ≠ vmi.name := fun hname => by
      rw [hname, State.vmiUID, Option.isNone_iff_eq_none.1 hfree] at huid
      cases huid
    rwa [s.vmis.live_push, s.vmis.live.get_put_of_ne hne]
  | deleteVMI name =>
    cases hnext
    refine h.vmis fun v uid hv hnot huid => ?_
    have hne : v.vmiName ≠ name := fun hname => hnot (hsafe v (Store.mem_of_get hv) hname)
    rwa [s.vmis.live_push, s.vmis.live.get_delete_of_ne hne]
  | deliver =>
    obtain ⟨vmims, hdeliver, rfl⟩ := Option.map_eq_some_iff.1 hnext
    have hlive := Informer.live_deliver hdeliver
    refine h.sameQuota rfl ?_ fun k hk => hk.frame hlive rfl fun vmim _ _ hs => ?_
    · exact fun uid => (h.tracked uid).frame (by rw [hlive]) rfl
        (fun v _ hv => Informer.shows_deliver hdeliver hv) (fun _ => continues_self)
        (Informer.handled_of_deliver hdeliver)
    · refine ⟨?_, Informer.handled_of_deliver hdeliver hs.2.1, hs.2.2⟩
      rw [← hlive]
      exact hs.1
  | enqueue uid =>
    cases hnext
    refine h.sameQuota rfl ?_ fun k hk => hk.frame rfl rfl fun vmim _ _ hs =>
      ⟨hs.1, Informer.handled_of_enqueue hs.2.1, hs.2.2⟩
    exact fun uid => (h.tracked uid).frame rfl rfl (fun _ _ hv => hv) (fun _ => continues_self)
      Informer.handled_of_enqueue
  | reconcile uid j =>
    simp only [Leak.next, Machine.guarded_eq_some] at hnext
    obtain ⟨hguard, rfl⟩ := hnext
    have hidle := Option.isNone_iff_eq_none.1 hguard.2.1
    obtain ⟨hquota, hlive, hvmis⟩ : (s.start uid j).quota = s.quota ∧
        (s.start uid j).vmims.live = s.vmims.live ∧ (s.start uid j).vmis = s.vmis := by
      rcases start_cases s uid j with ⟨heq, -⟩ | ⟨_, _, _, _, heq⟩ <;> rw [heq] <;>
        exact ⟨rfl, rfl, rfl⟩
    exact h.sameQuota hquota (h.tracked.start hidle hsafe) fun k hk =>
      hk.frame hlive hvmis fun vmim hvmim hvmi hs => Settled.of_start hsafe hvmim hvmi hs
  | write uid read i fault =>
    simp only [Leak.next] at hnext
    split at hnext
    · next vmim vmi part rest hr =>
      split at hnext
      · cases hnext
        have huid : Reconcile.uid ⟨vmim, vmi, part :: rest⟩ = uid := Store.key_of_get hr
        refine h.write (huid ▸ hr) rfl fun hpart => hsafe _ hr ?_
        simp [hpart]
      · cases hnext
    · cases hnext
  | resourceQuota read order i fault =>
    simp only [Leak.next, Machine.guarded_eq_some] at hnext
    obtain ⟨-, rfl⟩ := hnext
    exact h.resourceQuota

end

theorem inv_init {rq : Quota} (hrq : ∀ k, Accounts k → ¬ rq.Has k) (vmis : Store VMI.name) :
    Inv (init rq vmis) := by
  have hshows : ∀ vmim, ¬ (init rq vmis).vmims.Shows vmim := by
    rintro vmim (hcache | hchange)
    · cases hcache
    · cases hchange
  refine ⟨fun uid => ?_, fun k hk hhas => absurd hhas (hrq k (.inl hk)),
    fun hcomp => absurd hcomp (hrq _ (.inr rfl))⟩
  constructor
  · exact fun v hv => absurd hv (hshows v)
  · exact fun v hv => absurd hv (hshows v)
  all_goals intro r hr
  all_goals cases hr

theorem Quiet.settled {s : State} (h : s.Quiet) {vmim : Vmim}
    (hvmim : s.vmims.live.get vmim.uid = some vmim) : s.Settled vmim.uid := by
  refine ⟨?_, ⟨?_, ?_⟩, ?_⟩
  · rw [hvmim]
    exact h.finished vmim (Store.mem_of_get hvmim)
  · rw [h.queue]
    exact List.not_mem_nil
  · rw [h.changes]
    exact fun c hc => absurd hc List.not_mem_nil
  · rw [Store.get, h.running]
    rfl

/-- **No leaked share.**  After every safe run, a quota is left without shares and compensation once
all migrations have finished and been handled. -/
theorem no_leaked_share {getMemoryOverhead : VMI → String → Quantity} {rq : Quota}
    {vmis : Store VMI.name} {es : List Event} {s : State} (hrq : ∀ k, Accounts k → ¬ rq.Has k)
    (hsafe : (machine getMemoryOverhead).Along (fun s e => e.Safe s) (init rq vmis) es)
    (hrun : (machine getMemoryOverhead).run (init rq vmis) es = some s) (hquiet : s.Quiet) :
    ∀ k, Accounts k → ¬ s.quota.live.Has k := by
  have hinv : Inv s := Machine.run_invariant
    (fun _ _ _ h hsafe hnext => h.next hsafe hnext) (inv_init hrq vmis) hsafe hrun
  have hshare : ∀ k, k.migrating.isSome = true → ¬ s.quota.live.Has k := by
    intro k hk hhas
    obtain ⟨name, uid, vmim, -, -, hvmim, -, hnot⟩ := hinv.owned k hk hhas
    exact hnot (Quiet.settled hquiet hvmim)
  rintro k (hk | rfl)
  · exact hshare k hk
  · intro hcomp
    obtain ⟨k, hk, hhas⟩ := hinv.compensation hcomp
    exact hshare k hk hhas

namespace Sample

def vmi : VMI := ⟨"vm", "vm-uid", ResourceList.empty.set .memory 4⟩

def vmis : Store VMI.name := Store.empty.put vmi

/-- A quota of 8 units of memory. -/
def quota : Quota := ⟨∅, ResourceList.empty.set .limitsMemory 8, .empty⟩

def read : Readings := ⟨.ok (.quota ⟨.empty, .quantity 8⟩), "1.5"⟩

/-- Pods need no overhead. -/
def noOverhead : VMI → String → Quantity := fun _ _ => 0

def vmim (phase : MigrationPhase) : Vmim := ⟨"migration", "vm", phase, false, false⟩

/-- A migration is pending, and its share is recorded. -/
def recordShare : List Event :=
  [.migration (vmim .unset), .migration (vmim .pending), .deliver, .deliver,
    .reconcile "migration" 0, .write "migration" read 0 .none]

/-- The migration fails, and the share is released. -/
def release : List Event :=
  recordShare ++ [.migration (vmim .failed), .deliver, .reconcile "migration" 0,
    .write "migration" read 1 .none]

/-- The VMI is deleted while it migrates. -/
def deletedVMI : List Event :=
  recordShare ++ [.deleteVMI "vm", .migration (vmim .failed), .deliver, .reconcile "migration" 1]

/-- The end of the migration is handled before the share has reached the cache. -/
def staleQuota : List Event :=
  recordShare ++ [.migration (vmim .failed), .deliver, .reconcile "migration" 0,
    .write "migration" read 0 .none]

/-- The migration is deleted before its end has been handled. -/
def deletedMigration : List Event :=
  recordShare ++ [.migration (vmim .failed), .deleteMigration "migration", .deliver, .deliver,
    .reconcile "migration" 0]

end Sample

instance (s : State) : Decidable s.Quiet :=
  decidable_of_iff ((∀ vmim ∈ s.vmims.live.objs, vmim.phase.isFinished = true) ∧
      s.vmims.changes.isEmpty ∧ s.vmims.queue = [] ∧ s.running.objs.isEmpty)
    ⟨fun h => ⟨h.1, List.isEmpty_iff.1 h.2.1, h.2.2.1, List.isEmpty_iff.1 h.2.2.2⟩,
      fun h => ⟨h.finished, List.isEmpty_iff.2 h.changes, h.queue, List.isEmpty_iff.2 h.running⟩⟩

open Sample in
theorem no_leaked_share_sample :
    ∃ s, (machine noOverhead).run (init quota vmis) release = some s ∧ s.Quiet ∧
      ∀ k, Accounts k → ¬ s.quota.live.Has k := by
  have hsafe : (machine noOverhead).Along (fun s e => e.Safe s) (init quota vmis) release := by
    decide
  have hquota : ∀ k, Accounts k → ¬ quota.Has k := fun k _ => by simp [quota, Quota.Has]
  exact ⟨_, Machine.run_get (by decide), by decide,
    no_leaked_share hquota hsafe (Machine.run_get _) (by decide)⟩

open Sample in
/-- **Shares that stay forever**: a VMI is deleted while it migrates, an end is handled with an old
quota, a migration is deleted too early. -/
theorem shares_leaked :
    (∃ s, (machine noOverhead).run (init quota vmis) deletedVMI = some s ∧ s.Quiet ∧
      s.quota.live.Has (.migratingUID "vm-uid")) ∧
    (∃ s, (machine noOverhead).run (init quota vmis) staleQuota = some s ∧ s.Quiet ∧
      s.quota.live.Has (.migratingUID "vm-uid")) ∧
    ∃ s, (machine noOverhead).run (init quota vmis) deletedMigration = some s ∧ s.Quiet ∧
      s.quota.live.Has (.migratingUID "vm-uid") := by
  decide

end Leak

end ResourceQuota

end Harvester
