import Harvester.ResourceQuota.Migration

/-!
# The share of a migrating VMI

The share of a VMI in the quota is recorded under the UID of the VMI.  A migration that has finished
is reconciled again, at a resync or a restart; if the VMI is migrating again at that time, the
handler removes the share of the migration that is going on (`old_migration_removes_share`).

`share_kept_iff` says exactly when this does not happen, and that nothing else removes the share of
a VMI that is migrating.
-/

namespace Harvester

namespace ResourceQuota

open Control

/-- The annotation is there. -/
def Quota.Has (rq : Quota) (k : AnnotationKey) : Prop := (rq.annotations.lookup k).isSome = true
  deriving Decidable

/-- Of the annotations that do not meet `P`, none is removed. -/
def Keeps (P : AnnotationKey → Prop) (rq rq' : Quota) : Prop := ∀ k, ¬ P k → rq.Has k → rq'.Has k

section

variable {getMemoryOverhead : VMI → String → Quantity} {read : Readings} {vmi : VMI}
  {rq rq' : Quota} {k : AnnotationKey}

/-- The annotations that account for a migration. -/
def Accounts (k : AnnotationKey) : Prop := k.migrating.isSome = true ∨ k = .migratingCompensation

theorem has_insert {k' : AnnotationKey} {v : AnnotationValue} :
    ({ rq with annotations := rq.annotations.insert k' v } : Quota).Has k ↔ k = k' ∨ rq.Has k := by
  unfold Quota.Has
  by_cases h : k = k'
  · subst h
    simp
  · simp [h]

theorem has_erase {k' : AnnotationKey} :
    ({ rq with annotations := rq.annotations.erase k' } : Quota).Has k ↔ k ≠ k' ∧ rq.Has k := by
  unfold Quota.Has
  by_cases h : k = k'
  · subst h
    simp
  · simp [h]

theorem has_setResync {value : String} (hk : Accounts k) :
    (setResync rq value).Has k ↔ rq.Has k := by
  refine has_insert.trans (or_iff_right ?_)
  rintro rfl
  simp [Accounts, AnnotationKey.migrating] at hk

theorem has_clear (hk : Accounts k) :
    (clearAnnotationMigratingScalingResyncNeeded rq).Has k ↔ rq.Has k := by
  unfold clearAnnotationMigratingScalingResyncNeeded
  split
  · exact has_setResync hk
  · exact Iff.rfl

theorem has_scale (h : scaleResourceQuotaWithVMI getMemoryOverhead read vmi rq = .ok (some rq'))
    (hk : Accounts k) : rq'.Has k ↔
      k = .migratingUID vmi.uid ∨ k ≠ .migratingName vmi.name ∧ rq.Has k := by
  unfold scaleResourceQuotaWithVMI at h
  split at h
  · cases h
  split at h
  · cases h
  obtain ⟨ns, -, h⟩ := except_bind_eq_ok.1 h
  obtain ⟨managed, -, h⟩ := except_bind_eq_ok.1 h
  split at h
  · cases h
  split at h
  · cases h
  cases h
  exact (has_setResync hk).trans (has_insert.trans (or_congr_right has_erase))

theorem has_compensate
    (h : compensateResourceQuotaBase getMemoryOverhead read vmi rq = .ok (some rq')) :
    (∀ k, Accounts k → (rq'.Has k ↔ k = .migratingCompensation ∨ rq.Has k)) ∧
      (rq.Has (.migratingName vmi.name) ∨ rq.Has (.migratingUID vmi.uid)) := by
  unfold compensateResourceQuotaBase at h
  split at h
  · cases h
  obtain ⟨ns, -, h⟩ := except_bind_eq_ok.1 h
  obtain ⟨managed, -, h⟩ := except_bind_eq_ok.1 h
  split at h
  · cases h
  next hguard =>
  split at h
  · cases h
  cases h
  refine ⟨fun k hk => (has_setResync hk).trans has_insert, ?_⟩
  have hcontains : containsMigratingVM rq vmi.name vmi.uid = true := by
    by_contra hnot
    simp [hnot] at hguard
  simpa [containsMigratingVM, Quota.Has] using hcontains

theorem annotations_scaleResourceQuotaOnDemand {es : Entries} {ns : NamespaceAnnotation}
    {update : Bool} (h : scaleResourceQuotaOnDemand rq es ns = .ok (rq', update)) :
    rq'.annotations = rq.annotations := by
  have hset : ∀ (r : ResourceName) (base delta : Quantity) (x : Quota × Bool),
      (setFromBaseDelta r base delta x).1.annotations = x.1.annotations := by
    intro r base delta x
    unfold setFromBaseDelta
    split_ifs <;> rfl
  obtain ⟨-, -, cpuBase, memBase, comp, -, -, heq⟩ := scaleResourceQuotaOnDemand_eq_ok.1 h
  rw [show rq' = _ from congrArg Prod.fst heq, calculateNewResourceQuotaFromBaseDelta, hset, hset]

theorem has_onResourceQuotaChanged {es : Entries}
    (h : onResourceQuotaChanged read rq es = .ok (some rq')) (hk : Accounts k) :
    rq'.Has k ↔ rq.Has k := by
  unfold onResourceQuotaChanged at h
  split at h
  · cases h
  obtain ⟨ns, -, h⟩ := except_bind_eq_ok.1 h
  split at h
  · split at h
    · cases h
      exact has_clear hk
    · cases h
  · cases h
  next rqCopy update hpass =>
  split at h
  · cases h
    refine (has_clear hk).trans ?_
    rw [Quota.Has, annotations_scaleResourceQuotaOnDemand hpass, Quota.Has]
  · cases h

theorem restore_eq_some : restoreResourceQuotaWithVMI vmi rq = some rq' ↔
    (deleteMigratingVM rq vmi.name vmi.uid).2 = true ∧
      setAnnotationMigratingScalingResyncNeeded
        (deleteMigratingCompensation (deleteMigratingVM rq vmi.name vmi.uid).1).1 = rq' := by
  have heq : restoreResourceQuotaWithVMI vmi rq =
      if (deleteMigratingVM rq vmi.name vmi.uid).2 = true then
        some (setAnnotationMigratingScalingResyncNeeded
          (deleteMigratingCompensation (deleteMigratingVM rq vmi.name vmi.uid).1).1)
      else none := rfl
  rw [heq]
  by_cases h : (deleteMigratingVM rq vmi.name vmi.uid).2 = true
  · simp
  · simp

theorem has_restore (h : restoreResourceQuotaWithVMI vmi rq = some rq') (hk : Accounts k) :
    rq'.Has k ↔ k ≠ .migratingCompensation ∧ k ≠ .migratingUID vmi.uid ∧
      k ≠ .migratingName vmi.name ∧ rq.Has k := by
  obtain ⟨-, rfl⟩ := restore_eq_some.1 h
  refine (has_setResync hk).trans (has_erase.trans (and_congr_right fun _ => ?_))
  exact has_erase.trans (and_congr_right fun _ => has_erase)

theorem deleteMigratingVM_deleted (h : rq.Has (.migratingUID vmi.uid)) :
    (deleteMigratingVM rq vmi.name vmi.uid).2 = true := by
  have hmem :
      AnnotationKey.migratingUID vmi.uid ∈ rq.annotations.erase (.migratingName vmi.name) := by
    rw [AList.mem_erase]
    exact ⟨by simp, AList.lookup_isSome.1 h⟩
  have hle := (List.kerase_sublist (.migratingName vmi.name) rq.annotations.entries).length_le
  obtain ⟨b, l₁, l₂, -, hl, herase⟩ := List.exists_of_kerase hmem
  have hlt : ((rq.annotations.erase (.migratingName vmi.name)).erase
      (.migratingUID vmi.uid)).entries.length <
        (rq.annotations.erase (.migratingName vmi.name)).entries.length := by
    show (List.kerase _ _).length < _
    rw [herase, hl]
    simp
  have hne := Nat.ne_of_lt (Nat.lt_of_lt_of_le hlt hle)
  simpa [deleteMigratingVM] using hne

/-- **The end of a migration takes the share of the VMI and the compensation away.** -/
theorem restore_removes (h : rq.Has (.migratingUID vmi.uid)) :
    ∃ rq', restoreResourceQuotaWithVMI vmi rq = some rq' ∧
      ¬ rq'.Has (.migratingUID vmi.uid) ∧ ¬ rq'.Has .migratingCompensation := by
  have hrestore := restore_eq_some.2 ⟨deleteMigratingVM_deleted h, rfl⟩
  refine ⟨_, hrestore, fun huid => ?_, fun hcomp => ?_⟩
  · exact ((has_restore hrestore (.inl rfl)).1 huid).2.1 rfl
  · exact ((has_restore hrestore (.inr rfl)).1 hcomp).1 rfl

end

/-- A migration of the VMI is going on. -/
def System.Migrating (s : System) (vmiName : String) : Prop :=
  ∃ vmim ∈ s.vmims.objs, vmim.vmiName = vmiName ∧ vmim.phase.isFinished = false

/-- Another migration of the same VMI is going on. -/
def System.MigratingAgain (s : System) (old : Vmim) : Prop :=
  ∃ vmim ∈ s.vmims.objs, vmim.uid ≠ old.uid ∧ vmim.vmiName = old.vmiName ∧
    vmim.phase.isFinished = false
  deriving Decidable

/-- The share of the VMI is recorded. -/
def System.Recorded (s : System) (vmi : VMI) : Prop := s.quota.live.Has (.migratingUID vmi.uid)

/-- A step keeps what belongs to the migrations that are going on. -/
structure Kept (c : Cluster) (s : System) (e : Event) (s' : System) : Prop where
  /-- No step removes the share of a VMI that is migrating. -/
  share : ∀ vmiName vmi, c.vmis vmiName = some vmi → s.Migrating vmiName → s.Recorded vmi →
    s'.Recorded vmi
  /-- A finished migration does not take the compensation away from another one of its VMI. -/
  compensation : ∀ old part read i fault, e = .vmim old part read i fault →
    old.phase.isFinished = true → s.MigratingAgain old → ∀ vmi, c.vmis old.vmiName = some vmi →
    s.Recorded vmi → s.quota.live.Has .migratingCompensation →
    s'.quota.live.Has .migratingCompensation

/-- A finished migration is reconciled, with the current quota and an update that is carried out,
while another migration of its VMI is going on and the share is recorded. -/
def Disturbs (c : Cluster) (s : System) : Event → Prop
  | .vmim old .restore _ i fault =>
    old ∈ s.seen ∧ old.phase.isFinished = true ∧ i = s.quota.now ∧ fault ≠ .refused ∧
      s.MigratingAgain old ∧ ∃ vmi, c.vmis old.vmiName = some vmi ∧ s.Recorded vmi
  | _ => False

/-- A migration that was seen finished is finished. -/
def Inv (s : System) : Prop :=
  ∀ old ∈ s.seen, old.phase.isFinished = true → ∀ vmim ∈ s.vmims.objs, vmim.uid = old.uid →
    vmim.phase.isFinished = true

section

variable {c : Cluster} {s s' : System} {e : Event}

theorem write_cases (s : System) (i : Nat) (fault : Fault) (r : Except Error (Option Quota)) :
    s.write i fault r = s ∨ ∃ rq, r = .ok (some rq) ∧ i = s.quota.now ∧ fault ≠ .refused ∧
      s.write i fault r = { s with quota := s.quota.push rq } := by
  unfold System.write
  split
  next rq =>
    split
    next h => exact .inr ⟨rq, rfl, h.1, h.2, rfl⟩
    · exact .inl rfl
  · exact .inl rfl

theorem write_vmims (s : System) (i : Nat) (fault : Fault) (r : Except Error (Option Quota)) :
    (s.write i fault r).vmims = s.vmims ∧ (s.write i fault r).seen = s.seen := by
  rcases write_cases s i fault r with h | ⟨rq, -, -, -, h⟩ <;> rw [h]
  · exact ⟨rfl, rfl⟩
  · exact ⟨rfl, rfl⟩

theorem Inv.congr (h : Inv s) (hs : s'.vmims = s.vmims ∧ s'.seen = s.seen) : Inv s' := by
  intro old hold hfin vmim hvmim
  rw [hs.2] at hold
  rw [hs.1] at hvmim
  exact h old hold hfin vmim hvmim

/-- A finished migration stays as it is, and a new one has a UID of its own. -/
theorem Inv.migration (h : Inv s) {vmim : Vmim} (hmig : s.migrates vmim = true) :
    Inv { s with vmims := s.vmims.put vmim, seen := vmim :: s.seen } := by
  intro old hold hfin live hlive huid
  rcases Store.mem_put.1 hlive with rfl | ⟨hlive, hne⟩
  · rcases List.mem_cons.1 hold with rfl | hold
    · exact hfin
    · unfold System.migrates at hmig
      cases hget : s.vmims.get live.uid with
      | none =>
        simp only [hget, Bool.and_eq_true, List.all_eq_true, decide_eq_true_eq] at hmig
        exact absurd huid.symm (hmig.2 old hold)
      | some before =>
        simp only [hget] at hmig
        have := h old hold hfin before (Store.mem_of_get hget) ((Store.key_of_get hget).trans huid)
        simp [this] at hmig
  · rcases List.mem_cons.1 hold with rfl | hold
    · exact absurd huid hne
    · exact h old hold hfin live hlive huid

theorem Inv.next (h : Inv s) (hnext : next c s e = some s') : Inv s' := by
  cases e with
  | vmim vmim part read i fault =>
    simp only [ResourceQuota.next] at hnext
    split at hnext
    · split at hnext <;> cases hnext
      · exact h
      · exact h.congr (write_vmims _ _ _ _)
    · cases hnext
  | resourceQuota read order i fault =>
    simp only [ResourceQuota.next] at hnext
    split at hnext <;> cases hnext
    exact h.congr (write_vmims _ _ _ _)
  | migration vmim =>
    simp only [ResourceQuota.next] at hnext
    split at hnext <;> cases hnext
    next hmig => exact h.migration hmig
  | deleteMigration uid =>
    cases hnext
    exact fun old hold hfin vmim hvmim => h old hold hfin vmim (List.mem_of_mem_filter hvmim)

theorem kept_self : Kept c s e s := ⟨fun _ _ _ _ h => h, fun _ _ _ _ _ _ _ _ _ _ _ h => h⟩

theorem kept_write {i : Nat} {fault : Fault} {r : Except Error (Option Quota)}
    (h : ∀ rq, i = s.quota.now → r = .ok (some rq) →
      Keeps (fun k => ¬ Accounts k ∨ ∃ name, k = .migratingName name) s.quota.live rq) :
    Kept c s e (s.write i fault r) := by
  rcases write_cases s i fault r with hw | ⟨rq, hr, hi, -, hw⟩ <;> rw [hw]
  · exact kept_self
  have hlive : ∀ k, Accounts k → (∀ name, k ≠ .migratingName name) → s.quota.live.Has k →
      (s.quota.push rq).live.Has k := by
    intro k hk hne hhas
    rw [History.live_push]
    exact h rq hi hr k (by simp [hk, hne]) hhas
  exact ⟨fun _ vmi _ _ => hlive _ (.inl rfl) (by simp),
    fun _ _ _ _ _ _ _ _ _ _ _ => hlive _ (.inr rfl) (by simp)⟩

theorem kept_restore (hinv : Inv s) {old : Vmim} {read : Readings} {i : Nat} {fault : Fault}
    (hold : old ∈ s.seen) (hfin : old.phase.isFinished = true) {vmi : VMI}
    (hvmi : c.vmis old.vmiName = some vmi)
    (hnot : ¬ Disturbs c s (.vmim old .restore read i fault)) :
    Kept c s (.vmim old .restore read i fault)
      (s.write i fault (.ok (restoreResourceQuotaWithVMI vmi (s.quota.get i)))) := by
  rcases write_cases s i fault (.ok (restoreResourceQuotaWithVMI vmi (s.quota.get i))) with
    hw | ⟨rq, hr, hi, hfault, hw⟩ <;> rw [hw]
  · exact kept_self
  -- The update is carried out, so no other migration of the VMI is going on with a share.
  have hother : s.MigratingAgain old → ¬ s.Recorded vmi := fun hagain hrec =>
    hnot ⟨hold, hfin, hi, hfault, hagain, vmi, hvmi, hrec⟩
  constructor
  · intro vmiName vmi' hvmi' hmig hrec
    show Quota.Has (History.live _) _
    rw [History.live_push]
    by_cases hname : vmiName = old.vmiName
    · subst hname
      obtain rfl : vmi = vmi' := Option.some.inj (hvmi.symm.trans hvmi')
      obtain ⟨vmim, hmem, hvm, hunf⟩ := hmig
      refine absurd hrec (hother ⟨vmim, hmem, fun huid => ?_, hvm, hunf⟩)
      simp [hinv old hold hfin vmim hmem huid] at hunf
    · subst hi
      refine (has_restore (Except.ok.inj hr) (.inl rfl)).2 ⟨by simp, fun h => ?_, by simp, hrec⟩
      exact hname (c.uid_inj hvmi' hvmi (AnnotationKey.migratingUID.inj h))
  · intro old' part read' i' fault' he hfin' hagain vmi' hvmi' hrec hcomp
    obtain ⟨rfl, -⟩ := Event.vmim.inj he
    obtain rfl : vmi = vmi' := Option.some.inj (hvmi.symm.trans hvmi')
    exact absurd hrec (hother hagain)

theorem finished_iff_restore {vmim : Vmim} {part : Part} (h : part ∈ onVmimChanged vmim) :
    vmim.phase.isFinished = true ↔ part = .restore := by
  unfold onVmimChanged at h
  cases hphase : vmim.phase <;> simp only [hphase] at h
  case pending =>
    split_ifs at h <;> simp_all [MigrationPhase.isFinished]
    rcases h with rfl | rfl <;> simp
  all_goals simp_all [MigrationPhase.isFinished]

theorem Disturbs.not_kept (h : Disturbs c s e) (hnext : next c s e = some s') :
    ¬ Kept c s e s' := by
  intro hkept
  cases e with
  | vmim old part read i fault =>
    cases part with
    | scale | compensate => exact h
    | restore =>
      obtain ⟨hold, hfin, hi, hfault, ⟨vmim, hmem, hne, hname, hunf⟩, vmi, hvmi, hrec⟩ := h
      obtain ⟨rq, hrestore, hremoved, -⟩ := restore_removes hrec
      simp only [ResourceQuota.next] at hnext
      split at hnext
      · simp only [hvmi, Option.some.injEq, hi] at hnext
        change s.write s.quota.now fault (.ok (restoreResourceQuotaWithVMI vmi s.quota.live)) = s'
          at hnext
        rw [hrestore, System.write, if_pos ⟨rfl, hfault⟩] at hnext
        subst hnext
        have hstill := hkept.share old.vmiName vmi hvmi ⟨vmim, hmem, hname, hunf⟩ hrec
        rw [System.Recorded, History.live_push] at hstill
        exact hremoved hstill
      · cases hnext
  | resourceQuota read order i fault | migration vmim | deleteMigration uid => exact h

theorem kept_of_not_disturbs (hinv : Inv s) (hnot : ¬ Disturbs c s e)
    (hnext : next c s e = some s') : Kept c s e s' := by
  cases e with
  | vmim vmim part read i fault =>
    simp only [ResourceQuota.next] at hnext
    split at hnext
    next henabled =>
      obtain ⟨hseen, hpart, -⟩ := henabled
      split at hnext
      · cases hnext
        exact kept_self
      next vmi hvmi =>
      cases hnext
      cases part with
      | scale =>
        refine kept_write fun rq hi hr k hk hhas => ?_
        obtain ⟨hk, hne⟩ := not_or.1 hk
        exact (has_scale (hi ▸ hr) (not_not.1 hk)).2 (.inr ⟨fun h => hne ⟨_, h⟩, hhas⟩)
      | compensate =>
        refine kept_write fun rq hi hr k hk hhas => ?_
        exact ((has_compensate (hi ▸ hr)).1 k (not_not.1 (not_or.1 hk).1)).2 (.inr hhas)
      | restore => exact kept_restore hinv hseen ((finished_iff_restore hpart).2 rfl) hvmi hnot
    · cases hnext
  | resourceQuota read order i fault =>
    simp only [ResourceQuota.next] at hnext
    split at hnext <;> cases hnext
    refine kept_write fun rq hi hr k hk hhas => ?_
    exact (has_onResourceQuotaChanged (hi ▸ hr) (not_not.1 (not_or.1 hk).1)).2 hhas
  | migration vmim =>
    simp only [ResourceQuota.next] at hnext
    split at hnext <;> cases hnext
    exact ⟨fun _ _ _ _ h => h, fun _ _ _ _ _ _ _ _ _ _ _ h => h⟩
  | deleteMigration uid =>
    cases hnext
    exact ⟨fun _ _ _ _ h => h, fun _ _ _ _ _ _ _ _ _ _ _ h => h⟩

/-- **A run keeps what belongs to the migrations that are going on, iff none of its steps reconciles
a finished migration** while another one of the same VMI is going on and has its share recorded. -/
theorem share_kept_iff (c : Cluster) (rq : Quota) (es : List Event) :
    (machine c).Along (fun s e => ∀ s', next c s e = some s' → Kept c s e s') (.init rq) es ↔
      (machine c).Along
        (fun s e => (next c s e).isSome = true → ¬ Disturbs c s e) (.init rq) es := by
  refine Machine.along_congr (I := Inv) (fun s e s' h hnext => h.next hnext) ?_ ?_ es
  · intro s e hinv
    constructor
    · intro hkept hsome hdist
      obtain ⟨s', hs'⟩ := Option.isSome_iff_exists.1 hsome
      exact hdist.not_kept hs' (hkept s' hs')
    · intro hnot s' hs'
      exact kept_of_not_disturbs hinv (hnot (by rw [hs']; rfl)) hs'
  · intro old hold
    cases hold

end

namespace SharesSample

/-- A VMI with a memory limit of 4 units. -/
def vmi : VMI := ⟨"vm", "vm-uid", ResourceList.empty.set .memory 4⟩

def cluster : Cluster where
  vmis name := if name = "vm" then some vmi else none
  getMemoryOverhead _ _ := 0
  uid_inj {n n' v v'} h h' _ := by
    split at h
    next hn =>
      split at h'
      next hn' => exact hn.trans hn'.symm
      · cases h'
    · cases h

/-- A quota with a memory limit of 4 units, of which 6 are in use. -/
def quota : Quota :=
  ⟨∅, ResourceList.empty.set .limitsMemory 4, ResourceList.empty.set .limitsMemory 6⟩

def read : Readings := ⟨.ok (.quota ⟨.empty, .quantity 4⟩), "1.5"⟩

/-- A migration of the VMI. -/
def vmim (uid : String) (phase : MigrationPhase) : Vmim := ⟨uid, "vm", phase, false, true⟩

/-- A first migration fails.  A second one is pending, with its share and a compensation. -/
def events : List Event :=
  [.migration (vmim "first" .unset), .migration (vmim "first" .failed),
    .migration (vmim "second" .unset), .migration (vmim "second" .pending),
    .vmim (vmim "second" .pending) .scale read 0 .none,
    .resourceQuota read [0, 1] 1 .none,
    .vmim (vmim "second" .pending) .compensate read 2 .none]

/-- The first migration is reconciled again. -/
def again : Event := .vmim (vmim "first" .failed) .restore read 3 .none

end SharesSample

open SharesSample in
/-- **A migration that failed earlier takes share and compensation away from the migration that is
going on.** -/
theorem old_migration_removes_share :
    ∃ s s', (machine cluster).run (.init quota) events =
        some s ∧
      next cluster s again = some s' ∧
      s.MigratingAgain (vmim "first" .failed) ∧
      s.Recorded vmi ∧ s.quota.live.Has .migratingCompensation ∧
      ¬ s'.Recorded vmi ∧ ¬ s'.quota.live.Has .migratingCompensation := by
  simp only [System.Recorded]
  exact ⟨_, _, Machine.run_get (by decide), (Option.some_get (by decide)).symm,
    by decide⟩

end ResourceQuota

end Harvester
