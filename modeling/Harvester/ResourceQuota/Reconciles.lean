import Harvester.Control.Informer
import Harvester.ResourceQuota.Shares

/-!
# The reconciles of migrations, with VMIs that come and go

The share of a VMI is released by the reconcile that sees the end of its migration.  It needs the
VMI, which can be gone by then, and reads the quota from a cache, which can still be without the
share.

The migrations are watched through an informer, VMIs are created and deleted, and a reconcile of a
migration is a sequence of writes, between which everything else can happen.
-/

namespace Harvester

namespace ResourceQuota

open Control

namespace Leak

/-- A call of `OnVmimChanged` on its way, with the writes of the quota that are still to be made. -/
structure Reconcile where
  vmim : Vmim
  vmi : VMI
  parts : List Part

/-- The migration of a reconcile. -/
def Reconcile.uid (r : Reconcile) : String := r.vmim.uid

/-- The quota, the migrations and the VMIs. -/
structure State where
  quota : History Quota
  vmims : Informer Vmim.uid
  /-- The versions of the VMIs of the namespace. -/
  vmis : History (Store VMI.name)
  running : Store Reconcile.uid

/-- What happens. -/
inductive Event where
  /-- KubeVirt or a user creates a migration, or KubeVirt moves it on. -/
  | migration (vmim : Vmim)
  | deleteMigration (uid : String)
  | createVMI (vmi : VMI)
  | deleteVMI (name : String)
  /-- A change of a migration reaches the cache of the controller. -/
  | deliver
  /-- The controller is to look at a migration again: after some time, or after an error. -/
  | enqueue (uid : String)
  /-- A reconcile of a migration starts; the VMI is read in version `j`. -/
  | reconcile (uid : String) (j : Nat)
  /-- A reconcile comes to its next write of the quota, which is read in version `i`. -/
  | write (uid : String) (read : Readings) (i : Nat) (fault : Fault)
  /-- A reconcile of the quota in version `i`. -/
  | resourceQuota (read : Readings) (order : List Nat) (i : Nat) (fault : Fault)

/-- The update of a quota read in version `i`, and whether the handler goes on. -/
def writeQuota (quota : History Quota) (i : Nat) (fault : Fault) :
    Except Error (Option Quota) → History Quota × Bool
  | .error _ => (quota, false)
  | .ok none => (quota, true)
  | .ok (some rq) =>
    if i = quota.now then
      match fault with
      | .none => (quota.push rq, true)
      | .refused => (quota, false)
      | .lost => (quota.push rq, false)
    else (quota, false)

namespace State

variable (s : State)

/-- The UID of the VMI that has this name. -/
def vmiUID (name : String) : Option String := (s.vmis.live.get name).map VMI.uid

/-- The next version of a migration: a new one has no phase and an unknown UID, a finished one
stays. -/
def migrates (vmim : Vmim) : Bool :=
  match s.vmims.live.get vmim.uid with
  | none => vmim.phase = .unset && s.vmims.Handled vmim.uid && (s.running.get vmim.uid).isNone
  | some old => !old.phase.isFinished && old.vmiName = vmim.vmiName

/-- The start of `OnVmimChanged`. -/
def start (uid : String) (j : Nat) : State :=
  let s := { s with vmims := s.vmims.take uid }
  match s.vmims.cache.get uid with
  | none => s
  | some vmim =>
    match (s.vmis.get j).get vmim.vmiName with
    -- The VMI is gone: there is nothing to do for the migration.
    | none => s
    | some vmi =>
      if onVmimChanged vmim = [] then s
      else { s with running := s.running.put ⟨vmim, vmi, onVmimChanged vmim⟩ }

/-- A write has been made, or has failed; then the migration is queued again. -/
def wrote (r : Reconcile) (rest : List Part) (quota : History Quota) (ok : Bool) : State :=
  if ok then
    let running :=
      if rest = [] then s.running.delete r.uid else s.running.put { r with parts := rest }
    { s with quota, running }
  else { s with quota, running := s.running.delete r.uid, vmims := s.vmims.enqueue r.uid }

end State

section

variable (getMemoryOverhead : VMI → String → Quantity)

/-- One step. -/
def next (s : State) : Event → Option State
  | .migration vmim =>
    if s.migrates vmim then some { s with vmims := s.vmims.change (.put vmim) } else none
  | .deleteMigration uid => some { s with vmims := s.vmims.change (.delete uid) }
  | .createVMI vmi =>
    if (s.vmis.live.get vmi.name).isNone then
      some { s with vmis := s.vmis.push (s.vmis.live.put vmi) }
    else none
  | .deleteVMI name => some { s with vmis := s.vmis.push (s.vmis.live.delete name) }
  | .deliver => s.vmims.deliver.map fun vmims => { s with vmims }
  | .enqueue uid => some { s with vmims := s.vmims.enqueue uid }
  | .reconcile uid j =>
    if uid ∈ s.vmims.queue ∧ (s.running.get uid).isNone ∧ j ≤ s.vmis.now then some (s.start uid j)
    else none
  | .write uid read i fault =>
    match s.running.get uid with
    | some ⟨vmim, vmi, part :: rest⟩ =>
      if i ≤ s.quota.now then
        let rq := part.quota getMemoryOverhead read vmi (s.quota.get i)
        let (quota, ok) := writeQuota s.quota i fault rq
        some (s.wrote ⟨vmim, vmi, part :: rest⟩ rest quota ok)
      else none
    | _ => none
  | .resourceQuota read order i fault =>
    if i ≤ s.quota.now ∧
        order.Perm (List.range (s.quota.get i).annotations.entries.length) then
      let rq := s.quota.get i
      let rq' := onResourceQuotaChanged read rq (entriesInOrder rq order)
      some { s with quota := (writeQuota s.quota i fault rq').1 }
    else none

/-- The system. -/
def machine : Machine State Event := ⟨next getMemoryOverhead⟩

end

/-- A quota, VMIs and no migrations. -/
def init (rq : Quota) (vmis : Store VMI.name) : State :=
  ⟨.init rq, .init .empty, .init vmis, .empty⟩

/-- A migration has finished, and the controller has handled its end. -/
def State.Settled (s : State) (uid : String) : Prop :=
  (s.vmims.live.get uid).any (fun vmim => vmim.phase.isFinished) = true ∧ s.vmims.Handled uid ∧
    (s.running.get uid).isNone = true
  deriving Decidable

/-- All migrations have finished, and all their events have been handled. -/
structure State.Quiet (s : State) : Prop where
  finished : ∀ vmim ∈ s.vmims.live.objs, vmim.phase.isFinished = true
  changes : s.vmims.changes = []
  queue : s.vmims.queue = []
  running : s.running.objs = []

/-- A migration, or a VMI, is deleted after the end of the migration has been handled; a reconcile
reads the VMI that there is, and a quota with the share that it is to release. -/
def Event.Safe (s : State) : Event → Prop
  | .deleteMigration uid => s.Settled uid
  | .deleteVMI name => ∀ vmim ∈ s.vmims.live.objs, vmim.vmiName = name → s.Settled vmim.uid
  | .reconcile uid j => ∀ vmim ∈ s.vmims.cache.get uid,
    ((s.vmis.get j).get vmim.vmiName).map VMI.uid = s.vmiUID vmim.vmiName
  | .write uid _ i _ => ∀ r ∈ s.running.get uid, r.parts.head? = some .restore →
    s.quota.live.Has (.migratingUID r.vmi.uid) → (s.quota.get i).Has (.migratingUID r.vmi.uid)
  | _ => True

instance (s : State) (e : Event) : Decidable (e.Safe s) := by
  unfold Event.Safe
  split <;> infer_instance

section

variable {getMemoryOverhead : VMI → String → Quantity} {read : Readings} {vmi : VMI}
  {rq rq' : Quota} {k : AnnotationKey}

theorem not_has_of_restore_none (h : restoreResourceQuotaWithVMI vmi rq = none) :
    ¬ rq.Has (.migratingUID vmi.uid) := by
  intro hhas
  obtain ⟨rq', hsome, -⟩ := restore_removes hhas
  rw [h] at hsome
  cases hsome

variable {part : Part}

theorem has_part (h : part.quota getMemoryOverhead read vmi rq = .ok (some rq'))
    (hk : k.migrating.isSome = true) (hhas : rq'.Has k) :
    k = .migratingUID vmi.uid ∧ part ≠ .restore ∨
      rq.Has k ∧ (part = .restore → k ≠ .migratingUID vmi.uid) := by
  cases part with
  | scale =>
    rcases (has_scale h (.inl hk)).1 hhas with hnew | ⟨-, hold⟩
    · exact .inl ⟨hnew, by simp⟩
    · exact .inr ⟨hold, by simp⟩
  | compensate =>
    rcases ((has_compensate h).1 k (.inl hk)).1 hhas with rfl | hold
    · cases hk
    · exact .inr ⟨hold, by simp⟩
  | restore =>
    obtain ⟨-, hne, -, hold⟩ := (has_restore (Except.ok.inj h) (.inl hk)).1 hhas
    exact .inr ⟨hold, fun _ => hne⟩

theorem compensation_part (h : part.quota getMemoryOverhead read vmi rq = .ok (some rq')) :
    rq'.Has .migratingCompensation → ∃ k, k.migrating.isSome = true ∧ rq'.Has k := by
  intro hhas
  cases part with
  | scale =>
    exact ⟨.migratingUID vmi.uid, rfl, (has_scale h (.inl rfl)).2 (.inl rfl)⟩
  | compensate =>
    obtain ⟨hiff, hname | huid⟩ := has_compensate h
    · exact ⟨_, rfl, (hiff _ (.inl rfl)).2 (.inr hname)⟩
    · exact ⟨_, rfl, (hiff _ (.inl rfl)).2 (.inr huid)⟩
  | restore =>
    exact absurd rfl ((has_restore (Except.ok.inj h) (.inr rfl)).1 hhas).1

end

end Leak

end ResourceQuota

end Harvester
