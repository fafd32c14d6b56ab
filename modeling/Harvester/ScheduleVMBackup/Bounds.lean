import Harvester.Control.History
import Harvester.Control.Machine
import Harvester.ScheduleVMBackup.Schedule

/-!
# The bounds of scheduled backups

The system around a schedule: the cron job, the handlers of the schedule controller, the backup
controller, the API server that removes deleted backups, and the user.  Every request of a handler
is a step of its own, and a handler may have listed the backups in any of the versions that the list
has had.

At every moment at most one backup is to be in progress, and no more than `maxFailure` backups are
to have failed since the last one that is ready.  `Sound` is the invariant of the list of backups,
with one lemma for each thing that can happen to it.

* A backup that fails while it is being initialised has an error, so that the next backup is
  created, but no status, so that it is not counted; and when it is initialised in the end, it is in
  progress next to the newer one (`bounds_exceeded`).
* `schedule_bounds`: both bounds hold in every run in which no backup is created while there is such
  a failed backup, or from an old list, and no backup is deleted on a resume that is ready by now.
-/

namespace Harvester

namespace ScheduleVMBackup

open Control
open Backup (Status isReady isProcessing isMissingStatus initFailed Settled)

/-! ### The system -/

/-- The schedule and its backups. -/
structure State where
  /-- The backups of the schedule, in the order of their creation. -/
  backups : History (List VMBackup)
  /-- `LastScheduleTime` of the cron job. -/
  lastScheduleTime : Option Nat
  /-- `Suspend` of the cron job. -/
  cronSuspend : Bool
  /-- `Spec.Suspend` of the schedule. -/
  suspend : Bool
  /-- `Status.Suspended` of the schedule. -/
  suspended : Bool

/-- The backups as they are. -/
def State.live (s : State) : List VMBackup := s.backups.live

/-- Change the backup with the given timestamp. -/
def modify (timestamp : Nat) (f : VMBackup → VMBackup) (vbs : List VMBackup) : List VMBackup :=
  vbs.map fun vb => if vb.timestamp = timestamp then f vb else vb

/-- The list of backups has changed. -/
def State.push (s : State) (vbs : List VMBackup) : State := { s with backups := s.backups.push vbs }

/-- What a request does.  A deleted backup stays until its finalizers are done. -/
def State.perform (s : State) : Request → State
  | .createVMBackup timestamp =>
    if s.live.any fun vb => vb.timestamp = timestamp then s
    else s.push (s.live ++ [⟨timestamp, false, Status.empty⟩])
  | .deleteVMBackup timestamp =>
    s.push (modify timestamp (fun vb => { vb with deleting := true }) s.live)
  | .updateCronJob suspend => { s with cronSuspend := suspend }
  | .updateSchedule suspend => { s with suspend, suspended := suspend }
  | .deleteLHBackup _ => s

/-- The steps; `v` is the version of the list that a handler has read, `i` its request. -/
inductive Event where
  /-- The cron job fires. -/
  | fire (timestamp : Nat)
  | onCronjobChanged (v i : Nat)
  /-- `OnChanged` of the schedule: resume or suspend. -/
  | onChanged (v i : Nat)
  /-- `OnChanged` of the schedule: garbage collection. -/
  | gc (v i : Nat)
  /-- `OnVMBackupChange` for a backup of version `v`. -/
  | onVMBackupChange (v timestamp : Nat) (inFinalState : String → Except Err Bool) (i : Nat)
  /-- A reconcile of the backup controller that reads the current backup. -/
  | onBackupChange (timestamp : Nat) (env : Backup.Env)
  /-- The API server removes a backup. -/
  | removed (timestamp : Nat)
  /-- The user suspends or resumes the schedule. -/
  | setSuspend (suspend : Bool)

section

variable (spec : Spec)

/-- The request of a handler. -/
def State.request (s : State) : Event → Option Request
  | .onCronjobChanged v i => do
    guard (v ≤ s.backups.now)
    let timestamp ← s.lastScheduleTime
    (onCronjobChanged spec (s.backups.get v) timestamp)[i]?
  | .onChanged v i => do
    guard (v ≤ s.backups.now)
    (updateResumeOrSuspend spec (s.backups.get v) s.suspend s.suspended)[i]?
  | .gc v i => do
    guard (v ≤ s.backups.now)
    (gcVMBackups spec (s.backups.get v))[i]?
  | .onVMBackupChange v timestamp inFinalState i => do
    guard (v ≤ s.backups.now)
    let vb ← (s.backups.get v).find? fun vb => vb.timestamp = timestamp
    (checkLHBackupUnexpectedProcessing inFinalState vb)[i]?
  | _ => none

/-- The list of backups after a reconcile of the backup controller. -/
def State.reconciled (s : State) (timestamp : Nat) (env : Backup.Env) : Option (List VMBackup) := do
  let vb ← s.live.find? fun vb => vb.timestamp = timestamp
  guard (!vb.deleting)
  let status ← (Backup.onBackupChange env vb.status).toOption
  return modify timestamp (fun vb => { vb with status }) s.live

/-- One step. -/
def State.next (s : State) : Event → Option State
  | .fire timestamp =>
    if s.cronSuspend = false ∧ ∀ t ∈ s.lastScheduleTime, t < timestamp then
      some { s with lastScheduleTime := some timestamp }
    else none
  | .onBackupChange timestamp env => (s.reconciled timestamp env).map s.push
  | .removed timestamp =>
    if s.live.any fun vb => vb.timestamp = timestamp && vb.deleting then
      some (s.push (s.live.filter fun vb => vb.timestamp ≠ timestamp))
    else none
  | .setSuspend suspend => some { s with suspend }
  | e => (s.request spec e).map s.perform

/-- The system of a schedule. -/
def machine : Machine State Event := ⟨State.next spec⟩

/-- A backup is created from the list as it is, and only when no backup has failed while it was
being initialised; a backup that is deleted on a resume is not ready by now. -/
def State.Safe (s : State) (e : Event) : Prop :=
  match e, s.request spec e with
  | .onCronjobChanged v _, some (.createVMBackup _) =>
    s.backups.get v = s.live ∧ ∀ vb ∈ s.live, initFailed vb.status = false
  | .onChanged _ _, some (.deleteVMBackup timestamp) =>
    ∀ vb ∈ s.live, vb.timestamp = timestamp → isReady vb.status = false
  | _, _ => True

end

instance (spec : Spec) (s : State) (e : Event) : Decidable (s.Safe spec e) := by
  unfold State.Safe
  split <;> infer_instance

/-- A schedule without backups. -/
def State.initial : State := ⟨.init [], none, false, false, false⟩

/-- The number of failed backups since the last one that is ready. -/
def recentFailures (vbs : List VMBackup) : Nat :=
  (recent vbs).countP fun vb => vb.status.error.isSome

/-- The number of backups that are neither ready nor failed. -/
def inProgress (vbs : List VMBackup) : Nat := vbs.countP fun vb => isProcessing vb.status

/-! ### The list of backups -/

/-- A backup that is ready and is not being deleted stands at the timestamp or after it. -/
def Anchored (vbs : List VMBackup) (timestamp : Nat) : Prop :=
  ∃ vb ∈ vbs, timestamp ≤ vb.timestamp ∧ isReady vb.status = true ∧ vb.deleting = false

/-- The invariant of the list of backups; `t` is the last schedule time. -/
structure Sound (spec : Spec) (t : Option Nat) (vbs : List VMBackup) : Prop where
  ascending : Ascending vbs
  scheduled : ∀ vb ∈ vbs, ∃ n, t = some n ∧ vb.timestamp ≤ n
  /-- A backup that is ready has been initialised. -/
  initialised : ∀ vb ∈ vbs, isReady vb.status = true → isMissingStatus vb.status = false
  /-- All backups but the newest one are settled. -/
  settled : ∀ vb ∈ vbs, Settled vb.status ∨ ∀ vb' ∈ vbs, vb'.timestamp ≤ vb.timestamp
  bounded : (recent vbs).length ≤ spec.maxFailure
  /-- What is being deleted does not separate recent backups from older ones. -/
  spared : ∀ vb ∈ vbs, vb.deleting = true → isReady vb.status = true →
    Anchored vbs (vb.timestamp + 1)

/-- A sound list in which ready backups stand where they stood before, or later. -/
structure Next (spec : Spec) (t : Option Nat) (vbs vbs' : List VMBackup) : Prop
    extends Sound spec t vbs' where
  kept : ∀ n, Anchored vbs n → Anchored vbs' n

variable {spec : Spec} {t : Option Nat} {vbs : List VMBackup} {timestamp : Nat} {r : Request}

theorem sound_nil : Sound spec t [] where
  ascending := List.Pairwise.nil
  scheduled := by simp
  initialised := by simp
  settled := by simp
  bounded := Nat.zero_le _
  spared := by simp

theorem Sound.newest (h : Sound spec t vbs) {vb : VMBackup} (hvb : vb ∈ vbs)
    (hprocessing : isProcessing vb.status = true) : ∀ vb' ∈ vbs, vb'.timestamp ≤ vb.timestamp := by
  refine (h.settled vb hvb).resolve_left fun hsettled => ?_
  rw [hsettled.2] at hprocessing
  exact absurd hprocessing (by simp)

/-- **At most one backup is in progress.** -/
theorem Sound.inProgress_le (h : Sound spec t vbs) : inProgress vbs ≤ 1 := by
  rw [inProgress, List.countP_eq_length_filter]
  have hasc : Ascending (vbs.filter fun vb => isProcessing vb.status) := h.ascending.filter _
  rcases hfilter : vbs.filter fun vb => isProcessing vb.status with - | ⟨vb, - | ⟨vb', rest⟩⟩
  · rw [hfilter]
    exact Nat.zero_le _
  · rw [hfilter]
    exact Nat.le_refl _
  -- Of two backups in progress the older one would be the newest.
  have hvb := List.mem_filter.1 (hfilter ▸ List.mem_cons_self : vb ∈ vbs.filter _)
  have hvb' := List.mem_filter.1
    (hfilter ▸ List.mem_cons_of_mem _ List.mem_cons_self : vb' ∈ vbs.filter _)
  rw [hfilter] at hasc
  have hlt := List.rel_of_pairwise_cons hasc (List.mem_cons_self : vb' ∈ vb' :: rest)
  exact absurd (h.newest hvb.1 hvb.2 vb' hvb'.1) (not_le.2 hlt)

/-- **The failed backups since the last one that is ready are bounded.** -/
theorem Sound.recentFailures_le (h : Sound spec t vbs) : recentFailures vbs ≤ spec.maxFailure :=
  (List.countP_le_length).trans h.bounded

theorem countP_recent : (recent vbs).length =
    vbs.countP fun vb => vbs.all fun vb' => !isReady vb'.status || vb'.timestamp < vb.timestamp :=
  List.countP_eq_length_filter.symm

/-- A change of a backup that loses neither readiness nor a settled status, and marks one that is
ready for deletion only when a later one is ready. -/
structure Changed (vbs : List VMBackup) (vb vb' : VMBackup) : Prop where
  timestamp : vb'.timestamp = vb.timestamp
  ready : isReady vb.status = true → isReady vb'.status = true
  initialised : isReady vb'.status = true → isMissingStatus vb'.status = false
  settled : Settled vb.status → Settled vb'.status
  spared : vb'.deleting = true → isReady vb'.status = true → Anchored vbs (vb.timestamp + 1)

theorem Sound.update (h : Sound spec t vbs) {f : VMBackup → VMBackup}
    (hf : ∀ vb ∈ vbs, vb.timestamp = timestamp → Changed vbs vb (f vb)) :
    Next spec t vbs (modify timestamp f vbs) := by
  have hg : ∀ vb ∈ vbs, Changed vbs vb (if vb.timestamp = timestamp then f vb else vb) := by
    intro vb hvb
    split
    · next heq => exact hf vb hvb heq
    · exact ⟨rfl, id, h.initialised vb hvb, id, h.spared vb hvb⟩
  have hkept : ∀ n, Anchored vbs n → Anchored (modify timestamp f vbs) n := by
    rintro n ⟨vb, hvb, hle, hready, hkeep⟩
    have hvb' := hg vb hvb
    by_cases hdeleting : (if vb.timestamp = timestamp then f vb else vb).deleting = false
    · exact ⟨_, List.mem_map.2 ⟨vb, hvb, rfl⟩, hle.trans_eq hvb'.timestamp.symm,
        hvb'.ready hready, hdeleting⟩
    -- The backup is marked for deletion, and a later one stays as it is.
    obtain ⟨anchor, hanchor, hlater, hanchored⟩ :=
      hvb'.spared (by simpa using hdeleting) (hvb'.ready hready)
    have heq : vb.timestamp = timestamp := by
      by_contra hne
      simp [hne, hkeep] at hdeleting
    exact ⟨anchor, List.mem_map.2 ⟨anchor, hanchor, if_neg (by omega)⟩, by omega, hanchored⟩
  refine ⟨⟨?_, ?_, ?_, ?_, ?_, ?_⟩, hkept⟩
  · refine List.pairwise_map.2 (h.ascending.imp_of_mem fun hvb hvb' hlt => ?_)
    rwa [(hg _ hvb).timestamp, (hg _ hvb').timestamp]
  · refine List.forall_mem_map.2 fun vb hvb => ?_
    rw [(hg vb hvb).timestamp]
    exact h.scheduled vb hvb
  · exact List.forall_mem_map.2 fun vb hvb => (hg vb hvb).initialised
  · refine List.forall_mem_map.2 fun vb hvb => ?_
    refine (h.settled vb hvb).imp (hg vb hvb).settled fun hnewest => ?_
    refine List.forall_mem_map.2 fun vb' hvb' => ?_
    rw [(hg vb hvb).timestamp, (hg vb' hvb').timestamp]
    exact hnewest vb' hvb'
  · refine le_trans ?_ h.bounded
    rw [countP_recent, countP_recent, modify, List.countP_map]
    refine List.countP_mono_left fun vb hvb hlate => ?_
    simp only [Function.comp_apply, List.all_map, List.all_eq_true, (hg vb hvb).timestamp] at hlate
    rw [List.all_eq_true]
    intro vb' hvb'
    have hlater := hlate vb' hvb'
    rw [(hg vb' hvb').timestamp] at hlater
    cases hr : isReady vb'.status with
    | false => rfl
    | true => simpa [(hg vb' hvb').ready hr] using hlater
  · refine List.forall_mem_map.2 fun vb hvb hdeleting hr => ?_
    rw [(hg vb hvb).timestamp]
    exact hkept _ ((hg vb hvb).spared hdeleting hr)

theorem Sound.append (h : Sound spec (some timestamp) vbs)
    (hnew : ∀ vb ∈ vbs, vb.timestamp ≠ timestamp) (hsettled : ∀ vb ∈ vbs, Settled vb.status)
    (hroom : (recent vbs).length < spec.maxFailure) :
    Next spec (some timestamp) vbs (vbs ++ [⟨timestamp, false, Status.empty⟩]) := by
  have hlt : ∀ vb ∈ vbs, vb.timestamp < timestamp := by
    intro vb hvb
    obtain ⟨n, hn, hle⟩ := h.scheduled vb hvb
    cases hn
    exact lt_of_le_of_ne hle (hnew vb hvb)
  have hmem : ∀ {P : VMBackup → Prop}, (∀ vb ∈ vbs, P vb) → P ⟨timestamp, false, Status.empty⟩ →
      ∀ vb ∈ vbs ++ [⟨timestamp, false, Status.empty⟩], P vb := by
    intro P hvbs hlast
    exact List.forall_mem_append.2 ⟨hvbs, List.forall_mem_singleton.2 hlast⟩
  have hkept : ∀ n, Anchored vbs n →
      Anchored (vbs ++ [⟨timestamp, false, Status.empty⟩]) n := by
    rintro n ⟨vb, hvb, hanchor⟩
    exact ⟨vb, by simp [hvb], hanchor⟩
  refine ⟨⟨h.ascending.append hlt, ?_, ?_, ?_, ?_, ?_⟩, hkept⟩
  · exact hmem h.scheduled ⟨timestamp, rfl, le_refl _⟩
  · exact hmem h.initialised fun hready => absurd hready (by simp [isReady, Status.empty])
  · refine hmem (fun vb hvb => .inl (hsettled vb hvb)) (.inr ?_)
    exact hmem (fun vb hvb => (hlt vb hvb).le) (le_refl _)
  · rw [recent_append hlt rfl, List.length_append]
    exact hroom
  · refine hmem (fun vb hvb hdeleting hready => ?_) fun hdeleting => absurd hdeleting (by simp)
    exact hkept _ (h.spared vb hvb hdeleting hready)

theorem Sound.remove (h : Sound spec t vbs)
    (hdeleting : ∀ vb ∈ vbs, vb.timestamp = timestamp → vb.deleting = true) :
    Next spec t vbs (vbs.filter fun vb => vb.timestamp ≠ timestamp) := by
  have hkept :
      ∀ n, Anchored vbs n → Anchored (vbs.filter fun vb => vb.timestamp ≠ timestamp) n := by
    rintro n ⟨vb, hvb, hle, hready, hkeep⟩
    refine ⟨vb, List.mem_filter.2 ⟨hvb, ?_⟩, hle, hready, hkeep⟩
    simp only [decide_eq_true_eq]
    intro heq
    rw [hdeleting vb hvb heq] at hkeep
    exact absurd hkeep (by simp)
  refine ⟨⟨h.ascending.filter _, ?_, ?_, ?_, ?_, ?_⟩, hkept⟩
  · exact fun vb hvb => h.scheduled vb (List.mem_of_mem_filter hvb)
  · exact fun vb hvb => h.initialised vb (List.mem_of_mem_filter hvb)
  · intro vb hvb
    exact (h.settled vb (List.mem_of_mem_filter hvb)).imp_right fun hnewest vb' hvb' =>
      hnewest vb' (List.mem_of_mem_filter hvb')
  · refine le_trans ?_ h.bounded
    rw [countP_recent, countP_recent, List.countP_filter]
    refine List.countP_mono_left fun vb hvb hlate => ?_
    rw [Bool.and_eq_true, List.all_eq_true] at hlate
    rw [List.all_eq_true]
    intro vb' hvb'
    by_cases heq : vb'.timestamp = timestamp
    · -- The backup that goes: if it is ready, a later one is ready as well.
      cases hready : isReady vb'.status with
      | false => rfl
      | true =>
        obtain ⟨anchor, hanchor, hle, hr, -⟩ :=
          hkept _ (h.spared vb' hvb' (hdeleting vb' hvb' heq) hready)
        have hlater := hlate.1 anchor hanchor
        simp only [hr, Bool.not_true, Bool.false_or, decide_eq_true_eq] at hlater ⊢
        omega
    · exact hlate.1 vb' (List.mem_filter.2 ⟨hvb', by simpa using heq⟩)
  · intro vb hvb hd hready
    exact hkept _ (h.spared vb (List.mem_of_mem_filter hvb) hd hready)

theorem Sound.mark (h : Sound spec t vbs)
    (hmark : ∀ vb ∈ vbs, vb.timestamp = timestamp → isReady vb.status = true →
      Anchored vbs (timestamp + 1)) :
    Next spec t vbs (modify timestamp (fun vb => { vb with deleting := true }) vbs) :=
  h.update fun vb hvb heq =>
    ⟨rfl, id, h.initialised vb hvb, id, fun _ hready => heq ▸ hmark vb hvb heq hready⟩

theorem Sound.reconcile (h : Sound spec t vbs) {env : Backup.Env} {vb : VMBackup} {status : Status}
    (hvb : vb ∈ vbs) (hkeep : vb.deleting = false)
    (hstatus : Backup.onBackupChange env vb.status = .ok status) :
    Next spec t vbs (modify vb.timestamp (fun vb => { vb with status }) vbs) := by
  refine h.update fun vb' hvb' heq => ?_
  obtain rfl := h.ascending.eq_of_timestamp hvb' hvb heq
  exact ⟨rfl, fun hr => Backup.onBackupChange_ready hr hstatus,
    Backup.onBackupChange_initialised (h.initialised vb' hvb) hstatus,
    fun hsettled => Backup.onBackupChange_settled hsettled hstatus,
    fun hdeleting => by simp [hkeep] at hdeleting⟩

/-! ### Requests -/

theorem mem_updateSuspendState {suspend : Bool} (h : r ∈ updateSuspendState suspend) :
    r = .updateCronJob suspend ∨ r = .updateSchedule suspend := by
  simpa [updateSuspendState] using h

theorem mem_onCronjobChanged (hasc : Ascending vbs) (h : r ∈ onCronjobChanged spec vbs timestamp) :
    (r = .createVMBackup timestamp ∧ (∀ vb ∈ vbs, vb.timestamp ≠ timestamp) ∧
      (vbs = [] ∨ (currentVMBackups vbs).2.failure < spec.maxFailure ∧
        ∀ last, vbs.getLast? = some last → isProcessing last.status = false)) ∨
      r ∈ updateSuspendState true := by
  unfold onCronjobChanged at h
  split_ifs at h with hexists
  · simp at h
  have hnew : ∀ vb ∈ vbs, vb.timestamp ≠ timestamp := by simpa using hexists
  simp only [newVMBackups, lastVMBackup_eq hasc] at h
  split_ifs at h with hempty hfailure hlast
  · have hvbs : vbs = [] := by
      rw [List.isEmpty_iff, currentVMBackups, hasc.sorted_eq] at hempty
      exact hempty
    exact .inl ⟨List.mem_singleton.1 h, hnew, .inl hvbs⟩
  · exact .inr h
  · simp at h
  · refine .inl ⟨List.mem_singleton.1 h, hnew, .inr ⟨not_le.1 hfailure, fun last heq => ?_⟩⟩
    simpa [heq] using hlast

theorem mem_gcVMBackups (h : r ∈ gcVMBackups spec vbs) :
    ∃ timestamp, r = .deleteVMBackup timestamp := by
  simp only [gcVMBackups] at h
  split at h
  · simp at h
  split_ifs at h
  · simp at h
  · obtain ⟨timestamp, -, rfl⟩ := List.mem_map.1 h
    exact ⟨timestamp, rfl⟩

theorem mem_checkLHBackupUnexpectedProcessing {inFinalState : String → Except Err Bool}
    {vb : VMBackup} (h : r ∈ checkLHBackupUnexpectedProcessing inFinalState vb) :
    (∃ name, r = .deleteLHBackup name) ∨ r ∈ updateSuspendState true := by
  unfold checkLHBackupUnexpectedProcessing at h
  split_ifs at h
  · simp at h
  generalize vb.status.volumeBackups = volumeBackups at h
  fun_induction checkLHBackupUnexpectedProcessing.go inFinalState volumeBackups with
  | case1 => simp at h
  | case2 volumeBackup volumeBackups hname ih => exact ih h
  | case3 => simp at h
  | case4 volumeBackup volumeBackups name hname hfinal ih => exact ih h
  | case5 => exact (List.mem_cons.1 h).imp (fun heq => ⟨_, heq⟩) id

theorem State.reconciled_eq_some {s : State} {env : Backup.Env}
    (h : s.reconciled timestamp env = some vbs) :
    ∃ vb ∈ s.live, ∃ status, vb.timestamp = timestamp ∧ vb.deleting = false ∧
      Backup.onBackupChange env vb.status = .ok status ∧
      vbs = modify timestamp (fun vb => { vb with status }) s.live := by
  simp only [State.reconciled, Option.bind_eq_bind, Option.bind_eq_some_iff] at h
  obtain ⟨vb, hfind, _, hkeep, status, hstatus, hvbs⟩ := h
  refine ⟨vb, List.mem_of_find?_eq_some hfind, status, by simpa using List.find?_some hfind,
    by simpa using hkeep, ?_, (Option.some.inj hvbs).symm⟩
  cases hreconcile : Backup.onBackupChange env vb.status with
  | error e => simp [hreconcile, Except.toOption] at hstatus
  | ok status' => simpa [hreconcile, Except.toOption] using hstatus

/-! ### Runs -/

/-- The list of backups is sound, and behind every list that a handler may have read and that ended
with a ready backup, there is still such a backup. -/
structure Inv (spec : Spec) (s : State) : Prop where
  sound : Sound spec s.lastScheduleTime s.live
  ascending : s.backups.Since 0 Ascending
  anchored : s.backups.Since 0 fun vbs => ∀ last, vbs.getLast? = some last →
    isReady last.status = true → Anchored s.live last.timestamp

theorem inv_initial : Inv spec State.initial where
  sound := sound_nil
  ascending := fun _ _ _ => List.Pairwise.nil
  anchored := by
    intro v _ _ last hlast
    simp [State.initial, History.init] at hlast

theorem Ascending.le_last (h : Ascending vbs) {last : VMBackup} (hlast : vbs.getLast? = some last) :
    ∀ vb ∈ vbs, vb.timestamp ≤ last.timestamp := by
  rcases List.eq_nil_or_concat vbs with rfl | ⟨older, last', rfl⟩
  · simp at hlast
  rw [List.concat_eq_append] at h hlast ⊢
  obtain rfl : last' = last := by simpa using hlast
  intro vb hvb
  rcases List.mem_append.1 hvb with hvb | hvb
  · exact (h.of_append.2 vb hvb).le
  · rw [List.mem_singleton.1 hvb]

theorem Sound.anchored_last (h : Sound spec t vbs) {last : VMBackup}
    (hlast : vbs.getLast? = some last) (hready : isReady last.status = true) :
    Anchored vbs last.timestamp := by
  have hmem := List.mem_of_getLast? hlast
  cases hdeleting : last.deleting with
  | false => exact ⟨last, hmem, le_refl _, hready, hdeleting⟩
  | true =>
    obtain ⟨vb, hvb, hle, -⟩ := h.spared last hmem hdeleting hready
    have := h.ascending.le_last hlast vb hvb
    omega

variable {s s' : State}

theorem Inv.push (h : Inv spec s) (hnext : Next spec s.lastScheduleTime s.live vbs) :
    Inv spec (s.push vbs) := by
  have hlive : (s.push vbs).live = vbs := History.live_push _ _
  refine ⟨?_, h.ascending.push hnext.ascending, ?_⟩
  · rw [hlive]
    exact hnext.toSound
  · rw [hlive]
    refine History.Since.push (fun v hv hnow last hlast hready => ?_) fun _ => hnext.anchored_last
    exact hnext.kept _ (h.anchored v hv hnow last hlast hready)

theorem Inv.congr (h : Inv spec s) (hbackups : s'.backups = s.backups)
    (htime : s'.lastScheduleTime = s.lastScheduleTime) : Inv spec s' := by
  refine ⟨?_, hbackups ▸ h.ascending, ?_⟩
  · rw [htime, State.live, hbackups]
    exact h.sound
  · rw [State.live, hbackups]
    exact h.anchored

theorem Inv.updateSuspendState (h : Inv spec s) {suspend : Bool}
    (hr : r ∈ updateSuspendState suspend) : Inv spec (s.perform r) := by
  obtain rfl | rfl := mem_updateSuspendState hr
  · exact h.congr rfl rfl
  · exact h.congr rfl rfl

theorem Inv.fire (h : Inv spec s) (hlt : ∀ t ∈ s.lastScheduleTime, t < timestamp) :
    Inv spec { s with lastScheduleTime := some timestamp } := by
  obtain ⟨hsound, hascending, hanchored⟩ := h
  refine ⟨⟨hsound.ascending, fun vb hvb => ?_, hsound.initialised, hsound.settled, hsound.bounded,
    hsound.spared⟩, hascending, hanchored⟩
  obtain ⟨n, hn, hle⟩ := hsound.scheduled vb hvb
  exact ⟨timestamp, rfl, hle.trans (hlt n hn).le⟩

theorem Inv.create (h : Inv spec s) (htime : s.lastScheduleTime = some timestamp)
    (hnew : ∀ vb ∈ s.live, vb.timestamp ≠ timestamp)
    (hinit : ∀ vb ∈ s.live, initFailed vb.status = false)
    (hroom : s.live = [] ∨ (currentVMBackups s.live).2.failure < spec.maxFailure ∧
      ∀ last, s.live.getLast? = some last → isProcessing last.status = false) :
    Inv spec (s.perform (.createVMBackup timestamp)) := by
  have hexists : s.live.any (fun vb => vb.timestamp = timestamp) = false := by
    simpa using hnew
  rw [State.perform, if_neg (by simp [hexists])]
  have hsettled : ∀ vb ∈ s.live, Settled vb.status := by
    intro vb hvb
    refine (h.sound.settled vb hvb).elim id fun hnewest => ?_
    -- The newest backup is the last one, which is over and has its status.
    have hne : s.live ≠ [] := List.ne_nil_of_mem hvb
    obtain ⟨last, hlast⟩ := List.getLast?_isSome.2 hne |> Option.isSome_iff_exists.1
    have hmem := List.mem_of_getLast? hlast
    obtain rfl : vb = last := h.sound.ascending.eq_of_timestamp hvb hmem
      (le_antisymm (h.sound.ascending.le_last hlast vb hvb) (hnewest last hmem))
    have hover := (hroom.resolve_left hne).2 vb hlast
    refine ⟨?_, hover⟩
    cases hready : isReady vb.status with
    | true => exact h.sound.initialised vb hvb hready
    | false =>
      have herror : vb.status.error.isSome := by
        simpa [isProcessing, hready] using hover
      simpa [initFailed, herror] using hinit vb hvb
  have hbound : (recent s.live).length < spec.maxFailure := by
    rcases hroom with hempty | ⟨hlt, -⟩
    · rw [hempty]
      exact spec.maxFailure_pos
    · rwa [← failure_eq h.sound.ascending hsettled]
  have hsound := h.sound
  rw [htime] at hsound
  exact h.push (htime ▸ hsound.append hnew hsettled hbound)

theorem Inv.onCronjobChanged (h : Inv spec s) {v i : Nat}
    (hsafe : s.Safe spec (.onCronjobChanged v i))
    (hr : s.request spec (.onCronjobChanged v i) = some r) : Inv spec (s.perform r) := by
  have hreq := hr
  simp only [State.request, Option.bind_eq_bind, Option.bind_eq_some_iff,
    Option.guard_eq_some'] at hreq
  obtain ⟨_, hv, timestamp, htime, hget⟩ := hreq
  have hasc := h.ascending v (Nat.zero_le _) hv
  obtain ⟨rfl, hnew, hroom⟩ | hr' := mem_onCronjobChanged hasc (List.mem_of_getElem? hget)
  · simp only [State.Safe, hr] at hsafe
    obtain ⟨hview, hinit⟩ := hsafe
    rw [hview] at hnew hroom
    exact h.create htime hnew hinit hroom
  · exact h.updateSuspendState hr'

theorem Inv.onChanged (h : Inv spec s) {v i : Nat}
    (hsafe : s.Safe spec (.onChanged v i)) (hr : s.request spec (.onChanged v i) = some r) :
    Inv spec (s.perform r) := by
  have hreq := hr
  simp only [State.request, Option.bind_eq_bind, Option.bind_eq_some_iff] at hreq
  obtain ⟨_, -, hget⟩ := hreq
  have hmem := List.mem_of_getElem? hget
  simp only [updateResumeOrSuspend, handleResume] at hmem
  split_ifs at hmem
  · simp at hmem
  · exact h.updateSuspendState hmem
  · exact h.updateSuspendState hmem
  obtain ⟨vb, -, rfl⟩ := List.mem_map.1 hmem
  simp only [State.Safe, hr] at hsafe
  refine h.push (h.sound.mark fun vb' hvb' heq hready => ?_)
  rw [hsafe vb' hvb' heq] at hready
  exact absurd hready (by simp)

theorem Inv.gc (h : Inv spec s) {v i : Nat}
    (hr : s.request spec (.gc v i) = some r) : Inv spec (s.perform r) := by
  simp only [State.request, Option.bind_eq_bind, Option.bind_eq_some_iff,
    Option.guard_eq_some'] at hr
  obtain ⟨_, hv, hget⟩ := hr
  have hasc := h.ascending v (Nat.zero_le _) hv
  have hmem := List.mem_of_getElem? hget
  obtain ⟨timestamp, rfl⟩ := mem_gcVMBackups hmem
  -- The list that was read ended with a later backup that was ready.
  obtain ⟨last, hlast, hready, hlt⟩ := lt_of_mem_gcVMBackups hasc hmem
  obtain ⟨anchor, hanchor, hle, hanchored⟩ := h.anchored v (Nat.zero_le _) hv last hlast hready
  exact h.push (h.sound.mark fun _ _ _ _ => ⟨anchor, hanchor, by omega, hanchored⟩)

theorem Inv.onVMBackupChange (h : Inv spec s) {v i : Nat} {inFinalState : String → Except Err Bool}
    (hr : s.request spec (.onVMBackupChange v timestamp inFinalState i) = some r) :
    Inv spec (s.perform r) := by
  simp only [State.request, Option.bind_eq_bind, Option.bind_eq_some_iff] at hr
  obtain ⟨_, -, vb, -, hget⟩ := hr
  have hmem := List.mem_of_getElem? hget
  obtain ⟨name, rfl⟩ | hmem := mem_checkLHBackupUnexpectedProcessing hmem
  · exact h.congr rfl rfl
  · exact h.updateSuspendState hmem

theorem Inv.next {e : Event} (h : Inv spec s) (hsafe : s.Safe spec e)
    (hnext : (machine spec).next s e = some s') : Inv spec s' := by
  cases e with
  | fire timestamp =>
    simp only [machine, State.next] at hnext
    split_ifs at hnext with henabled
    cases hnext
    exact h.fire henabled.2
  | onCronjobChanged v i =>
    obtain ⟨r, hr, rfl⟩ := Option.map_eq_some_iff.1 hnext
    exact h.onCronjobChanged hsafe hr
  | onChanged v i =>
    obtain ⟨r, hr, rfl⟩ := Option.map_eq_some_iff.1 hnext
    exact h.onChanged hsafe hr
  | gc v i =>
    obtain ⟨r, hr, rfl⟩ := Option.map_eq_some_iff.1 hnext
    exact h.gc hr
  | onVMBackupChange v timestamp inFinalState i =>
    obtain ⟨r, hr, rfl⟩ := Option.map_eq_some_iff.1 hnext
    exact h.onVMBackupChange hr
  | onBackupChange timestamp env =>
    obtain ⟨vbs, hvbs, rfl⟩ := Option.map_eq_some_iff.1 hnext
    obtain ⟨vb, hvb, status, rfl, hkeep, hstatus, rfl⟩ := State.reconciled_eq_some hvbs
    exact h.push (h.sound.reconcile hvb hkeep hstatus)
  | removed timestamp =>
    simp only [machine, State.next] at hnext
    split_ifs at hnext with henabled
    cases hnext
    obtain ⟨vb, hvb, heq⟩ := List.any_eq_true.1 henabled
    simp only [Bool.and_eq_true, decide_eq_true_eq] at heq
    refine h.push (h.sound.remove fun vb' hvb' heq' => ?_)
    rw [h.sound.ascending.eq_of_timestamp hvb' hvb (heq'.trans heq.1.symm)]
    exact heq.2
  | setSuspend suspend =>
    cases hnext
    exact h.congr rfl rfl

/-- **In every safe run, at most one backup of the schedule is in progress at any time, and no more
than `maxFailure` backups have failed since the last one that is ready.** -/
theorem schedule_bounds {events : List Event}
    (hsafe : (machine spec).Along (State.Safe spec) State.initial events)
    (hrun : (machine spec).run State.initial events = some s) :
    inProgress s.live ≤ 1 ∧ recentFailures s.live ≤ spec.maxFailure := by
  have hinv : Inv spec s :=
    Machine.run_invariant (fun _ _ _ h hsafe hnext => Inv.next h hsafe hnext) inv_initial hsafe hrun
  exact ⟨hinv.sound.inProgress_le, hinv.sound.recentFailures_le⟩

namespace Sample

/-- One failure is tolerated. -/
def tolerant : Spec := ⟨2, 1, by decide, by decide⟩

/-- A VM with one volume, the backup of which goes well. -/
def working : Backup.Env where
  now := 5
  resolveSourceVM := .ok "vm"
  initVolBackups _ := .ok [⟨some "vb", none, 10, 0, some false, none⟩]
  initSecretBackups := .ok ()
  initVSCNames := .ok ()
  initBackupTarget := .ok ()
  buildCSIDriverMap := .ok ()
  reconcile _ vb := .done vb
  updateProgress _ := .ok 0
  metadataUploaded := false
  update := .ok ()

/-- The source VM is not found. -/
def noSource : Backup.Env := { working with resolveSourceVM := .error (.other "vm not found") }

/-- The CSI driver is not set up. -/
def noDriver : Backup.Env := { working with buildCSIDriverMap := .error (.other "no driver") }

/-- A backup is initialised and fails then; the next time the schedule is suspended. -/
def suspends : List Event :=
  [.fire 1, .onCronjobChanged 0 0, .onBackupChange 1 working, .onBackupChange 1 noDriver, .fire 2,
    .onCronjobChanged 3 0]

/-- The first backup fails while it is initialised, and a second one is created. -/
def second : List Event :=
  [.fire 1, .onCronjobChanged 0 0, .onBackupChange 1 noSource, .fire 2, .onCronjobChanged 2 0]

end Sample

open Sample in
/-- After one failure the cron job is suspended. -/
theorem schedule_bounds_suspended :
    ∃ s, (machine tolerant).run State.initial suspends = some s ∧ s.cronSuspend = true ∧
      inProgress s.live ≤ 1 ∧ recentFailures s.live ≤ tolerant.maxFailure := by
  have hsafe : (machine tolerant).Along (State.Safe tolerant) State.initial
      suspends := by
    decide +kernel
  exact ⟨_, Machine.run_get (by decide +kernel), by decide +kernel,
    schedule_bounds hsafe (Machine.run_get _)⟩

open Sample in
/-- **Both bounds are exceeded** after a backup has failed while it was being initialised. -/
theorem bounds_exceeded : (∃ s, (machine tolerant).run State.initial
        (second ++ [.onBackupChange 2 noSource]) = some s ∧
      tolerant.maxFailure < recentFailures s.live) ∧
    ∃ s, (machine tolerant).run State.initial
        (second ++ [.onBackupChange 1 working]) = some s ∧
      1 < inProgress s.live := by
  decide +kernel

end ScheduleVMBackup

end Harvester
