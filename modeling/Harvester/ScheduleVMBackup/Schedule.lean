import Harvester.Backup.Controller
import Mathlib.Data.List.Induction
import Mathlib.Data.List.Sort

/-!
# Scheduled backups

The controller of `pkg/controller/master/schedulevmbackup`.  Each handler lists the backups in its
cache and derives from the list whether the last one is still in progress and how many have failed
since the last one that is ready (`currentVMBackups`).  A handler is the list of the requests that
it makes when the requests before them succeed.

Backups without a status are left out of the count.  `failure_eq` says what the count is when there
are none; `lt_of_mem_gcVMBackups` says that the garbage collection spares the last backup.
-/

namespace Harvester

namespace ScheduleVMBackup

open Backup (Status isReady isProcessing isMissingStatus initFailed Settled)

/-- A VM backup of the schedule.  Its name is made of the schedule's UID and the timestamp. -/
structure VMBackup where
  timestamp : Nat
  deleting : Bool
  status : Status
  deriving DecidableEq, Repr

/-- The settings of a `ScheduleVMBackup`, as its validator accepts them. -/
structure Spec where
  retain : Nat
  maxFailure : Nat
  maxFailure_pos : 1 ≤ maxFailure
  maxFailure_lt_retain : maxFailure < retain

/-- The requests of the controller. -/
inductive Request where
  | createVMBackup (timestamp : Nat)
  | deleteVMBackup (timestamp : Nat)
  | updateCronJob (suspend : Bool)
  /-- Write the state and the wish into the schedule. -/
  | updateSchedule (suspend : Bool)
  | deleteLHBackup (name : String)
  deriving DecidableEq, Repr

/-- What `currentVMBackups` returns besides the list. -/
structure Current where
  errVMBackups : List VMBackup
  lastVMBackup : Option VMBackup
  failure : Nat

/-- The body of the loop of `currentVMBackups`. -/
def Current.add (c : Current) (vb : VMBackup) : Current :=
  if isMissingStatus vb.status then { c with lastVMBackup := some vb }
  else
    let errVMBackups := if vb.status.error.isSome then c.errVMBackups ++ [vb] else c.errVMBackups
    let failure := if vb.status.error.isSome then c.failure + 1 else c.failure
    ⟨errVMBackups, some vb, if isReady vb.status then 0 else failure⟩

/-- The backups by their timestamps. -/
def sorted (cached : List VMBackup) : List VMBackup :=
  cached.mergeSort fun vb vb' => vb.timestamp ≤ vb'.timestamp

/-- The state of the schedule. -/
def currentVMBackups (cached : List VMBackup) : List VMBackup × Current :=
  (sorted cached, (sorted cached).foldl Current.add ⟨[], none, 0⟩)

/-- The schedule is suspended or resumed. -/
def updateSuspendState (suspend : Bool) : List Request :=
  [.updateCronJob suspend, .updateSchedule suspend]

section

variable (spec : Spec) (cached : List VMBackup)

/-- The requests of the cron job. -/
def newVMBackups (timestamp : Nat) : List Request :=
  let (oldVMBackups, current) := currentVMBackups cached
  if oldVMBackups.isEmpty then [.createVMBackup timestamp]
  else if current.failure ≥ spec.maxFailure then updateSuspendState true
  else if current.lastVMBackup.any fun last => isProcessing last.status then []
  else [.createVMBackup timestamp]

/-- `OnCronjobChanged` for a cron job that has been scheduled less than a minute ago. -/
def onCronjobChanged (timestamp : Nat) : List Request :=
  if cached.any fun vb => vb.timestamp = timestamp then [] else newVMBackups spec cached timestamp

/-- The requests of a resume. -/
def handleResume : List Request :=
  let (_, current) := currentVMBackups cached
  if current.failure < spec.maxFailure then updateSuspendState false
  else current.errVMBackups.map fun vb => .deleteVMBackup vb.timestamp

/-- `updateResumeOrSuspend`, by the wish and the state of the schedule. -/
def updateResumeOrSuspend (suspend suspended : Bool) : List Request :=
  if suspend = suspended then []
  else if suspend then updateSuspendState true
  else handleResume spec cached

/-- `clearVMBackups`: how many are left, and the timestamps of those cleared. -/
def clearVMBackups : List VMBackup → (left : Nat) → (cleared : List Nat) → Nat × List Nat
  | [], left, cleared => (left, cleared)
  | vb :: vbs, left, cleared =>
    if left = 0 then (left, cleared)
    else if vb.timestamp ∈ cleared then clearVMBackups vbs left cleared
    else clearVMBackups vbs (left - 1) (cleared ++ [vb.timestamp])

/-- `gcVMBackups`: the failed backups are cleared first, then the oldest ones. -/
def gcVMBackups : List Request :=
  let (vmBackups, current) := currentVMBackups cached
  match current.lastVMBackup with
  | none => []
  | some last =>
    if isProcessing last.status || last.status.error.isSome then []
    else
      let (left, cleared) :=
        clearVMBackups current.errVMBackups (vmBackups.length - spec.retain) []
      (clearVMBackups vmBackups left cleared).2.map .deleteVMBackup

end

/-- A backup is over, and one of its Longhorn backups is not, as `inFinalState` finds. -/
def checkLHBackupUnexpectedProcessing (inFinalState : String → Except Err Bool) (vb : VMBackup) :
    List Request :=
  if isProcessing vb.status then [] else go vb.status.volumeBackups
where
  /-- The loop over the volumes. -/
  go : List Backup.VolumeBackup → List Request
    | [] => []
    | volumeBackup :: volumeBackups =>
      match volumeBackup.longhornBackupName with
      | none => go volumeBackups
      | some name =>
        match inFinalState name with
        | .error _ => []
        | .ok true => go volumeBackups
        | .ok false => .deleteLHBackup name :: updateSuspendState true

/-- The backups after the last one that is ready. -/
def recent (vbs : List VMBackup) : List VMBackup :=
  vbs.filter fun vb => vbs.all fun vb' => !isReady vb'.status || vb'.timestamp < vb.timestamp

/-- The timestamps go up. -/
def Ascending (vbs : List VMBackup) : Prop :=
  vbs.Pairwise fun vb vb' => vb.timestamp < vb'.timestamp

variable {vbs : List VMBackup} {vb : VMBackup} {spec : Spec}

theorem Ascending.sorted_eq (h : Ascending vbs) : sorted vbs = vbs := by
  refine List.mergeSort_of_pairwise (h.imp fun hlt => ?_)
  simpa using hlt.le

theorem Ascending.append (h : Ascending vbs) (hlt : ∀ vb' ∈ vbs, vb'.timestamp < vb.timestamp) :
    Ascending (vbs ++ [vb]) := by
  refine List.pairwise_append.2 ⟨h, List.pairwise_singleton _ _, fun vb' hvb' x hx => ?_⟩
  rw [List.mem_singleton.1 hx]
  exact hlt vb' hvb'

theorem Ascending.of_append (h : Ascending (vbs ++ [vb])) :
    Ascending vbs ∧ ∀ vb' ∈ vbs, vb'.timestamp < vb.timestamp := by
  obtain ⟨hvbs, -, hlt⟩ := List.pairwise_append.1 h
  exact ⟨hvbs, fun vb' hvb' => hlt vb' hvb' vb (by simp)⟩

theorem recent_append (hlt : ∀ vb' ∈ vbs, vb'.timestamp < vb.timestamp)
    (hready : isReady vb.status = false) : recent (vbs ++ [vb]) = recent vbs ++ [vb] := by
  have hlast : (vbs ++ [vb]).all (fun vb' => !isReady vb'.status || vb'.timestamp < vb.timestamp) =
      true := by
    simp only [List.all_append, List.all_cons, List.all_nil, hready, Bool.and_true, Bool.not_false,
      Bool.true_or, List.all_eq_true]
    intro vb' hvb'
    simp [hlt vb' hvb']
  rw [recent, List.filter_append, List.filter_singleton, hlast]
  simp only [List.all_append, List.all_cons, List.all_nil, hready, Bool.and_true, Bool.not_false,
    Bool.true_or]
  rfl

theorem recent_append_of_ready (hlt : ∀ vb' ∈ vbs, vb'.timestamp < vb.timestamp)
    (hready : isReady vb.status = true) : recent (vbs ++ [vb]) = [] := by
  refine List.filter_eq_nil_iff.2 fun vb' hvb' hall => ?_
  have hvb := List.all_eq_true.1 hall vb (by simp)
  simp only [hready, Bool.not_true, Bool.false_or, decide_eq_true_eq] at hvb
  rcases List.mem_append.1 hvb' with hvb' | hvb'
  · exact absurd hvb (hlt vb' hvb').le.not_gt
  · rw [List.mem_singleton.1 hvb'] at hvb
    exact lt_irrefl _ hvb

@[simp] theorem Current.lastVMBackup_add (c : Current) (vb : VMBackup) :
    (c.add vb).lastVMBackup = some vb := by
  unfold Current.add
  split_ifs <;> rfl

theorem Current.failure_add_of_ready (c : Current) (hmissing : isMissingStatus vb.status = false)
    (hready : isReady vb.status = true) : (c.add vb).failure = 0 := by
  simp [Current.add, hmissing, hready]

theorem Current.failure_add_of_failed (c : Current) (hs : Settled vb.status)
    (hready : isReady vb.status = false) : (c.add vb).failure = c.failure + 1 := by
  have herror : vb.status.error.isSome := by
    simpa [isProcessing, hready] using hs.2
  simp [Current.add, hs.1, hready, herror]

/-- **When all backups are settled, the count is the number of backups since the last one that is
ready.** -/
theorem failure_eq (hasc : Ascending vbs) (hsettled : ∀ vb ∈ vbs, Settled vb.status) :
    (currentVMBackups vbs).2.failure = (recent vbs).length := by
  rw [currentVMBackups, hasc.sorted_eq]
  induction vbs using List.reverseRecOn with
  | nil => rfl
  | append_singleton vbs vb ih =>
    obtain ⟨hasc', hlt⟩ := hasc.of_append
    have hcount := ih hasc' fun vb' hvb' => hsettled vb' (by simp [hvb'])
    have hvb := hsettled vb (by simp)
    rw [List.foldl_append, List.foldl_cons, List.foldl_nil]
    cases hready : isReady vb.status with
    | true =>
      rw [Current.failure_add_of_ready _ hvb.1 hready, recent_append_of_ready hlt hready,
        List.length_nil]
    | false =>
      rw [Current.failure_add_of_failed _ hvb hready, recent_append hlt hready, hcount,
        List.length_append, List.length_singleton]

theorem lastVMBackup_eq (hasc : Ascending vbs) :
    (currentVMBackups vbs).2.lastVMBackup = vbs.getLast? := by
  rw [currentVMBackups, hasc.sorted_eq]
  rcases List.eq_nil_or_concat vbs with rfl | ⟨vbs, vb, rfl⟩
  · rfl
  · simp

/-- The backup is among the failed ones that `currentVMBackups` returns. -/
def counted (vb : VMBackup) : Bool := !isMissingStatus vb.status && vb.status.error.isSome

theorem errVMBackups_eq (vbs : List VMBackup) :
    (currentVMBackups vbs).2.errVMBackups = (sorted vbs).filter counted := by
  rw [currentVMBackups]
  generalize sorted vbs = vbs
  induction vbs using List.reverseRecOn with
  | nil => rfl
  | append_singleton vbs vb ih =>
    rw [List.filter_append, ← ih]
    cases hmissing : isMissingStatus vb.status <;> cases herror : vb.status.error.isSome <;>
      simp [Current.add, counted, hmissing, herror]

theorem Ascending.nodup (h : Ascending vbs) : (vbs.map VMBackup.timestamp).Nodup :=
  List.pairwise_map.2 (h.imp fun hlt => hlt.ne)

theorem Ascending.eq_of_timestamp (h : Ascending vbs) {vb' : VMBackup} (hvb : vb ∈ vbs)
    (hvb' : vb' ∈ vbs) (heq : vb.timestamp = vb'.timestamp) : vb = vb' :=
  List.inj_on_of_nodup_map h.nodup hvb hvb' heq

/-- `clearVMBackups` clears the first backups that have not been cleared yet. -/
theorem clearVMBackups_eq {left : Nat} {cleared : List Nat}
    (hnodup : (vbs.map VMBackup.timestamp).Nodup) :
    clearVMBackups vbs left cleared =
      (left - (vbs.filter (·.timestamp ∉ cleared)).length,
        cleared ++ ((vbs.filter (·.timestamp ∉ cleared)).take left).map VMBackup.timestamp) := by
  induction vbs generalizing left cleared with
  | nil => simp [clearVMBackups]
  | cons vb vbs ih =>
    obtain ⟨hvb, hnodup⟩ := List.nodup_cons.1 hnodup
    unfold clearVMBackups
    split_ifs with hleft hmem
    · simp [hleft]
    · simp [ih hnodup, hmem]
    -- The other backups have other timestamps, so clearing this one does not matter for them.
    have hrest : vbs.filter (·.timestamp ∉ cleared ++ [vb.timestamp]) =
        vbs.filter (·.timestamp ∉ cleared) := by
      refine List.filter_congr fun vb' hvb' => ?_
      have hne : vb'.timestamp ≠ vb.timestamp := fun heq => hvb (heq ▸ List.mem_map_of_mem hvb')
      simp [hne]
    obtain ⟨left, rfl⟩ := Nat.exists_eq_succ_of_ne_zero hleft
    rw [ih hnodup, hrest]
    simp [hmem]

/-- The two passes of the garbage collection. -/
def clearTwice (vbs : List VMBackup) (target : Nat) : List Nat :=
  (clearVMBackups vbs (clearVMBackups (vbs.filter counted) target []).1
    (clearVMBackups (vbs.filter counted) target []).2).2

/-- The order in which backups are cleared. -/
def inOrder (vbs : List VMBackup) : List VMBackup :=
  vbs.filter counted ++ vbs.filter (!counted ·)

theorem inOrder_perm (vbs : List VMBackup) : (inOrder vbs).Perm vbs := List.filter_append_perm _ _

theorem clearTwice_eq (h : Ascending vbs) (target : Nat) :
    clearTwice vbs target = ((inOrder vbs).take target).map VMBackup.timestamp := by
  have herrs : ((vbs.filter counted).map VMBackup.timestamp).Nodup :=
    h.nodup.sublist (List.filter_sublist.map _)
  rw [clearTwice, clearVMBackups_eq herrs, clearVMBackups_eq h.nodup]
  simp only [List.not_mem_nil, not_false_eq_true, decide_true, List.filter_true, inOrder,
    List.take_append, List.map_append]
  rcases Nat.le_total target (vbs.filter counted).length with hle | hle
  · simp [Nat.sub_eq_zero_of_le hle]
  congr 3
  refine List.filter_congr fun vb hvb => ?_
  have hmem : vb.timestamp ∈ (vbs.filter counted).map VMBackup.timestamp ↔ counted vb = true := by
    refine ⟨fun hmem => ?_, fun hvb' => List.mem_map_of_mem (List.mem_filter.2 ⟨hvb, hvb'⟩)⟩
    obtain ⟨vb', hvb', heq⟩ := List.mem_map.1 hmem
    obtain ⟨hvb', hcounted⟩ := List.mem_filter.1 hvb'
    exact h.eq_of_timestamp hvb' hvb heq ▸ hcounted
  rw [List.take_of_length_le hle]
  simp [hmem]

theorem mem_of_mem_take_inOrder {older : List VMBackup} {last : VMBackup} {target : Nat}
    (hlast : counted last = false) (htarget : target ≤ older.length)
    (h : vb ∈ (inOrder (older ++ [last])).take target) : vb ∈ older := by
  have hsplit : inOrder (older ++ [last]) = inOrder older ++ [last] := by simp [inOrder, hlast]
  rw [hsplit, List.take_append_of_le_length ((inOrder_perm older).length_eq ▸ htarget)] at h
  exact (inOrder_perm older).mem_iff.1 (List.mem_of_mem_take h)

/-- **The garbage collection starts when the last backup is ready, and clears older ones only.** -/
theorem lt_of_mem_gcVMBackups {ts : Nat} (hasc : Ascending vbs)
    (h : .deleteVMBackup ts ∈ gcVMBackups spec vbs) :
    ∃ last, vbs.getLast? = some last ∧ isReady last.status = true ∧ ts < last.timestamp := by
  rcases List.eq_nil_or_concat vbs with rfl | ⟨older, last, rfl⟩
  · simp [gcVMBackups, currentVMBackups, sorted] at h
  rw [List.concat_eq_append] at h hasc ⊢
  refine ⟨last, by simp, ?_⟩
  have hlast : (currentVMBackups (older ++ [last])).2.lastVMBackup = some last := by
    simp [lastVMBackup_eq hasc]
  simp only [gcVMBackups, hlast] at h
  split_ifs at h with hover
  · simp at h
  simp only [Bool.or_eq_true, not_or, Bool.not_eq_true, Option.isSome_eq_false_iff] at hover
  obtain ⟨hprocessing, hnoError⟩ := hover
  refine ⟨by simpa [isProcessing, hnoError] using hprocessing, ?_⟩
  obtain ⟨ts', hts', heq⟩ := List.mem_map.1 h
  obtain rfl := Request.deleteVMBackup.inj heq
  rw [errVMBackups_eq, currentVMBackups, hasc.sorted_eq] at hts'
  change ts' ∈ clearTwice (older ++ [last]) ((older ++ [last]).length - spec.retain) at hts'
  rw [clearTwice_eq hasc] at hts'
  obtain ⟨vb, hvb, rfl⟩ := List.mem_map.1 hts'
  have hretain := spec.maxFailure_lt_retain
  refine hasc.of_append.2 vb (mem_of_mem_take_inOrder (by simp [counted, hnoError]) ?_ hvb)
  rw [List.length_append, List.length_singleton]
  omega

end ScheduleVMBackup

end Harvester
