import Harvester.ScheduleVMBackup.Schedule

/-!
# The garbage collection of a schedule

`gcVMBackups` of `pkg/controller/master/schedulevmbackup/common.go`, with the answers to its
requests, which `collect_eq` gives: the first backups in the order `inOrder`.  A backup that has
failed while it was being initialised is not cleared before the others (`retains_iff`), and the
errors of the requests are lost (`failures_reported_iff`).
-/

namespace Harvester

namespace ScheduleVMBackup

open Backup (isReady isProcessing isMissingStatus initFailed)

/-- `clearVMBackups` with the answers to the requests; errors do not end the loop. -/
def clearWith (answer : Nat → Option Err) :
    List VMBackup → (left : Nat) → (cleared : List Nat) → (Nat × List Nat) × List Err
  | [], left, cleared => ((left, cleared), [])
  | vb :: vbs, left, cleared =>
    if left = 0 then ((left, cleared), [])
    else if vb.timestamp ∈ cleared then clearWith answer vbs left cleared
    else
      let (result, errs) := clearWith answer vbs (left - 1) (cleared ++ [vb.timestamp])
      (result, (answer vb.timestamp).toList ++ errs)

/-- `gcVMBackups`: the requests that it makes, and the errors that it returns. -/
def collect (answer : Nat → Option Err) (retain : Int) (cached : List VMBackup) :
    List Nat × List Err :=
  let (vmBackups, current) := currentVMBackups cached
  match current.lastVMBackup with
  | none => ([], [])
  | some last =>
    if isProcessing last.status || last.status.error.isSome then ([], [])
    else
      let errs := []
      -- `multierr.Append` returns the appended errors; both results are dropped.
      let ((left, cleared), _) :=
        clearWith answer current.errVMBackups (vmBackups.length - retain).toNat []
      if left = 0 then (cleared, errs)
      else
        let ((_, cleared), _) := clearWith answer vmBackups left cleared
        (cleared, errs)

variable {answer : Nat → Option Err} {retain : Int} {cached vbs : List VMBackup} {vb vb' : VMBackup}

theorem currentVMBackups_fst : (currentVMBackups cached).1 = sorted cached := rfl

theorem clearWith_fst {left : Nat} {cleared : List Nat} :
    (clearWith answer vbs left cleared).1 = clearVMBackups vbs left cleared := by
  induction vbs generalizing left cleared with
  | nil => rfl
  | cons vb vbs ih =>
    unfold clearWith clearVMBackups
    split_ifs
    · rfl
    · exact ih
    · exact ih

theorem clearVMBackups_zero {cleared : List Nat} : clearVMBackups vbs 0 cleared = (0, cleared) := by
  cases vbs <;> simp [clearVMBackups]

theorem collect_eq_clearTwice : collect answer retain cached =
    (if (currentVMBackups cached).2.lastVMBackup.any fun last =>
        !isProcessing last.status && last.status.error.isNone then
      clearTwice (sorted cached) ((sorted cached).length - retain).toNat else [], []) := by
  unfold collect
  dsimp only
  rcases (currentVMBackups cached).2.lastVMBackup with _ | last
  · rfl
  cases hprocessing : isProcessing last.status <;> cases herror : last.status.error <;>
    simp only [Option.any_some, Option.isSome_none, Option.isSome_some, Option.isNone_none,
      Option.isNone_some, Bool.or_self, Bool.or_true, Bool.not_true, Bool.not_false, Bool.and_true,
      Bool.and_false, Bool.false_eq_true, if_true, if_false, hprocessing, herror, Bool.true_or]
  simp only [errVMBackups_eq, clearTwice, clearWith_fst, currentVMBackups_fst]
  split_ifs with hleft
  · rw [hleft, clearVMBackups_zero]
  · rfl

theorem gcVMBackups_eq_collect {spec : Spec} :
    gcVMBackups spec cached = (collect answer spec.retain cached).1.map .deleteVMBackup := by
  rw [collect_eq_clearTwice]
  unfold gcVMBackups
  dsimp only
  rcases (currentVMBackups cached).2.lastVMBackup with _ | last
  · rfl
  cases hprocessing : isProcessing last.status <;> cases herror : last.status.error <;>
    simp [hprocessing, herror, errVMBackups_eq, clearTwice, currentVMBackups_fst]

/-- **Failures are reported** if and only if there are none but backups that are not found. -/
theorem failures_reported_iff :
    (((∃ ts ∈ (collect answer retain cached).1, ∃ e ∈ answer ts, e.isNotFound = false) →
        (collect answer retain cached).2 ≠ []) ∧
      ∀ answer', (collect answer' retain cached).1 = (collect answer retain cached).1) ↔
    ∀ ts ∈ (collect (fun _ => none) retain cached).1, ∀ e ∈ answer ts, e.isNotFound = true := by
  simp [collect_eq_clearTwice]

namespace Sample

def doneAt (timestamp : Nat) : VMBackup :=
  ⟨timestamp, false, { Backup.initStatus "vm" with
    volumeBackups := [⟨none, none, 1, 100, some true, none⟩], readyToUse := some true }⟩

/-- The source could not be found. -/
def failedAt (timestamp : Nat) : VMBackup :=
  ⟨timestamp, false, { Backup.Status.empty with error := some ⟨none, some "vm not found"⟩ }⟩

end Sample

open Sample in
/-- **A failure is not reported**: the older of two backups cannot be deleted. -/
theorem failure_lost : collect (fun _ => some (.other "timeout")) 1
    [doneAt 1, doneAt 2] = ([1], []) := by
  have hasc : Ascending [doneAt 1, doneAt 2] := by simp [Ascending, doneAt]
  rw [collect_eq_clearTwice, currentVMBackups, hasc.sorted_eq]
  decide

theorem sorted_perm (cached : List VMBackup) : (sorted cached).Perm cached :=
  List.mergeSort_perm _ _

theorem ascending_sorted (h : (cached.map VMBackup.timestamp).Nodup) :
    Ascending (sorted cached) := by
  have hle := List.pairwise_mergeSort (fun (vb vb' vb'' : VMBackup) (h : decide
      (vb.timestamp ≤ vb'.timestamp) = true)
      (h' : decide (vb'.timestamp ≤ vb''.timestamp) = true) =>
      decide_eq_true ((of_decide_eq_true h).trans (of_decide_eq_true h')))
    (fun vb vb' => by simpa using le_total vb.timestamp vb'.timestamp) cached
  have hne := List.pairwise_map.1 (((sorted_perm cached).map VMBackup.timestamp).nodup_iff.2 h)
  exact (hle.and hne).imp fun h => lt_of_le_of_ne (of_decide_eq_true h.1) h.2

theorem sorted_eq_append {last : VMBackup} (h : (cached.map VMBackup.timestamp).Nodup)
    (hlast : last ∈ cached) (hnewest : ∀ vb ∈ cached, vb.timestamp ≤ last.timestamp) :
    ∃ older, sorted cached = older ++ [last] := by
  have hasc := ascending_sorted h
  have hmem := (sorted_perm cached).mem_iff.2 hlast
  rcases List.eq_nil_or_concat (sorted cached) with hnil | ⟨older, vb, hsplit⟩
  · simp [hnil] at hmem
  rw [List.concat_eq_append] at hsplit
  rw [hsplit] at hasc hmem
  rcases List.mem_append.1 hmem with hmem | hmem
  · have hvb : vb ∈ cached := (sorted_perm cached).mem_iff.1 (by simp [hsplit])
    exact absurd (hasc.of_append.2 last hmem) (hnewest vb hvb).not_gt
  · exact ⟨older, List.mem_singleton.1 hmem ▸ hsplit⟩

/-- **What one pass deletes.** -/
theorem collect_eq (h : (cached.map VMBackup.timestamp).Nodup) {last : VMBackup}
    (hlast : last ∈ cached) (hnewest : ∀ vb ∈ cached, vb.timestamp ≤ last.timestamp)
    (hready : isReady last.status = true) (hnoError : last.status.error = none) :
    (collect answer retain cached).1 =
      ((inOrder (sorted cached)).take (cached.length - retain).toNat).map VMBackup.timestamp := by
  obtain ⟨older, hsplit⟩ := sorted_eq_append h hlast hnewest
  have hcurrent : (currentVMBackups cached).2.lastVMBackup = some last := by
    simp [currentVMBackups, hsplit]
  rw [collect_eq_clearTwice, hcurrent, if_pos (by simp [isProcessing, hready, hnoError]),
    clearTwice_eq (ascending_sorted h), (sorted_perm cached).length_eq]

/-- The backups to be deleted besides the failed ones. -/
def excess (retain : Int) (cached : List VMBackup) : Nat :=
  (cached.length - retain).toNat - (cached.filter counted).length

/-- The number of older backups that are not among the failed ones. -/
def rank (cached : List VMBackup) (vb : VMBackup) : Nat :=
  (cached.filter (!counted ·)).countP (·.timestamp < vb.timestamp)

/-- The excess does not end between a backup without an error and a newer one that has failed while
it was being initialised. -/
def Foresighted (retain : Int) (cached : List VMBackup) : Prop :=
  ∀ vb ∈ cached, initFailed vb.status = true → ∀ vb' ∈ cached, vb'.status.error = none →
    vb'.timestamp < vb.timestamp → excess retain cached ≤ rank cached vb' ∨
      rank cached vb < excess retain cached
  deriving Decidable

/-- Failed backups are deleted first, then the oldest, as many as are too much, but never the
newest. -/
structure Retains (retain : Int) (cached : List VMBackup) (deleted : List Nat) : Prop where
  length : deleted.length = (cached.length - retain).toNat
  nodup : deleted.Nodup
  mem : ∀ ts ∈ deleted, ∃ vb ∈ cached, vb.timestamp = ts
  failed_first : ∀ vb ∈ cached, vb.status.error ≠ none → vb.timestamp ∉ deleted →
    ∀ vb' ∈ cached, vb'.timestamp ∈ deleted → vb'.status.error ≠ none
  oldest : ∀ vb ∈ cached, ∀ vb' ∈ cached, vb.status.error = none → vb'.status.error = none →
    vb.timestamp < vb'.timestamp → vb'.timestamp ∈ deleted → vb.timestamp ∈ deleted
  newest : ∀ vb ∈ cached, (∀ vb' ∈ cached, vb'.timestamp ≤ vb.timestamp) → vb.timestamp ∉ deleted

theorem Ascending.mem_take_iff (h : Ascending vbs) (hvb : vb ∈ vbs) {n : Nat} :
    vb ∈ vbs.take n ↔ vbs.countP (·.timestamp < vb.timestamp) < n := by
  induction vbs generalizing n with
  | nil => simp at hvb
  | cons a vbs ih =>
    obtain ⟨hlt, h⟩ := List.pairwise_cons.1 h
    rcases List.mem_cons.1 hvb with rfl | hvb
    · have hcount : (vb :: vbs).countP (·.timestamp < vb.timestamp) = 0 := by
        simpa using fun vb' hvb' => (hlt vb' hvb').le
      cases n <;> simp [hcount]
    · have hne : vb ≠ a := fun heq => (hlt vb hvb).ne (by rw [heq])
      rw [List.countP_cons_of_pos (by simpa using hlt vb hvb)]
      cases n <;> simp [hne, ih h hvb]

theorem rank_mono (hle : vb.timestamp ≤ vb'.timestamp) : rank cached vb ≤ rank cached vb' :=
  List.countP_mono_left fun x _ hx => by simpa using (of_decide_eq_true hx).trans_le hle

theorem counted_of_noError (h : vb.status.error = none) : counted vb = false := by
  simp [counted, h]

theorem counted_of_initFailed (h : initFailed vb.status = true) : counted vb = false := by
  simp_all [counted, initFailed]

/-- Before any other backup is deleted, those are that are counted as failed. -/
theorem timestamp_mem_of_counted (hvb : vb ∈ cached) (hcounted : counted vb = true)
    (hexcess : 0 < excess retain cached) :
    vb.timestamp ∈ ((inOrder (sorted cached)).take (cached.length - retain).toNat).map
      VMBackup.timestamp := by
  rw [excess, ← ((sorted_perm cached).filter counted).length_eq] at hexcess
  have hmem : vb ∈ (sorted cached).filter counted :=
    List.mem_filter.2 ⟨(sorted_perm cached).mem_iff.2 hvb, hcounted⟩
  refine List.mem_map_of_mem ?_
  rw [inOrder, List.take_append, List.take_of_length_le (by omega)]
  exact List.mem_append_left _ hmem

section

variable (hdistinct : (cached.map VMBackup.timestamp).Nodup)
include hdistinct

theorem timestamp_mem_iff (hvb : vb ∈ cached) (hcounted : counted vb = false) :
    vb.timestamp ∈ ((inOrder (sorted cached)).take (cached.length - retain).toNat).map
      VMBackup.timestamp ↔ rank cached vb < excess retain cached := by
  have hasc := ascending_sorted hdistinct
  have hvb := (sorted_perm cached).mem_iff.2 hvb
  have hother : vb ∈ (sorted cached).filter (!counted ·) :=
    List.mem_filter.2 ⟨hvb, by simp [hcounted]⟩
  rw [rank, excess, ← ((sorted_perm cached).filter _).countP_eq,
    ← ((sorted_perm cached).filter counted).length_eq,
    ← Ascending.mem_take_iff (hasc.sublist List.filter_sublist) hother]
  refine ⟨fun hmem => ?_, fun hmem => List.mem_map_of_mem ?_⟩
  · obtain ⟨vb', hvb', heq⟩ := List.mem_map.1 hmem
    have hmem' := (inOrder_perm _).mem_iff.1 (List.mem_of_mem_take hvb')
    obtain rfl := hasc.eq_of_timestamp hmem' hvb heq
    rw [inOrder, List.take_append, List.mem_append] at hvb'
    refine hvb'.resolve_left fun hvb' => ?_
    have := List.of_mem_filter (List.mem_of_mem_take hvb')
    simp [hcounted] at this
  · rw [inOrder, List.take_append, List.mem_append]
    exact .inr hmem

/-- **One pass retains the right backups** if and only if it is foresighted. -/
theorem retains_iff {last : VMBackup} (hlast : last ∈ cached)
    (hnewest : ∀ vb ∈ cached, vb.timestamp ≤ last.timestamp) (hready : isReady last.status = true)
    (hnoError : last.status.error = none) (hretain : 1 ≤ retain) :
    Retains retain cached (collect (fun _ => none) retain cached).1 ↔
      Foresighted retain cached := by
  rw [collect_eq hdistinct hlast hnewest hready hnoError]
  have hperm := (inOrder_perm _).trans (sorted_perm cached)
  have hmem {vb} (hvb : vb ∈ cached) (hcounted : counted vb = false) :=
    @timestamp_mem_iff retain cached vb hdistinct hvb hcounted
  constructor
  · rintro hretains vb hvb hfailed vb' hvb' hnone -
    have hvbError : vb.status.error ≠ none := by
      simpa [Option.isSome_iff_ne_none] using (Bool.and_eq_true_iff.1 hfailed).2
    by_contra hboundary
    rw [not_or, not_le, not_lt] at hboundary
    refine hretains.failed_first vb hvb hvbError ?_ vb' hvb' ?_ hnone
    · rw [hmem hvb (counted_of_initFailed hfailed)]
      exact hboundary.2.not_gt
    · exact (hmem hvb' (counted_of_noError hnone)).2 hboundary.1
  · intro hforesighted
    refine ⟨?_, ?_, fun ts hts => ?_, fun vb hvb herror hspared vb' hvb' hdeleted hnone => ?_,
      fun vb hvb vb' hvb' hnone hnone' hlt hdeleted => ?_, fun vb hvb hmax hdeleted => ?_⟩
    · rw [List.length_map, List.length_take, hperm.length_eq]
      omega
    · exact ((hperm.map _).nodup_iff.2 hdistinct).sublist ((List.take_sublist _ _).map _)
    · obtain ⟨vb, hvb, rfl⟩ := List.mem_map.1 hts
      exact ⟨vb, hperm.mem_iff.1 (List.mem_of_mem_take hvb), rfl⟩
    · -- With a backup without an error, all that are counted as failed are deleted.
      have hrank' := (hmem hvb' (counted_of_noError hnone)).1 hdeleted
      cases hcounted : counted vb with
      | true => exact hspared (timestamp_mem_of_counted hvb hcounted (by omega))
      | false =>
        have hrank := mt (hmem hvb hcounted).2 hspared
        have hfailed : initFailed vb.status = true := by
          simp_all [counted, initFailed, Option.isSome_iff_ne_none]
        have hlt : vb'.timestamp < vb.timestamp := by
          by_contra hle
          exact hrank ((rank_mono (not_lt.1 hle)).trans_lt hrank')
        have := hforesighted vb hvb hfailed vb' hvb' hnone hlt
        omega
    · rw [hmem hvb (counted_of_noError hnone)]
      exact (rank_mono hlt.le).trans_lt ((hmem hvb' (counted_of_noError hnone')).1 hdeleted)
    · obtain ⟨older, hsplit⟩ := sorted_eq_append hdistinct hlast hnewest
      have hlength := (sorted_perm cached).length_eq
      rw [hsplit, List.length_append, List.length_singleton] at hlength
      obtain ⟨vb', hvb', heq⟩ := List.mem_map.1 hdeleted
      rw [hsplit] at hvb'
      have holder := mem_of_mem_take_inOrder (counted_of_noError hnoError) (by omega) hvb'
      have hlt := (hsplit ▸ ascending_sorted hdistinct).of_append.2 vb' holder
      exact absurd (hmax last hlast) (by omega)

end

open Sample in
/-- With two of four backups to be retained, the failed one and the oldest one are deleted. -/
theorem retains_iff_fourBackups : Retains 2
    [doneAt 1, failedAt 2, doneAt 3, doneAt 4]
    (collect (fun _ => none) 2
      [doneAt 1, failedAt 2, doneAt 3, doneAt 4]).1 :=
  (@retains_iff _ _ (by decide) (doneAt 4) (by decide) (by decide) rfl rfl (by decide)).2
    (by decide)

open Sample in
/-- **A failed backup is retained** in the place of one that is ready. -/
theorem failed_retained : ¬ Retains 2 [doneAt 1, failedAt 2, doneAt 3]
    (collect (fun _ => none) 2 [doneAt 1, failedAt 2, doneAt 3]).1 := by
  intro h
  have hasc : Ascending [doneAt 1, failedAt 2, doneAt 3] := by
    simp [Ascending, doneAt, failedAt]
  rw [collect_eq_clearTwice, currentVMBackups, hasc.sorted_eq] at h
  exact h.failed_first (failedAt 2) (by decide) (by decide) (by decide) (doneAt 1)
    (by decide) (by decide) rfl

end ScheduleVMBackup

end Harvester
