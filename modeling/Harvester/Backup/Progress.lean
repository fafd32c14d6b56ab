import Harvester.Backup.Status
import Harvester.Control.Machine
import Mathlib.Tactic.Linarith

/-!
# The progress of a VM backup

`updateConditions` reports the average of the progress of the volumes up to the first one in error,
weighted by their sizes, and never lets it go down.

`progress_sound` says when the progress stays between 0 and 100, never decreases, and is 100 only
when every volume of positive size is at 100.  `full_with_pending` is a backup at 100 with a volume
that has not been begun.
-/

namespace Harvester

namespace Backup

open Control Control.Guarded

/-- The size of volumes. -/
def size (vbs : List VolumeBackup) : Int := (vbs.map (·.volumeSize)).sum

/-- The progress of volumes, weighted by their sizes. -/
def weight (vbs : List VolumeBackup) : Int := (vbs.map fun vb => vb.progress * vb.volumeSize).sum

/-- Every volume of positive size is at 100. -/
def AllFull (vbs : List VolumeBackup) : Prop := ∀ vb ∈ vbs, 0 < vb.volumeSize → vb.progress = 100

/-- The size of a volume is not negative, and its progress is a percentage. -/
def VolumeBackup.Bounded (vb : VolumeBackup) : Prop :=
  0 ≤ vb.volumeSize ∧ 0 ≤ vb.progress ∧ vb.progress ≤ 100
  deriving Decidable

/-- **The weighted average**: it is a percentage, and 100 only if all volumes are full. -/
theorem weight_bounds {vbs : List VolumeBackup} (h : ∀ vb ∈ vbs, vb.Bounded) :
    0 ≤ size vbs ∧ 0 ≤ weight vbs ∧ weight vbs ≤ 100 * size vbs ∧
      (weight vbs = 100 * size vbs ↔ AllFull vbs) := by
  induction vbs with
  | nil => simp [size, weight, AllFull]
  | cons vb vbs ih =>
    obtain ⟨hsize, hweight, hle, hfull⟩ := ih fun v hv => h v (List.mem_cons_of_mem vb hv)
    obtain ⟨hvb, hlow, hhigh⟩ := h vb List.mem_cons_self
    have hsum : size (vb :: vbs) = vb.volumeSize + size vbs := by simp [size]
    have hwsum : weight (vb :: vbs) = vb.progress * vb.volumeSize + weight vbs := by simp [weight]
    have hnonneg : 0 ≤ vb.progress * vb.volumeSize := mul_nonneg hlow hvb
    have hmul : vb.progress * vb.volumeSize ≤ 100 * vb.volumeSize :=
      mul_le_mul_of_nonneg_right hhigh hvb
    have hone : vb.progress * vb.volumeSize = 100 * vb.volumeSize ↔
        (0 < vb.volumeSize → vb.progress = 100) := by
      rcases hvb.eq_or_lt with hzero | hpos
      · simp [← hzero]
      · simp [hpos, mul_left_inj' hpos.ne']
    rw [AllFull, List.forall_mem_cons, ← AllFull, ← hfull]
    omega

theorem average_bounds {vbs : List VolumeBackup} (h : ∀ vb ∈ vbs, vb.Bounded)
    (hsize : size vbs ≠ 0) : 0 ≤ int64 ((weight vbs).tdiv (size vbs)) ∧
      int64 ((weight vbs).tdiv (size vbs)) ≤ 100 ∧
      (int64 ((weight vbs).tdiv (size vbs)) = 100 ↔ AllFull vbs) := by
  obtain ⟨hnonneg, hweight, hle, hfull⟩ := weight_bounds h
  have hpos : 0 < size vbs := by omega
  have hlow : 0 ≤ weight vbs / size vbs := Int.ediv_nonneg hweight hnonneg
  have hhigh : weight vbs / size vbs ≤ 100 := Int.ediv_le_of_le_mul hpos hle
  have hexact : 100 ≤ weight vbs / size vbs ↔ 100 * size vbs ≤ weight vbs :=
    Int.le_ediv_iff_mul_le hpos
  rw [Int.tdiv_eq_ediv_of_nonneg hweight, int64_eq (by omega) (by omega), ← hfull]
  omega

theorem foldl_int64 {vbs : List VolumeBackup} (h : ∀ vb ∈ vbs, vb.Bounded) {a b : Int}
    (ha : 0 ≤ a) (hb : 0 ≤ b) (hasum : a + size vbs < 9223372036854775808)
    (hbsum : b + 100 * size vbs < 9223372036854775808) :
    vbs.foldl (fun a vb => int64 (a + vb.volumeSize)) a = a + size vbs ∧
      vbs.foldl (fun b vb => int64 (b + int64 (vb.progress * vb.volumeSize))) b =
        b + weight vbs := by
  induction vbs generalizing a b with
  | nil => simp [size, weight]
  | cons vb vbs ih =>
    have hrest : ∀ v ∈ vbs, v.Bounded := fun v hv => h v (List.mem_cons_of_mem vb hv)
    obtain ⟨hvb, hlow, hhigh⟩ := h vb List.mem_cons_self
    have hsize := (weight_bounds hrest).1
    have hsum : size (vb :: vbs) = vb.volumeSize + size vbs := by simp [size]
    have hnonneg : 0 ≤ vb.progress * vb.volumeSize := mul_nonneg hlow hvb
    have hmul : vb.progress * vb.volumeSize ≤ 100 * vb.volumeSize :=
      mul_le_mul_of_nonneg_right hhigh hvb
    rw [List.foldl_cons, List.foldl_cons, int64_eq (i := vb.progress * vb.volumeSize) (by omega)
      (by omega), int64_eq (by omega) (by omega), int64_eq (by omega) (by omega)]
    obtain ⟨hsizes, hweights⟩ := @ih hrest (a + vb.volumeSize) (b + vb.progress * vb.volumeSize)
      (by omega) (by omega) (by omega) (by omega)
    simp only [hweights, weight, List.map_cons, List.sum_cons]
    omega

section

variable (updateProgress : VolumeBackup → Except Err Int)

/-- What the engine reports. -/
def reported (vb : VolumeBackup) : Int :=
  match updateProgress vb with
  | .ok progress => progress
  | .error _ => 0

/-- The volumes that the loop looks at, with what the engine reports. -/
def refreshed (vbs : List VolumeBackup) : List VolumeBackup :=
  (inspected vbs).map fun vb => { vb with progress := reported updateProgress vb }

/-- The volumes that the loop does not come to. -/
def uninspected (vbs : List VolumeBackup) : List VolumeBackup := vbs.drop (inspected vbs).length

/-- The engine reports percentages, and the arithmetic does not overflow. -/
def Fits (vbs : List VolumeBackup) : Prop :=
  (∀ vb ∈ refreshed updateProgress vbs, vb.Bounded) ∧
    100 * size (refreshed updateProgress vbs) < 9223372036854775808

end

variable {updateProgress : VolumeBackup → Except Err Int} {now : Nat} {s s' : Status}
  {vbs vbs' : List VolumeBackup}

theorem scan_sums {acc acc' : Scan} (h : scan updateProgress acc vbs = .ok (acc', vbs')) :
    vbs' = refreshed updateProgress vbs ++ uninspected vbs ∧
      acc'.volumeSizeSum = (refreshed updateProgress vbs).foldl
        (fun a vb => int64 (a + vb.volumeSize)) acc.volumeSizeSum ∧
      acc'.progressWeightSum = (refreshed updateProgress vbs).foldl
        (fun a vb => int64 (a + int64 (vb.progress * vb.volumeSize))) acc.progressWeightSum := by
  induction vbs generalizing acc acc' vbs' with
  | nil =>
    cases h
    exact ⟨rfl, rfl, rfl⟩
  | cons vb vbs ih =>
    obtain ⟨progress, hprogress, h⟩ := except_bind_eq_ok.1 h
    have hreported : reported updateProgress vb = progress := by
      rw [reported, ofExcept_eq_ok.1 hprogress]
    rcases herror : vb.error with - | e
    · simp only [herror] at h
      obtain ⟨⟨acc'', vbs''⟩, hrest, h⟩ := except_bind_eq_ok.1 h
      cases h
      obtain ⟨rfl, hsize, hweight⟩ := ih hrest
      simp [refreshed, uninspected, inspected, herror, hreported, hsize, hweight]
    · simp only [herror] at h
      obtain ⟨name, -, h⟩ := except_bind_eq_ok.1 h
      cases h
      simp [refreshed, uninspected, inspected, herror, hreported]

theorem progress_setProgress (p : Int) :
    (setProgress p s).progress = if p > s.progress then p else s.progress := by
  unfold setProgress
  split <;> rfl

theorem progress_finish (result : Scan) : (finish now result s).progress =
    (if result.volumeSizeSum ≠ 0 then
      setProgress (int64 (result.progressWeightSum.tdiv result.volumeSizeSum)) s
    else s).progress := by
  simp only [finish, reportError]
  split <;> split_ifs <;> rfl

/-- **One pass**: the progress is a percentage that does not go down. -/
theorem progress_updateConditions (hfits : Fits updateProgress s.volumeBackups)
    (h : updateConditions updateProgress now s = .ok s') (hle : s.progress ≤ 100) :
    s.progress ≤ s'.progress ∧ s'.progress ≤ 100 ∧
      s'.volumeBackups = refreshed updateProgress s.volumeBackups ++ uninspected s.volumeBackups ∧
      (s'.progress = 100 ↔ s.progress = 100 ∨
        0 < size (refreshed updateProgress s.volumeBackups) ∧
          AllFull (refreshed updateProgress s.volumeBackups)) := by
  obtain ⟨s₀, result, volumeBackups, hscan, rfl, hvbs, -, -, -, hprogress⟩ :=
    exists_of_updateConditions h
  obtain ⟨rfl, hsizes, hweights⟩ := scan_sums hscan
  have hnonneg := (weight_bounds hfits.1).1
  have htotal := hfits.2
  obtain ⟨hfold, hfold'⟩ := @foldl_int64 _ hfits.1 0 0 (by omega) (by omega) (by omega) (by omega)
  rw [hfold, zero_add] at hsizes
  rw [hfold', zero_add] at hweights
  rw [(finish_keeps result).2.1, hvbs, progress_finish, hsizes, hweights, ← hprogress]
  by_cases hsize : size (refreshed updateProgress s.volumeBackups) = 0
  · simp only [hsize, ne_eq, not_true, if_false, lt_irrefl, false_and, or_false, and_true]
    omega
  obtain ⟨hlow, hhigh, hfull⟩ := average_bounds hfits.1 hsize
  have hpos : 0 < size (refreshed updateProgress s.volumeBackups) := by omega
  rw [if_pos hsize, progress_setProgress]
  simp only [true_and, ← hfull]
  split_ifs <;> omega

/-- A pass over the volumes as they are then. -/
structure Pass where
  now : Nat
  volumes : List VolumeBackup
  updateProgress : VolumeBackup → Except Err Int

/-- The status after a pass; when it fails, nothing is written. -/
def Status.pass (s : Status) (p : Pass) : Status :=
  match updateConditions p.updateProgress p.now { s with volumeBackups := p.volumes } with
  | .ok s' => s'
  | .error _ => s

/-- Passes one after the other. -/
def passes : Machine Status Pass := ⟨fun s p => some (s.pass p)⟩

/-- The arithmetic does not overflow on the percentages that the engine reports; and if the backup
is at 100, or all volumes up to the first one in error are, then so are all volumes. -/
structure Thorough (s : Status) (p : Pass) : Prop where
  fits : Fits p.updateProgress p.volumes
  full : s.progress = 100 ∨ 0 < size (refreshed p.updateProgress p.volumes) ∧
      AllFull (refreshed p.updateProgress p.volumes) →
    AllFull (refreshed p.updateProgress p.volumes) ∧ AllFull (uninspected p.volumes)

/-- The progress is a percentage, and 100 only if all volumes are full. -/
structure ProgressSound (s : Status) : Prop where
  nonneg : 0 ≤ s.progress
  le : s.progress ≤ 100
  full : s.progress = 100 → AllFull s.volumeBackups

theorem ProgressSound.pass {p : Pass} (h : ProgressSound s) (hp : Thorough s p) :
    ProgressSound (s.pass p) ∧ s.progress ≤ (s.pass p).progress := by
  unfold Status.pass
  split
  · next s' hs' =>
    obtain ⟨hmono, hle, hvbs, hfull⟩ := progress_updateConditions hp.fits hs' h.le
    have hmono : s.progress ≤ s'.progress := hmono
    have hnonneg := h.nonneg
    refine ⟨⟨by omega, hle, fun h100 => ?_⟩, hmono⟩
    obtain ⟨hseen, hrest⟩ := hp.full (hfull.1 h100)
    rw [hvbs]
    exact fun vb hvb => (List.mem_append.1 hvb).elim (hseen vb) (hrest vb)
  · exact ⟨h, le_refl _⟩

/-- **The progress of a backup** stays between 0 and 100, never decreases, and is 100 only when
every volume of positive size is, in every run whose passes are thorough. -/
theorem progress_sound {ps : List Pass} (h : ProgressSound s) (hps : passes.Along Thorough s ps)
    (hrun : passes.run s ps = some s') : ProgressSound s' ∧ s.progress ≤ s'.progress := by
  refine Machine.run_invariant (I := fun t => ProgressSound t ∧ s.progress ≤ t.progress) ?_
    ⟨h, le_refl _⟩ hps hrun
  rintro t p t' ⟨ht, hle⟩ hp hnext
  cases hnext
  obtain ⟨hsound, hmono⟩ := ht.pass hp
  exact ⟨hsound, hle.trans hmono⟩

namespace Sample

/-- One volume is done, the other one is on its way; then both are done. -/
def twoPasses : List Pass :=
  [⟨7, [done, pending], progress⟩, ⟨8, [done, { pending with readyToUse := some true }], progress⟩]

end Sample

instance (vbs : List VolumeBackup) : Decidable (AllFull vbs) :=
  inferInstanceAs (Decidable (∀ vb ∈ vbs, _ → _))

instance (s : Status) (p : Pass) : Decidable (Thorough s p) :=
  have : Decidable (Fits p.updateProgress p.volumes) := inferInstanceAs (Decidable (_ ∧ _))
  decidable_of_iff (Fits p.updateProgress p.volumes ∧ _) ⟨fun h => ⟨h.1, h.2⟩, fun h => ⟨h.1, h.2⟩⟩

open Sample in
theorem progress_sound_twoPasses : ∃ s, passes.run (status [pending]) twoPasses =
    some s ∧ ProgressSound s ∧ s.progress = 100 := by
  have hstart : ProgressSound (status [pending]) :=
    ⟨by decide, by decide, fun h => absurd h (by decide)⟩
  have hpasses : passes.Along Thorough (status [pending]) twoPasses := by
    decide
  exact ⟨_, rfl, (progress_sound hstart hpasses rfl).1, rfl⟩

open Sample in
/-- **A backup is at 100 with a volume at 0.** -/
theorem full_with_pending : ∃ s, passes.run (status [troubled, pending])
    [⟨7, [troubled, pending], progress⟩] = some s ∧ s.progress = 100 ∧
      pending ∈ s.volumeBackups ∧ ¬ ProgressSound s := by
  refine ⟨_, rfl, rfl, by decide, fun h => ?_⟩
  exact absurd (h.full rfl pending (by decide) (by decide)) (by decide)

end Backup

end Harvester
