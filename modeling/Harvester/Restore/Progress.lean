import Harvester.Restore.Completion

/-!
# The progress of a restore

The progress of a restore is the average of the progress of its volumes, weighted by their sizes.
It never goes back (`SetProgress`), and before the VM is started it is to be at most 90.  But
`RectifyProgressBeforeVMStart` lowers it by way of `SetProgress`, so it does nothing
(`rectifyProgressBeforeVMStart_eq`).

`progress_before_start`: in every run of the restore controller and of the handler that notes the
sizes of the volumes, the progress never goes back, and it is at most 90 until the VM has been seen
started or the restore is complete, provided that the averages are at most 90 up to there and at
most 100 afterwards.
-/

namespace Harvester

namespace Restore

open Control Action

/-- `updateVolumeRestoreMetrics` of the Longhorn engine: the size of a volume is noted down. -/
def updateVolumeRestoreMetrics (fault : Fault) (vmr : VMRestore) (pvc : Key) (volumeSize : Int)
    (engineName : String) : Act Unit :=
  match vmr.status.volumeRestores.findIdx? fun vr =>
      vr.pvcNamespace = pvc.ns && vr.pvcName = pvc.name with
  | none => pure ()
  | some i =>
    let restores := vmr.status.restores.map fun vrs =>
      vrs.modify i fun vr => { vr with longhornEngineName := some engineName, volumeSize }
    let status := { vmr.status with restores }
    if vmr.status = status then pure ()
    else Action.request fault requestFailed (putVMRestore { vmr with status })

/-- A restore is reconciled, or a Longhorn engine has changed. -/
inductive ProgressStep where
  | reconcile (env : Env)
  | engineChanged (fault : Fault) (pvc : Key) (volumeSize : Int) (engineName : String)

/-- What happens to the restore under the key. -/
def progressMachine (k : Key) : Machine Server ProgressStep where
  next s step := (s.vmRestores.get k).map fun vmr => match step with
    | .reconcile env => ((restoreOnChanged env vmr).run s).2
    | .engineChanged fault pvc volumeSize engineName =>
      ((updateVolumeRestoreMetrics fault vmr pvc volumeSize engineName).run s).2

/-- The average that `updateProgressMetrics` computes, if it gets there. -/
def averageProgress (env : Env) (vmr : VMRestore) : Option Int :=
  (updateVolumeProgress env 0 0 vmr.status.volumeRestores.zipIdx).2.bind fun sums =>
    if 0 < sums.1 then some (sums.2.tdiv sums.1) else none

/-- A reconcile has seen the VM started. -/
def Started (s : Server) : Prop := ∃ e ∈ s.trace, e.observesReadyVM = true
  deriving Decidable

/-- The volumes are ready, and the VM is started or shall stay halted. -/
def Finishes (env : Env) (vmr : VMRestore) (vmb : VMBackup) (s : Server) : Prop :=
  vmr.hasOwnerReference = true ∧ ∃ vm, ((reconcileResources env vmr vmb).run s).1 = .ok (vm, true) ∧
    (vmr.spec.haltAfterRestore = true ∨ vm.ready = true)

/-- A progress that may be stored: at most 100, and at most 90 before the VM is started. -/
def Bounded (started : Prop) (progress : Int) : Prop :=
  progress ≤ 100 ∧ (started ∨ progress ≤ VMRestore.progressBeforeVMStart)

/-- A reconcile that does not finish finds an average that may be stored. -/
def Moderate (k : Key) (s : Server) : ProgressStep → Prop
  | .reconcile env => ∀ vmr ∈ s.vmRestores.get k, ∀ vmb, Restoring env vmr vmb →
      ¬ Finishes env vmr vmb s → ∀ q ∈ averageProgress env vmr,
        Bounded (Started ((reconcileResources env vmr vmb).run s).2) q
  | .engineChanged .. => True

/-- The progress is at least `p`, and may be stored until the restore is complete. -/
structure Tracked (p : Int) (started : Prop) (vmr : VMRestore) : Prop where
  progress : p ≤ vmr.status.progress
  bounded : vmr.isComplete = true ∨ Bounded started vmr.status.progress
  initial : vmr.hasStatus = true ∨ vmr.status.progress = 0

/-- The restore under the key is tracked. -/
def Tracks (k : Key) (p : Int) (s : Server) : Prop :=
  ∀ vmr ∈ s.vmRestores.get k, Tracked p (Started s) vmr

/-- The stored restore is tracked, and so is the version `vmr` in hand. -/
structure Follows (k : Key) (p : Int) (vmr : VMRestore) (s : Server) : Prop where
  tracks : Tracks k p s
  own : Tracked p (Started s) vmr

variable {env : Env} {vmr vmrCpy new : VMRestore} {vmb : VMBackup} {k : Key} {p : Int}
  {s s' : Server}

/-- **The rectification does nothing.** -/
theorem rectifyProgressBeforeVMStart_eq (vmr : VMRestore) :
    vmr.rectifyProgressBeforeVMStart = vmr := by
  unfold VMRestore.rectifyProgressBeforeVMStart
  split
  · rfl
  · next h => exact if_neg fun hlt => h (Int.le_of_lt hlt)

theorem Started.append (e : Event) (h : Started s) (hs : s'.trace = s.trace ++ [e]) :
    Started s' := by
  obtain ⟨e', he', hready⟩ := h
  exact ⟨e', hs ▸ List.mem_append_left _ he', hready⟩

theorem Tracked.mono {started started' : Prop} (h : Tracked p started vmr)
    (hs : started → started') : Tracked p started' vmr :=
  ⟨h.progress, h.bounded.imp_right fun hb => ⟨hb.1, hb.2.imp_left hs⟩, h.initial⟩

theorem Follows.mono (h : Follows k p vmr s) (hr : s'.vmRestores = s.vmRestores)
    (hs : Started s → Started s') : Follows k p vmr s' :=
  ⟨fun cur hcur => (h.tracks cur (hr ▸ hcur)).mono hs, h.own.mono hs⟩

theorem Follows.wrote (h : Follows k p vmr s) (hnew : Tracked p (Started s) new) :
    Follows k p vmr (s.wroteVMRestore new) := by
  have hstarted : Started s → Started (s.wroteVMRestore new) := fun h => h.append _ rfl
  refine ⟨fun cur hcur => ?_, h.own.mono hstarted⟩
  by_cases hk : k = new.key
  · subst hk
    obtain rfl := Option.some.inj ((Store.get_put_self s.vmRestores
      { new.marshalled with resourceVersion := s.resourceVersion + 1 }).symm.trans hcur)
    have hmono := hnew.mono hstarted
    exact ⟨hmono.1, hmono.2, hmono.3⟩
  · refine (h.tracks cur (Eq.trans (Eq.symm ?_) hcur)).mono hstarted
    exact Store.get_put_of_ne s.vmRestores hk

section

variable {started : Prop}

theorem PreparesVMRestore.tracked (hw : PreparesVMRestore env vmr new)
    (h : Tracked p started vmr) : Tracked p started new := by
  cases hw with
  | init hs =>
    have hzero : vmr.status.progress = 0 := h.initial.resolve_left (by simpa using hs)
    have hninety : (0 : Int) ≤ VMRestore.progressBeforeVMStart := by decide
    have hhundred : (0 : Int) ≤ 100 := by decide
    exact ⟨(hzero ▸ h.progress : p ≤ 0), .inr ⟨hhundred, .inr hninety⟩, .inl rfl⟩
  | volumes hnew =>
    obtain ⟨vrs, -, hnew⟩ := except_bind_eq_ok.1 hnew
    obtain ⟨names, -, hnew⟩ := except_bind_eq_ok.1 hnew
    exact Except.ok.inj hnew ▸ ⟨h.1, h.2, h.3⟩
  | error => exact ⟨h.1, h.2, h.3⟩

theorem tracked_updateProgressMetrics (h : Tracked p started vmr) (hs : vmr.hasStatus = true)
    (havg : ∀ q ∈ averageProgress env vmr, Bounded started q) :
    Tracked p started (updateProgressMetrics env vmr) := by
  unfold averageProgress at havg
  unfold updateProgressMetrics
  dsimp only
  split
  · next sizes weighted hsums =>
    split
    · next hsizes =>
      have hq := havg (weighted.tdiv sizes) (by simp [hsums, hsizes])
      unfold VMRestore.setProgress
      split
      · next hlt => exact ⟨Int.le_trans h.progress (Int.le_of_lt hlt), .inr hq, .inl hs⟩
      · exact ⟨h.1, h.2, h.3⟩
    · exact ⟨h.1, h.2, h.3⟩
  · exact ⟨h.1, h.2, h.3⟩

theorem WritesVMRestore.tracked (hw : WritesVMRestore env vmr new) (h : Tracked p started vmr)
    (havg : ∀ q ∈ averageProgress env vmr, Bounded started q) : Tracked p started new := by
  have hcpy := fun hs => tracked_updateProgressMetrics h hs havg
  cases hw with
  | prepares hw => exact hw.tracked h
  | reconcileError hs | owner hs => exact ⟨(hcpy hs).1, (hcpy hs).2, (hcpy hs).3⟩
  | wait hs =>
    rw [rectifyProgressBeforeVMStart_eq]
    exact ⟨(hcpy hs).1, (hcpy hs).2, (hcpy hs).3⟩

end

/-- What a reconcile that does not finish keeps. -/
structure Storing (k : Key) (p : Int) (env : Env) (vmr : VMRestore) (s : Server) : Prop extends
    Follows k p vmr s where
  average : ∀ q ∈ averageProgress env vmr, Bounded (Started s) q

theorem Storing.mono (h : Storing k p env vmr s) (hr : s'.vmRestores = s.vmRestores)
    (hs : Started s → Started s') : Storing k p env vmr s' :=
  ⟨h.toFollows.mono hr hs, fun q hq => ⟨(h.average q hq).1, (h.average q hq).2.imp_left hs⟩⟩

theorem Storing.wrote (h : Storing k p env vmr s) (hnew : Tracked p (Started s) new) :
    Storing k p env vmr (s.wroteVMRestore new) := by
  refine ⟨h.toFollows.wrote hnew, fun q hq => ⟨(h.average q hq).1, (h.average q hq).2.imp_left ?_⟩⟩
  exact fun h => h.append _ rfl

theorem reconcileResources_follows (hr : Restoring env vmr vmb) :
    Preserves (Follows k p vmr) (reconcileResources env vmr vmb) := by
  intro s h
  have htriple := reconcileResources_triple (P := Follows k p vmr) (E := Follows k p vmr)
    (J := fun _ => Follows k p vmr) (fun _ h => h) (fun _ _ h => h.mono rfl id)
    (fun _ _ h _ _ => h.mono rfl fun h => h.append _ rfl)
    (fun _ _ vm _ h _ => ⟨h.mono rfl fun h => h.append _ rfl,
      h.mono rfl fun h => (h.append (.wroteVM vm) rfl).append (.observedVM vm) rfl⟩)
    (fun _ _ _ h => h.mono rfl id) (fun _ _ h => h) hr s h
  revert htriple
  cases ((reconcileResources env vmr vmb).run s).1 <;> exact id

/-- Nothing is left to do for the VM. -/
theorem updateStatus_of_started {vm : VM}
    (h : vmr.spec.haltAfterRestore = true ∨ vm.ready = true) :
    updateStatus env vmr vmrCpy vm true = finalizeRestore env vmr vmrCpy vm := by
  have hstarted : ensureVMStartedAndReady env vmr vmrCpy vm = pure () := by
    unfold ensureVMStartedAndReady
    rcases h with h | h <;> simp [h]
  rw [updateStatus, hstarted]
  rfl

theorem Tracked.complete {started : Prop} (h : Tracked p started vmr)
    (hc : vmr.isComplete = false) (vmrCpy : VMRestore) :
    Tracked p started (vmrCpy.setCompleteCondition env.now) := by
  have hhundred := (h.bounded.resolve_left (by simp [hc])).1
  exact ⟨Int.le_trans h.progress hhundred, .inl rfl, .inl rfl⟩

/-- **A reconcile keeps track of the progress.** -/
theorem restoreOnChanged_follows (h : Follows k p vmr s)
    (havg : ∀ vmb, Restoring env vmr vmb → ¬ Finishes env vmr vmb s → ∀ q ∈ averageProgress env vmr,
      Bounded (Started ((reconcileResources env vmr vmb).run s).2) q) :
    Follows k p vmr ((restoreOnChanged env vmr).run s).2 := by
  rcases restoreOnChanged_cases env vmr with hearly | ⟨vmb, hr, heq⟩
  · exact hearly (Follows k p vmr) (fun s new hw _ h => h.wrote (hw.tracked h.own)) s h
  have hresources := reconcileResources_follows hr s h
  have hc : vmr.isComplete = false := by simpa [VMRestore.isComplete] using hr.complete
  rw [heq, reconcileRestore, run_attempt_bind]
  set s' := ((reconcileResources env vmr vmb).run s).2
  have hstoring : ¬ Finishes env vmr vmb s → Storing k p env vmr s' :=
    fun hfinishes => ⟨hresources, havg vmb hr hfinishes⟩
  have hwrites : ∀ s new, WritesVMRestore env vmr new → Storing k p env vmr s →
      Storing k p env vmr (s.wroteVMRestore new) :=
    fun s new hw h => h.wrote (hw.tracked h.own h.average)
  rcases hout : ((reconcileResources env vmr vmb).run s).1 with e | ⟨vm, ready⟩
  · have hstore := hstoring fun hfinishes => by simp [Finishes, hout] at hfinishes
    exact (update_preserves env _ _
      (fun s => hwrites s _ (.reconcileError hr.hasStatus e)) s' hstore).toFollows
  dsimp only
  rw [hasOwnerReference_updateProgressMetrics]
  split
  · next howner =>
    have hstore := hstoring fun hfinishes => by simp [hfinishes.1] at howner
    exact (updateOwnerRefAndTargetUID_preserves hwrites hr.hasStatus s' hstore).toFollows
  by_cases hfinishes : Finishes env vmr vmb s
  · -- Only the complete version has a new progress, which is 100.
    obtain ⟨-, vm', hvm', hend⟩ := hfinishes
    obtain ⟨rfl, rfl⟩ := Prod.mk.inj (Except.ok.inj (hout.symm.trans hvm'))
    rw [updateStatus_of_started hend]
    exact finalizeRestore_preserves (fun s new hw h => h.wrote (hw.tracked h.own))
      (fun _ _ h => h.mono rfl fun h => h.append _ rfl)
      (fun s h => h.wrote (h.own.complete hc _)) s'
      hresources
  · exact (updateStatus_preserves hwrites (fun _ _ h => h.mono rfl fun h => h.append _ rfl)
      hr.hasStatus (fun _ h => h.mono rfl fun h => h.append _ rfl)
      (fun s h => h.wrote (h.own.complete hc _)) ready s' (hstoring hfinishes)).toFollows

theorem Tracks.next {step : ProgressStep} (h : Tracks k p s) (hstep : Moderate k s step)
    (hnext : (progressMachine k).next s step = some s') : Tracks k p s' := by
  obtain ⟨vmr, hvmr, rfl⟩ := Option.map_eq_some_iff.1 hnext
  have hfollows : Follows k p vmr s := ⟨h, h vmr hvmr⟩
  cases step with
  | reconcile env => exact (restoreOnChanged_follows hfollows (hstep vmr hvmr)).tracks
  | engineChanged fault pvc volumeSize engineName =>
    have hkeeps : Preserves (Follows k p vmr)
        (updateVolumeRestoreMetrics fault vmr pvc volumeSize engineName) := by
      unfold updateVolumeRestoreMetrics
      split
      · exact .pure _
      dsimp only
      split
      · exact .pure _
      · refine (putVMRestore_preserves fun s h => h.wrote ?_).request
        exact ⟨h.own.1, h.own.2, h.own.3⟩
    exact (hkeeps s hfollows).tracks

/-- **The progress of a restore** that starts with at most 90 never goes back, and is at most 90
until the VM is seen started or the restore is complete, in every run whose averages may be stored.
-/
theorem progress_before_start {s₀ : Server} {steps steps' : List ProgressStep}
    (h₀ : ∀ vmr ∈ s₀.vmRestores.get k, vmr.status.progress ≤ VMRestore.progressBeforeVMStart ∧
      (vmr.hasStatus = true ∨ vmr.status.progress = 0))
    (hsafe : (progressMachine k).Along (Moderate k) s₀ steps)
    (hrun : (progressMachine k).run s₀ steps = some s)
    (hsafe' : (progressMachine k).Along (Moderate k) s steps')
    (hrun' : (progressMachine k).run s steps' = some s') :
    ∀ vmr ∈ s.vmRestores.get k, ∀ vmr' ∈ s'.vmRestores.get k,
      vmr.status.progress ≤ vmr'.status.progress ∧ (vmr'.isComplete = true ∨ Started s' ∨
        vmr'.status.progress ≤ VMRestore.progressBeforeVMStart) := by
  have hstart : ∀ p, (∀ vmr ∈ s₀.vmRestores.get k, p ≤ vmr.status.progress) → Tracks k p s₀ := by
    intro p hp vmr hvmr
    obtain ⟨hninety, hinitial⟩ := h₀ vmr hvmr
    have hhundred : VMRestore.progressBeforeVMStart ≤ 100 := by decide
    exact ⟨hp vmr hvmr, .inr ⟨Int.le_trans hninety hhundred, .inr hninety⟩, hinitial⟩
  obtain ⟨p, hp⟩ : ∃ p, ∀ vmr ∈ s₀.vmRestores.get k, p ≤ vmr.status.progress := by
    rcases s₀.vmRestores.get k with _ | vmr
    · exact ⟨0, by simp⟩
    · exact ⟨vmr.status.progress, by simp⟩
  have hs := Machine.run_invariant (fun _ _ _ h => h.next) (hstart p hp) hsafe hrun
  intro vmr hvmr vmr' hvmr'
  -- The progress in `s` is the bound from there on.
  have hs : Tracks k vmr.status.progress s := by
    intro cur hcur
    obtain rfl := Option.some.inj (hvmr.symm.trans hcur)
    exact ⟨Int.le_refl _, (hs vmr hvmr).bounded, (hs vmr hvmr).initial⟩
  have hs' := Machine.run_invariant (fun _ _ _ h => h.next) hs hsafe' hrun' vmr' hvmr'
  exact ⟨hs'.progress, hs'.bounded.imp_right And.right⟩

/-- An average of at most 90 may be stored by every reconcile. -/
theorem moderate_of_average (h : ∀ vmr ∈ s.vmRestores.get k, ∀ q ∈ averageProgress env vmr,
    q ≤ VMRestore.progressBeforeVMStart) : Moderate k s (.reconcile env) := by
  intro vmr hvmr _ _ _ q hq
  have hhundred : VMRestore.progressBeforeVMStart ≤ 100 := by decide
  exact ⟨Int.le_trans (h vmr hvmr q hq) hhundred, .inr (h vmr hvmr q hq)⟩

namespace Sample

/-- A reconcile that finds the VM like this and this progress of the volume. -/
def reporting (ready : Bool) (progress : Int) : ProgressStep :=
  .reconcile { Sample.env ready fun _ => .none with progress := fun _ => .ok progress }

/-- The volume gets on, its size changes, and when the VM is started the restore completes. -/
def restored : List ProgressStep :=
  [reporting false 60, .engineChanged .none ⟨"default", "restore-b-u-disk"⟩ 20 "engine",
    reporting false 90, reporting true 100]

end Sample

open Sample in
/-- The last average is above 90, but by then the VM is started. -/
theorem progress_before_start_restored :
    ∃ s, (progressMachine restore.key).run (server false) restored = some s ∧
      ∀ vmr ∈ (server false).vmRestores.get restore.key, ∀ vmr' ∈ s.vmRestores.get restore.key,
        vmr.status.progress ≤ vmr'.status.progress ∧ (vmr'.isComplete = true ∨ Started s ∨
          vmr'.status.progress ≤ VMRestore.progressBeforeVMStart) := by
  have hstart : (progressMachine restore.key).run (server false) [] = some (server false) := rfl
  refine ⟨_, Machine.run_get (by decide), progress_before_start (by decide) (by trivial) hstart ?_
    (Machine.run_get _)⟩
  refine ⟨moderate_of_average (by decide), fun s hs => ?_⟩
  cases hs
  refine ⟨trivial, fun s hs => ?_⟩
  cases hs
  refine ⟨moderate_of_average (by decide), fun s hs => ?_⟩
  cases hs
  refine ⟨fun vmr hvmr vmb hr hfinishes => (hfinishes ?_).elim, fun _ _ => trivial⟩
  cases hvmr
  obtain rfl : backup = vmb := Except.ok.inj hr.backup
  exact ⟨rfl, Sample.restoredVM true, rfl, .inr rfl⟩

open Sample in
/-- **More than 90**: the volume is restored, the VM is not started yet, and the status says 100. -/
theorem progress_beyond :
    ∃ s, (progressMachine restore.key).run (server false) [reporting false 100] = some s ∧
    ∃ vmr ∈ s.vmRestores.get restore.key, ¬ Started s ∧ vmr.isComplete = false ∧
      vmr.status.progress = 100 :=
  ⟨_, rfl, by decide⟩

end Restore

end Harvester
