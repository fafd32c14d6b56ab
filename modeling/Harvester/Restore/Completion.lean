import Harvester.Restore.Effects
import Harvester.Control.Machine

/-!
# When a restore deletes the old volumes

A restore that replaces a VM deletes the old volumes and is marked as complete at its very end,
after the VM has been started with the restored volumes and is ready, or was asked to stay halted.

* An event is *destructive* if it deletes a PVC or writes a complete restore;
* `restoreOnChanged_guarded`: a reconcile whose events are destructive has observed a ready VM or
  was asked to halt it, **unless** starting the VM fails and the write that reports this succeeds;
* `runs_guarded`: the same for every run of reconciles;
* `failed_start_deletes_volumes`: the exception is real.
-/

namespace Harvester

namespace Restore

open Control Action

/-- The event deletes a volume or completes a restore. -/
def Event.destructive : Event → Bool
  | .deletedPVC _ => true
  | .updatedVMRestore vmr => vmr.isComplete
  | _ => false

/-- Nothing destructive has happened so far. -/
def Quiet (s : Server) : Prop := ∀ e ∈ s.trace, e.destructive = false

/-- The event is that of a reconcile that has its target VM in hand, and the VM is ready. -/
def Event.observesReadyVM : Event → Bool
  | .observedVM vm => vm.ready
  | _ => false

/-- Destructive events only with a ready VM, or with a VM that shall stay halted. -/
def Guarded (vmr : VMRestore) (trace : List Event) : Prop :=
  (∃ e ∈ trace, e.destructive = true) →
    vmr.spec.haltAfterRestore = true ∨ ∃ e ∈ trace, e.observesReadyVM = true
  deriving Decidable

theorem Quiet.guarded {s : Server} (h : Quiet s) (vmr : VMRestore) : Guarded vmr s.trace := by
  rintro ⟨e, he, hd⟩
  rw [h e he] at hd
  exact absurd hd Bool.false_ne_true

/-! ### Requests that are not destructive

`Calm s₀ s` collects what holds until the end of a restore is reached: nothing destructive has
happened and the restores are as they were. -/

/-- Nothing destructive has happened, and no restore has been written since `s₀`. -/
structure Calm (s₀ s : Server) : Prop where
  quiet : Quiet s
  vmRestores : s.vmRestores = s₀.vmRestores

theorem Quiet.append {s : Server} {e : Event} (h : Quiet s) (he : e.destructive = false) :
    ∀ e' ∈ s.trace ++ [e], e'.destructive = false := by
  intro e' he'
  rcases List.mem_append.1 he' with h' | h'
  · exact h e' h'
  · rw [List.mem_singleton.1 h', he]

/-- At most one of `running` and `runStrategy` is set, so the VM has a run strategy. -/
def VMSpec.HasRunStrategy (spec : VMSpec) : Prop := spec.running = none ∨ spec.runStrategy = none

/-- The start request is carried out, the VMI cache answers, and the VM has a run strategy. -/
structure StartsVM (env : Env) (vm : VM) : Prop where
  request : env.fault .startVM = .none
  vmi : ∀ e, env.vmi vm.key = .error e → e.isNotFound = true
  strategy : vm.spec.HasRunStrategy

theorem runStrategy_ok {vm : VM} (h : vm.spec.HasRunStrategy) :
    ∃ strategy, vm.runStrategy = .ok strategy := by
  unfold VM.runStrategy
  rcases h with h | h
  · rw [h]
    cases vm.spec.runStrategy <;> exact ⟨_, rfl⟩
  · rw [h]
    rcases vm.spec.running with _ | (_ | _) <;> exact ⟨_, rfl⟩

theorem startVM_ok {env : Env} {vm : VM} (h : StartsVM env vm) (s : Server) :
    ((startVM env vm).run s).1 = .ok () := by
  have hsub : ((startVMSubresource env vm).run s).1 = .ok () := by
    simp only [startVMSubresource, Env.request, h.request]
    rfl
  obtain ⟨strategy, hs⟩ := runStrategy_ok h.strategy
  unfold startVM handleRerunOnFailure handleManualStrategy
  rw [hs]
  cases strategy <;> try first | rfl | exact hsub
  · -- `manual`
    rcases env.vmi vm.key with e | phase
    · exact hsub
    · dsimp only
      split
      · rfl
      · exact hsub
  · -- `rerunOnFailure`
    rcases hv : env.vmi vm.key with e | phase
    · simpa [h.vmi _ hv] using hsub
    · dsimp only
      split
      · exact hsub
      · rfl

/-- The volumes are ready, and the VM is neither ready nor to stay halted. -/
def ReachesStart (env : Env) (vmr : VMRestore) (s : Server) (vm : VM) : Prop :=
  ∃ vmb, Restoring env vmr vmb ∧ vmr.hasOwnerReference = true ∧
    ((reconcileResources env vmr vmb).run s).1 = .ok (vm, true) ∧
    vmr.spec.haltAfterRestore = false ∧ vm.ready = false

/-- The event has happened; no action takes it back. -/
def Happened (e : Event) (s : Server) : Prop := e ∈ s.trace

theorem happened_wroteVMRestore {e : Event} (s : Server) (new : VMRestore) (h : Happened e s) :
    Happened e (s.wroteVMRestore new) :=
  List.mem_append_left _ h

theorem quiet_wroteVMRestore (s : Server) (new : VMRestore) (h : new.status.complete ≠ some true)
    (hs : Quiet s) : Quiet (s.wroteVMRestore new) :=
  hs.append (by simpa [Event.destructive, VMRestore.isComplete, VMRestore.marshalled] using h)

theorem update_happened (e : Event) (env : Env) (site : UpdateSite) (old new : VMRestore) :
    Preserves (Happened e) (update env site old new) :=
  update_preserves env site old fun s => happened_wroteVMRestore s new

theorem update_quiet (env : Env) (site : UpdateSite) (old : VMRestore) {new : VMRestore}
    (h : new.status.complete ≠ some true) :
    Preserves Quiet (update env site old new) :=
  update_preserves env site old fun s => quiet_wroteVMRestore s new h

theorem finalizeRestore_happened (e : Event) (env : Env) (vmr vmrCpy : VMRestore) (vm : VM) :
    Preserves (Happened e) (finalizeRestore env vmr vmrCpy vm) :=
  finalizeRestore_preserves (fun s new _ => happened_wroteVMRestore s new)
    (fun _ _ hs => List.mem_append_left _ hs) fun s => happened_wroteVMRestore s _

theorem update_outcome_congr (env : Env) (site : UpdateSite) (old new : VMRestore) {s s' : Server}
    (h : s.vmRestores = s'.vmRestores) :
    ((update env site old new).run s).1 = ((update env site old new).run s').1 := by
  unfold update
  split
  · rfl
  have hput : ((putVMRestore new).run s).1 = ((putVMRestore new).run s').1 := by
    simp only [run, putVMRestore, h]
    split
    · rfl
    · split <;> rfl
  simp only [Env.request]
  cases env.fault (.updateVMRestore site) with
  | none => exact hput
  | refused | lost => rfl

/-- The write that reports a failed start fails. -/
def ReportFails (env : Env) (vmr : VMRestore) (s : Server) : Prop :=
  ∀ e, ∃ e', ((updateError env .startError vmr (startError e)).run s).1 = .error e'

section

variable {s₀ : Server} {env : Env} {vmr vmrCpy : VMRestore} {vmb : VMBackup} {vm : VM}

/-- The pipeline goes on only with a ready VM or a VM that shall stay halted. -/
theorem ensureVMStartedAndReady_guarded (hc : vmr.status.complete ≠ some true)
    (hc' : vmrCpy.status.complete ≠ some true)
    (hstart : vmr.spec.haltAfterRestore = false → vm.ready = false →
      StartsVM env vm ∨ ReportFails env vmr s₀) :
    Triple (fun s => Calm s₀ s ∧ Happened (.observedVM vm) s)
      (ensureVMStartedAndReady env vmr vmrCpy vm) fun r s =>
        Quiet s ∧ Happened (.observedVM vm) s ∧
          (r = .ok () → vmr.spec.haltAfterRestore = true ∨ vm.ready = true) := by
  unfold ensureVMStartedAndReady
  split
  · next h => exact .pure fun s hs => ⟨hs.1.quiet, hs.2, fun _ => .inl h⟩
  next hhalt =>
  split
  · next h => exact .pure fun s hs => ⟨hs.1.quiet, hs.2, fun _ => .inr h⟩
  next hready =>
  -- The VM has to be started; from here on only an error can be returned.
  have hinv : Preserves (fun s => Calm s₀ s ∧ Happened (.observedVM vm) s)
      (startVM env vm) := by
    refine startVM_preserves env fun s hs => ⟨⟨hs.1.quiet.append rfl, hs.1.vmRestores⟩, ?_⟩
    exact List.mem_append_left _ hs.2
  have hrun : Triple (fun s => Calm s₀ s ∧ Happened (.observedVM vm) s) (startVM env vm)
      fun r s => (Calm s₀ s ∧ Happened (.observedVM vm) s) ∧
        ∀ e, r = .error e → ReportFails env vmr s₀ := by
    refine fun s hs => ⟨hinv s hs, fun e he => ?_⟩
    rcases hstart (by simpa using hhalt) (by simpa using hready) with hstart | hreport
    · rw [startVM_ok hstart s] at he
      simp at he
    · exact hreport
  refine hrun.attemptBind fun r => ?_
  rcases r with e | ⟨⟩
  · rintro s ⟨⟨hcalm, hobs⟩, hreport⟩
    obtain ⟨e', he'⟩ := hreport e rfl e
    refine ⟨update_quiet env _ _ (by simpa using hc) s hcalm.quiet,
      update_happened _ env _ _ _ s hobs, fun hok => ?_⟩
    -- The report is refused, as it would have been at the start of the reconcile.
    have hcongr := update_outcome_congr env .startError vmr
      (vmr.setErrorCondition (startError e) env.now) hcalm.vmRestores
    rw [updateError, ← hcongr] at he'
    exact absurd (hok.symm.trans he') (by simp)
  · refine .bind (Q := fun _ s => Quiet s ∧ Happened (.observedVM vm) s)
      (fun s hs => ?_) (fun _ => ?_) fun e s hs => ⟨hs.1, hs.2, by simp⟩
    · obtain ⟨⟨hcalm, hobs⟩, -⟩ := hs
      exact ⟨update_quiet env _ _ (by simpa using hc') s hcalm.quiet,
        update_happened _ env _ _ _ s hobs⟩
    · exact .fail fun s hs => ⟨hs.1, hs.2, by simp⟩

theorem updateStatus_guarded (hc : vmr.status.complete ≠ some true)
    (hc' : vmrCpy.status.complete ≠ some true)
    {isVolumesReady : Bool} (hstart : isVolumesReady = true → vmr.spec.haltAfterRestore = false →
      vm.ready = false → StartsVM env vm ∨ ReportFails env vmr s₀) :
    Triple (fun s => Calm s₀ s ∧ Happened (.observedVM vm) s)
      (updateStatus env vmr vmrCpy vm isVolumesReady) fun _ s => Guarded vmr s.trace := by
  unfold updateStatus
  split
  · exact fun s hs =>
      (update_quiet env _ _ (by simpa using hc') s hs.1.quiet : Quiet _).guarded vmr
  next hvolumes =>
  have hstart := hstart (by simpa using hvolumes)
  refine (ensureVMStartedAndReady_guarded hc hc' hstart).bind (fun _ => ?_)
    fun e s hs => hs.1.guarded vmr
  -- `finalizeRestore` is reached: the VM that was observed is ready, or shall stay halted.
  rintro s ⟨-, hobs, hok⟩ -
  have hobs' := finalizeRestore_happened (.observedVM vm) env vmr vmrCpy vm s hobs
  rcases hok rfl with h | h
  · exact .inl h
  · exact .inr ⟨.observedVM vm, hobs', h⟩

theorem hasOwnerReference_updateProgressMetrics (env : Env) (vmr : VMRestore) :
    (updateProgressMetrics env vmr).hasOwnerReference = vmr.hasOwnerReference := by
  unfold updateProgressMetrics VMRestore.setProgress
  dsimp only
  split
  · split
    · split <;> rfl
    · rfl
  · rfl

/-- **One reconcile**: unless it reports a failed start, the old volumes are deleted and the restore
is completed only with a ready VM, or one that shall stay halted. -/
theorem restoreOnChanged_guarded
    (h : ∀ vm, ReachesStart env vmr s₀ vm → StartsVM env vm ∨ ReportFails env vmr s₀)
    (h₀ : s₀.trace = []) : Guarded vmr ((restoreOnChanged env vmr).run s₀).2.trace := by
  have hcalm : Calm s₀ s₀ := ⟨by simp [Quiet, h₀], rfl⟩
  rcases restoreOnChanged_cases env vmr with hearly | ⟨vmb, hr, heq⟩
  · have hquiet := hearly Quiet (fun s new _ => quiet_wroteVMRestore s new) s₀ hcalm.quiet
    exact Quiet.guarded hquiet vmr
  have hobs : ∀ {s : Server} (vm : VM), Calm s₀ s → Calm s₀ (s.recorded (.observedVM vm)) ∧
      Happened (.observedVM vm) (s.recorded (.observedVM vm)) := fun vm hs =>
    ⟨⟨hs.quiet.append rfl, hs.vmRestores⟩, List.mem_append_right _ (List.mem_singleton_self _)⟩
  have hresources := reconcileResources_triple (P := Calm s₀) (E := Quiet)
    (J := fun vm s => Calm s₀ s ∧ Happened (.observedVM vm) s) (fun s hs => hs.quiet)
    (fun s _ hs => ⟨hs.quiet, hs.vmRestores⟩) (fun s vm hs _ _ => hobs vm hs)
    (fun _ s vm _ hs _ =>
      ⟨hs.quiet.append rfl, hobs vm ⟨hs.quiet.append rfl, hs.vmRestores⟩⟩)
    (fun vm s _ hs => ⟨⟨hs.1.quiet, hs.1.vmRestores⟩, hs.2⟩) (fun vm s hs => hs.1.quiet) hr s₀ hcalm
  rw [heq, reconcileRestore, run_attempt_bind]
  rcases hout : ((reconcileResources env vmr vmb).run s₀).1 with e | ⟨vm, ready⟩
  · rw [hout] at hresources
    exact Quiet.guarded
      (update_quiet env _ _ (by simpa using hr.complete) _ hresources : Quiet _) vmr
  rw [hout] at hresources
  dsimp only
  rw [hasOwnerReference_updateProgressMetrics]
  split
  · refine Quiet.guarded (updateOwnerRefAndTargetUID_preserves (fun s new hw => ?_) hr.hasStatus _
      hresources.1.quiet) vmr
    exact quiet_wroteVMRestore s new (hw.not_complete hr.complete)
  · next howner =>
    exact updateStatus_guarded hr.complete (by simpa using hr.complete)
      (fun hvolumes hhalt hready => h vm ⟨vmb, hr, by simpa using howner, hvolumes ▸ hout, hhalt,
        hready⟩) _ hresources

end

/-- What one reconcile did: the restore it was called with and its events. -/
structure Record where
  vmr : VMRestore
  trace : List Event

/-- The server, and the reconciles so far. -/
structure History where
  server : Server
  records : List Record

/-- A step of a run. -/
inductive Step where
  /-- A reconcile of `vmr` as it is found in the cache. -/
  | reconcile (env : Env) (vmr : VMRestore)
  /-- Anything that anyone else does to the objects. -/
  | environment (server : Server)

/-- Runs of restore reconciles. -/
def reconciler : Machine History Step where
  next h
    | .reconcile env vmr =>
      let server := ((restoreOnChanged env vmr).run { h.server with trace := [] }).2
      some ⟨server, h.records ++ [⟨vmr, server.trace⟩]⟩
    | .environment server => some { h with server }

/-- Where the step comes to `StartVM`, this does not fail, or its report does. -/
def NoReportedStartFailure (h : History) : Step → Prop
  | .reconcile env vmr => ∀ vm, ReachesStart env vmr { h.server with trace := [] } vm →
      StartsVM env vm ∨ ReportFails env vmr h.server
  | .environment _ => True

theorem ReportFails.congr {env : Env} {vmr : VMRestore} {s s' : Server}
    (h : ReportFails env vmr s) (hs : s'.vmRestores = s.vmRestores) : ReportFails env vmr s' := by
  intro e
  obtain ⟨e', he'⟩ := h e
  exact ⟨e', (update_outcome_congr env _ _ _ hs).trans he'⟩

/-- **Every run**: as long as no reconcile reports a failed start of the VM, every reconcile that
deletes volumes or completes its restore has seen a ready VM, or was asked to keep it halted. -/
theorem runs_guarded (server : Server) (steps : List Step) (h : History)
    (hG : reconciler.Along NoReportedStartFailure ⟨server, []⟩ steps)
    (hrun : reconciler.run ⟨server, []⟩ steps = some h) :
    ∀ r ∈ h.records, Guarded r.vmr r.trace := by
  refine Machine.run_invariant (I := fun h : History => ∀ r ∈ h.records, Guarded r.vmr r.trace)
    ?_ (by simp) hG hrun
  intro h step h' hinv hstep hnext
  cases step with
  | environment server =>
    cases hnext
    exact hinv
  | reconcile env vmr =>
    cases hnext
    intro r hr
    rcases List.mem_append.1 hr with hr | hr
    · exact hinv r hr
    · obtain rfl := List.mem_singleton.1 hr
      exact restoreOnChanged_guarded
        (fun vm hvm => (hstep vm hvm).imp_right fun h => h.congr rfl) rfl

namespace Sample

/-- The volume `disk`, restored. -/
def volumeRestore : VolumeRestore :=
  ⟨"disk", "default", "restore-b-u-disk", pvcSpec, "b-disk", none, 0, 10⟩

/-- The restore when its volume is ready and the VM uses it. -/
def startingRestore : VMRestore :=
  { restore with
    ownerReferences := buildVMOwnerReferences (vm "vm" "old")
    status := ⟨some [volumeRestore], none, ["old"], some false, [], some "uid-vm", 0⟩ }

/-- The VM after its volume has been replaced. -/
def restoredVM (ready : Bool) : VM :=
  { vm "vm" "restore-b-u-disk" with
    annotations := ⟨some "r-u", some "r", none, none, none, []⟩
    ready }

/-- The environment of a reconcile: the old and the new volume exist. -/
def env (ready : Bool) (fault : Call → Fault) : Env where
  vmBackup _ := .ok backup
  vm _ := .ok (restoredVM ready)
  vmi k := .error (.notFound k)
  pvc k := .ok (pvc k.name)
  secret k := .error (.notFound k)
  volumeSnapshot _ := .ok "b-disk"
  volumeCheck _ := .ok ()
  progress _ := .ok 100
  fault := fault
  newUID := "uid-new"
  now := "now"

/-- The API server before that reconcile. -/
def server (ready : Bool) : Server where
  vmRestores := Store.empty.put startingRestore
  vms := Store.empty.put (restoredVM ready)
  pvcs := (Store.empty.put (pvc "old")).put (pvc "restore-b-u-disk")
  secrets := Store.empty
  resourceVersion := 1
  trace := []

/-- Only the request to start the VM is refused. -/
def startRefused : Call → Fault
  | .startVM => .refused
  | _ => .none

end Sample

open Sample in
/-- The VM is started, and with the ready VM the run completes: the old volume is deleted. -/
theorem runs_guarded_started :
    let steps := [.reconcile (env false fun _ => .none) startingRestore,
      .environment (server true), .reconcile (env true fun _ => .none) startingRestore]
    ∃ h, reconciler.run ⟨server false, []⟩ steps = some h ∧
    ReachesStart (env false fun _ => .none) startingRestore (server false)
      (Sample.restoredVM false) ∧
    h.server.pvcs.get ⟨"default", "old"⟩ = none ∧
    ∀ r ∈ h.records, Guarded r.vmr r.trace := by
  intro steps
  have hstarts : ∀ ready vm, ReachesStart (env ready fun _ => .none) startingRestore
      (server ready) vm → StartsVM (env ready fun _ => .none) vm := by
    rintro ready vm ⟨vmb, hr, -, hvm, -⟩
    obtain rfl : backup = vmb := Except.ok.inj hr.backup
    have hvm : Sample.restoredVM ready = vm := congrArg Prod.fst (Except.ok.inj hvm)
    subst hvm
    refine ⟨rfl, fun e he => ?_, .inl rfl⟩
    cases he
    rfl
  refine ⟨_, rfl, ⟨backup, ⟨by decide, rfl, rfl, rfl⟩, rfl, rfl, rfl, rfl⟩, rfl,
    runs_guarded (server false) steps _ ?_ rfl⟩
  refine ⟨fun vm hvm => .inl (hstarts false vm hvm), fun h hh => ?_⟩
  cases hh
  refine ⟨trivial, fun h hh => ?_⟩
  cases hh
  exact ⟨fun vm hvm => .inl (hstarts true vm hvm), fun h _ => trivial⟩

open Sample in
/-- **A failed start deletes the old volumes**: the failure is written to the status, and the
pipeline goes on to `finalizeRestore`. -/
theorem failed_start_deletes_volumes : ∃ h,
    reconciler.run ⟨server false, []⟩
      [.reconcile (env false startRefused) startingRestore] = some h ∧
    h.server.pvcs.get ⟨"default", "old"⟩ = none ∧
    ∃ r ∈ h.records, .deletedPVC ⟨"default", "old"⟩ ∈ r.trace ∧ ¬ Guarded r.vmr r.trace :=
  ⟨_, rfl, rfl, _, List.mem_singleton_self _, by decide, by decide⟩

end Restore

end Harvester
