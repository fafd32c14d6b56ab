import Mathlib.Data.List.TakeWhile
import Harvester.Control.Action
import Harvester.Control.Machine

/-!
# The VMs that an upgrade stops and starts again

Before a node is drained, the `vm-live-migrate-detector` stops the VMs that cannot be migrated,
after it has stored their names in a ConfigMap under the name of the node; `restore-vm` reads them
from there and starts the VMs again.  The requests of several runs interleave in any order.

`stopped_vms_recorded` says when every VM that was stopped is found by `restore-vm`.  A run that
replaces the names of an earlier one, or loses the race for the creation of the ConfigMap, breaks
this (`stopped_vms_lost`).
-/

namespace Harvester

namespace Detector

open Control

/-! ### Names in a ConfigMap -/

/-- The namespace and name of a VM, as the API server accepts them. -/
structure VMName where
  text : String
  nonempty : text.toList ≠ []
  plain : ∀ ch ∈ text.toList, ch ≠ ',' ∧ ch.isWhitespace = false
  deriving DecidableEq

/-- `strings.Join` with commas. -/
def joinNames (names : List VMName) : String :=
  String.ofList ([','].intercalate (names.map fun name => name.text.toList))

/-- `strings.TrimSpace`. -/
def trimSpace (s : List Char) : List Char :=
  ((s.dropWhile Char.isWhitespace).reverse.dropWhile Char.isWhitespace).reverse

/-- The names in a value of the ConfigMap. -/
def parseNames (value : String) : List String :=
  if trimSpace value.toList = [] then []
  else (((value.toList.splitOn ',').map trimSpace).filter (· ≠ [])).map String.ofList

theorem trimSpace_of_plain {s : List Char} (h : ∀ ch ∈ s, ch.isWhitespace = false) :
    trimSpace s = s := by
  have hdrop : ∀ l : List Char, (∀ ch ∈ l, ch.isWhitespace = false) →
      l.dropWhile Char.isWhitespace = l := by
    intro l hl
    cases l with
    | nil => rfl
    | cons ch l =>
      have hch := hl ch (List.mem_cons_self ..)
      simp [hch]
  rw [trimSpace, hdrop s h, hdrop s.reverse fun ch hch => h ch (List.mem_reverse.1 hch),
    List.reverse_reverse]

theorem trimSpace_ne_nil {s : List Char} {ch : Char} (hmem : ch ∈ s)
    (hch : ch.isWhitespace = false) : trimSpace s ≠ [] := by
  intro htrim
  have hrest : ch ∈ s.dropWhile Char.isWhitespace := by
    rw [← List.takeWhile_append_dropWhile (l := s)] at hmem
    refine (List.mem_append.1 hmem).resolve_left fun htake => ?_
    simp [List.mem_takeWhile_imp htake] at hch
  have hall := List.dropWhile_eq_nil_iff.1 (List.reverse_eq_nil_iff.1 htrim) ch
    (List.mem_reverse.2 hrest)
  simp [hall] at hch

/-- **What is joined is found again.** -/
theorem parseNames_joinNames (names : List VMName) :
    parseNames (joinNames names) = names.map VMName.text := by
  rcases names with _ | ⟨first, rest⟩
  · rfl
  have hsplit :
      ([','].intercalate ((first :: rest).map fun name => name.text.toList)).splitOn ',' =
        (first :: rest).map fun name => name.text.toList := by
    refine List.splitOn_intercalate ',' (fun l hl hcomma => ?_) (by simp)
    obtain ⟨name, -, rfl⟩ := List.mem_map.1 hl
    exact (name.plain _ hcomma).1 rfl
  have hne : trimSpace ([','].intercalate
      ((first :: rest).map fun name => name.text.toList)) ≠ [] := by
    obtain ⟨ch, hch⟩ := List.exists_mem_of_ne_nil _ first.nonempty
    refine trimSpace_ne_nil ?_ (first.plain ch hch).2
    cases rest with
    | nil => simpa using hch
    | cons second rest => simp [hch]
  have htrim : ∀ name : VMName, trimSpace name.text.toList = name.text.toList :=
    fun name => trimSpace_of_plain fun ch hch => (name.plain ch hch).2
  simp only [parseNames, joinNames, String.toList_ofList, if_neg hne, hsplit, List.map_map]
  rw [List.filter_eq_self.2]
  · simp [htrim]
  · intro l hl
    obtain ⟨name, -, rfl⟩ := List.mem_map.1 hl
    simpa [htrim] using name.nonempty

/-! ### Runs of the detector -/

/-- A VMI on a node. -/
structure VMI where
  name : VMName
  node : String
  paused : Bool
  /-- It has the label of an upgrade. -/
  upgrade : Bool
  deriving DecidableEq

/-- The names by node. -/
structure ConfigMap where
  version : Nat
  data : String → Option String

/-- How far a run has come. -/
inductive Phase where
  /-- The VMs are known; the ConfigMap is read next. -/
  | listed
  /-- There was no ConfigMap; it is created next. -/
  | missing
  /-- The ConfigMap has been read; it is updated next. -/
  | fetched (configMap : ConfigMap)
  /-- The names are stored; these VMs are stopped next. -/
  | stopping (vms : List VMName)
  | failed

/-- A run of the detector for a node. -/
structure Run where
  node : String
  /-- The VMs that cannot be migrated. -/
  nonLiveMigratableVMNames : List VMName
  restoreVMNames : List VMName
  phase : Phase

/-- The names of VMs to restore. -/
def getRestoreVMNames (vmis : List VMI) (candidateVMNames : List VMName) : List VMName :=
  candidateVMNames.filter fun name =>
    !vmis.any fun vmi => vmi.name = name && (vmi.paused || vmi.upgrade)

/-- The start of `Run`, up to the list of the VMs on the node. -/
def Run.start (vmis : List VMI) (node : String) (nonLiveMigratable : VMI → Bool) : Run :=
  let vmis := vmis.filter fun vmi => vmi.node = node
  let names := (vmis.filter nonLiveMigratable).map VMI.name
  ⟨node, names, getRestoreVMNames vmis names, .listed⟩

/-- `getVMNamesFromConfigMap`; without a ConfigMap there is nothing to restore. -/
def getVMNamesFromConfigMap (configMap : Option ConfigMap) (node : String) : List String :=
  ((configMap.bind fun configMap => configMap.data node).map parseNames).getD []

/-- The runs and what they share. -/
structure State where
  vmis : List VMI
  configMap : Option ConfigMap
  runs : List Run
  /-- The VMs that were stopped and are to be restored, with the node of the run. -/
  stopped : List (String × VMName)

/-- A request of a run. -/
inductive Event where
  | start (node : String) (nonLiveMigratable : VMI → Bool)
  | get (run : Nat) (answered : Bool)
  /-- The ConfigMap is created; after an error the run may try again. -/
  | create (run : Nat) (fault : Fault) (retry : Bool)
  /-- The ConfigMap is updated; after an error the run may try again. -/
  | update (run : Nat) (fault : Fault) (retry : Bool)
  /-- The request to stop the next VM takes effect, or it does not. -/
  | stop (run : Nat) (answered : Bool)
  /-- VMs start, stop, are paused or migrate. -/
  | vmisChanged (vmis : List VMI)

/-- What follows after an error. -/
def Phase.afterError (retry : Bool) : Phase := if retry then .listed else .failed

namespace State

variable (s : State)

/-- A run goes on. -/
def setPhase (i : Nat) (run : Run) (phase : Phase) : State :=
  { s with runs := s.runs.set i { run with phase } }

/-- The step of a run. -/
def step (i : Nat) (run : Run) : Event → Option State
  | .get _ answered =>
    match run.phase with
    | .listed =>
      if !answered then some (s.setPhase i run .failed)
      else
        match s.configMap with
        | none => some (s.setPhase i run .missing)
        | some configMap => some (s.setPhase i run (.fetched configMap))
    | _ => none
  | .create _ fault retry =>
    match run.phase with
    | .missing =>
      let stopping := Phase.stopping run.nonLiveMigratableVMNames
      let data := Function.update (fun _ => none) run.node (some (joinNames run.restoreVMNames))
      -- The error that the ConfigMap exists already is ignored.
      let created := { s with configMap := some (s.configMap.getD ⟨0, data⟩) }
      match fault with
      | .none => some (created.setPhase i run stopping)
      | .refused => some (s.setPhase i run (.afterError retry))
      | .lost => some (created.setPhase i run (.afterError retry))
    | _ => none
  | .update _ fault retry =>
    match run.phase with
    | .fetched configMap =>
      let stopping := Phase.stopping run.nonLiveMigratableVMNames
      let data := Function.update configMap.data run.node (some (joinNames run.restoreVMNames))
      let updated := { s with configMap := some ⟨configMap.version + 1, data⟩ }
      if s.configMap.any fun live => live.version = configMap.version then
        match fault with
        | .none => some (updated.setPhase i run stopping)
        | .refused => some (s.setPhase i run (.afterError retry))
        | .lost => some (updated.setPhase i run (.afterError retry))
      else some (s.setPhase i run (.afterError retry))
    | _ => none
  | .stop _ answered =>
    match run.phase with
    | .stopping (vm :: vms) =>
      let stopped :=
        if answered ∧ vm ∈ run.restoreVMNames then (run.node, vm) :: s.stopped else s.stopped
      some ({ s with stopped }.setPhase i run (.stopping vms))
    | _ => none
  | _ => none

end State

/-- The run that takes the step. -/
def Event.run : Event → Option Nat
  | .start .. => none
  | .get i _ => some i
  | .create i .. => some i
  | .update i .. => some i
  | .stop i _ => some i
  | .vmisChanged _ => none

/-- All runs of the detector for one upgrade. -/
def machine : Machine State Event where
  next s ev :=
    match ev with
    | .start node nonLiveMigratable =>
      some { s with runs := s.runs ++ [.start s.vmis node nonLiveMigratable] }
    | .vmisChanged vmis => some { s with vmis }
    | ev => do
      let i ← ev.run
      let run ← s.runs[i]?
      s.step i run ev

/-! ### What is to be restored -/

/-- The VMs that a run is about to stop and that are to be restored. -/
def Run.toStop (run : Run) : List VMName :=
  match run.phase with
  | .stopping vms => vms.filter (· ∈ run.restoreVMNames)
  | _ => []

/-- The VMs of a node that have been stopped, or are about to be. -/
def State.pending (s : State) (node : String) : List VMName :=
  ((s.stopped.filter fun entry => entry.1 = node).map Prod.snd) ++
    (s.runs.filter fun run => run.node = node).flatMap Run.toStop

/-- A run whose creation comes too late finds its names in the ConfigMap, and a run that replaces
the names of its node stores those of all VMs that have been stopped there or are about to be. -/
def Event.Safe (s : State) : Event → Prop
  | .create i fault _ => ∀ run ∈ s.runs[i]?, fault = .none → s.configMap.isSome →
    ∀ vm ∈ run.restoreVMNames, vm.text ∈ getVMNamesFromConfigMap s.configMap run.node
  | .update i fault _ => ∀ run ∈ s.runs[i]?, fault ≠ .refused →
    ∀ vm ∈ s.pending run.node, vm ∈ run.restoreVMNames
  | _ => True

instance (s : State) (ev : Event) : Decidable (ev.Safe s) := by
  unfold Event.Safe
  split <;> infer_instance

section

variable {s s' : State} {i : Nat} {run : Run} {node : String} {vm : VMName} {phase : Phase}

theorem mem_pending : vm ∈ s.pending node ↔
    (node, vm) ∈ s.stopped ∨ ∃ run ∈ s.runs, run.node = node ∧ vm ∈ run.toStop := by
  simp [State.pending, and_assoc]

theorem toStop_stopping {vms : List VMName}
    (h : vm ∈ { run with phase := Phase.stopping vms }.toStop) :
    vm ∈ vms ∧ vm ∈ run.restoreVMNames := by
  simpa [Run.toStop] using h

theorem getVMNames_update (version : Nat) (data : String → Option String) (names : List VMName) :
    getVMNamesFromConfigMap (some ⟨version, Function.update data node (some (joinNames names))⟩)
      node = names.map VMName.text := by
  simp [getVMNamesFromConfigMap, parseNames_joinNames]

theorem getVMNames_update_of_ne {node' : String} (h : node' ≠ node) (version version' : Nat)
    {data : String → Option String} {value : String} :
    getVMNamesFromConfigMap (some ⟨version, Function.update data node (some value)⟩) node' =
      getVMNamesFromConfigMap (some ⟨version', data⟩) node' := by
  simp [getVMNamesFromConfigMap, h]

/-! ### The invariant -/

/-- A ConfigMap that was read: the current one is the same or a later one. -/
def Read (configMap : ConfigMap) (current : Option ConfigMap) : Prop :=
  ∃ live, current = some live ∧ configMap.version ≤ live.version ∧
    (live.version = configMap.version → live = configMap)

/-- What a run is about to stop is found by `restore-vm`. -/
structure Run.Recorded (current : Option ConfigMap) (run : Run) : Prop where
  toStop : ∀ vm ∈ run.toStop, vm.text ∈ getVMNamesFromConfigMap current run.node
  fetched : ∀ configMap, run.phase = .fetched configMap → Read configMap current

/-- What is to be restored is found by `restore-vm`. -/
structure Recorded (s : State) : Prop where
  stopped : ∀ node vm, (node, vm) ∈ s.stopped → vm.text ∈ getVMNamesFromConfigMap s.configMap node
  runs : ∀ run ∈ s.runs, run.Recorded s.configMap

theorem Recorded.setPhase (h : Recorded s) (hrun : { run with phase }.Recorded s.configMap) :
    Recorded (s.setPhase i run phase) := by
  refine ⟨h.stopped, fun run' hrun' => ?_⟩
  rcases List.mem_or_eq_of_mem_set hrun' with hold | rfl
  · exact h.runs run' hold
  · exact hrun

theorem Recorded.afterError (h : Recorded s) {retry : Bool} :
    Recorded (s.setPhase i run (.afterError retry)) := by
  refine h.setPhase ⟨fun vm hvm => ?_, fun configMap hphase => ?_⟩
  · cases retry <;> simp [Run.toStop, Phase.afterError] at hvm
  · cases retry <;> simp [Phase.afterError] at hphase

theorem Recorded.created (h : Recorded s) {configMap : ConfigMap} :
    Recorded { s with configMap := some (s.configMap.getD configMap) } := by
  rcases hlive : s.configMap with _ | live
  · have hnames : ∀ node (vm : VMName), vm.text ∉ getVMNamesFromConfigMap s.configMap node := by
      simp [hlive, getVMNamesFromConfigMap]
    refine ⟨fun node vm hvm => absurd (h.stopped node vm hvm) (hnames node vm), fun run hrun =>
      ⟨fun vm hvm => absurd ((h.runs run hrun).toStop vm hvm) (hnames _ vm), fun _ hphase => ?_⟩⟩
    obtain ⟨live, hlive', -⟩ := (h.runs run hrun).fetched _ hphase
    simp [hlive] at hlive'
  · rw [Option.getD_some, ← hlive]
    exact h

theorem Recorded.updated (h : Recorded s) {configMap : ConfigMap}
    (hlive : s.configMap = some configMap)
    (hall : ∀ vm ∈ s.pending run.node, vm ∈ run.restoreVMNames) :
    Recorded { s with configMap := some ⟨configMap.version + 1,
      Function.update configMap.data run.node (some (joinNames run.restoreVMNames))⟩ } := by
  have hnames : ∀ node vm, vm ∈ s.pending node →
      vm.text ∈ getVMNamesFromConfigMap s.configMap node →
      vm.text ∈ getVMNamesFromConfigMap (some ⟨configMap.version + 1,
        Function.update configMap.data run.node (some (joinNames run.restoreVMNames))⟩) node := by
    intro node vm hvm hold
    by_cases hnode : node = run.node
    · subst hnode
      rw [getVMNames_update]
      exact List.mem_map_of_mem (hall vm hvm)
    · rw [hlive] at hold
      rwa [getVMNames_update_of_ne hnode _ configMap.version]
  refine ⟨fun node vm hvm => ?_, fun run' hrun' => ⟨fun vm hvm => ?_, fun fetched hphase => ?_⟩⟩
  · exact hnames node vm (mem_pending.2 (.inl hvm)) (h.stopped node vm hvm)
  · exact hnames _ vm (mem_pending.2 (.inr ⟨run', hrun', rfl, hvm⟩))
      ((h.runs run' hrun').toStop vm hvm)
  · obtain ⟨live, hlive', hle, -⟩ := (h.runs run' hrun').fetched fetched hphase
    have heq : live = configMap := Option.some.inj (hlive'.symm.trans hlive)
    subst heq
    refine ⟨_, rfl, Nat.le_succ_of_le hle, fun hversion => ?_⟩
    dsimp only at hversion
    omega

theorem Recorded.get (h : Recorded s) {answered : Bool} {j : Nat}
    (hstep : s.step i run (.get j answered) = some s') : Recorded s' := by
  simp only [State.step] at hstep
  split at hstep
  · split at hstep
    · cases hstep
      exact h.setPhase ⟨by simp [Run.toStop], by simp⟩
    · split at hstep
      · cases hstep
        exact h.setPhase ⟨by simp [Run.toStop], by simp⟩
      · next configMap hlive =>
        cases hstep
        refine h.setPhase ⟨by simp [Run.toStop], fun found hphase => ?_⟩
        exact Phase.fetched.inj hphase ▸ ⟨configMap, hlive, Nat.le_refl _, fun _ => rfl⟩
  · simp at hstep

theorem Recorded.create (h : Recorded s) {fault : Fault} {retry : Bool} {j : Nat}
    (hsafe : fault = .none → s.configMap.isSome →
      ∀ vm ∈ run.restoreVMNames, vm.text ∈ getVMNamesFromConfigMap s.configMap run.node)
    (hstep : s.step i run (.create j fault retry) = some s') : Recorded s' := by
  simp only [State.step] at hstep
  split at hstep
  · cases fault with
    | none =>
      cases hstep
      refine h.created.setPhase ⟨fun vm hvm => ?_, by simp⟩
      have hrestore := (toStop_stopping hvm).2
      dsimp only
      rcases hlive : s.configMap with _ | live
      · -- The ConfigMap is created with the names of the run.
        rw [Option.getD_none, getVMNames_update]
        exact List.mem_map_of_mem hrestore
      · rw [Option.getD_some, ← hlive]
        exact hsafe rfl (by simp [hlive]) vm hrestore
    | refused =>
      cases hstep
      exact h.afterError
    | lost =>
      cases hstep
      exact h.created.afterError
  · simp at hstep

theorem Recorded.update (h : Recorded s) {fault : Fault} {retry : Bool} {j : Nat}
    (hrun : run ∈ s.runs)
    (hsafe : fault ≠ .refused → ∀ vm ∈ s.pending run.node, vm ∈ run.restoreVMNames)
    (hstep : s.step i run (.update j fault retry) = some s') : Recorded s' := by
  simp only [State.step] at hstep
  split at hstep
  · next configMap hphase =>
    obtain ⟨live, hlive, -, hsame⟩ := (h.runs run hrun).fetched configMap hphase
    split at hstep
    · next hversion =>
      have heq : live = configMap := hsame (by simpa [hlive] using hversion)
      subst heq
      cases fault with
      | none =>
        cases hstep
        refine (h.updated hlive (hsafe (by simp))).setPhase ⟨fun vm hvm => ?_, by simp⟩
        rw [getVMNames_update]
        exact List.mem_map_of_mem (toStop_stopping hvm).2
      | refused =>
        cases hstep
        exact h.afterError
      | lost =>
        cases hstep
        exact (h.updated hlive (hsafe (by simp))).afterError
    · cases hstep
      exact h.afterError
  · simp at hstep

theorem Recorded.stop (h : Recorded s) {answered : Bool} {j : Nat} (hrun : run ∈ s.runs)
    (hstep : s.step i run (.stop j answered) = some s') : Recorded s' := by
  simp only [State.step] at hstep
  split at hstep
  · next vm vms hphase =>
    cases hstep
    have hnames : ∀ vm' ∈ vm :: vms, vm' ∈ run.restoreVMNames →
        vm'.text ∈ getVMNamesFromConfigMap s.configMap run.node := by
      intro vm' hmem hrestore
      refine (h.runs run hrun).toStop vm' ?_
      simp only [Run.toStop, hphase, List.mem_filter, decide_eq_true_eq]
      exact ⟨hmem, hrestore⟩
    refine Recorded.setPhase ⟨fun node vm' hmem => ?_, h.runs⟩ ⟨fun vm' hvm => ?_, by simp⟩
    · split at hmem
      · next hstopped =>
        rcases List.mem_cons.1 hmem with heq | hmem
        · -- The VM that is stopped now was about to be stopped.
          obtain ⟨rfl, rfl⟩ := Prod.mk.inj heq
          exact hnames vm' List.mem_cons_self hstopped.2
        · exact h.stopped node vm' hmem
      · exact h.stopped node vm' hmem
    · have hmem := toStop_stopping hvm
      exact hnames vm' (List.mem_cons_of_mem vm hmem.1) hmem.2
  · simp at hstep

/-- **A step of the detectors.** -/
theorem Recorded.next {ev : Event} (h : Recorded s) (hsafe : ev.Safe s)
    (hnext : machine.next s ev = some s') : Recorded s' := by
  have hstep : ∀ i, (s.runs[i]?.bind fun run => s.step i run ev) = some s' →
      ∃ run ∈ s.runs[i]?, run ∈ s.runs ∧ s.step i run ev = some s' := by
    intro i hbind
    obtain ⟨run, hrun, hstep⟩ := Option.bind_eq_some_iff.1 hbind
    exact ⟨run, hrun, List.mem_of_getElem? hrun, hstep⟩
  cases ev with
  | start node nonLiveMigratable =>
    cases hnext
    refine ⟨h.stopped, List.forall_mem_append.2 ⟨h.runs, List.forall_mem_singleton.2 ?_⟩⟩
    exact ⟨by simp [Run.toStop, Run.start], by simp [Run.start]⟩
  | vmisChanged vmis =>
    cases hnext
    exact ⟨h.stopped, h.runs⟩
  | get j answered =>
    obtain ⟨run, -, -, hstep⟩ := hstep j hnext
    exact h.get hstep
  | create j fault retry =>
    obtain ⟨run, hget, -, hstep⟩ := hstep j hnext
    exact h.create (hsafe run hget) hstep
  | update j fault retry =>
    obtain ⟨run, hget, hmem, hstep⟩ := hstep j hnext
    exact h.update hmem (hsafe run hget) hstep
  | stop j answered =>
    obtain ⟨run, -, hmem, hstep⟩ := hstep j hnext
    exact h.stop hmem hstep

end

/-- The detector has not run yet. -/
def init (vmis : List VMI) : State := ⟨vmis, none, [], []⟩

theorem recorded_init (vmis : List VMI) : Recorded (init vmis) :=
  ⟨by simp [init], by simp [init]⟩

/-- **Stopped VMs are recorded.**  In every interleaving of safe runs of the detector, `restore-vm`
finds every VM that was stopped under the node it was stopped for. -/
theorem stopped_vms_recorded {vmis : List VMI} {s : State} {evs : List Event}
    (hsafe : machine.Along (fun s ev => ev.Safe s) (init vmis) evs)
    (hrun : machine.run (init vmis) evs = some s) :
    ∀ node vm, (node, vm) ∈ s.stopped → vm.text ∈ getVMNamesFromConfigMap s.configMap node := by
  have hrecorded : Recorded s := Machine.run_invariant
    (fun _ _ _ h hsafe hnext => h.next hsafe hnext) (recorded_init vmis) hsafe hrun
  exact hrecorded.stopped

theorem plain_of_all {text : List Char}
    (h : text.all (fun ch => ch != ',' && !ch.isWhitespace) = true) :
    ∀ ch ∈ text, ch ≠ ',' ∧ ch.isWhitespace = false := by
  simpa using h

namespace Sample

def vm0 : VMName := ⟨"default/vm-0", by decide, plain_of_all (by decide)⟩

def vm1 : VMName := ⟨"default/vm-1", by decide, plain_of_all (by decide)⟩

/-- Two VMs on two nodes. -/
def vmis : List VMI := [⟨vm0, "node-0", false, false⟩, ⟨vm1, "node-1", false, false⟩]

/-- All VMIs are stopped. -/
def everyVM : VMI → Bool := fun _ => true

/-- A run for the first node that creates the ConfigMap and stops the VM. -/
def firstRun : List Event :=
  [.start "node-0" everyVM, .get 0 true, .create 0 .none false, .stop 0 true]

/-- The run is repeated, and then there is one for the other node. -/
def repeatedRun : List Event :=
  firstRun ++ [.start "node-0" everyVM, .get 1 true, .update 1 .none false, .stop 1 true,
    .start "node-1" everyVM, .get 2 true, .update 2 .none false, .stop 2 true]

/-- After the first run a second one for the same node, which finds no VM any more. -/
def secondRun : List Event :=
  firstRun ++ [.vmisChanged [⟨vm1, "node-1", false, false⟩], .start "node-0" everyVM, .get 1 true,
    .update 1 .none false]

/-- Two runs for two nodes that both find no ConfigMap. -/
def race : List Event :=
  [.start "node-0" everyVM, .start "node-1" everyVM, .get 0 true, .get 1 true,
    .create 0 .none false, .create 1 .none false, .stop 0 true, .stop 1 true]

end Sample

open Sample in
/-- The VMs of all runs are found. -/
theorem stopped_vms_recorded_sample :
    ∃ s, machine.run (init vmis) repeatedRun = some s ∧ ("node-0", vm0) ∈ s.stopped ∧
      ("node-1", vm1) ∈ s.stopped ∧ ∀ node vm, (node, vm) ∈ s.stopped →
        vm.text ∈ getVMNamesFromConfigMap s.configMap node := by
  have hsafe : machine.Along (fun s ev => ev.Safe s) (init vmis) repeatedRun := by decide
  exact ⟨_, Machine.run_get (by decide), by decide, by decide,
    stopped_vms_recorded hsafe (Machine.run_get _)⟩

open Sample in
/-- **Stopped VMs that are not started again**: a second run replaces the names of the first one,
and of two runs that create the ConfigMap the later one goes on without its names. -/
theorem stopped_vms_lost :
    (∃ s, machine.run (init vmis) secondRun = some s ∧ ("node-0", vm0) ∈ s.stopped ∧
      getVMNamesFromConfigMap s.configMap "node-0" = []) ∧
    ∃ s, machine.run (init vmis) race = some s ∧ ("node-1", vm1) ∈ s.stopped ∧
      getVMNamesFromConfigMap s.configMap "node-1" = [] := by
  decide

end Detector

end Harvester
