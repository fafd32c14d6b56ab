import Harvester.ResourceQuota.Calculator
import Harvester.VirtualMachine.Validator

/-!
# VMs as the webhooks see them

A VM with the parts of its template that the mutator and the validator look at.  What is a pointer
in Go is an option here, also where it is a map: a resource list can be nil or empty.  The mutator
returns a list of patches, which the API server applies.
-/

namespace Harvester

namespace VirtualMachine

namespace Create

open ResourceQuota (Quantity ResourceName)

/-- A `corev1.ResourceList` that is not nil. -/
abbrev Resources := AList fun _ : ResourceName => Quantity

/-- The quantity of a resource; zero without one, also in a nil list. -/
def quantityOf (rl : Option Resources) (r : ResourceName) : Quantity :=
  (rl.bind fun rl => rl.lookup r).getD 0

/-- `len(rl) == 0`. -/
def isEmptyList (rl : Option Resources) : Bool := rl.all fun rl => rl.entries.isEmpty

/-- `q / n`, rounded away from zero. -/
def roundUp (q n : ℤ) : ℤ := if 0 ≤ q then -(-q / n) else q / n

/-- The result is exact; in Go it has to fit into an `int64`. -/
def milliValue (q : Quantity) : ℤ := roundUp q (10 ^ 6)

/-- `NewMilliQuantity`. -/
def newMilliQuantity (n : ℤ) : Quantity := n * 10 ^ 6

/-- `Value`. -/
def value (q : Quantity) : ℤ := roundUp q (10 ^ 9)

/-- The CPU of a VM. -/
structure CPU where
  cores : Nat
  sockets : Nat
  threads : Nat
  maxSockets : Nat
  dedicatedCPUPlacement : Bool
  deriving DecidableEq, Repr

/-- The memory of a VM. -/
structure Memory where
  guest : Option Quantity
  /-- The page size of huge pages. -/
  hugepages : Option String
  deriving DecidableEq, Repr

/-- An interface. -/
structure Interface where
  name : String
  /-- Empty without one. -/
  macAddress : String
  /-- The name of the binding plugin. -/
  binding : Option String
  /-- The interface is bound as a bridge. -/
  bridge : Bool
  masquerade : Bool
  deriving DecidableEq, Repr

/-- An expression. -/
structure NodeSelectorRequirement where
  key : String
  operator : String
  values : List String
  deriving DecidableEq, Repr

/-- A term. -/
structure NodeSelectorTerm where
  matchExpressions : List NodeSelectorRequirement
  matchFields : List NodeSelectorRequirement
  deriving DecidableEq, Repr

/-- The affinity to nodes. -/
structure NodeAffinity where
  /-- The terms of `requiredDuringSchedulingIgnoredDuringExecution`. -/
  required : Option (List NodeSelectorTerm)
  /-- `preferredDuringSchedulingIgnoredDuringExecution`, with the weights. -/
  preferred : List (Nat × NodeSelectorTerm)
  deriving DecidableEq, Repr

/-- The affinity of a VM. -/
structure Affinity where
  nodeAffinity : Option NodeAffinity
  /-- The affinities to pods, which are handed on as they are. -/
  pods : Option String
  deriving DecidableEq, Repr

/-- The template of a VM. -/
structure Template where
  cpu : Option CPU
  memory : Option Memory
  limits : Option Resources
  requests : Option Resources
  hostDevices : List String
  gpus : List String
  disks : List Validator.Disk
  volumes : List Validator.Volume
  interfaces : List Interface
  networks : List Validator.Network
  affinity : Option Affinity
  terminationGracePeriodSeconds : Option Int
  architecture : String

/-- The run strategy. -/
inductive RunStrategy where
  | always
  | halted
  | manual
  | rerunOnFailure
  | once
  | waitAsReceiver
  deriving DecidableEq, Repr

/-- A VM with a template. -/
structure VM where
  ns : String
  name : String
  template : Template
  running : Option Bool
  runStrategy : Option RunStrategy
  /-- Empty before the VM has a status. -/
  printableStatus : String
  /-- The text of the `volumeClaimTemplates` annotation; empty without one. -/
  volumeClaimTemplates : String
  /-- The reserved memory annotation; empty without one. -/
  reservedMemory : String
  /-- The annotation that enables the hotplug of CPU and memory; empty without one. -/
  enableCPUAndMemoryHotplug : String
  /-- The annotation with the MAC addresses that the VM has had. -/
  macAddresses : Option String
  /-- The labels `migration`, `plan` and `vmID` of Forklift are there. -/
  forkliftLabels : Bool × Bool × Bool
  /-- The label of the VM import controller is true. -/
  imported : Bool
  /-- The maintain-mode-strategy label. -/
  maintainModeStrategy : Option String

/-- The VM as the checks of volumes and interfaces see it. -/
def VM.validated (vm : VM) : Validator.VM where
  ns := vm.ns
  name := vm.name
  deleting := false
  templates := vm.volumeClaimTemplates
  spec := some {
    disks := vm.template.disks
    volumes := vm.template.volumes
    interfaces := vm.template.interfaces.map fun iface => ⟨iface.name, iface.macAddress, ""⟩
    networks := vm.template.networks }
  updateVolumesStrategy := none
  waitingStorageMigration := none
  imported := vm.imported
  maintainModeStrategy := vm.maintainModeStrategy
  printableStatus :=
    if vm.printableStatus = "Running" then .running
    else if vm.printableStatus = "Migrating" then .migrating else .other

/-- The CPUs are dedicated. -/
def isDedicatedCPU (t : Template) : Bool := t.cpu.any CPU.dedicatedCPUPlacement

/-- Hotplug is enabled. -/
def supportCPUAndMemoryHotplug (vm : VM) : Bool := vm.enableCPUAndMemoryHotplug.toLower = "true"

/-- `RunStrategy` of a VM. -/
def VM.strategy (vm : VM) : Except String RunStrategy :=
  match vm.running, vm.runStrategy with
  | some _, some _ => .error "running and runstrategy are mutually exclusive"
  | some true, none => .ok .always
  | some false, none => .ok .halted
  | none, some strategy => .ok strategy
  | none, none => .ok .halted

/-- The patches of the mutator, by the path below `/spec/template/spec`. -/
inductive PatchOp where
  /-- `domain/resources/limits` -/
  | limits (rl : Resources)
  /-- `domain/resources/requests` -/
  | requests (rl : Resources)
  /-- `domain/resources/requests/cpu`, `domain/resources/requests/memory` -/
  | request (r : ResourceName) (q : Quantity)
  /-- `domain/memory` with this guest memory -/
  | memory (guest : Quantity)
  /-- `domain/memory/guest` -/
  | guest (q : Quantity)
  /-- `domain/cpu/maxSockets` -/
  | maxSockets (n : Nat)
  /-- `domain/cpu` with one core, socket and thread -/
  | cpu
  /-- `domain/cpu/cores` -/
  | cores
  /-- `domain/cpu/sockets` -/
  | sockets
  /-- `domain/cpu/threads` -/
  | threads
  /-- `affinity` -/
  | affinity (a : Affinity)
  /-- `terminationGracePeriodSeconds`; none when the text is not an integer -/
  | terminationGracePeriodSeconds (seconds : Option Int)
  /-- `domain/devices/interfaces/i/macAddress` -/
  | macAddress (i : Nat) (mac : String)
  /-- `domain/devices/interfaces/i/binding`, added as `managedtap` or removed -/
  | binding (i : Nat) (present : Bool)
  /-- `domain/devices/interfaces/i/bridge`, added or removed -/
  | bridge (i : Nat) (present : Bool)
  /-- `domain/devices/interfaces/i/masquerade`, removed -/
  | masquerade (i : Nat)

/-- Change an interface that is there. -/
def Template.modifyInterface (t : Template) (i : Nat) (f : Interface → Interface) :
    Option Template := do
  let iface ← t.interfaces[i]?
  return { t with interfaces := t.interfaces.set i (f iface) }

/-- Apply a patch, which fails inside an object that is not there. -/
def Template.apply (t : Template) : PatchOp → Option Template
  | .limits rl => some { t with limits := some rl }
  | .requests rl => some { t with requests := some rl }
  | .request r q => t.requests.map fun rl => { t with requests := some (rl.insert r q) }
  | .memory guest => some { t with memory := some ⟨some guest, none⟩ }
  | .guest q => t.memory.map fun memory => { t with memory := some { memory with guest := some q } }
  | .maxSockets n => t.cpu.map fun cpu => { t with cpu := some { cpu with maxSockets := n } }
  | .cpu => some { t with cpu := some ⟨1, 1, 1, 0, false⟩ }
  | .cores => t.cpu.map fun cpu => { t with cpu := some { cpu with cores := 1 } }
  | .sockets => t.cpu.map fun cpu => { t with cpu := some { cpu with sockets := 1 } }
  | .threads => t.cpu.map fun cpu => { t with cpu := some { cpu with threads := 1 } }
  | .affinity a => some { t with affinity := some a }
  | .terminationGracePeriodSeconds seconds =>
    seconds.map fun n => { t with terminationGracePeriodSeconds := some n }
  | .macAddress i mac => t.modifyInterface i fun iface => { iface with macAddress := mac }
  | .binding i present =>
    t.modifyInterface i fun iface =>
      { iface with binding := if present then some "managedtap" else none }
  | .bridge i present => t.modifyInterface i fun iface => { iface with bridge := present }
  | .masquerade i => t.modifyInterface i fun iface => { iface with masquerade := false }

/-- Apply the patches one after the other. -/
def Template.applyAll (t : Template) : List PatchOp → Option Template
  | [] => some t
  | op :: ops => (t.apply op).bind fun t => t.applyAll ops

/-- The limits after a patch that applies. -/
def PatchOp.onLimits (limits : Option Resources) : PatchOp → Option Resources
  | .limits rl => some rl
  | _ => limits

/-- The memory after a patch that applies. -/
def PatchOp.onMemory (memory : Option Memory) : PatchOp → Option Memory
  | .memory q => some ⟨some q, none⟩
  | .guest q => memory.map fun m => { m with guest := some q }
  | _ => memory

/-- The patch is neither about the limits nor about the memory. -/
def PatchOp.Inert : PatchOp → Prop
  | .limits _ | .memory _ | .guest _ => False
  | _ => True

theorem PatchOp.Inert.onLimits {op : PatchOp} (h : op.Inert) (limits : Option Resources) :
    PatchOp.onLimits limits op = limits := by
  cases op <;> first | rfl | exact h.elim

theorem PatchOp.Inert.onMemory {op : PatchOp} (h : op.Inert) (memory : Option Memory) :
    PatchOp.onMemory memory op = memory := by
  cases op <;> first | rfl | exact h.elim

theorem modifyInterface_keeps {t t' : Template} {i : Nat} {f : Interface → Interface}
    (h : t.modifyInterface i f = some t') : t'.limits = t.limits ∧ t'.memory = t.memory := by
  simp only [Template.modifyInterface, Option.bind_eq_bind, Option.bind_eq_some_iff] at h
  obtain ⟨iface, -, h⟩ := h
  cases h
  exact ⟨rfl, rfl⟩

theorem apply_keeps {t t' : Template} {op : PatchOp} (h : t.apply op = some t') :
    t'.limits = op.onLimits t.limits ∧ t'.memory = op.onMemory t.memory := by
  cases op with
  | macAddress | binding | bridge | masquerade => exact modifyInterface_keeps h
  | limits | requests | memory | cpu | affinity =>
    cases h
    exact ⟨rfl, rfl⟩
  | guest q =>
    obtain ⟨memory, hmemory, rfl⟩ := Option.map_eq_some_iff.1 h
    exact ⟨rfl, by rw [hmemory]; rfl⟩
  | request | maxSockets | cores | sockets | threads | terminationGracePeriodSeconds =>
    obtain ⟨x, -, rfl⟩ := Option.map_eq_some_iff.1 h
    exact ⟨rfl, rfl⟩

theorem applyAll_keeps {t t' : Template} {ops : List PatchOp} (h : t.applyAll ops = some t') :
    t'.limits = ops.foldl PatchOp.onLimits t.limits ∧
      t'.memory = ops.foldl PatchOp.onMemory t.memory := by
  induction ops generalizing t with
  | nil =>
    cases h
    exact ⟨rfl, rfl⟩
  | cons op ops ih =>
    obtain ⟨t₁, h₁, h⟩ := Option.bind_eq_some_iff.1 h
    obtain ⟨hlimits, hmemory⟩ := apply_keeps h₁
    obtain ⟨hlimits', hmemory'⟩ := ih h
    exact ⟨by rw [hlimits', hlimits, List.foldl_cons], by rw [hmemory', hmemory, List.foldl_cons]⟩

theorem foldl_onLimits_of_inert {ops : List PatchOp} (h : ∀ op ∈ ops, op.Inert)
    (limits : Option Resources) : ops.foldl PatchOp.onLimits limits = limits := by
  induction ops with
  | nil => rfl
  | cons op ops ih =>
    rw [List.foldl_cons, (h op (by simp)).onLimits, ih fun op hop => h op (by simp [hop])]

theorem foldl_onMemory_of_inert {ops : List PatchOp} (h : ∀ op ∈ ops, op.Inert)
    (memory : Option Memory) : ops.foldl PatchOp.onMemory memory = memory := by
  induction ops with
  | nil => rfl
  | cons op ops ih =>
    rw [List.foldl_cons, (h op (by simp)).onMemory, ih fun op hop => h op (by simp [hop])]

end Create

end VirtualMachine

end Harvester
