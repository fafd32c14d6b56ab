import Harvester.VirtualMachine.Template

/-!
# The VM mutator

`Create` of `pkg/webhook/resources/virtualmachine/mutator.go`: the patches of a new VM.  The mutator
tests every pointer before it follows it.  `limits_of_mutated` and `memory_of_mutated` say which
limits and which memory the validator gets.
-/

namespace Harvester

namespace VirtualMachine

namespace Create

open Control
open ResourceQuota (Quantity ResourceName newQuantity)

/-! ### What the mutator looks up -/

/-- A setting with its default. -/
structure Setting where
  value : String
  default : String

/-- The value of a setting, or its default. -/
def Setting.effective (s : Setting) : String := if s.value = "" then s.default else s.value

/-- The `overcommit-config` setting; its validator accepts no percentage below 100. -/
structure Overcommit where
  cpu : ℤ
  memory : ℤ
  cpu_ge : 100 ≤ cpu
  memory_ge : 100 ≤ memory

/-- A network. -/
structure NAD where
  /-- The cluster network label. -/
  clusterNetwork : Option String
  /-- `IsNetworkTypeOverlay`. -/
  overlay : Bool

/-- A subnet. -/
structure Subnet where
  provider : String
  enableDHCP : Bool

/-- What the mutator reads. -/
structure MutatorEnv where
  /-- The request comes from a controller. -/
  isFromController : Bool
  overcommitConfig : Except Err Setting
  unmarshalOvercommit : String → Except Err Overcommit
  additionalGuestMemoryOverheadRatio : Except Err Setting
  /-- `NewAdditionalGuestMemoryOverheadRatioConfig`, and whether the result is empty. -/
  ratioIsEmpty : String → Except Err Bool
  defaultVMTerminationGracePeriodSeconds : Except Err Setting
  /-- The integer that a JSON text stands for. -/
  decodeInteger : String → Option Int
  defaultArchitecture : Except Err String
  parseQuantity : String → Except Err Quantity
  nads : Key → Except Err NAD
  /-- The subnets of Kube-OVN; none when it is not installed. -/
  subnets : Option (Except Err (List Subnet))
  /-- The MAC addresses of interfaces in an annotation; none when it cannot be read. -/
  unmarshalMacAddresses : String → List (String × String)
  /-- `GenerateLAAMacAddress` for an interface. -/
  generateMac : Nat → Except Err String

/-- Errors that are not made by the webhook itself. -/
def internalError {α : Type} (x : Except Err α) : Except AdmitError α :=
  x.mapError fun e => .internal e.text

section

variable (env : MutatorEnv)

/-! ### Limits and requests -/

/-- The product of the numbers that are not zero, in the type `uint32`. -/
def getNumberOfVCPUs (cpu : CPU) : Nat :=
  let times := fun vCPUs n =>
    if n = 0 then vCPUs else if vCPUs = 0 then n else vCPUs * n % 2 ^ 32
  times (times cpu.cores cpu.sockets) cpu.threads

section

variable (vm : VM) (t : Template)

/-- The limits of a Forklift VM. -/
def buildForkliftResourceLimits : Resources :=
  let limits : Resources := match t.cpu with
    | none => ∅
    | some cpu => (∅ : Resources).insert .cpu (newQuantity (getNumberOfVCPUs cpu))
  match t.memory.bind Memory.guest with
  | none => limits
  | some guest => limits.insert .memory guest

/-- The VM comes from Forklift. -/
def isCreatedByForklift : Bool :=
  vm.forkliftLabels.1 && vm.forkliftLabels.2.1 && vm.forkliftLabels.2.2

/-- `patchMissingForkliftLimits`, which also changes the VM. -/
def patchMissingForkliftLimits : Template × List PatchOp :=
  let limits := buildForkliftResourceLimits vm.template
  if !isCreatedByForklift vm || !isEmptyList vm.template.limits || limits.entries.isEmpty then
    (vm.template, [])
  else ({ vm.template with limits := some limits }, [.limits limits])

/-- The overcommit setting. -/
def getOvercommit : Except Err (Option Overcommit) :=
  match env.overcommitConfig with
  | .error e => if e.isNotFound then .ok none else .error e
  | .ok s => if s.effective = "" then .ok none else (env.unmarshalOvercommit s.effective).map some

/-- A valid ratio is set.  Errors are only logged. -/
def hasAdditionalGuestMemoryOverheadRatio : Bool :=
  match env.additionalGuestMemoryOverheadRatio with
  | .error _ => false
  | .ok s => (env.ratioIsEmpty s.effective).toOption.any (!·)

/-- The VM is for ARM. -/
def isARMArchitecture : Except Err Bool := do
  let defaultArchitecture ← env.defaultArchitecture
  return t.architecture = "arm64" || defaultArchitecture = "arm64"

/-- The VM has devices. -/
def hostDevicesPresent : Bool := !t.hostDevices.isEmpty || !t.gpus.isEmpty

/-- The memory that is reserved, when it is to be subtracted from the guest memory. -/
def reservedFor (mem : Quantity) : Except AdmitError (Option Quantity) :=
  if vm.reservedMemory ≠ "" then
    match env.parseQuantity vm.reservedMemory with
    | .error _ => .error (.internal ("annotation " ++ vm.reservedMemory ++
        " can't be converted to memory unit"))
    | .ok reserved =>
      if value reserved ≥ value mem then .error (.internal
        ("reservedMemory can't be equal or greater than limits.memory  " ++
          toString (value reserved) ++ " " ++ toString (value mem)))
      else .ok (some reserved)
  else if hasAdditionalGuestMemoryOverheadRatio env then .ok none
  else .ok (some (newQuantity 104857600))

/-- The patch of the guest memory. -/
def patchGuest (hotplug : Bool) (t : Template) (guestMemory : Quantity) : List PatchOp :=
  match t.memory with
  | none => [.memory guestMemory]
  | some _ => if hotplug then [] else [.guest guestMemory]

/-- `generateMemoryPatch`; the memory request is separate when all requests are missing. -/
def generateMemoryPatch (mem : Quantity) (overcommit : Overcommit) (requestsMissing isARM : Bool) :
    Except AdmitError (Option Quantity × List PatchOp) := do
  let hotplug := supportCPUAndMemoryHotplug vm
  let reserved ← reservedFor env vm mem
  -- With hotplug the guest memory of the user counts.
  let guestMemory := if hotplug then (t.memory.bind Memory.guest).getD mem else mem
  let guestMemory := guestMemory - reserved.getD 0
  rejectIf (value guestMemory < 10485760) (.internal
    ("guest memory is under the minimum requirement (10 Mi), original: " ++ toString (value mem) ++
      ", final: " ++ toString (value guestMemory)))
  let quantity :=
    if isDedicatedCPU t then mem
    else if hostDevicesPresent t then guestMemory
    else newQuantity (((int64 (value mem * 100)).tdiv overcommit.memory).tdiv 1048576 * 1048576)
  let request := if requestsMissing then [] else [PatchOp.request .memory quantity]
  let sockets := match t.cpu with
    | some cpu => if cpu.sockets = 0 then 1 else cpu.sockets
    | none => 1
  let maxSockets := if !hotplug && !isARM then [PatchOp.maxSockets sockets] else []
  return (if requestsMissing then some quantity else none,
    request ++ (patchGuest hotplug t guestMemory ++ maxSockets))

/-- The part of `patchResourceOvercommit` for the memory. -/
def patchMemoryOvercommit (overcommit : Overcommit) (requestsMissing : Bool) : Except AdmitError
    (Option Quantity × List PatchOp) :=
  let mem := quantityOf t.limits .memory
  if mem = 0 then .ok (none, [])
  else do
    let isARM ← internalError (isARMArchitecture env t)
    generateMemoryPatch env vm t mem overcommit requestsMissing isARM

/-- Patches of the resources. -/
def patchResourceOvercommit : Except AdmitError (List PatchOp) := do
  match ← internalError (getOvercommit env) with
  | none => return []
  | some overcommit =>
    let cpu := quantityOf t.limits .cpu
    let requestsMissing := isEmptyList t.requests
    let cpuRequest := newMilliQuantity <|
      if isDedicatedCPU t then milliValue cpu
      else (int64 (milliValue cpu * 100)).tdiv overcommit.cpu
    let (memoryRequest, memoryOps) ← patchMemoryOvercommit env vm t overcommit requestsMissing
    let requests : Resources := if cpu ≠ 0 then (∅ : Resources).insert .cpu cpuRequest else ∅
    let requests := memoryRequest.elim requests fun q => requests.insert .memory q
    if requestsMissing then
      return memoryOps ++ if requests.entries.isEmpty then [] else [PatchOp.requests requests]
    else return (if cpu ≠ 0 then [PatchOp.request .cpu cpuRequest] else []) ++ memoryOps

/-- Patches of the CPU. -/
def patchDefaultCPU : List PatchOp :=
  match t.cpu with
  | none => [.cpu]
  | some cpu => (if cpu.cores = 0 then [.cores] else []) ++
      (if cpu.sockets = 0 then [.sockets] else []) ++ (if cpu.threads = 0 then [.threads] else [])

/-! ### Affinity -/

/-- A node label. -/
def cpuManager : String := "cpumanager"

/-- The required terms of the template. -/
def requiredTerms : List NodeSelectorTerm :=
  ((t.affinity.bind Affinity.nodeAffinity).bind NodeAffinity.required).getD []

/-- `checkCpuManagerAffinityTermChanged` for a new VM. -/
def checkCpuManagerAffinityTermChanged : Except AdmitError Unit :=
  rejectIf (!env.isFromController && (requiredTerms t).any fun term =>
      term.matchExpressions.any fun expr => expr.key = cpuManager) (.invalid
    ("key " ++ quoted cpuManager ++
      " is automatically operated by Harvester controller and can't be changed manually")
    "spec.template.spec.affinity.nodeAffinity.requiredDuringSchedulingIgnoredDuringExecution")

/-- The required terms without those that are made from networks and dedicated CPUs. -/
def clearedTerms : List NodeSelectorTerm :=
  let keep := fun expr : NodeSelectorRequirement =>
    !"network.harvesterhci.io".toList.isPrefixOf expr.key.toList && expr.key ≠ cpuManager
  let terms := (requiredTerms t).map fun term =>
    { term with matchExpressions := term.matchExpressions.filter keep }
  terms.filter fun term => !term.matchExpressions.isEmpty

/-- Add a requirement to all terms, or make a term of it. -/
def addRequirement (requirement : NodeSelectorRequirement) :
    List NodeSelectorTerm → List NodeSelectorTerm
  | [] => [⟨[requirement], []⟩]
  | terms => terms.map fun term =>
      if requirement ∈ term.matchExpressions then term
      else { term with matchExpressions := term.matchExpressions ++ [requirement] }

/-- The key of a NAD; without a namespace it is the one of the VM. -/
def nadKey (ns nwName : String) : Except AdmitError Key :=
  match nwName.toList.splitOn '/' with
  | [name] => .ok ⟨ns, String.ofList name⟩
  | [ns, name] => .ok ⟨String.ofList ns, String.ofList name⟩
  | _ => .error (.internal ("invalid network name " ++ nwName))

/-- The nodes of a network. -/
def getNodeSelectorRequirementFromNetwork (ns : String) (network : Validator.Network) :
    Except AdmitError (Option NodeSelectorRequirement) :=
  match network.multus with
  | none | some "" => .ok none
  | some nwName => do
    let key ← nadKey ns nwName
    let nad ← internalError (env.nads key)
    return nad.clusterNetwork.map fun cn => ⟨"network.harvesterhci.io/" ++ cn, "In", ["true"]⟩

/-- The loop of `addNodeSelectorTerms`. -/
def addNetworkTerms (ns : String) :
    List Validator.Network → List NodeSelectorTerm → Except AdmitError (List NodeSelectorTerm)
  | [], terms => .ok terms
  | network :: networks, terms => do
    match ← getNodeSelectorRequirementFromNetwork env ns network with
    | none => addNetworkTerms ns networks terms
    | some requirement => addNetworkTerms ns networks (addRequirement requirement terms)

/-- `patchAffinity`, with `makeAffinityFromVMTemplate` and `addNodeSelectorTerms`. -/
def patchAffinity : Except AdmitError (List PatchOp) := do
  let terms ← addNetworkTerms env vm.ns t.networks (clearedTerms t)
  let terms := if isDedicatedCPU t then addRequirement ⟨cpuManager, "In", ["true"]⟩ terms else terms
  let preferred := ((t.affinity.bind Affinity.nodeAffinity).map NodeAffinity.preferred).getD []
  let nodeAffinity :=
    if terms = [] ∧ preferred = [] then none
    else some { required := if terms = [] then none else some terms, preferred : NodeAffinity }
  return [.affinity ⟨nodeAffinity, t.affinity.bind Affinity.pods⟩]

/-! ### The other patches -/

/-- A patch of the period. -/
def patchTerminationGracePeriodSeconds : Except AdmitError (List PatchOp) :=
  if t.terminationGracePeriodSeconds.isSome then .ok []
  else match env.defaultVMTerminationGracePeriodSeconds with
    | .error e => if e.isNotFound then .ok [] else .error (.internal e.text)
    | .ok s => .ok [.terminationGracePeriodSeconds (env.decodeInteger s.effective)]

/-- The loop of `patchInterfaceMacAddress`. -/
def patchMacs (observed : List (String × String)) :
    List (Interface × Nat) → Except AdmitError (List PatchOp)
  | [] => .ok []
  | (iface, i) :: rest =>
    if iface.macAddress ≠ "" ∨ observed.any (fun entry => entry.1 = iface.name) then
      patchMacs observed rest
    else do
      let mac ← (env.generateMac i).mapError fun e => .internal
        ("failed to generated proper MAC address for " ++ iface.name ++ " with error: " ++ e.text)
      let ops ← patchMacs observed rest
      return .macAddress i mac :: ops

/-- Patches of the addresses. -/
def patchInterfaceMacAddress : Except AdmitError (List PatchOp) :=
  patchMacs env ((vm.macAddresses.map env.unmarshalMacAddresses).getD []) t.interfaces.zipIdx

/-- `getNadAndDHCPOption`, with `checkDHCPEnabledOnSubnet`. -/
def getNadAndDHCPOption (ns nwName : String) (subnets : Except Err (List Subnet)) :
    Except AdmitError Bool := do
  let key ← nadKey ns nwName
  let nad ← internalError (env.nads key)
  if !nad.overlay then return false
  else do
    let subnets ← internalError subnets
    return subnets.any fun subnet =>
      subnet.provider = key.name ++ "." ++ key.ns ++ ".ovn" && subnet.enableDHCP

/-- The patches of one interface. -/
def managedTapOps (iface : Interface) (i : Nat) (enabled : Bool) : List PatchOp :=
  if !enabled then
    (if iface.binding = some "managedtap" then [.binding i false] else []) ++
      (if iface.bridge then [] else [.bridge i true])
  else
    (if iface.bridge then [.bridge i false] else []) ++
      (if iface.binding.isNone then [.binding i true] else []) ++
      (if iface.masquerade then [.masquerade i] else [])

/-- The Multus network of an interface (`getInterfaceList`); of several, the last. -/
def multusOf (networks : List Validator.Network) (name : String) : Option String :=
  (networks.reverse.find? fun network =>
    network.name = name ∧ network.multus.any (· ≠ "")).bind Validator.Network.multus

/-- The loop of `patchManagedTapBinding`. -/
def patchManagedTaps (ns : String) (networks : List Validator.Network)
    (subnets : Except Err (List Subnet)) : List (Interface × Nat) → Except AdmitError (List PatchOp)
  | [] => .ok []
  | (iface, i) :: rest =>
    match multusOf networks iface.name with
    | none => patchManagedTaps ns networks subnets rest
    | some nwName => do
      let enabled ← getNadAndDHCPOption env ns nwName subnets
      let ops ← patchManagedTaps ns networks subnets rest
      return managedTapOps iface i enabled ++ ops

/-- Patches of the bindings. -/
def patchManagedTapBinding : Except AdmitError (List PatchOp) :=
  match env.subnets with
  | none => .ok []
  | some subnets => patchManagedTaps env vm.ns t.networks subnets t.interfaces.zipIdx

/-- `Create` of the mutator. -/
def mutate : Except AdmitError (List PatchOp) := do
  let t := (patchMissingForkliftLimits vm).1
  let overcommitOps ← patchResourceOvercommit env vm t
  checkCpuManagerAffinityTermChanged env t
  let affinityOps ← patchAffinity env vm t
  let graceOps ← patchTerminationGracePeriodSeconds env t
  let macOps ← patchInterfaceMacAddress env vm t
  let tapOps ← patchManagedTapBinding env vm t
  return (patchMissingForkliftLimits vm).2 ++ (overcommitOps ++
    (patchDefaultCPU t ++ (affinityOps ++ (graceOps ++ (macOps ++ tapOps)))))

/-! ### The limits and the memory of a mutated VM -/

/-- The mutator sets the guest memory, whatever it was. -/
def PatchesGuest : Prop :=
  supportCPUAndMemoryHotplug vm = false ∧
    quantityOf (patchMissingForkliftLimits vm).1.limits .memory ≠ 0 ∧
      ∃ overcommit, getOvercommit env = .ok (some overcommit)

end

/-- The memory, if there is one, has a guest memory. -/
def HasGuest (memory : Option Memory) : Prop := ∀ m, memory = some m → m.guest.isSome

variable {env} {vm : VM} {t : Template} {ops : List PatchOp}

theorem memory_patchMissingForkliftLimits :
    (patchMissingForkliftLimits vm).1.memory = vm.template.memory := by
  simp only [patchMissingForkliftLimits]
  split_ifs <;> rfl

/-- The patch of Forklift's limits does what the mutator does to its own copy of the VM. -/
theorem foldl_patchMissingForkliftLimits :
    (patchMissingForkliftLimits vm).2.foldl PatchOp.onLimits vm.template.limits =
        (patchMissingForkliftLimits vm).1.limits ∧
      (patchMissingForkliftLimits vm).2.foldl PatchOp.onMemory vm.template.memory =
        vm.template.memory := by
  simp only [patchMissingForkliftLimits]
  split_ifs <;> exact ⟨rfl, rfl⟩

theorem inert_append {ops' : List PatchOp} (h : ∀ op ∈ ops, op.Inert) (h' : ∀ op ∈ ops', op.Inert) :
    ∀ op ∈ ops ++ ops', op.Inert := by
  intro op hop
  exact (List.mem_append.1 hop).elim (h op) (h' op)

theorem inert_ite {b : Prop} [Decidable b] {op : PatchOp} (h : op.Inert) :
    ∀ op' ∈ (if b then [op] else []), op'.Inert := by
  split_ifs
  · simpa using h
  · simp

theorem inert_patchDefaultCPU : ∀ op ∈ patchDefaultCPU t, op.Inert := by
  unfold patchDefaultCPU
  split
  · simp [PatchOp.Inert]
  · exact inert_append (inert_append (inert_ite trivial) (inert_ite trivial)) (inert_ite trivial)

theorem inert_patchAffinity (h : patchAffinity env vm t = .ok ops) : ∀ op ∈ ops, op.Inert := by
  obtain ⟨terms, -, h⟩ := except_bind_eq_ok.1 h
  cases h
  simp [PatchOp.Inert]

theorem inert_patchTerminationGracePeriodSeconds
    (h : patchTerminationGracePeriodSeconds env t = .ok ops) : ∀ op ∈ ops, op.Inert := by
  unfold patchTerminationGracePeriodSeconds at h
  split_ifs at h
  · cases h
    simp
  split at h
  · split_ifs at h
    cases h
    simp
  · cases h
    simp [PatchOp.Inert]

theorem inert_patchMacs {observed : List (String × String)} {ifaces : List (Interface × Nat)}
    (h : patchMacs env observed ifaces = .ok ops) : ∀ op ∈ ops, op.Inert := by
  induction ifaces generalizing ops with
  | nil =>
    cases h
    simp
  | cons iface ifaces ih =>
    unfold patchMacs at h
    split_ifs at h
    · exact ih h
    obtain ⟨mac, -, h⟩ := except_bind_eq_ok.1 h
    obtain ⟨rest, hrest, h⟩ := except_bind_eq_ok.1 h
    cases h
    exact List.forall_mem_cons.2 ⟨trivial, ih hrest⟩

theorem inert_managedTapOps (iface : Interface) (i : Nat) (enabled : Bool) :
    ∀ op ∈ managedTapOps iface i enabled, op.Inert := by
  unfold managedTapOps
  split_ifs <;> simp [PatchOp.Inert]

theorem inert_patchManagedTaps {ns : String} {networks : List Validator.Network}
    {subnets : Except Err (List Subnet)} {ifaces : List (Interface × Nat)}
    (h : patchManagedTaps env ns networks subnets ifaces = .ok ops) : ∀ op ∈ ops, op.Inert := by
  induction ifaces generalizing ops with
  | nil =>
    cases h
    simp
  | cons iface ifaces ih =>
    unfold patchManagedTaps at h
    split at h
    · exact ih h
    obtain ⟨enabled, -, h⟩ := except_bind_eq_ok.1 h
    obtain ⟨rest, hrest, h⟩ := except_bind_eq_ok.1 h
    cases h
    exact inert_append (inert_managedTapOps _ _ _) (ih hrest)

theorem inert_patchManagedTapBinding (h : patchManagedTapBinding env vm t = .ok ops) :
    ∀ op ∈ ops, op.Inert := by
  unfold patchManagedTapBinding at h
  split at h
  · cases h
    simp
  · exact inert_patchManagedTaps h

/-- The patches that change the limits and the memory come from two of the steps. -/
theorem mutate_eq_ok (h : mutate env vm = .ok ops) :
    ∃ overcommitOps rest, ops = (patchMissingForkliftLimits vm).2 ++ (overcommitOps ++ rest) ∧
      patchResourceOvercommit env vm (patchMissingForkliftLimits vm).1 = .ok overcommitOps ∧
      ∀ op ∈ rest, op.Inert := by
  obtain ⟨overcommitOps, hovercommit, h⟩ := except_bind_eq_ok.1 h
  obtain ⟨-, h⟩ := except_bind_unit_eq_ok.1 h
  obtain ⟨affinityOps, haffinity, h⟩ := except_bind_eq_ok.1 h
  obtain ⟨graceOps, hgrace, h⟩ := except_bind_eq_ok.1 h
  obtain ⟨macOps, hmac, h⟩ := except_bind_eq_ok.1 h
  obtain ⟨tapOps, htap, h⟩ := except_bind_eq_ok.1 h
  refine ⟨overcommitOps, _, (Except.ok.inj h).symm, hovercommit, ?_⟩
  exact inert_append inert_patchDefaultCPU <| inert_append (inert_patchAffinity haffinity) <|
    inert_append (inert_patchTerminationGracePeriodSeconds hgrace) <|
    inert_append (inert_patchMacs hmac) (inert_patchManagedTapBinding htap)

theorem patchMemoryOvercommit_eq_ok {overcommit : Overcommit} {requestsMissing : Bool}
    {request : Option Quantity}
    (h : patchMemoryOvercommit env vm t overcommit requestsMissing = .ok (request, ops)) :
    (quantityOf t.limits .memory = 0 ∧ ops = []) ∨
      (quantityOf t.limits .memory ≠ 0 ∧ ∃ before guestMemory after,
        ops = before ++ (patchGuest (supportCPUAndMemoryHotplug vm) t guestMemory ++ after) ∧
        (∀ op ∈ before, op.Inert) ∧ ∀ op ∈ after, op.Inert) := by
  unfold patchMemoryOvercommit at h
  simp only at h
  split_ifs at h with hmem
  · exact .inl ⟨hmem, (Prod.mk.inj (Except.ok.inj h)).2.symm⟩
  obtain ⟨isARM, -, h⟩ := except_bind_eq_ok.1 h
  obtain ⟨reserved, -, h⟩ := except_bind_eq_ok.1 h
  obtain ⟨-, h⟩ := except_bind_unit_eq_ok.1 h
  refine .inr ⟨hmem, _, _, _, (Prod.mk.inj (Except.ok.inj h)).2.symm, ?_, ?_⟩
  · split_ifs <;> simp [PatchOp.Inert]
  · exact inert_ite trivial

theorem patchResourceOvercommit_eq_ok (h : patchResourceOvercommit env vm t = .ok ops) :
    ((∀ op ∈ ops, op.Inert) ∧ ¬ (quantityOf t.limits .memory ≠ 0 ∧
        ∃ overcommit, getOvercommit env = .ok (some overcommit))) ∨
      ((quantityOf t.limits .memory ≠ 0 ∧ ∃ overcommit, getOvercommit env = .ok (some overcommit)) ∧
        ∃ before guestMemory after,
          ops = before ++ (patchGuest (supportCPUAndMemoryHotplug vm) t guestMemory ++ after) ∧
          (∀ op ∈ before, op.Inert) ∧ ∀ op ∈ after, op.Inert) := by
  obtain ⟨overcommit, hget, h⟩ := except_bind_eq_ok.1 h
  replace hget : getOvercommit env = .ok overcommit := except_mapError_eq_ok.1 hget
  rcases overcommit with - | overcommit
  · cases h
    exact .inl ⟨by simp, by simp [hget]⟩
  obtain ⟨⟨request, memoryOps⟩, hmemory, h⟩ := except_bind_eq_ok.1 h
  -- The patches of the requests stand before or after those of the memory.
  obtain ⟨before, after, hops, hbefore, hafter⟩ : ∃ before after,
      ops = before ++ (memoryOps ++ after) ∧ (∀ op ∈ before, op.Inert) ∧
        ∀ op ∈ after, op.Inert := by
    simp only at h
    by_cases hmissing : isEmptyList t.requests = true
    · rw [if_pos hmissing] at h
      refine ⟨[], _, (Except.ok.inj h).symm, by simp, ?_⟩
      split_ifs <;> simp [PatchOp.Inert]
    · rw [if_neg hmissing] at h
      refine ⟨_, [], by rw [List.append_nil]; exact (Except.ok.inj h).symm, ?_, by simp⟩
      exact inert_ite trivial
  rcases patchMemoryOvercommit_eq_ok hmemory with
    ⟨hzero, rfl⟩ | ⟨hne, before', guestMemory, after', rfl, hbefore', hafter'⟩
  · rw [hops]
    exact .inl ⟨inert_append hbefore (inert_append (by simp) hafter), fun h => h.1 hzero⟩
  · refine .inr ⟨⟨hne, overcommit, hget⟩, before ++ before', guestMemory, after' ++ after, ?_,
      inert_append hbefore hbefore', inert_append hafter' hafter⟩
    simp [hops]

theorem hasGuest_patchGuest {hotplug : Bool} {guestMemory : Quantity} :
    HasGuest ((patchGuest hotplug t guestMemory).foldl PatchOp.onMemory t.memory) ↔
      HasGuest t.memory ∨ hotplug = false := by
  unfold patchGuest
  rcases t.memory with - | m
  · simp [HasGuest, PatchOp.onMemory]
  · cases hotplug <;> simp [HasGuest, PatchOp.onMemory]

theorem foldl_patchGuest {hotplug : Bool} {guestMemory : Quantity} {limits : Option Resources} :
    (patchGuest hotplug t guestMemory).foldl PatchOp.onLimits limits = limits := by
  unfold patchGuest
  split
  · rfl
  · split_ifs <;> rfl

theorem foldl_patchResourceOvercommit (h : patchResourceOvercommit env vm t = .ok ops) :
    (∀ limits, ops.foldl PatchOp.onLimits limits = limits) ∧
      (HasGuest (ops.foldl PatchOp.onMemory t.memory) ↔ HasGuest t.memory ∨
        (supportCPUAndMemoryHotplug vm = false ∧ quantityOf t.limits .memory ≠ 0 ∧
          ∃ overcommit, getOvercommit env = .ok (some overcommit))) := by
  rcases patchResourceOvercommit_eq_ok h with
    ⟨hinert, hno⟩ | ⟨hset, before, guestMemory, after, rfl, hbefore, hafter⟩
  · refine ⟨foldl_onLimits_of_inert hinert, ?_⟩
    rw [foldl_onMemory_of_inert hinert]
    exact ⟨.inl, fun h => h.resolve_right fun h => hno h.2⟩
  · simp only [List.foldl_append, foldl_onLimits_of_inert hbefore, foldl_patchGuest,
      foldl_onLimits_of_inert hafter, foldl_onMemory_of_inert hbefore,
      foldl_onMemory_of_inert hafter, hasGuest_patchGuest, implies_true, true_and]
    exact or_congr_right ⟨fun h => ⟨h, hset⟩, fun h => h.1⟩

/-- The limits that the validator sees are those that the mutator works with. -/
theorem limits_of_mutated (h : mutate env vm = .ok ops) (ht : vm.template.applyAll ops = some t) :
    t.limits = (patchMissingForkliftLimits vm).1.limits := by
  obtain ⟨overcommitOps, rest, rfl, hovercommit, hrest⟩ := mutate_eq_ok h
  rw [(applyAll_keeps ht).1, List.foldl_append, foldl_patchMissingForkliftLimits.1,
    List.foldl_append, (foldl_patchResourceOvercommit hovercommit).1, foldl_onLimits_of_inert hrest]

/-- **When the memory that the validator sees has a guest memory.** -/
theorem memory_of_mutated (h : mutate env vm = .ok ops) (ht : vm.template.applyAll ops = some t) :
    HasGuest t.memory ↔ HasGuest vm.template.memory ∨ PatchesGuest env vm := by
  obtain ⟨overcommitOps, rest, rfl, hovercommit, hrest⟩ := mutate_eq_ok h
  have hguest := (foldl_patchResourceOvercommit hovercommit).2
  rw [memory_patchMissingForkliftLimits] at hguest
  rw [(applyAll_keeps ht).2, List.foldl_append, foldl_patchMissingForkliftLimits.2,
    List.foldl_append, foldl_onMemory_of_inert hrest, hguest, PatchesGuest]

end

end Create

end VirtualMachine

end Harvester
