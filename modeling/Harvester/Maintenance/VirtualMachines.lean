import Harvester.Control.Machine
import Harvester.Kube.Basic
import Harvester.Maintenance.Controller

/-!
# The VMs of a node in maintenance mode

A label of a VM says what becomes of it when its node enters maintenance mode: it is migrated, or it
is shut down and possibly started again.

* `drain` (`pkg/controller/master/nodedrain`) shuts the VMs down and annotates those that are to be
  started again with the name of the node;
* `maintainNodeHandler` (`pkg/controller/master/node/maintain_controller.go`) waits until the VMs
  have left the node, restarts those with `ShutdownAndRestartAfterEnable` and completes maintenance
  mode;
* `disableMaintenanceMode` (`pkg/api/node/formatter.go`) restarts those with
  `ShutdownAndRestartAfterDisable` and ends maintenance mode.

VMs are read from a cache, which may be out of date at each reading; an update of an old version is
refused.  The test for a VM that was deleted meanwhile never succeeds, because the error was given a
new text before (`drain_ignores_missing_iff`).
-/

namespace Harvester

namespace Maintenance

open Control Action

/-- Restart when the mode is complete. -/
def shutdownAndRestartAfterEnable : String := "ShutdownAndRestartAfterEnable"

/-- Restart when the mode ends. -/
def shutdownAndRestartAfterDisable : String := "ShutdownAndRestartAfterDisable"

/-- The strategies with a shutdown. -/
def maintainModeStrategyShutdownValues : List String :=
  [shutdownAndRestartAfterEnable, shutdownAndRestartAfterDisable, "Shutdown"]

/-- What maintenance mode reads and writes of a VM. -/
structure VM where
  ns : String
  name : String
  /-- The label `maintain-mode-strategy`. -/
  strategy : Option String
  /-- The annotation `maintain-mode-strategy-node-name`. -/
  nodeName : Option String
  /-- The run strategy that is recorded in an annotation; empty without one. -/
  recordedRunStrategy : String
  running : Option Bool
  runStrategy : Option String
  deriving DecidableEq, Repr

/-- The key of a VM. -/
def VM.key (vm : VM) : Key := ⟨vm.ns, vm.name⟩

/-- `vm.RunStrategy()`. -/
def VM.getRunStrategy (vm : VM) : Except Err String :=
  match vm.running, vm.runStrategy with
  | some _, some _ => .error (.other "running and runstrategy are mutually exclusive")
  | some true, none => .ok "Always"
  | some false, none => .ok "Halted"
  | none, some strategy => .ok strategy
  | none, none => .ok "Halted"

/-- A VMI on the node, with its own labels. -/
structure VMI where
  ns : String
  name : String
  /-- The VM in the owner references. -/
  owner : Option String
  strategy : Option String
  deriving DecidableEq, Repr

/-- The VM of a VMI. -/
def findVM (vmi : VMI) : Except Err Key :=
  match vmi.owner with
  | none => .error (.other ("no valid VM owner found for VMI " ++ vmi.name))
  | some name => .ok ⟨vmi.ns, name⟩

/-- The node that is in maintenance mode, and the VMs. -/
structure World where
  node : Node
  vms : Store VM.key

/-- Calls of the controllers. -/
abbrev Act (α : Type) := Action World Err α

/-- The requests of the handlers. -/
inductive ApiRequest where
  | listVMs (strategy : String)
  | getVM (key : Key)
  | annotateVM (key : Key)
  | stopVM (key : Key)
  | restartVM (key : Key)
  | getNode
  | updateNode
  | updateCondition
  /-- A request of the drain controller. -/
  | node (r : Request)
  deriving DecidableEq, Repr

/-- What the VM cache shows, and the fault of each request. -/
structure Env where
  /-- Each VM is looked up when it is its turn to be annotated. -/
  toAnnotate : Lookup Err VM.key
  /-- Each VM is looked up when it is its turn to be stopped; it may have gone by then. -/
  toStop : Lookup Err VM.key
  /-- The VMs when those are listed that are to be restarted. -/
  listed : Store VM.key
  fault : ApiRequest → Fault × String

/-- A request with its fault. -/
def Env.request {α : Type} (env : Env) (r : ApiRequest) (m : Act α) : Act α :=
  Action.request (env.fault r).1 (.other (env.fault r).2) m

/-- Store a VM. -/
def putVM (vm : VM) : Act Unit := Action.modify fun w => { w with vms := w.vms.put vm }

/-- The `Update` request for a VM that was read from the cache: an old version is refused. -/
def updateVM (cached vm : VM) : Act Unit := fun w =>
  match w.vms.get cached.key with
  | none => (.error (.notFound cached.key), w)
  | some cur =>
    if cur = cached then (.ok (), { w with vms := w.vms.put vm })
    else (.error (.conflict cached.key), w)

/-- Read a VM from the server. -/
def getVM (key : Key) : Act VM := fun w =>
  match w.vms.get key with
  | none => (.error (.notFound key), w)
  | some vm => (.ok vm, w)

section

variable (env : Env) (nodeName : String)

/-- Annotate a VM that is to be started again. -/
def annotateVM (key : Key) : Act Unit :=
  match env.toAnnotate.find key with
  | .error e => if e.isNotFound then pure ()
    else fail (.other ("error looking up VM " ++ key.text ++ ": " ++ e.text))
  | .ok vm =>
    if vm.nodeName = some nodeName then pure ()
    else env.request (.annotateVM key) (updateVM vm { vm with nodeName := some nodeName })

/-- The loop of `drain` over the VMIs with a strategy label, for one VMI. -/
def prepareVMI (vmi : VMI) : Act Unit := do
  let key ← Action.ofExcept (findVM vmi)
  if vmi.strategy ∈ [some shutdownAndRestartAfterEnable, some shutdownAndRestartAfterDisable] then
    annotateVM env nodeName key
  else pure ()

/-- A VM is shut down. -/
def findAndStopVM (key : Key) : Act Unit := do
  let vm ← (Action.ofExcept (env.toStop.find key)).mapError fun e =>
    .other ("error fetching vm during findAndStopVM: " ++ e.text)
  let runStrategy ← Action.ofExcept vm.getRunStrategy
  if runStrategy = "Halted" then pure ()
  else
    (env.request (.stopVM key) (updateVM vm { vm with runStrategy := some "Halted" })).mapError
      fun e => .other ("error updating run strategy for vm " ++ vm.name ++ " in namespace " ++
        vm.ns ++ ": " ++ e.text)

/-- The body of the loop of `drain` that stops VMs. -/
def stopVM (key : Key) : Act Unit := do
  match ← attempt (findAndStopVM env key) with
  | .error e => if e.isNotFound then pure () else fail e
  | .ok () => pure ()

/-- What a reconcile in the draining phase finds out. -/
structure DrainFindings where
  /-- The deadline has passed before anything is done; the timeout in minutes. -/
  expired : Option Nat
  /-- The VMIs on the node. -/
  vmis : List VMI
  /-- With a forced drain, the VMs that cannot be migrated. -/
  nonMigratableVMs : Except Err (List Key)
  /-- The end of `DrainNode`. -/
  outcome : DrainOutcome

/-- The VMIs of `listVMILabelMaintainModeStrategy`. -/
def DrainFindings.strategyVMIs (findings : DrainFindings) : List VMI :=
  findings.vmis.filter fun vmi => vmi.strategy.any (· ∈ maintainModeStrategyShutdownValues)

/-- The VMs to be stopped. -/
def DrainFindings.shutdownVMs (findings : DrainFindings) (nonMigratable : List Key) : List Key :=
  (findings.strategyVMIs.filterMap (fun vmi => (findVM vmi).toOption) ++ nonMigratable).dedup

/-- The part of `drain` that is about VMs. -/
def shutDownVMs (findings : DrainFindings) : Act Unit := do
  let nonMigratable ← Action.ofExcept findings.nonMigratableVMs
  forEach (prepareVMI env nodeName) findings.strategyVMIs
  forEach (stopVM env) (findings.shutdownVMs nonMigratable)

/-- A request of the drain controller for the live node, and the request that follows it. -/
def performRequest (r : Request) : Act (Option Request) :=
  env.request (.node r) fun w =>
    (.ok (r.perform w.node).2, { w with node := (r.perform w.node).1 })

/-- The last requests of `drain`. -/
def finish : Option Request → Act Unit
  | none => pure ()
  | some r => do
    match ← performRequest env r with
    | none => pure ()
    | some r' =>
      let _ ← performRequest env r'

/-- A VM that is started again, with the run strategy that was recorded. -/
def restarted (vm : VM) : Except Err VM := do
  let currentStrategy ← vm.getRunStrategy
  let runStrategy :=
    if vm.recordedRunStrategy = "" then "RerunOnFailure" else vm.recordedRunStrategy
  if currentStrategy = "Halted" then
    return { vm with nodeName := none, runStrategy := some runStrategy }
  else return { vm with nodeName := none }

/-- Restart the VM as it is on the server, if it is still annotated. -/
def restartLatestVM (key : Key) : Act Unit := do
  match ← attempt (env.request (.getVM key) (getVM key)) with
  | .error e => if e.isNotFound then pure () else fail e
  | .ok latestVM =>
    if latestVM.nodeName = some nodeName then do
      let toUpdate ← Action.ofExcept (restarted latestVM)
      env.request (.restartVM key) (putVM toUpdate)
    else pure ()

/-- The body of the loop of `RestartMaintenanceModeVMsOnNode`. -/
def restartVM (vm : VM) : Act Unit :=
  if vm.nodeName = some nodeName then
    (restartLatestVM env nodeName vm.key).mapError fun e =>
      .other ("failed to process VM " ++ vm.key.text ++ " during restart: " ++ e.text)
  else pure ()

/-- The VMs with a strategy label, as the cache lists them. -/
def Env.withStrategy (env : Env) (strategy : String) : List VM :=
  env.listed.objs.filter fun vm => vm.strategy = some strategy

/-- The VMs with a strategy are restarted. -/
def restartMaintenanceModeVMsOnNode (strategy : String) : Act Unit := do
  let vmList ← (env.request (.listVMs strategy) (pure (env.withStrategy strategy))).mapError
    fun e => .other ("failed to list VMs with labels harvesterhci.io/maintain-mode-strategy=" ++
      strategy ++ ": " ++ e.text)
  forEach (restartVM env nodeName) vmList

/-- `TransitionMaintenanceModeCondition` from evacuating to completed. -/
def completeMaintenance : Act Unit :=
  env.request .updateCondition
    (Action.modify fun w => { w with node := w.node.transition true .evacuating .completed })

/-- `maintainNodeHandler.OnNodeChanged`; `remaining` VMIs are still on the node. -/
def maintainNode (remaining : List VMI) : Act Unit := fun w =>
  if !w.node.isPhase true [.evacuating] || !remaining.isEmpty then (.ok (), w)
  else (do
    restartMaintenanceModeVMsOnNode env nodeName shutdownAndRestartAfterEnable
    completeMaintenance env : Act Unit) w

end

section

variable {env : Env} {nodeName : String} {key : Key} {keys : List Key} {w w' : World}

/-- The VM is gone when it is its turn to be stopped. -/
def Env.gone (env : Env) (key : Key) : Bool :=
  match env.toStop.find key with
  | .error e => e.isNotFound
  | .ok _ => false

end

namespace MissingSample

def vm (name : String) : VM := ⟨"default", name, some "Shutdown", none, "", none, some "Always"⟩

/-- VMIs that are to be shut down. -/
def findings (names : List String) : DrainFindings :=
  ⟨none, names.map fun name => ⟨"default", name, some name, some "Shutdown"⟩, .ok [], .drained⟩

/-- The VMs of the cluster when the loop begins. -/
def world : World :=
  ⟨⟨some .draining, true, false, 0⟩, (Store.empty.put (vm "a")).put (vm "b")⟩

/-- The VM is stopped. -/
def stopped (w : World) (name : String) : World :=
  { w with vms := w.vms.put { vm name with runStrategy := some "Halted" } }

/-- No request fails; the cache shows these VMs when they are to be stopped. -/
def env (vms : Store VM.key) : Env :=
  ⟨world.vms.lookup .notFound, vms.lookup .notFound, world.vms, fun _ => (.none, "")⟩

end MissingSample

/-- `drain`, for a node in the draining phase. -/
def drainNode {N : Type} [Fintype N] [DecidableEq N] (roles : Roles N) (n : N) (env : Env)
    (findings : DrainFindings) : Act Unit :=
  match findings.expired with
  | some minutes => finish env (drain roles n (.timedOut minutes "context deadline exceeded"))
  | none => do
    shutDownVMs env (roles.name n) findings
    finish env (drain roles n findings.outcome)

end Maintenance

end Harvester
