import Harvester.Kube.Admission
import Mathlib.Data.List.Perm.Subperm

/-!
# Nodes and machines

Before an upgrade the validator (`pkg/webhook/resources/upgrade/validator.go`) makes sure that nodes
and machines belong together: an annotation of a node names its machine, and the `NodeRef` of a
machine names its node.  It compares the numbers of the two, and looks up the machine of each node.

By counting, the two references are then inverse to each other (`Matching`).  The check is stricter:
there has to be a node, and every node needs the label of a managed node
(`isNodeMachineMatching_eq_ok_iff`).
-/

namespace Harvester

namespace Upgrade

open Control

namespace NodeMachine

/-- A node.  Its labels and annotations may be nil; a key that is missing reads as empty. -/
structure Node where
  name : String
  labels : Option (String → String)
  annotations : Option (String → String)

/-- A machine. -/
structure Machine where
  name : String
  nodeRef : Option String

/-- The label of managed nodes. -/
def harvesterManagedNodeLabelKey : String := "harvesterhci.io/managed"

/-- The annotation of a node. -/
def machineAnnotation : String := "cluster.x-k8s.io/machine"

/-- The reference of the last machine with the name (`machineMap`). -/
def nodeRefOf (machines : List Machine) (mc : String) : Option String :=
  (machines.reverse.find? fun m => m.name = mc).bind Machine.nodeRef

/-- The body of the loop over the nodes. -/
def checkNode (machines : List Machine) (node : Node) : Except AdmitError Unit :=
  match node.labels with
  | none => .error (.internal ("node " ++ node.name ++ " has no labels"))
  | some labels => do
    rejectIf (labels harvesterManagedNodeLabelKey ≠ "true") (.internal ("node " ++ node.name ++
      " has no expected label " ++ harvesterManagedNodeLabelKey))
    match node.annotations with
    | none => .error (.internal ("node " ++ node.name ++ " has no nnnotations"))
    | some annotations =>
      let mc := annotations machineAnnotation
      rejectIf (mc = "") (.internal ("node " ++ node.name ++ " has no expected annotation " ++
        machineAnnotation ++ ", check the cluster provision"))
      match nodeRefOf machines mc with
      | none => .error (.internal ("node " ++ node.name ++ " refers to machine " ++ mc ++
          ", but the machine does not exist"))
      | some nRef =>
        rejectIf (node.name ≠ nRef) (.internal ("node " ++ node.name ++ " refers to machine " ++
          mc ++ ", but the machine refers to another node " ++ nRef))

/-- The check. -/
def isNodeMachineMatching (nodes : List Node) (machines : List Machine) :
    Except AdmitError Unit := do
  rejectIf nodes.isEmpty (.internal "no node was listed, this shall not happen")
  rejectIf (nodes.length ≠ machines.length) (.internal ("nodes(" ++ toString nodes.length ++
    ") and machines(" ++ toString machines.length ++
    ") do not match, check the cluster provision"))
  checkEach (fun m => rejectIf m.nodeRef.isNone (.internal ("machine " ++ m.name ++
    " has empty NodeRef, check the cluster provision"))) machines
  checkEach (checkNode machines) nodes

/-- The node has the label of a managed node. -/
def Node.Managed (node : Node) : Prop :=
  node.labels.map (· harvesterManagedNodeLabelKey) = some "true"

/-- The machine that a node names, if it names one. -/
def Node.machine (node : Node) : Option String :=
  (node.annotations.map (· machineAnnotation)).filter (· ≠ "")

/-- A node and a machine that refer to each other. -/
def Linked (node : Node) (m : Machine) : Prop :=
  node.machine = some m.name ∧ m.nodeRef = some node.name

/-- Every node and every machine is linked to one on the other side. -/
structure Matching (nodes : List Node) (machines : List Machine) : Prop where
  of_node : ∀ node ∈ nodes, ∃ m ∈ machines, Linked node m
  of_machine : ∀ m ∈ machines, ∃ node ∈ nodes, Linked node m

variable {nodes : Store Node.name} {machines : Store Machine.name}

theorem nodeRefOf_eq_some {mc nRef : String} : nodeRefOf machines.objs mc = some nRef ↔
    ∃ m ∈ machines.objs, m.name = mc ∧ m.nodeRef = some nRef := by
  constructor
  · intro h
    obtain ⟨m, hfind, href⟩ := Option.bind_eq_some_iff.1 h
    have hmem := List.mem_reverse.1 (List.mem_of_find?_eq_some hfind)
    exact ⟨m, hmem, by simpa using List.find?_some hfind, href⟩
  · rintro ⟨m, hm, rfl, href⟩
    obtain ⟨m', hfind⟩ : ∃ m', machines.objs.reverse.find? (fun u => u.name = m.name) = some m' :=
      Option.isSome_iff_exists.1 (List.find?_isSome.2 ⟨m, List.mem_reverse.2 hm, by simp⟩)
    have hmem := List.mem_reverse.1 (List.mem_of_find?_eq_some hfind)
    have heq : m' = m := machines.eq_of_key hmem hm (by simpa using List.find?_some hfind)
    rw [nodeRefOf, hfind, heq, Option.bind_some, href]

theorem checkNode_eq_ok {node : Node} : checkNode machines.objs node = .ok () ↔
    node.Managed ∧ ∃ m ∈ machines.objs, Linked node m := by
  obtain ⟨name, labels, annotations⟩ := node
  rcases labels with _ | labels
  · simp [checkNode, Node.Managed]
  rcases annotations with _ | annotations
  · simp [checkNode, Linked, Node.machine, except_bind_unit_eq_ok]
  by_cases hmc : annotations machineAnnotation = ""
  · simp [checkNode, Linked, Node.machine, except_bind_unit_eq_ok, hmc]
  have hmachine : Node.machine ⟨name, labels, annotations⟩ = annotations machineAnnotation := by
    simp [Node.machine, hmc]
  have href : (∃ m ∈ machines.objs, Linked ⟨name, labels, annotations⟩ m) ↔
      nodeRefOf machines.objs (annotations machineAnnotation) = some name := by
    simp [nodeRefOf_eq_some, Linked, hmachine, eq_comm (b := Machine.name _)]
  rw [href]
  simp only [checkNode, Node.Managed, except_bind_unit_eq_ok]
  cases nodeRefOf machines.objs (annotations machineAnnotation) with
  | none => simp
  | some nRef => simp [hmc, eq_comm (a := nRef)]

theorem nodup_some {α : Type} {name : α → String} (s : Store name) :
    (s.objs.map fun a => some (name a)).Nodup := by
  rw [← Function.comp_def some, ← List.map_map]
  exact s.nodup.map fun _ _ => Option.some.inj

section

variable (h : ∀ node ∈ nodes.objs, ∃ m ∈ machines.objs, Linked node m)

include h

theorem names_subperm :
    (nodes.objs.map fun node => some node.name).Subperm (machines.objs.map Machine.nodeRef) := by
  refine (nodup_some nodes).subperm fun ref href => ?_
  obtain ⟨node, hnode, rfl⟩ := List.mem_map.1 href
  obtain ⟨m, hm, hlinked⟩ := h node hnode
  exact List.mem_map.2 ⟨m, hm, hlinked.2⟩

theorem matching_of_length (hlength : nodes.objs.length = machines.objs.length) :
    Matching nodes.objs machines.objs := by
  have hperm := (names_subperm h).perm_of_length_le (by simp [hlength])
  have hnodup := hperm.nodup_iff.1 (nodup_some nodes)
  refine ⟨h, fun m hm => ?_⟩
  obtain ⟨node, hnode, href⟩ := List.mem_map.1 (hperm.mem_iff.2 (List.mem_map_of_mem hm))
  obtain ⟨m', hm', hlinked⟩ := h node hnode
  have heq : m' = m := List.inj_on_of_nodup_map hnodup hm' hm (hlinked.2.trans href)
  exact ⟨node, hnode, heq ▸ hlinked⟩

end

theorem Matching.length_eq (h : Matching nodes.objs machines.objs) :
    nodes.objs.length = machines.objs.length := by
  have hmachines : (machines.objs.map fun m => some m.name).Subperm
      (nodes.objs.map Node.machine) := by
    refine (nodup_some machines).subperm fun name hname => ?_
    obtain ⟨m, hm, rfl⟩ := List.mem_map.1 hname
    obtain ⟨node, hnode, hlinked⟩ := h.of_machine m hm
    exact List.mem_map.2 ⟨node, hnode, hlinked.1⟩
  refine Nat.le_antisymm ?_ ?_
  · simpa using (names_subperm h.of_node).length_le
  · simpa using hmachines.length_le

/-- **The check passes if and only if** there is a node, every node is a managed one, and the nodes
and the machines are linked one to one. -/
theorem isNodeMachineMatching_eq_ok_iff :
    isNodeMachineMatching nodes.objs machines.objs = .ok () ↔
      nodes.objs ≠ [] ∧ (∀ node ∈ nodes.objs, node.Managed) ∧
        Matching nodes.objs machines.objs := by
  simp only [isNodeMachineMatching, except_bind_unit_eq_ok, checkEach_eq_ok, checkNode_eq_ok]
  constructor
  · rintro ⟨hne, hlength, -, hchecked⟩
    refine ⟨by simpa using hne, fun node hnode => (hchecked node hnode).1, ?_⟩
    exact matching_of_length (fun node hnode => (hchecked node hnode).2) (by simpa using hlength)
  · rintro ⟨hne, hmanaged, h⟩
    refine ⟨by simpa using hne, by simpa using h.length_eq, fun m hm => ?_, fun node hnode =>
      ⟨hmanaged node hnode, h.of_node node hnode⟩⟩
    obtain ⟨node, -, hlinked⟩ := h.of_machine m hm
    simp [hlinked.2]

/-- **Nodes and machines that are linked one to one do not pass the check** without the label. -/
theorem unlabelled_node_rejected :
    (∃ (node : Node) (m : Machine), Matching [node] [m] ∧
      isNodeMachineMatching [node] [m] = .error (.internal "node node-0 has no labels")) ∧
    Matching [] [] ∧ isNodeMachineMatching [] [] ≠ .ok () := by
  refine ⟨⟨⟨"node-0", none, some fun _ => "machine-0"⟩, ⟨"machine-0", some "node-0"⟩,
    ⟨?_, ?_⟩, rfl⟩,
    ⟨by simp, by simp⟩, by decide⟩ <;> simp [Linked, Node.machine]

end NodeMachine

end Upgrade

end Harvester
