import Mathlib.Algebra.Order.Ring.Int
import Harvester.Image.Cdi

/-!
# Label selectors and node affinity

The requirements of `k8s.io/apimachinery/pkg/labels`, and what Kubernetes means by the node selector
and the required node affinity of a pod (`k8s.io/component-helpers/scheduling/corev1/nodeaffinity`):
the terms are alternatives, the expressions of a term are all required, and a term without
expressions matches no node.  Requirements on the hostname label are ignored, as in the code under
consideration.
-/

namespace Harvester

open Control

namespace VirtualMachine

namespace Affinity

/-- The labels of a node. -/
abbrev Labels := String → Option String

/-- `selection.Operator`, as far as it is used. -/
inductive Operator where
  | in
  | notIn
  | equals
  | exists
  | doesNotExist
  | greaterThan
  | lessThan
  deriving DecidableEq, Repr

/-- A requirement on a label. -/
structure Requirement where
  key : String
  operator : Operator
  values : List String
  deriving DecidableEq, Repr

/-- `IsQualifiedName` has no complaint. -/
def isQualifiedName (value : String) : Bool :=
  let isName (name : List Char) : Bool :=
    !name.isEmpty && name.length ≤ 63 && Image.Cdi.isLabelValue name
  match value.toList.splitOn '/' with
  | [name] => isName name
  | [domain, name] => isDNS1123Subdomain (String.ofList domain) && isName name
  | _ => false

/-- `strconv.ParseInt(s, 10, 64)`. -/
def parseInt (s : String) : Option Int :=
  (Image.Cdi.atoi s.toList).bind fun n => if -2 ^ 63 ≤ n ∧ n < 2 ^ 63 then some n else none

/-- The number of values that an operator takes. -/
def Operator.accepts : Operator → List String → Bool
  | .in, values => !values.isEmpty
  | .notIn, values => !values.isEmpty
  | .equals, values => values.length = 1
  | .exists, values => values.isEmpty
  | .doesNotExist, values => values.isEmpty
  | .greaterThan, values => values.length = 1 && values.all fun v => (parseInt v).isSome
  | .lessThan, values => values.length = 1 && values.all fun v => (parseInt v).isSome

/-- `NewRequirement` has no complaint. -/
def Requirement.isValid (r : Requirement) : Bool :=
  isQualifiedName r.key && r.operator.accepts r.values &&
    r.values.all fun v => (Image.Cdi.isValidLabelValue v).isEmpty

/-- `NewRequirement`; the complaints are not spelled out. -/
def newRequirement (key : String) (operator : Operator) (values : List String) :
    Except Err Requirement :=
  if (Requirement.mk key operator values).isValid then .ok ⟨key, operator, values⟩
  else .error (.other "invalid requirement")

/-- A comparison of numbers; what is not a number does not match. -/
def compareValues (r : Requirement) (labels : Labels) (lt : Int → Int → Bool) : Bool :=
  match labels r.key, r.values with
  | some value, [bound] =>
    match parseInt value, parseInt bound with
    | some n, some m => lt n m
    | _, _ => false
  | _, _ => false

/-- The labels meet it. -/
def Requirement.matches (r : Requirement) (labels : Labels) : Bool :=
  match r.operator with
  | .in => (labels r.key).any (· ∈ r.values)
  | .equals => (labels r.key).any (· ∈ r.values)
  | .notIn => (labels r.key).all (· ∉ r.values)
  | .exists => (labels r.key).isSome
  | .doesNotExist => (labels r.key).isNone
  | .greaterThan => compareValues r labels fun n m => m < n
  | .lessThan => compareValues r labels fun n m => n < m

/-- A selector; the order of its requirements does not matter. -/
abbrev Selector := List Requirement

/-- All requirements match. -/
def Selector.matches (s : Selector) (labels : Labels) : Bool := s.all fun r => r.matches labels

/-- The operators of a pod. -/
inductive NodeSelectorOperator where
  | in
  | notIn
  | exists
  | doesNotExist
  | gt
  | lt
  | other (s : String)
  deriving DecidableEq, Repr

/-- An expression. -/
structure NodeSelectorRequirement where
  key : String
  operator : NodeSelectorOperator
  values : List String
  deriving DecidableEq, Repr

/-- A term. -/
structure NodeSelectorTerm where
  matchExpressions : List NodeSelectorRequirement
  matchFields : List NodeSelectorRequirement
  deriving DecidableEq, Repr

/-- The hostname label. -/
def labelHostname : String := "kubernetes.io/hostname"

/-- The operator of the labels package, unless there is none. -/
def NodeSelectorOperator.operator? : NodeSelectorOperator → Option Operator
  | .in => some .in
  | .notIn => some .notIn
  | .exists => some .exists
  | .doesNotExist => some .doesNotExist
  | .gt => some .greaterThan
  | .lt => some .lessThan
  | .other _ => none

/-- An expression matches if it can be parsed and its requirement does. -/
def NodeSelectorRequirement.matches (expr : NodeSelectorRequirement) (labels : Labels) : Bool :=
  expr.operator.operator?.any fun op =>
    (newRequirement expr.key op expr.values).toOption.any fun r => r.matches labels

/-- A field of the node; its name is the only one. -/
def nodeField (name key : String) : String := if key = "metadata.name" then name else ""

/-- An expression on a field matches; a node without a name has no fields to look at. -/
def NodeSelectorRequirement.matchesField (expr : NodeSelectorRequirement) (name : String) : Bool :=
  match expr.operator, expr.values with
  | .in, [value] => name = "" || nodeField name expr.key = value
  | .notIn, [value] => name = "" || nodeField name expr.key ≠ value
  | _, _ => false

/-- The expressions that are not about the hostname. -/
def NodeSelectorTerm.expressions (term : NodeSelectorTerm) : List NodeSelectorRequirement :=
  term.matchExpressions.filter fun expr => expr.key ≠ labelHostname

/-- The term has no expressions. -/
def NodeSelectorTerm.isEmpty (term : NodeSelectorTerm) : Bool :=
  term.matchExpressions.isEmpty && term.matchFields.isEmpty

/-- A term matches if it is not empty and all its expressions match. -/
def NodeSelectorTerm.matches (term : NodeSelectorTerm) (name : String) (labels : Labels) : Bool :=
  !term.isEmpty && term.expressions.all (fun expr => expr.matches labels) &&
    term.matchFields.all fun expr => expr.matchesField name

end Affinity

end VirtualMachine

end Harvester
