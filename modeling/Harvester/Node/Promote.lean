import Harvester.Kube.Basic

/-!
# Promoting workers to management nodes

`pkg/controller/master/node/promote_controller.go`.  As long as there are fewer than three
management nodes, the controller selects a worker, marks it as being promoted and cordons it, and
creates a job on it that joins the control plane.  The outcome of the job becomes the promote status
of the node.

`selectPromoteNode_eq_some` says what is known of all nodes when one is selected.
-/

namespace Harvester

namespace Promote

open Control Action

/-- The values of the annotation with the promote status. -/
inductive PromoteStatus where
  | complete
  | running
  | unknown
  | failed
  deriving DecidableEq, Repr

/-- A condition of a node. -/
structure NodeCondition where
  /-- The type is `Ready`. -/
  ready : Bool
  /-- The status is `True`. -/
  isTrue : Bool
  deriving DecidableEq, Repr

/-- A node. -/
structure Node where
  name : String
  deleting : Bool
  /-- The kind and the API version are there. -/
  typed : Bool
  creationTimestamp : Nat
  /-- The labels of the roles. -/
  master : Option String
  controlPlane : Option String
  etcd : Option String
  /-- The label `HarvesterManagedNodeLabelKey` is there. -/
  managed : Bool
  /-- The labels of the preferred roles are there. -/
  mgmtLabel : Bool
  witnessLabel : Bool
  workerLabel : Bool
  /-- The label of the zone; empty when it is missing. -/
  zone : String
  /-- The node is to be cordoned after its installation. -/
  installCordoned : Bool
  cordonProcessed : Bool
  maintenanceModeEngaged : Bool
  conditions : List NodeCondition
  unschedulable : Bool
  promoteStatus : Option PromoteStatus
  deriving DecidableEq, Repr

/-- A promote job; its name is made of the name of the node. -/
structure Job where
  node : String
  deleting : Bool
  complete : Bool
  failed : Bool
  deriving DecidableEq, Repr

/-- The nodes and the promote jobs. -/
structure Cluster where
  nodes : Store Node.name
  jobs : Store Job.node

section

variable (a : Answers) (s : Selection) (node : Node) (nodeList : List Node) (isManagement : Bool)

/-- `IsManagementRole`: the first of the three labels that is there decides. -/
def isManagementRole : Bool :=
  ((node.master.or node.controlPlane).or node.etcd).any (· = "true")

/-- The status is one of some. -/
def isPromoteStatusIn (statuses : List PromoteStatus) : Bool :=
  node.promoteStatus.any (· ∈ statuses)

/-- The node is a witness. -/
def isWitnessNode : Bool :=
  node.witnessLabel &&
    (isManagement || isPromoteStatusIn node [.complete, .running, .failed, .unknown])

/-- The node is ready and nothing else. -/
def isHealthyNode : Bool := node.conditions.all fun c => c.ready == c.isTrue

/-- VMs can run on another node. -/
def isOtherNodeAvailable (nodeName : String) (nodeList : List Node) : Bool :=
  nodeList.any fun node =>
    node.name ≠ nodeName && !node.maintenanceModeEngaged && !node.unschedulable

/-- There are witnesses already. -/
def isExtraWitnessNode (numOfWitnessNode : Nat) (promotedWitnessNode : Bool) : Bool :=
  if numOfWitnessNode = 0 && !promotedWitnessNode then false else node.witnessLabel

/-- The size of the control plane. -/
def defaultSpecManagementNumber : Nat := 3

/-- The variables of the loop of `selectPromoteNode`. -/
structure Selection where
  healthyHarvesterWorkers : List Node
  managementPreferred : List Node
  witnessPreferred : List Node
  managementOrHealthyHarvesterWorkerZones : List String
  managementZones : List String
  managementNumber : Nat
  witnessPromoted : Bool
  canBeManagementNodeCount : Int

/-- Add a zone that is not empty. -/
def addZone (zone : String) (zones : List String) : List String :=
  if zone = "" then zones else zones.insert zone

/-- The part of the loop that sorts a node. -/
def Selection.classify : Selection :=
  if isManagement then
    { s with
      managementZones := addZone node.zone s.managementZones
      managementOrHealthyHarvesterWorkerZones :=
        addZone node.zone s.managementOrHealthyHarvesterWorkerZones }
  else if isHealthyNode node && node.managed && !node.unschedulable && !node.workerLabel &&
      !isExtraWitnessNode node s.witnessPreferred.length s.witnessPromoted then
    let zones := addZone node.zone s.managementOrHealthyHarvesterWorkerZones
    let s := { s with managementOrHealthyHarvesterWorkerZones := zones }
    if node.mgmtLabel then { s with managementPreferred := s.managementPreferred ++ [node] }
    else if node.witnessLabel then { s with witnessPreferred := s.witnessPreferred ++ [node] }
    else { s with healthyHarvesterWorkers := s.healthyHarvesterWorkers ++ [node] }
  else { s with canBeManagementNodeCount := s.canBeManagementNodeCount - 1 }

/-- Count a node. -/
def Selection.count : Selection :=
  { s with
    managementNumber := if isManagement then s.managementNumber + 1 else s.managementNumber
    witnessPromoted := s.witnessPromoted || isWitnessNode node isManagement }

/-- The body of the loop of `selectPromoteNode`; nothing stands for `return nil`. -/
def Selection.add (nodeNumber : Nat) (s : Selection) (node : Node) : Option Selection :=
  let isManagement := isManagementRole node
  let s := s.count node isManagement
  if s.managementNumber = min nodeNumber defaultSpecManagementNumber then none
  else if !isManagement && isPromoteStatusIn node [.complete] then none
  else if isPromoteStatusIn node [.running, .failed, .unknown] then none
  else
    let s := s.classify node isManagement
    if s.canBeManagementNodeCount < defaultSpecManagementNumber then none else some s

/-- The nodes to choose from. -/
def Selection.candidates : List Node :=
  if s.managementPreferred ≠ [] then s.managementPreferred
  else if s.witnessPromoted = false ∧ s.witnessPreferred ≠ [] then s.witnessPreferred
  else s.healthyHarvesterWorkers

/-- The older one of the node that has been chosen so far and another one. -/
def older (chosen : Option Node) (node : Node) : Option Node :=
  match chosen with
  | none => some node
  | some best => if node.creationTimestamp < best.creationTimestamp then some node else some best

/-- The part of `selectPromoteNode` after the loop. -/
def Selection.choose : Option Node :=
  let hasZones := s.managementZones ≠ []
  let hasEnoughZones :=
    s.managementOrHealthyHarvesterWorkerZones.length ≥ defaultSpecManagementNumber
  if hasZones ∧ ¬ hasEnoughZones then none
  else
    let fits := s.candidates.filter fun node =>
      s.managementZones = [] || (node.zone ≠ "" && node.zone ∉ s.managementZones)
    fits.foldl older none

/-- The node to be promoted. -/
def selectPromoteNode : Option Node := do
  let s ← nodeList.foldlM (Selection.add nodeList.length)
    ⟨[], [], [], [], [], 0, false, nodeList.length⟩
  s.choose

/-- What happens to the requests of a reconcile of a node. -/
structure Answers where
  update : Fault
  /-- `FetchImageFromHelmValues`. -/
  fetchImage : Except Err Unit
  create : Fault

/-- All requests go through. -/
def Answers.healthy : Answers := ⟨.none, .ok (), .none⟩

/-- `h.nodes.Update`. -/
def updateNode (fault : Fault) (node : Node) : Action Cluster Err Unit :=
  request fault (.other "update node")
    (Action.modify fun w => { w with nodes := w.nodes.put node })

/-- The request to create a job, which fails when there is one of the name. -/
def createRequest (job : Job) : Action Cluster Err Unit := fun w =>
  match w.jobs.get job.node with
  | some _ => (.error (.alreadyExists ⟨"", job.node⟩), w)
  | none => (.ok (), { w with jobs := w.jobs.put job })

/-- The job is created. -/
def createPromoteJob : Action Cluster Err Unit := do
  Action.ofExcept a.fetchImage
  request a.create (.other "create job") (createRequest ⟨node.name, false, false, false⟩)

/-- The node that `setPromoteStart` writes. -/
def Node.start : Node :=
  { node with promoteStatus := some .running, unschedulable := true }

/-- The node is marked. -/
def setPromoteStart : Action Cluster Err Unit :=
  when (node.promoteStatus ≠ some .running) (updateNode a.update node.start)

/-- `promote`: the node is marked first, then the job is created. -/
def promote : Action Cluster Err Unit := do
  setPromoteStart a node
  createPromoteJob a node

/-- The node is cordoned. -/
def reconcileInstallCordonedNode : Node :=
  { node with
    unschedulable := node.unschedulable || isOtherNodeAvailable node.name nodeList
    cordonProcessed := true }

/-- `OnNodeChanged`, with the list that the cache gives. -/
def onNodeChanged : Action Cluster Err Unit :=
  if node.deleting then pure ()
  else if node.installCordoned && !node.cordonProcessed then
    updateNode a.update (reconcileInstallCordonedNode node nodeList)
  else if nodeList.length < defaultSpecManagementNumber then pure ()
  else match selectPromoteNode nodeList with
    | none => pure ()
    | some promoteNode => if promoteNode.typed then promote a promoteNode else pure ()

/-- The node that `setPromoteResult` writes. -/
def Node.finish (status : PromoteStatus) : Node :=
  { node with
    promoteStatus := some status
    unschedulable := if status = .complete then false else node.unschedulable }

/-- The result is written. -/
def setPromoteResult (update : Fault) (node : Node) (status : PromoteStatus) :
    Action Cluster Err Unit :=
  when (node.promoteStatus ≠ some status) (updateNode update (node.finish status))

/-- A job is deleted. -/
def deleteJob (fault : Fault) (job : Job) : Action Cluster Err Unit :=
  request fault (.other "delete job")
    (Action.modify fun w => { w with jobs := w.jobs.put { job with deleting := true } })

/-- `OnJobChanged`, with the node that the cache gives. -/
def onJobChanged (update delete : Fault) (job : Job) (node : Option Node) :
    Action Cluster Err Unit :=
  if job.deleting then pure ()
  else match node with
    | none => deleteJob delete job
    | some node =>
      if job.complete then setPromoteResult update node .complete
      else if job.failed then setPromoteResult update node .failed
      else pure ()

/-- `OnJobRemove`, with the node that the cache gives. -/
def onJobRemove (update : Fault) (job : Job) (node : Option Node) : Action Cluster Err Unit :=
  if job.failed || job.complete then pure ()
  else match node with
    | none => pure ()
    | some node =>
      when (isPromoteStatusIn node [.running]) (setPromoteResult update node .unknown)

/-- The node is not being promoted, and neither has this gone wrong or been completed without making
it a management node. -/
def Node.Settled : Prop :=
  node.promoteStatus = none ∨ node.promoteStatus = some .complete ∧ isManagementRole node = true

/-- The nodes that may be chosen. -/
def Selection.listed : List Node :=
  s.healthyHarvesterWorkers ++ s.managementPreferred ++ s.witnessPreferred

end

variable {s s' : Selection} {node : Node} {nodeList : List Node} {n : Nat}

theorem isPromoteStatusIn_iff {statuses : List PromoteStatus} :
    isPromoteStatusIn node statuses = true ↔ ∃ st ∈ statuses, node.promoteStatus = some st := by
  cases h : node.promoteStatus with
  | none => simp [isPromoteStatusIn, h]
  | some st => simp [isPromoteStatusIn, h]

theorem managementNumber_classify (b : Bool) :
    (s.classify node b).managementNumber = s.managementNumber := by
  unfold Selection.classify
  split_ifs <;> rfl

theorem mem_listed_classify {m : Node} {b : Bool} (h : m ∈ (s.classify node b).listed) :
    m ∈ s.listed ∨ m = node ∧ b = false := by
  simp only [Selection.listed, List.mem_append] at h ⊢
  cases b with
  | true => exact .inl (by simpa [Selection.classify] using h)
  | false =>
    simp only [Selection.classify, Bool.false_eq_true, if_false] at h
    split_ifs at h
    all_goals
      simp only [List.mem_append, List.mem_singleton] at h
      tauto

theorem add_eq_some (h : s.add n node = some s') :
    s'.managementNumber = s.managementNumber + (if isManagementRole node then 1 else 0) ∧
      s'.managementNumber ≠ min n defaultSpecManagementNumber ∧ node.Settled ∧
      ∀ m ∈ s'.listed, m ∈ s.listed ∨ m = node ∧ isManagementRole node = false := by
  simp only [Selection.add] at h
  split_ifs at h with henough hpending hbusy hfew
  cases h
  rw [managementNumber_classify]
  have hlisted : (s.count node (isManagementRole node)).listed = s.listed := rfl
  refine ⟨?_, henough, ?_, fun m hm => hlisted ▸ mem_listed_classify hm⟩
  · simp only [Selection.count]
    split <;> rfl
  simp only [isPromoteStatusIn_iff, List.mem_cons, List.not_mem_nil, or_false] at hbusy
  cases hstatus : node.promoteStatus with
  | none => exact .inl hstatus
  | some st =>
    have hcomplete : st = .complete := by
      cases st with
      | complete => rfl
      | running => exact absurd ⟨_, .inl rfl, hstatus⟩ hbusy
      | failed => exact absurd ⟨_, .inr (.inl rfl), hstatus⟩ hbusy
      | unknown => exact absurd ⟨_, .inr (.inr rfl), hstatus⟩ hbusy
    subst hcomplete
    refine .inr ⟨hstatus, ?_⟩
    simpa [isPromoteStatusIn, hstatus] using hpending

/-- A loop that comes to its end has seen all nodes, all of which were settled. -/
theorem foldlM_add_eq_some (h : nodeList.foldlM (Selection.add n) s = some s') :
    s'.managementNumber = s.managementNumber + nodeList.countP isManagementRole ∧
      (s.managementNumber < min n defaultSpecManagementNumber →
        s'.managementNumber < min n defaultSpecManagementNumber) ∧
      (∀ m ∈ nodeList, m.Settled) ∧
      ∀ m ∈ s'.listed, m ∈ s.listed ∨ m ∈ nodeList ∧ isManagementRole m = false := by
  induction nodeList generalizing s with
  | nil =>
    cases h
    exact ⟨rfl, id, by simp, fun m hm => .inl hm⟩
  | cons node nodeList ih =>
    rw [List.foldlM_cons, Option.bind_eq_bind, Option.bind_eq_some_iff] at h
    obtain ⟨t, hadd, h⟩ := h
    obtain ⟨hnumber, henough, hsettled, hlisted⟩ := add_eq_some hadd
    obtain ⟨hnumber', henough', hsettled', hlisted'⟩ := ih h
    refine ⟨?_, fun hlt => henough' ?_, List.forall_mem_cons.2 ⟨hsettled, hsettled'⟩, ?_⟩
    · rw [List.countP_cons]
      omega
    · split at hnumber <;> omega
    intro m hm
    rcases hlisted' m hm with hm | ⟨hm, hrole⟩
    · rcases hlisted m hm with hm | ⟨rfl, hrole⟩
      · exact .inl hm
      · exact .inr ⟨List.mem_cons_self, hrole⟩
    · exact .inr ⟨List.mem_cons_of_mem _ hm, hrole⟩

theorem mem_of_foldl_older {chosen : Option Node} (h : nodeList.foldl older chosen = some node) :
    node ∈ nodeList ∨ chosen = some node := by
  induction nodeList generalizing chosen with
  | nil => exact .inr h
  | cons m nodeList ih =>
    rcases ih h with hmem | holder
    · exact .inl (List.mem_cons_of_mem _ hmem)
    cases chosen with
    | none =>
      cases holder
      exact .inl List.mem_cons_self
    | some best =>
      simp only [older] at holder
      split at holder
      · cases holder
        exact .inl List.mem_cons_self
      · exact .inr holder

theorem mem_of_choose (h : s.choose = some node) : node ∈ s.listed := by
  simp only [Selection.choose] at h
  split at h
  · simp at h
  have hmem : node ∈ s.candidates :=
    List.mem_of_mem_filter ((mem_of_foldl_older h).resolve_right (by simp))
  unfold Selection.candidates at hmem
  simp only [Selection.listed, List.mem_append]
  split_ifs at hmem <;> tauto

/-- **The verdict of the selection.** -/
theorem selectPromoteNode_eq_some (h : selectPromoteNode nodeList = some node) :
    node ∈ nodeList ∧ isManagementRole node = false ∧ (∀ m ∈ nodeList, m.Settled) ∧
      nodeList.countP isManagementRole < defaultSpecManagementNumber := by
  obtain ⟨t, hloop, hchoose⟩ := Option.bind_eq_some_iff.1 h
  obtain ⟨hnumber, henough, hsettled, hlisted⟩ := foldlM_add_eq_some hloop
  obtain ⟨hmem, hrole⟩ :=
    (hlisted node (mem_of_choose hchoose)).resolve_left (by simp [Selection.listed])
  refine ⟨hmem, hrole, hsettled, ?_⟩
  have hpos : 0 < nodeList.length := List.length_pos_of_mem hmem
  have hlt : t.managementNumber < min nodeList.length defaultSpecManagementNumber :=
    henough (Nat.lt_min.2 ⟨hpos, Nat.zero_lt_succ 2⟩)
  omega

end Promote

end Harvester
