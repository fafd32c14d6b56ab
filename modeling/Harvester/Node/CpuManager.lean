import Harvester.Control.History
import Harvester.Kube.Basic

/-!
# The CPU manager of a node

A user asks for a CPU manager policy by an annotation of the node.  The controller of
`pkg/controller/master/node/cpu_manager_controller.go` submits a job for it, writes the status
`running`, and the result when the job has ended.  The webhook of
`pkg/webhook/resources/node/validator.go` looks at the jobs that have not ended before it admits a
request; a job of a management node restarts RKE2 there.

The controller reads nodes and jobs from caches, and an update that is based on an old version fails
with a conflict.  Every version of a node, and every job, comes with the `Request` it belongs to,
which no function looks at.
-/

namespace Harvester

open Control Action

namespace CpuManager

/-- The policy of the CPU manager. -/
inductive Policy where
  | static
  | none
  | other (s : String)
  deriving DecidableEq, Repr

/-- How far an update has come. -/
inductive Status where
  | requested
  | running
  | success
  | failed
  | other (s : String)
  deriving DecidableEq, Repr

/-- The content of the annotation. -/
structure UpdateStatus where
  policy : Policy
  status : Status
  jobName : String
  deriving DecidableEq, Repr

/-- A node. -/
structure Node where
  name : String
  deleting : Bool
  /-- The annotation `cpu-manager-update-status`; the JSON may not be readable. -/
  updateStatus : Option (Except Err UpdateStatus)
  /-- The label of a witness is there. -/
  witness : Bool
  /-- The labels of the roles. -/
  master : Option String
  controlPlane : Option String
  etcd : Option String
  /-- The label `cpumanager`. -/
  cpuManager : Option String
  deriving DecidableEq

/-- The first of the three labels that is there decides. -/
def isManagementRole (node : Node) : Bool :=
  ((node.master.or node.controlPlane).or node.etcd).any (· = "true")

/-- What a user has written into the annotation, numbered for each node. -/
structure Request where
  number : Nat
  written : Option (Except Err UpdateStatus)
  deriving DecidableEq

/-- A job of the controller. -/
structure Job where
  name : String
  /-- The label with the name of the node. -/
  updateNode : Option String
  /-- The label with the policy. -/
  updatePolicy : Policy
  /-- The conditions `Complete` and `Failed`. -/
  complete : Bool
  failed : Bool
  deleting : Bool
  request : Request
  deriving DecidableEq

/-- A version of a node. -/
structure Tagged where
  node : Node
  request : Request
  deriving DecidableEq

/-- A node of the cluster. -/
structure Entry where
  name : String
  versions : History Tagged
  /-- The most recent request. -/
  latest : Request

/-- The nodes and the jobs. -/
structure World where
  nodes : Store Entry.name
  jobs : History (Store Job.name)

/-- A node as it has been read. -/
structure Version where
  number : Nat
  node : Node
  request : Request

/-- A version with its number. -/
def Entry.version (entry : Entry) (number : Nat) : Version :=
  ⟨number, (entry.versions.get number).node, (entry.versions.get number).request⟩

/-- The current object. -/
def Entry.node (entry : Entry) : Node := entry.versions.live.node

/-- What a handler finds besides nodes and jobs. -/
structure Env where
  /-- The outcome of `FetchImageFromHelmValues`. -/
  image : Except Err Unit
  /-- The name that the server generates. -/
  jobName : String
  create : Fault
  update : Fault
  /-- The error of a request that fails. -/
  failure : Err

/-- Calls of the controller. -/
abbrev Handler := Action World Err

variable (env : Env) (jobCache : Except Err (List Job)) (caches : Caches) (policy : Policy)
  (v : Version) (s : UpdateStatus)

/-- A new version of a node, if the request is based on the current one. -/
def storeNode (node : Node) (request : Request) : Handler Unit := fun w =>
  match w.nodes.get v.node.name with
  | none => (.error (.notFound ⟨"", v.node.name⟩), w)
  | some entry =>
    match entry.versions.replace v.number ⟨node, request⟩ with
    | some versions => (.ok (), { w with nodes := w.nodes.put { entry with versions } })
    | none => (.error (.conflict ⟨"", v.node.name⟩), w)

/-- `h.nodeClient.Update`, unless nothing has changed. -/
def updateNode (node : Node) (request : Request) : Handler Unit :=
  if node = v.node then pure ()
  else Action.request env.update env.failure (storeNode v node request)

/-- A job is created. -/
def storeJob (job : Job) : Handler Job := fun w =>
  match w.jobs.live.get job.name with
  | some _ => (.error (.alreadyExists ⟨"", job.name⟩), w)
  | none => (.ok job, { w with jobs := w.jobs.push (w.jobs.live.put job) })

/-- The annotation is read. -/
def getCPUManagerUpdateStatus (annot : Except Err UpdateStatus) : Except Err UpdateStatus :=
  match annot with
  | .error e => .error e
  | .ok s =>
    if s.status ≠ .requested ∧ s.status ≠ .running ∧ s.status ≠ .success ∧ s.status ≠ .failed then
      .error (.other "invalid status")
    else if s.policy ≠ .none ∧ s.policy ≠ .static then .error (.other "invalid policy")
    else .ok s

/-- The update fails. -/
def toFailedStatus : UpdateStatus := { s with status := .failed }

/-- The job is running. -/
def toRunningStatus (job : Job) : UpdateStatus :=
  { s with status := .running, jobName := job.name }

/-- The annotation is written. -/
def setUpdateStatus (node : Node) (s : UpdateStatus) : Node :=
  { node with updateStatus := some (.ok s) }

/-- Neither complete nor failed. -/
def Job.running (job : Job) : Bool := !job.complete && !job.failed

/-- The jobs of nodes that have not ended. -/
def getCPUManagerRunningJobsOnNodes (nodeNames : List String) : Except Err (List Job) :=
  if nodeNames = [] then .error (.other "nodeNames size should > 0")
  else jobCache.map fun jobs =>
    jobs.filter fun job => job.updateNode.any (· ∈ nodeNames) && job.running

/-- The same for one node. -/
def getCPUManagerRunningJobOnNode (nodeName : String) : Except Err (List Job) :=
  getCPUManagerRunningJobsOnNodes jobCache [nodeName]

/-- The part of the job that the controller reads; it is for the request of the version. -/
def getJob : Job :=
  ⟨env.jobName, some v.node.name, policy, false, false, false, v.request⟩

/-- The job of a request. -/
def submitJob : Handler Job := do
  Action.ofExcept env.image
  request env.create env.failure (storeJob (getJob env s.policy v))

/-- The status after the attempt to submit a job. -/
def submittedStatus : Except Err Job → UpdateStatus
  | .ok job => toRunningStatus s job
  | .error _ => toFailedStatus s

/-- The new status: of a job that is running on the node, or of a new one. -/
def startJob (runningJobs : List Job) : Handler UpdateStatus :=
  match runningJobs with
  | job :: _ => pure (toRunningStatus s job)
  | [] => do
    let submitted ← attempt (submitJob env v s)
    pure (submittedStatus s submitted)

/-- A request is handled. -/
def handleRequest : Handler Unit := do
  let runningJobs ← Action.ofExcept (getCPUManagerRunningJobOnNode jobCache v.node.name)
  let status ← startJob env v s runningJobs
  updateNode env v (setUpdateStatus v.node status) v.request

/-- The status of the annotation, of a node that is not a witness and not being deleted. -/
def effectiveStatus (node : Node) : Option UpdateStatus :=
  if node.deleting ∨ node.witness then none
  else node.updateStatus.bind fun annot => (getCPUManagerUpdateStatus annot).toOption

/-- Only a request is acted upon; what cannot be read is skipped. -/
def onNodeChanged : Handler Unit :=
  match effectiveStatus v.node with
  | none => pure ()
  | some s => if s.status ≠ .requested then pure () else handleRequest env jobCache v s

/-- The status of a job that has ended or is being deleted. -/
def Job.outcome (job : Job) : Option Status :=
  if job.complete then some .success
  else if job.failed then some .failed
  else if job.deleting then some .failed
  else none

/-- The status of a job is written. -/
def updateCPUManagerStatus (job : Job) (status : Status) : Handler Unit :=
  updateNode env v (setUpdateStatus v.node ⟨job.updatePolicy, status, job.name⟩) job.request

/-- The node comes from the cache; its annotation is not looked at. -/
def onJobChanged (nodeCache : String → Except Err Version) (job : Job) : Handler Unit :=
  match job.updateNode with
  | none => pure ()
  | some nodeName => do
    let v ← Action.ofExcept (nodeCache nodeName)
    match job.outcome with
    | some status => updateCPUManagerStatus env v job status
    | none => pure ()

/-- Why a request is refused. -/
inductive Rejection where
  | badRequest (message : String)
  | internalError (message : String)
  deriving DecidableEq, Repr

/-- A VMI on a node. -/
structure VMI where
  nodeName : String
  dedicatedCPUPlacement : Bool
  deriving DecidableEq, Repr

/-- What the webhook reads. -/
structure Caches where
  nodes : Except Err (List Node)
  jobs : Except Err (List Job)
  vmis : Except Err (List VMI)
  /-- The outcome of the checks that do not concern the CPU manager. -/
  others : Except Rejection Unit

/-- `strconv.ParseBool`. -/
def parseBool (s : String) : Option Bool :=
  if s ∈ ["1", "t", "T", "TRUE", "true", "True"] then some true
  else if s ∈ ["0", "f", "F", "FALSE", "false", "False"] then some false
  else none

/-- The policy as a text. -/
def Policy.text : Policy → String
  | .static => "static"
  | .none => "none"
  | .other s => s

/-- The policy is a new one. -/
def checkCPUManagerLabel (node : Node) (policy : Policy) : Except Rejection Unit :=
  match parseBool (node.cpuManager.getD "") with
  | none => .error (.badRequest "label cpumanager not found")
  | some cpuManagerLabel =>
    if (policy = .static ∧ cpuManagerLabel) ∨ (policy = .none ∧ ¬ cpuManagerLabel) then
      .error (.badRequest ("current cpu manager policy is already the same as requested value: " ++
        policy.text))
    else .ok ()

/-- The jobs of some nodes that have not ended; there should be none. -/
def checkNoRunningJobs (nodeNames : List String) (message : String → String) : Except Rejection
    Unit :=
  match getCPUManagerRunningJobsOnNodes jobCache nodeNames with
  | .error e => .error (.internalError e.text)
  | .ok [] => .ok ()
  | .ok jobs => .error (.badRequest (message (", ".intercalate (jobs.map Job.name))))

/-- The node has no job. -/
def checkCurrentNodeCPUManagerJobs (node : Node) (jobCache : Except Err (List Job)) :
    Except Rejection Unit :=
  checkNoRunningJobs jobCache [node.name] fun names =>
    "there is other job " ++ names ++ " updating the cpu manager policy for this node " ++ node.name

/-- The other management nodes. -/
def masterNodeNames (node : Node) (nodes : List Node) : List String :=
  (nodes.filter fun n => n.name ≠ node.name && isManagementRole n).map Node.name

/-- No other management node has a job. -/
def checkMasterNodeJobs (node : Node) (caches : Caches) : Except Rejection Unit :=
  if ¬ isManagementRole node then .ok ()
  else match caches.nodes with
    | .error e => .error (.internalError e.text)
    | .ok nodes =>
      if masterNodeNames node nodes = [] then .ok ()
      else checkNoRunningJobs caches.jobs (masterNodeNames node nodes) fun names =>
        "the node you are trying to update the cpu manager policy is a master node, and only one " ++
          "master node can be updated at a time, while job " ++ names ++
          " is updating the policy for other master nodes"

/-- No VMI on the node needs the policy. -/
def checkCPUPinningVMIs (node : Node) (policy : Policy) (caches : Caches) :
    Except Rejection Unit :=
  if policy ≠ .none then .ok ()
  else match caches.vmis with
    | .error e =>
      .error (.internalError ("failed to list VMIs on node " ++ node.name ++ ": " ++ e.text))
    | .ok vmis =>
      if vmis.any fun vmi => vmi.nodeName = node.name && vmi.dedicatedCPUPlacement then
        .error (.badRequest ("there should not be any running VMs with CPU pinning when disabling " ++
          "the CPU manager"))
      else .ok ()

/-- The checks of a request. -/
def validateRequest (node : Node) (policy : Policy) : Except Rejection Unit := do
  checkCPUManagerLabel node policy
  checkCurrentNodeCPUManagerJobs node caches.jobs
  checkMasterNodeJobs node caches
  checkCPUPinningVMIs node policy caches

/-- The checks of a request. -/
def validateCPUManagerOperation (node : Node) : Except Rejection Unit :=
  match node.updateStatus with
  | none => .ok ()
  | some annot =>
    if node.witness then
      .error (.badRequest "The witness node is unable to update the CPU manager policy.")
    else match getCPUManagerUpdateStatus annot with
      | .error e =>
        .error (.badRequest ("Failed to retrieve cpu-manager-update-status from annotation: " ++
          e.text))
      | .ok s => if s.status ≠ .requested then .ok () else validateRequest caches node s.policy

/-- An update of a node. -/
def validateUpdate (node : Node) : Except Rejection Unit := do
  caches.others
  validateCPUManagerOperation caches node

end CpuManager

end Harvester
