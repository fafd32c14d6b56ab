import Harvester.Control.History
import Harvester.Kube.Basic

/-!
# The VM migration network

For a value of the setting `vm-migration-network` the controller makes a network attachment
definition (NAD), enters its name in the configuration of KubeVirt, removes the NAD of the value
before, and annotates the setting with the name of the NAD and the hash of the value.  The hash says
that the value has been dealt with; a failure is written by the same function and together with the
hash.
-/

namespace Harvester

open Control Action

namespace MigrationNetwork

/-- The value of the setting, read from JSON. -/
structure Config where
  clusterNetwork : String
  vlan : UInt16
  range : String
  exclude : List String
  rangeV6 : String
  rangeV6Start : String
  rangeV6End : String
  deriving DecidableEq

/-- A range of addresses. -/
structure RangeConfiguration where
  range : String
  exclude : List String
  rangeStart : Option String
  rangeEnd : Option String
  deriving DecidableEq

/-- How addresses are assigned. -/
structure IPAMConfig where
  type : String
  range : String
  exclude : List String
  ipRanges : List RangeConfiguration
  deriving DecidableEq

/-- The configuration of a NAD. -/
structure BridgeConfig where
  cniVersion : String
  type : String
  bridge : String
  promiscMode : Bool
  vlan : Nat
  ipam : IPAMConfig
  deriving DecidableEq

/-- The functions of libraries. -/
structure Lib where
  sha1 : String → String
  parseConfig : String → Except Err Config
  parseIP : String → Option String

/-- With a range for IPv6 the ranges are in a list. -/
def createBridgeConfig (L : Lib) (config : Config) : BridgeConfig where
  cniVersion := "0.3.1"
  type := "bridge"
  bridge := config.clusterNetwork ++ "-br"
  promiscMode := true
  vlan := if config.vlan = 0 then 1 else config.vlan.toNat
  ipam :=
    if config.rangeV6 ≠ "" then
      ⟨"whereabouts", "", [], [⟨config.range, config.exclude, none, none⟩,
        ⟨config.rangeV6, [], L.parseIP config.rangeV6Start, L.parseIP config.rangeV6End⟩]⟩
    else ⟨"whereabouts", config.range, config.exclude, []⟩

/-- A NAD of the controller, in the namespace `harvester-system`. -/
structure Nad where
  name : String
  /-- The label with the hash of the value. -/
  hash : String
  /-- The configuration, which is stored as JSON. -/
  config : BridgeConfig
  deriving DecidableEq

/-- The annotations of the setting that the controller writes; a missing one reads as empty. -/
structure Annotations where
  hash : Option String
  /-- The name of the NAD; its namespace is `harvester-system`. -/
  nad : Option String
  deriving DecidableEq, Repr

/-- The `configured` condition. -/
structure Configured where
  status : Bool
  reason : String
  message : String
  deriving DecidableEq, Repr

/-- The setting. -/
structure Setting where
  value : String
  /-- The setting has a deletion timestamp. -/
  deleting : Bool
  annotations : Option Annotations
  configured : Option Configured
  deriving DecidableEq, Repr

/-- The saved hash. -/
def Setting.hash (s : Setting) : Option String := s.annotations.bind Annotations.hash

/-- The annotated NAD. -/
def Setting.nad (s : Setting) : Option String := s.annotations.bind Annotations.nad

/-- The migration configuration of KubeVirt. -/
structure MigrationConfiguration where
  network : Option String
  deriving DecidableEq, Repr

/-- The configuration of KubeVirt. -/
structure KubeVirt where
  migrationConfiguration : Option MigrationConfiguration
  deriving DecidableEq, Repr

/-- The migration network. -/
def KubeVirt.network (k : KubeVirt) : Option String :=
  k.migrationConfiguration.bind MigrationConfiguration.network

/-- The objects. -/
structure World where
  settings : History Setting
  kubevirts : History KubeVirt
  nads : Store Nad.name

/-- An object as it has been read. -/
structure Version (α : Type) where
  number : Nat
  obj : α

/-- What happens to the requests of a reconcile. -/
structure Env where
  /-- The version of the KubeVirt object in the cache. -/
  kubevirt : Except Err Nat
  list : Except Err Unit
  create : Fault
  /-- The name that the server generates. -/
  name : String
  updateKubevirt : Fault
  /-- What the cache says of the annotated NAD. -/
  nadCached : Except Err Unit
  delete : Fault
  updateSetting : Fault
  /-- The error of a request that fails. -/
  failure : Err

/-- Calls of the controller. -/
abbrev Handler := Action World

/-- The server writes a setting that is based on the current version. -/
def storeSetting (v : Version Setting) : Handler Err Unit := fun w =>
  match w.settings.replace v.number v.obj with
  | some settings => (.ok (), { w with settings })
  | none => (.error (.conflict ⟨"", "vm-migration-network"⟩), w)

/-- The setting is updated. -/
def updateSetting (env : Env) (v : Version Setting) : Handler Err Unit :=
  request env.updateSetting env.failure (storeSetting v)

/-- The KubeVirt object in the cache. -/
def getKubevirt (env : Env) : Handler Err (Version KubeVirt) := fun w =>
  (env.kubevirt.map fun number => ⟨number, w.kubevirts.get number⟩, w)

/-- A version is stored. -/
def storeKubevirt (v : Version KubeVirt) : Handler Err Unit := fun w =>
  match w.kubevirts.replace v.number v.obj with
  | some kubevirts => (.ok (), { w with kubevirts })
  | none => (.error (.conflict ⟨"harvester-system", "kubevirt"⟩), w)

/-- KubeVirt is updated. -/
def updateKubevirt (env : Env) (v : Version KubeVirt) : Handler Err Unit :=
  request env.updateKubevirt env.failure (storeKubevirt v)

/-- The NADs with a hash; there is one at most. -/
def listNads (env : Env) (hash : String) : Handler Err (List Nad) := fun w =>
  (env.list.map fun _ => w.nads.objs.filter fun nad => nad.hash = hash, w)

/-- A NAD is stored. -/
def putNad (nad : Nad) : Handler Err Nad := fun w =>
  match w.nads.get nad.name with
  | some _ => (.error (.alreadyExists ⟨"harvester-system", nad.name⟩), w)
  | none => (.ok nad, { w with nads := w.nads.put nad })

/-- A NAD is created. -/
def createRequest (env : Env) (nad : Nad) : Handler Err Nad :=
  request env.create env.failure (putNad nad)

/-- A NAD is removed. -/
def dropNad (name : String) : Handler Err Unit := fun w =>
  match w.nads.get name with
  | none => (.error (.notFound ⟨"harvester-system", name⟩), w)
  | some _ => (.ok (), { w with nads := w.nads.delete name })

/-- A NAD is deleted. -/
def deleteRequest (env : Env) (name : String) : Handler Err Unit :=
  request env.delete env.failure (dropNad name)

section

variable (L : Lib)

variable (env : Env) (setting : Setting) (v : Version Setting) (kubevirt : Version KubeVirt)

/-- The annotations and the condition are saved in one update. -/
def setConfiguredCondition (finish : Bool) (reason msg : String) (nad : Option String) :
    Handler Err Unit :=
  let settingCopy : Setting := { v.obj with
    annotations := some ⟨some (L.sha1 v.obj.value), nad⟩
    configured := some ⟨finish, reason, msg⟩ }
  if settingCopy ≠ v.obj then updateSetting env ⟨v.number, settingCopy⟩ else pure ()

/-- The value has been dealt with. -/
def checkIsSameHashValue : Bool := some (L.sha1 setting.value) = setting.hash

/-- The NAD of the value. -/
def createNad : Handler Err Nad :=
  match L.parseConfig setting.value with
  | .error e => .fail (.other ("parsing value error " ++ e.text))
  | .ok config =>
    mapError (fun e => .other ("create net-attach-def failed " ++ e.text))
      (createRequest env ⟨env.name, L.sha1 setting.value, createBridgeConfig L config⟩)

/-- The NAD is looked up first. -/
def findOrCreateNad : Handler Err Nad := do
  let items ← listNads env (L.sha1 setting.value)
  match items with
  | [] => createNad L env setting
  | nad :: _ => pure nad

/-- The NAD before is deleted. -/
def removeOldNad (name : String) : Handler Err Unit :=
  match env.nadCached with
  | .error e => if e.isNotFound then pure () else .fail e
  | .ok () => deleteRequest env name

/-- A failure, by the reason and the message of the condition. -/
structure Failure where
  reason : String
  message : String

/-- An error with its reason. -/
def failure (reason text : String) (e : Err) : Failure := ⟨reason, text ++ e.text⟩

/-- The NAD of the value; there is none for the empty value. -/
def nadFor : Handler Err (Option Nad) :=
  if setting.value ≠ "" then do
    let nad ← findOrCreateNad L env setting
    pure (some nad)
  else pure none

/-- Enter the network in the configuration of KubeVirt. -/
def setNetwork (network : Option String) : Handler Err Unit :=
  let kubevirtCopy : KubeVirt := ⟨some ⟨network⟩⟩
  if kubevirt.obj ≠ kubevirtCopy then updateKubevirt env ⟨kubevirt.number, kubevirtCopy⟩
  else pure ()

/-- Remove the NAD of the value before, unless it is the NAD of the value. -/
def replaceNad (oldNad nad : Option String) : Handler Err Unit :=
  match oldNad with
  | none => pure ()
  | some name => if nad = some name then pure () else removeOldNad env name

/-- The steps of a change, up to the first that fails. -/
def applyNetwork : Handler Failure (Option String) := do
  let nad ← mapError (failure "CreateNadError" "create nad error ") (nadFor L env setting)
  mapError (failure "UpdateKubeVirtError" "update kubevirt error ")
    (setNetwork env kubevirt (nad.map Nad.name))
  mapError (failure "RemoveOldNadError" "remove old nad error ")
    (replaceNad env setting.nad (nad.map Nad.name))
  pure (nad.map Nad.name)

/-- A change of the value; a failure is saved with the annotation of the NAD before. -/
def changeNetwork : Handler Err Unit := do
  match ← attempt (applyNetwork L env v.obj kubevirt) with
  | .ok nad => setConfiguredCondition L env v true "" "" nad
  | .error e => setConfiguredCondition L env v false e.reason e.message v.obj.nad

/-- Deal with a value whose hash is not saved. -/
def configure : Handler Err Unit := do
  match ← attempt (getKubevirt env) with
  | .error e =>
    setConfiguredCondition L env v false "GetKubeVirtError" ("get kubevirt error " ++ e.text)
      v.obj.nad
  | .ok kubevirt => changeNetwork L env v kubevirt

/-- A reconcile. -/
def onVMMigrationNetworkChange : Handler Err Unit :=
  if v.obj.deleting then pure ()
  else if v.obj.annotations = none ∧ v.obj.value = "" then pure ()
  else if checkIsSameHashValue L v.obj then pure ()
  else configure L env v

end

end MigrationNetwork

end Harvester
