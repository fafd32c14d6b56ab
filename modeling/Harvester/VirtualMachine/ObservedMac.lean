import Harvester.Control.History
import Harvester.VirtualMachine.Validator
import Mathlib.Data.List.Induction

/-!
# Observed MAC addresses

KubeVirt gives an interface without a MAC address a new one at every start.  The VM network
controller (`pkg/controller/master/virtualmachine/vmi_network_controller.go`) notes the addresses of
a running VMI in an annotation of the VM, and writes them into the specification when the VMI is
removed.

Each status replaces the whole annotation, so one that leaves an interface out, or gives it no
address yet, erases what was noted before (`mac_forgotten`).  A status is not noted when the VM in
the cache is old.  `mac_kept_iff` says when an address gets into the specification.
-/

namespace Harvester

namespace VirtualMachine

namespace ObservedMac

open Control Action
open Validator (Interface)

/-- An interface in the status of a VMI. -/
structure VMIInterface where
  name : String
  mac : String
  deriving DecidableEq, Repr

/-- A VMI with the interfaces of its status. -/
structure VMI where
  deleting : Bool
  running : Bool
  interfaces : List VMIInterface
  deriving DecidableEq, Repr

/-- A VM with its interfaces and the annotation `mac-address`, in the order of its keys. -/
structure VM where
  key : Key
  deleting : Bool
  interfaces : List Interface
  macAddress : Option (List (String × String))
  deriving DecidableEq, Repr

/-- The circumstances of a call. -/
structure Env where
  /-- The version of the VM in the cache, or the error of the lookup. -/
  cached : Except Err Nat
  /-- The annotations would be too large. -/
  oversized : Bool
  update : Fault
  failure : Err

/-- Calls work on the versions of the VM. -/
abbrev Handler := Action (History VM) Err

section

variable (env : Env) (vmi : VMI)

/-- `vmCache.Get`, with the number of the version. -/
def getVM : Handler (Nat × VM) := fun vms =>
  (env.cached.map fun number => (number, vms.get number), vms)

/-- `vmClient.Update` of a copy of the given version. -/
def updateVM (number : Nat) (vm : VM) : Handler Unit :=
  request env.update env.failure fun vms =>
    match vms.replace number vm with
    | some vms => (.ok (), vms)
    | none => (.error (.conflict vm.key), vms)

/-- The VM in the cache is edited; nothing is written without an edit. -/
def editVM (edit : VM → Option VM) : Handler Unit := do
  let (number, vm) ← getVM env
  match edit vm with
  | none => pure ()
  | some vm => updateVM env number vm

/-- A new entry, which replaces the one with the same name. -/
def insertMac (name mac : String) : List (String × String) → List (String × String)
  | [] => [(name, mac)]
  | (n, m) :: rest =>
    if name = n then (name, mac) :: rest
    else if name < n then (name, mac) :: (n, m) :: rest
    else (n, m) :: insertMac name mac rest

/-- The addresses in a status (`vmiInterfaces`). -/
def VMI.macs : List (String × String) :=
  vmi.interfaces.foldl (fun macs iface =>
    if iface.mac ≠ "" ∧ iface.name ≠ "" then insertMac iface.name iface.mac macs else macs) []

/-- Annotations that are too large are only logged. -/
def updateVMMacAddressAnnotation : Handler Unit :=
  editVM env fun vm =>
    if vm.macAddress = some vmi.macs ∨ env.oversized then none
    else some { vm with macAddress := some vmi.macs }

/-- A status that the controller notes. -/
def VMI.noted : Bool := !vmi.deleting && vmi.running && !vmi.interfaces.isEmpty

/-- The controller is given a status. -/
def setDefaultNetworkMacAddress : Handler Unit :=
  if vmi.noted then updateVMMacAddressAnnotation env vmi else pure ()

/-- The body of the loop of `updateVMMacAddressFromAnnotation`. -/
def backfill (macs : List (String × String)) (iface : Interface) : Interface :=
  if iface.macAddress ≠ "" then iface
  else match macs.lookup iface.name with
    | none => iface
    | some mac => { iface with macAddress := mac }

/-- `BackfillObservedNetworkMacAddress`, when the VMI is removed. -/
def backfillObservedNetworkMacAddress : Handler Unit :=
  editVM env fun vm =>
    if vm.deleting then none
    else vm.macAddress.map fun macs => { vm with interfaces := vm.interfaces.map (backfill macs) }

end

/-- The last address that some statuses give for an interface. -/
def lastMac (vmis : List VMI) (name : String) : Option String :=
  ((vmis.flatMap VMI.interfaces).reverse.find? fun iface =>
    iface.name = name ∧ iface.mac ≠ "").map VMIInterface.mac

/-- The status gives an address for an interface, which has a name. -/
def VMI.Reports (vmi : VMI) (name m : String) : Prop := name ≠ "" ∧ lastMac [vmi] name = some m
  deriving Decidable

theorem lastMac_ne_empty {vmis : List VMI} {name m : String} (h : lastMac vmis name = some m) :
    m ≠ "" := by
  obtain ⟨iface, hfind, rfl⟩ := Option.map_eq_some_iff.1 h
  have hiface := List.find?_some hfind
  simp only [decide_eq_true_eq] at hiface
  exact hiface.2

theorem lookup_insertMac (name mac x : String) (macs : List (String × String)) :
    (insertMac name mac macs).lookup x = if x = name then some mac else macs.lookup x := by
  induction macs with
  | nil => grind [insertMac]
  | cons entry rest ih => grind [insertMac]

theorem VMI.lookup_macs (vmi : VMI) (name m : String) :
    vmi.macs.lookup name = some m ↔ vmi.Reports name m := by
  have hmacs : vmi.macs.lookup name =
      (vmi.interfaces.reverse.find? fun iface =>
        iface.name = name ∧ iface.mac ≠ "" ∧ name ≠ "").map VMIInterface.mac := by
    unfold VMI.macs
    -- The last of several addresses for one name counts.
    induction vmi.interfaces using List.reverseRecOn with
    | nil => rfl
    | append_singleton interfaces iface ih =>
      rw [List.foldl_concat, List.reverse_concat, List.find?_cons]
      by_cases hiface : iface.mac ≠ "" ∧ iface.name ≠ ""
      · rw [if_pos hiface, lookup_insertMac]
        by_cases hname : name = iface.name
        · simp [hname, hiface]
        · simp [hname, Ne.symm hname, ih]
      · rw [if_neg hiface, ih]
        have hskip : ¬ (iface.name = name ∧ iface.mac ≠ "" ∧ name ≠ "") :=
          fun ⟨hname, hmac, hne⟩ => hiface ⟨hmac, hname ▸ hne⟩
        simp [hskip]
  rw [hmacs]
  by_cases hname : name = ""
  · subst hname
    simp only [VMI.Reports, ne_eq, not_true_eq_false, and_false, decide_false, false_and]
    simp [List.find?_eq_none.2]
  · simp [VMI.Reports, lastMac, hname]

/-- A status that the controller is given, and the circumstances of the call. -/
structure Status where
  env : Env
  vmi : VMI

/-- The versions of the VM after a status. -/
def Status.step (vms : History VM) (s : Status) : History VM :=
  ((setDefaultNetworkMacAddress s.env s.vmi).run vms).2

/-- The versions of the VM after some statuses of its VMI. -/
def observe (vms : History VM) (statuses : List Status) : History VM :=
  statuses.foldl Status.step vms

/-- The copy of the VM in the cache is current. -/
def Env.Current (env : Env) (vms : History VM) : Prop :=
  match env.cached with
  | .ok number => number = vms.now
  | .error _ => False

instance (env : Env) (vms : History VM) : Decidable (env.Current vms) := by
  unfold Env.Current
  split <;> infer_instance

/-- The controller notes the status, the copy in the cache is current, the annotations are not too
large, and the update is not refused. -/
def Status.Taken (vms : History VM) (s : Status) : Prop :=
  s.vmi.noted ∧ s.env.Current vms ∧ s.env.oversized = false ∧ s.env.update ≠ .refused
  deriving Decidable

/-- The last status that is taken over. -/
def lastTaken : History VM → List Status → Option VMI
  | _, [] => none
  | vms, s :: rest => (lastTaken (s.step vms) rest).or (if s.Taken vms then some s.vmi else none)

/-- The last status that is taken over gives the address, or none is and the annotation has it. -/
def Recalls (vms : History VM) (statuses : List Status) (name m : String) : Prop :=
  match lastTaken vms statuses with
  | some vmi => vmi.Reports name m
  | none => ∃ macs ∈ vms.live.macAddress, macs.lookup name = some m

section

variable {env : Env} {vms : History VM} {vm : VM} {number : Nat} {i : Nat} {iface : Interface}
  {m : String}

/-- A current copy: its edit is stored unless the update is refused. -/
theorem run_editVM (h : env.Current vms) (edit : VM → Option VM) :
    (editVM env edit).run vms = match edit vms.live with
      | none => (.ok (), vms)
      | some vm => (request env.update env.failure fun vms => (.ok (), vms.push vm)).run vms := by
  rcases hcached : env.cached with e | number
  · simp [Env.Current, hcached] at h
  obtain rfl : number = vms.now := by simpa [Env.Current, hcached] using h
  have hrun : (editVM env edit).run vms = (match edit vms.live with
      | none => pure ()
      | some vm => updateVM env vms.now vm : Handler Unit).run vms := by
    simp only [editVM, getVM, run, Bind.bind, hcached, Except.map, History.live]
  rw [hrun]
  cases edit vms.live with
  | none => rfl
  | some vm =>
    cases hupdate : env.update <;> simp [updateVM, request, run, hupdate, History.replace]

/-- An old copy: nothing is stored. -/
theorem editVM_old (h : ¬ env.Current vms) (edit : VM → Option VM) :
    ((editVM env edit).run vms).2 = vms := by
  rcases hcached : env.cached with e | number
  · simp [editVM, getVM, run, Bind.bind, hcached, Except.map]
  have hne : number ≠ vms.now := by simpa [Env.Current, hcached] using h
  simp only [editVM, getVM, run, Bind.bind, hcached, Except.map]
  cases edit (vms.get number) with
  | none => rfl
  | some vm =>
    cases hupdate : env.update <;>
      simp [updateVM, request, fail, hupdate, History.replace, hne]

/-- **A status** replaces the annotation if it is taken over, and changes nothing otherwise. -/
theorem Status.live_step (s : Status) : (s.step vms).live =
    if s.Taken vms then { vms.live with macAddress := some s.vmi.macs } else vms.live := by
  obtain ⟨env, vmi⟩ := s
  simp only [Status.step, setDefaultNetworkMacAddress]
  by_cases hnoted : vmi.noted = true
  swap
  · rw [if_neg hnoted, if_neg fun htaken : Taken _ _ => hnoted htaken.1]
    rfl
  rw [if_pos hnoted, updateVMMacAddressAnnotation]
  by_cases hcurrent : env.Current vms
  swap
  · rw [editVM_old hcurrent, if_neg fun htaken : Taken _ _ => hcurrent htaken.2.1]
  rw [run_editVM hcurrent]
  by_cases hsame : vms.live.macAddress = some vmi.macs
  · -- The annotation is already there.
    simp only [hsame, true_or, if_true]
    rw [← hsame, ite_self]
  · cases hsize : env.oversized <;> cases hupdate : env.update <;>
      simp [Taken, hnoted, hcurrent, hsame, hsize, hupdate, request, run, fail]

theorem live_observe (vms : History VM) (statuses : List Status) : (observe vms statuses).live =
    { vms.live with
      macAddress := ((lastTaken vms statuses).map VMI.macs).or vms.live.macAddress } := by
  induction statuses generalizing vms with
  | nil => rfl
  | cons s rest ih =>
    rw [observe, List.foldl_cons, ← observe, ih, lastTaken, Status.live_step]
    by_cases htaken : s.Taken vms
    · cases lastTaken (s.step vms) rest <;> simp [htaken]
    · cases lastTaken (s.step vms) rest <;> simp [htaken]

theorem recalls_iff {statuses : List Status} {name : String} : Recalls vms statuses name m ↔
    ∃ macs, (observe vms statuses).live.macAddress = some macs ∧ macs.lookup name = some m := by
  rw [live_observe, Recalls]
  cases lastTaken vms statuses with
  | none => simp
  | some vmi => simp [VMI.lookup_macs]

/-- **Observed MAC addresses.**  When the VMI has been removed, the last address that was given for
an interface without one is in the specification if and only if the controller reads the current VM,
which is not being deleted, and the last status that was taken over has the address. -/
theorem mac_kept_iff {statuses : List Status} (hiface : vms.live.interfaces[i]? = some iface)
    (hempty : iface.macAddress = "")
    (hlast : lastMac (statuses.map Status.vmi) iface.name = some m)
    (hok : ((backfillObservedNetworkMacAddress env).run (observe vms statuses)).1 = .ok ()) :
    ((backfillObservedNetworkMacAddress env).run (observe vms statuses)).2.live.interfaces[i]? =
        some { iface with macAddress := m } ↔
      env.Current (observe vms statuses) ∧ vms.live.deleting = false ∧
        Recalls vms statuses iface.name m := by
  obtain ⟨name, mac, rest⟩ := iface
  cases hempty
  have hm : "" ≠ m := (lastMac_ne_empty hlast).symm
  have hlive := live_observe vms statuses
  have hinterfaces : (observe vms statuses).live.interfaces[i]? = some ⟨name, "", rest⟩ := by
    rw [hlive, hiface]
  have hdeleting : (observe vms statuses).live.deleting = vms.live.deleting := by rw [hlive]
  rw [recalls_iff, ← hdeleting]
  generalize observe vms statuses = vms' at *
  have hunchanged : vms'.live.interfaces[i]? ≠ some ⟨name, m, rest⟩ := by simp [hinterfaces, hm]
  rw [backfillObservedNetworkMacAddress] at hok ⊢
  by_cases hcurrent : env.Current vms'
  swap
  · rw [editVM_old hcurrent]
    exact iff_of_false hunchanged fun h => hcurrent h.1
  rw [run_editVM hcurrent] at hok ⊢
  cases hdeleted : vms'.live.deleting with
  | true => simpa [hdeleted] using hunchanged
  | false =>
    cases hmacs : vms'.live.macAddress with
    | none => simpa [hdeleted, hmacs] using hunchanged
    | some macs =>
      simp only [hdeleted, hmacs] at hok ⊢
      cases hupdate : env.update <;> simp [hupdate, request, run, fail] at hok ⊢
      cases hlookup : macs.lookup name <;>
        simp [hinterfaces, hcurrent, backfill, hlookup, hm]

end

namespace Sample

def vm : VM := ⟨⟨"default", "vm"⟩, false, [⟨"default", "", ""⟩, ⟨"nic-1", "", ""⟩], none⟩

def full : VMI := ⟨false, true, [⟨"default", "52:54:00:00:00:01"⟩, ⟨"nic-1", "52:54:00:00:00:02"⟩]⟩

/-- The second interface is not there. -/
def partly : VMI := ⟨false, true, [⟨"default", "52:54:00:00:00:01"⟩]⟩

/-- A call that reads a version of the VM. -/
def reading (number : Nat) : Env := ⟨.ok number, false, .none, .other "unavailable"⟩

end Sample

open Sample in
/-- The second status is not taken over, because the VM in the cache is old. -/
theorem mac_kept_sample :
    ((backfillObservedNetworkMacAddress (reading 1)).run
      (observe (.init vm) [⟨reading 0, full⟩, ⟨reading 0, partly⟩])).2.live.interfaces[1]? =
      some ⟨"nic-1", "52:54:00:00:00:02", ""⟩ :=
  (@mac_kept_iff (reading 1) (.init vm) 1 ⟨"nic-1", "", ""⟩ _ [⟨reading 0, full⟩,
    ⟨reading 0, partly⟩] rfl rfl (by decide) (by decide)).2
    ⟨by decide, rfl, (by decide : full.Reports "nic-1" "52:54:00:00:00:02")⟩

open Sample in
/-- **A status without the interface erases its address.** -/
theorem mac_forgotten : lastMac [full, partly] "nic-1" = some "52:54:00:00:00:02" ∧
    ((backfillObservedNetworkMacAddress (reading 2)).run
      (observe (.init vm) [⟨reading 0, full⟩, ⟨reading 1, partly⟩])).2.live.interfaces =
      [⟨"default", "52:54:00:00:00:01", ""⟩, ⟨"nic-1", "", ""⟩] := by
  decide

end ObservedMac

end VirtualMachine

end Harvester
