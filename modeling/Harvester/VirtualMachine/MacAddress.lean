import Harvester.VirtualMachine.Exclusive

/-!
# Unique MAC addresses

The interfaces on one cluster network share a layer 2 segment, so their MAC addresses have to
differ.  `checkForDuplicateMacAddrs` compares the addresses of a VM, as texts, with those of the VMs
that are stored; it does not look at the interfaces of one VM among themselves, and it is left out
when an update does not change the interfaces, even if it changes their networks
(`same_mac_in_two_spellings`).

`unique_macs`: if every request uses an address once, in the spelling in which it is known, and
moves no interface to another cluster network without changing the interfaces, then all addresses
are unique after every run.
-/

namespace Harvester

namespace VirtualMachine

namespace Validator

open Control

/-- A digit. -/
def hexDigit (c : Char) : Option Nat :=
  if c.isDigit then some (c.toNat - '0'.toNat)
  else if 'a' ≤ c ∧ c ≤ 'f' then some (c.toNat - 'a'.toNat + 10)
  else if 'A' ≤ c ∧ c ≤ 'F' then some (c.toNat - 'A'.toNat + 10)
  else none

/-- Octets of two hexadecimal digits each. -/
def octets : List Char → Option (List Nat)
  | [] => some []
  | [_] => none
  | a :: b :: cs => do
    let high ← hexDigit a
    let low ← hexDigit b
    let rest ← octets cs
    return (16 * high + low) :: rest

/-- The octets of groups of the given length. -/
def octetGroups (length : Nat) (groups : List (List Char)) : Option (List Nat) :=
  if groups.all fun group => group.length = length then octets groups.flatten else none

/-- `net.ParseMAC`: 6, 8 or 20 octets, separated by colons or hyphens, or in pairs by dots. -/
def parseMAC (s : String) : Option (List Nat) :=
  let cs := s.toList
  let hw :=
    if cs[2]? = some ':' then octetGroups 2 (cs.splitOn ':')
    else if cs[2]? = some '-' then octetGroups 2 (cs.splitOn '-')
    else if cs[4]? = some '.' then octetGroups 4 (cs.splitOn '.')
    else none
  hw.filter fun hw => hw.length ∈ [6, 8, 20]

/-- Two texts for the same hardware address. -/
def SameMac (a b : String) : Prop := a = b ∨ (parseMAC a).isSome ∧ parseMAC a = parseMAC b
  deriving Decidable

theorem SameMac.symm {a b : String} (h : SameMac a b) : SameMac b a := by
  rcases h with rfl | ⟨hsome, heq⟩
  · exact .inl rfl
  · exact .inr ⟨heq ▸ hsome, heq.symm⟩

example : SameMac "52:54:00:AB:CD:EF" "5254.00ab.cdef" := by decide

/-- An interface with a MAC address on a cluster network. -/
structure Attachment where
  clusterNetwork : String
  mac : String
  deriving DecidableEq, Repr

/-- Two interfaces on one cluster network have the same hardware address. -/
def Attachment.Clash (x y : Attachment) : Prop :=
  x.clusterNetwork = y.clusterNetwork ∧ SameMac x.mac y.mac
  deriving Decidable

theorem Attachment.Clash.symm {x y : Attachment} (h : x.Clash y) : y.Clash x :=
  ⟨h.1.symm, h.2.symm⟩

/-- A Multus network with its cluster network; empty for a NAD without one. -/
def multusNetwork (c : Cluster) (network : Network) : Option (String × String) :=
  (network.multus.filter (· ≠ "")).map fun nwName =>
    (network.name, (getClusterNetworkForNad c nwName).toOption.getD "")

/-- The cluster network of an interface; empty when it is on none. -/
def Spec.clusterNetwork (c : Cluster) (spec : Spec) (iface : Interface) : String :=
  clusterNetworkOf (spec.networks.filterMap (multusNetwork c)) iface

/-- The interfaces of a VM that are on a cluster network, in their order. -/
def attachments (c : Cluster) (vm : VM) : List Attachment :=
  match vm.spec with
  | none => []
  | some spec =>
    ((spec.interfaces.filter fun iface => iface.macAddress ≠ "").map fun iface =>
      ⟨spec.clusterNetwork c iface, iface.macAddress⟩).filter fun x => x.clusterNetwork ≠ ""

/-- All addresses are unique: those of one VM, and those of two VMs. -/
structure UniqueMacs (c : Cluster) (vms : List VM) : Prop where
  within : ∀ vm ∈ vms, (attachments c vm).Pairwise fun x y => ¬ x.Clash y
  between : ∀ a ∈ vms, ∀ b ∈ vms, a.key ≠ b.key →
    ∀ x ∈ attachments c a, ∀ y ∈ attachments c b, ¬ x.Clash y

instance (c : Cluster) (vms : List VM) : Decidable (UniqueMacs c vms) :=
  decidable_of_iff (_ ∧ _) ⟨fun h => ⟨h.1, h.2⟩, fun h => ⟨h.within, h.between⟩⟩

section

variable {c : Cluster} {vm : VM}

theorem vmCluster_eq_ok {networks : List Network} {l : List (String × String)}
    (h : vmCluster c networks = .ok l) : l = networks.filterMap (multusNetwork c) := by
  induction networks generalizing l with
  | nil => exact (Except.ok.inj h).symm
  | cons network networks ih =>
    rw [vmCluster] at h
    split at h
    · next hnone =>
      rw [ih h]
      simp [multusNetwork, hnone]
    · next hempty =>
      rw [ih h]
      simp [multusNetwork, hempty]
    · next nwName hne hmultus =>
      obtain ⟨cn, hcn, h⟩ := except_bind_eq_ok.1 h
      obtain ⟨rest, hrest, h⟩ := except_bind_eq_ok.1 h
      cases h
      have hname : nwName ≠ "" := hne
      rw [ih hrest]
      simp [multusNetwork, hmultus, hname, hcn, Except.toOption]

/-- The entry of `MacAddrPerCluster` for an interface. -/
def macInfo (c : Cluster) (vm : VM) (spec : Spec) (iface : Interface) : MacInfo :=
  ⟨spec.clusterNetwork c iface, iface.macAddress, iface.name ++ "+" ++ vm.key.text⟩

theorem vmInterfaceInfo_eq_ok {info : List MacInfo} (h : vmInterfaceInfo c vm = .ok info) :
    ∃ spec, vm.spec = some spec ∧
      info =
        (spec.interfaces.filter fun iface => iface.macAddress ≠ "").map (macInfo c vm spec) := by
  rcases hspec : vm.spec with _ | spec
  · simp [vmInterfaceInfo, hspec] at h
  simp only [vmInterfaceInfo, hspec] at h
  obtain ⟨networks, hnetworks, h⟩ := except_bind_eq_ok.1 h
  cases h
  exact ⟨spec, rfl, by simp only [vmCluster_eq_ok hnetworks]; rfl⟩

theorem mem_attachments {x : Attachment} :
    x ∈ attachments c vm ↔ x.clusterNetwork ≠ "" ∧ ∃ spec, vm.spec = some spec ∧
      ∃ iface ∈ spec.interfaces, iface.macAddress ≠ "" ∧
        ⟨spec.clusterNetwork c iface, iface.macAddress⟩ = x := by
  rcases hspec : vm.spec with _ | spec
  · simp [attachments, hspec]
  · simp [attachments, hspec, and_assoc, and_comm (b := x.clusterNetwork ≠ "")]

theorem mem_getVMInterfaceInfo {vms : List VM} {info : List MacInfo}
    (h : getVMInterfaceInfo c vms = .ok info) {entry : MacInfo} :
    entry ∈ info ↔ ∃ vm ∈ vms, ∃ spec, vm.spec = some spec ∧
      ∃ iface ∈ spec.interfaces, iface.macAddress ≠ "" ∧ macInfo c vm spec iface = entry := by
  induction vms generalizing info with
  | nil =>
    cases h
    simp
  | cons vm vms ih =>
    obtain ⟨vmInfo, hvm, h⟩ := except_bind_eq_ok.1 h
    obtain ⟨rest, hrest, h⟩ := except_bind_eq_ok.1 h
    cases h
    obtain ⟨spec, hspec, rfl⟩ := vmInterfaceInfo_eq_ok hvm
    simp [ih hrest, hspec, and_assoc]

/-- Every attachment of a VM is recorded, and the owner of its address is a VM that has it. -/
theorem ownerOf_attachment {vms : List VM} {info : List MacInfo}
    (h : getVMInterfaceInfo c vms = .ok info) (hvm : vm ∈ vms) {x : Attachment}
    (hx : x ∈ attachments c vm) :
    (∃ entry ∈ info, entry.clusterNetwork = x.clusterNetwork ∧ entry.mac = x.mac) ∧
      ∃ owner ∈ vms, x ∈ attachments c owner ∧
        ∃ name, ownerOf info x.clusterNetwork x.mac = some (name ++ "+" ++ owner.key.text) := by
  obtain ⟨hcn, spec, hspec, iface, hiface, hmac, rfl⟩ := mem_attachments.1 hx
  have hentry : macInfo c vm spec iface ∈ info :=
    (mem_getVMInterfaceInfo h).2 ⟨vm, hvm, spec, hspec, iface, hiface, hmac, rfl⟩
  have hsome : (info.reverse.find? fun e => e.clusterNetwork = spec.clusterNetwork c iface ∧
      e.mac = iface.macAddress).isSome := by
    rw [List.find?_isSome]
    exact ⟨_, List.mem_reverse.2 hentry, by simp [macInfo]⟩
  obtain ⟨last, hlast⟩ := Option.isSome_iff_exists.1 hsome
  obtain ⟨owner, howner, spec', hspec', iface', hiface', hmac', rfl⟩ :=
    (mem_getVMInterfaceInfo h).1 (List.mem_reverse.1 (List.mem_of_find?_eq_some hlast))
  have hfound := List.find?_some hlast
  have hsame := of_decide_eq_true hfound
  refine ⟨⟨_, hentry, rfl, rfl⟩, owner, howner, ?_, iface'.name, by rw [ownerOf, hlast]; rfl⟩
  exact mem_attachments.2 ⟨hcn, spec', hspec', iface', hiface', hmac', congrArg₂ _ hsame.1 hsame.2⟩

theorem key_of_owner_eq {a b : String} {k k' : Key} (hk : k.isValid = true)
    (hk' : k'.isValid = true) (h : a ++ "+" ++ k.text = b ++ "+" ++ k'.text) : k = k' := by
  have hchars : a.toList ++ '+' :: k.text.toList = b.toList ++ '+' :: k'.text.toList := by
    simpa using congrArg String.toList h
  have htext : k.text.toList = k'.text.toList := by
    rcases List.append_eq_append_iff.1 hchars with ⟨as, -, has⟩ | ⟨as, -, has⟩
    · rcases as with _ | ⟨c, as⟩
      · exact (List.cons.inj has).2
      · exact absurd ((List.cons.inj has).2 ▸ by simp) (Key.notMem_text hk)
    · rcases as with _ | ⟨c, as⟩
      · exact (List.cons.inj has).2.symm
      · exact absurd ((List.cons.inj has).2 ▸ by simp) (Key.notMem_text hk')
  exact Key.eq_of_text_eq hk (String.toList_inj.1 htext)

theorem mem_vmsByMac {caches : Caches} {other : VM} (hother : other ∈ caches.vms) {x y : Attachment}
    (hx : x ∈ attachments c vm) (hy : y ∈ attachments c other) (hmac : x.mac = y.mac) :
    other ∈ vmsByMac caches vm := by
  obtain ⟨-, spec, hspec, iface, hiface, -, rfl⟩ := mem_attachments.1 hx
  obtain ⟨-, spec', hspec', iface', hiface', hne, rfl⟩ := mem_attachments.1 hy
  refine List.mem_flatMap.2 ⟨iface, by simpa [hspec] using hiface, ?_⟩
  refine List.mem_filter.2 ⟨hother, ?_⟩
  have hindex : iface'.macAddress ∈ vmByMacaddrs other := by
    refine List.mem_map_of_mem (List.mem_filter.2 ⟨?_, by simpa using hne⟩)
    simpa [hspec'] using hiface'
  simpa [show iface.macAddress = iface'.macAddress from hmac] using hindex

/-- **A VM that passes the check has no MAC address of another VM, in the same spelling**, if those
of the stored VMs are unique: of several VMs with one address only the last is looked at. -/
theorem checkForDuplicateMacAddrs_eq_ok {caches : Caches}
    (h : checkForDuplicateMacAddrs c caches vm = .ok ()) (hunique : UniqueMacs c caches.vms)
    (hvalid : vm.key.isValid = true) {other : VM} (hother : other ∈ caches.vms)
    (hvalid' : other.key.isValid = true) (hne : other.key ≠ vm.key) {x y : Attachment}
    (hx : x ∈ attachments c vm) (hy : y ∈ attachments c other)
    (hcn : x.clusterNetwork = y.clusterNetwork) : x.mac ≠ y.mac := by
  intro hmac
  have hlooked := mem_vmsByMac hother hx hy hmac
  obtain ⟨newInfo, hnew, h⟩ := except_bind_eq_ok.1 h
  obtain ⟨⟨entry, hentry, hecn, hemac⟩, vm', hvm', -, newName, hnewOwner⟩ :=
    ownerOf_attachment (except_mapError_eq_ok.1 hnew) (List.mem_singleton_self vm) hx
  rw [List.mem_singleton.1 hvm'] at hnewOwner
  rw [if_neg (not_or.2 ⟨List.ne_nil_of_mem hentry, List.ne_nil_of_mem hlooked⟩)] at h
  obtain ⟨oldInfo, hold, h⟩ := except_bind_eq_ok.1 h
  -- The address is recorded for some stored VM, which can only be `other`.
  obtain ⟨-, owner, howner, hattached, oldName, holdOwner⟩ :=
    ownerOf_attachment (except_mapError_eq_ok.1 hold) hlooked hy
  have hkey : owner.key = other.key := by
    by_contra hkey
    obtain ⟨iface, -, hfilter⟩ := List.mem_flatMap.1 howner
    exact hunique.between owner (List.mem_of_mem_filter hfilter) other hother hkey y hattached y hy
      ⟨rfl, .inl rfl⟩
  have howners : oldName ++ "+" ++ owner.key.text ≠ newName ++ "+" ++ vm.key.text :=
    fun heq => hne (key_of_owner_eq hvalid' hvalid (hkey ▸ heq))
  have hduplicate : duplicate newInfo oldInfo entry = true := by
    rw [← hcn, ← hmac, ← hecn, ← hemac] at holdOwner
    rw [← hecn, ← hemac] at hnewOwner
    simp [duplicate, holdOwner, hnewOwner, howners]
  split at h
  next hfind => exact absurd hduplicate (by simpa using List.find?_eq_none.1 hfind entry hentry)
  next => cases h

end

section

variable {c : Cluster} {s s' : System}

/-- No address is used twice on a cluster network by the interfaces of the VM. -/
def DistinctMacs (c : Cluster) (vm : VM) : Prop :=
  (attachments c vm).Pairwise fun x y => ¬ x.Clash y

/-- An address of another VM on the same cluster network is written as it is there. -/
def KnownSpelling (c : Cluster) (vms : List VM) (vm : VM) : Prop :=
  ∀ other ∈ vms, other.key ≠ vm.key → ∀ x ∈ attachments c vm, ∀ y ∈ attachments c other,
    x.Clash y → x.mac = y.mac

/-- An update that leaves the interfaces as they are leaves them on their cluster networks. -/
def KeepsNetworks (c : Cluster) (r : Request) : Prop :=
  r.sameInterfaces = true → ∀ oldVM ∈ r.oldVM, attachments c r.vm = attachments c oldVM

/-- The condition on a request; the API server sees to the names. -/
def MacSafe (c : Cluster) (s : System) : Event → Prop
  | .request _ _ r => r.vm.key.isValid = true ∧ DistinctMacs c r.vm ∧
      KnownSpelling c s.caches.vms r.vm ∧ KeepsNetworks c r
  | .deleteVM _ => True
  | .createPVC _ => True

instance (c : Cluster) (s : System) : (l : Event) → Decidable (MacSafe c s l)
  | .request _ _ r =>
    have : Decidable (DistinctMacs c r.vm) := inferInstanceAs (Decidable (List.Pairwise _ _))
    have : Decidable (KnownSpelling c s.caches.vms r.vm) :=
      inferInstanceAs (Decidable (∀ other ∈ s.caches.vms, _))
    have : Decidable (KeepsNetworks c r) :=
      inferInstanceAs (Decidable (_ → ∀ oldVM ∈ r.oldVM, _))
    inferInstanceAs (Decidable (_ ∧ _ ∧ _ ∧ _))
  | .deleteVM _ => isTrue trivial
  | .createPVC _ => isTrue trivial

/-- What holds after every run: unique addresses and valid names. -/
structure MacInv (c : Cluster) (vms : List VM) : Prop where
  unique : UniqueMacs c vms
  valid : ∀ vm ∈ vms, vm.key.isValid = true

theorem MacInv.subset {vms vms' : List VM} (h : MacInv c vms) (hsub : vms' ⊆ vms) :
    MacInv c vms' where
  unique := ⟨fun vm hvm => h.unique.within vm (hsub hvm),
    fun a ha b hb => h.unique.between a (hsub ha) b (hsub hb)⟩
  valid vm hvm := h.valid vm (hsub hvm)

/-- Adding a VM whose addresses are distinct and not those of the others. -/
theorem MacInv.insert {vms vms' : List VM} {vm : VM} (h : MacInv c vms)
    (hmem : ∀ u ∈ vms', u = vm ∨ u ∈ vms ∧ u.key ≠ vm.key) (hvalid : vm.key.isValid = true)
    (hdistinct : DistinctMacs c vm)
    (hnew : ∀ other ∈ vms, other.key ≠ vm.key → ∀ x ∈ attachments c vm,
      ∀ y ∈ attachments c other, ¬ x.Clash y) : MacInv c vms' where
  unique := by
    refine ⟨fun u hu => ?_, fun a ha b hb hne x hx y hy hclash => ?_⟩
    · rcases hmem u hu with rfl | ⟨hu, -⟩
      · exact hdistinct
      · exact h.unique.within u hu
    · rcases hmem a ha with rfl | ⟨ha, hane⟩
      · rcases hmem b hb with rfl | ⟨hb, hbne⟩
        · exact hne rfl
        · exact hnew b hb hbne x hx y hy hclash
      · rcases hmem b hb with rfl | ⟨hb, -⟩
        · exact hnew a ha hane y hy x hx hclash.symm
        · exact h.unique.between a ha b hb hne x hx y hy hclash
  valid u hu := by
    rcases hmem u hu with rfl | ⟨hu, -⟩
    · exact hvalid
    · exact h.valid u hu

theorem not_clash_of_validate {rest : Rest} {user : String} {r : Request}
    (h : MacInv c s.caches.vms) (hvalidate : validate c s.caches rest user r = .ok ())
    (hmatches : s.matches r = true) (hvalid : r.vm.key.isValid = true)
    (hspelling : KnownSpelling c s.caches.vms r.vm) (hkeeps : KeepsNetworks c r) {other : VM}
    (hother : other ∈ s.caches.vms) (hne : other.key ≠ r.vm.key) {x y : Attachment}
    (hx : x ∈ attachments c r.vm) (hy : y ∈ attachments c other) : ¬ x.Clash y := by
  intro hclash
  by_cases hsame : r.sameInterfaces = true
  · cases r with
    | create vm => simp [Request.sameInterfaces, Request.oldVM] at hsame
    | update oldVM newVM =>
      rw [hkeeps hsame oldVM rfl] at hx
      simp only [System.matches, Bool.and_eq_true, decide_eq_true_eq] at hmatches
      obtain ⟨a, ha, hold⟩ := Option.map_eq_some_iff.1 hmatches.2
      have hmem : oldVM ∈ s.caches.vms := hold ▸ List.mem_map_of_mem (Store.mem_of_get ha)
      have hne' : oldVM.key ≠ other.key := fun heq => hne (heq.symm.trans hmatches.1)
      exact h.unique.between oldVM hmem other hother hne' x hx y hy hclash
  · have hcheck := checkForDuplicateMacAddrs_of_validate hvalidate (by simpa using hsame)
    exact checkForDuplicateMacAddrs_eq_ok hcheck h.unique hvalid hother (h.valid other hother) hne
      hx hy hclash.1 (hspelling other hother hne x hx y hy hclash)

theorem macInv_step {l : Event} (h : MacInv c s.caches.vms) (hsafe : MacSafe c s l)
    (hnext : (machine c).next s l = some s') : MacInv c s'.caches.vms := by
  cases l with
  | request rest user r =>
    obtain ⟨hvalid, hdistinct, hspelling, hkeeps⟩ := hsafe
    simp only [machine, next] at hnext
    split at hnext
    · cases hnext
    next hvalidate =>
    obtain ⟨hmatches, rfl⟩ := Machine.guarded_eq_some.1 hnext
    refine h.insert (fun u hu => ?_) hvalid hdistinct fun other hother hne x hx y hy =>
      not_clash_of_validate h hvalidate hmatches hvalid hspelling hkeeps hother hne hx hy
    obtain ⟨a, ha, rfl⟩ := List.mem_map.1 hu
    rcases Store.mem_put.1 ha with rfl | ⟨ha, hne⟩
    · exact .inl rfl
    · exact .inr ⟨List.mem_map_of_mem ha, hne⟩
  | deleteVM key =>
    cases hnext
    refine h.subset fun u hu => ?_
    obtain ⟨a, ha, rfl⟩ := List.mem_map.1 hu
    exact List.mem_map_of_mem (List.mem_of_mem_filter ha)
  | createPVC pvc =>
    simp only [machine, next, Machine.guarded_eq_some] at hnext
    obtain ⟨-, rfl⟩ := hnext
    exact h

/-- **Unique MAC addresses.**  After every safe run, no two interfaces on one cluster network have
the same hardware address. -/
theorem unique_macs {ls : List Event} (hsafe : (machine c).Along (MacSafe c) .init ls)
    (hrun : (machine c).run .init ls = some s) : UniqueMacs c s.caches.vms := by
  have hinit : MacInv c System.init.caches.vms := by
    rw [show System.init.caches.vms = [] from rfl]
    exact ⟨⟨by simp, by simp⟩, by simp⟩
  exact (Machine.run_invariant
    (fun s l s' h hG hnext => macInv_step h hG hnext) hinit hsafe hrun).unique

end

namespace MacSample

/-- Two NADs on two cluster networks. -/
def cluster : Cluster :=
  { BaseSample.cluster with
    nads key :=
      if key = ⟨"default", "net-a"⟩ then .ok (some "cn-a")
      else if key = ⟨"default", "net-b"⟩ then .ok (some "cn-b")
      else .error (.notFound key) }

/-- A VM with interfaces that have the given MAC addresses and NADs. -/
def vm (name : String) (macs : List (String × String × String)) : VM :=
  BaseSample.vm name ""
    { disks := []
      volumes := []
      interfaces := macs.map fun m => ⟨m.1, m.2.1, ""⟩
      networks := macs.map fun m => ⟨m.1, some m.2.2⟩ }

def create (vm : VM) : Event := .request BaseSample.rest "user" (.create vm)

def update (oldVM newVM : VM) : Event := .request BaseSample.rest "user" (.update oldVM newVM)

/-- In lower case. -/
def lower : String := "52:54:00:ab:cd:ef"

/-- The same address. -/
def upper : String := "52:54:00:AB:CD:EF"

/-- Two VMs with one address on two cluster networks, and a third one with another address. -/
def events : List Event :=
  [create (vm "a" [("nic", lower, "net-a")]), create (vm "b" [("nic", lower, "default/net-b")]),
    create (vm "c" [("nic", "52:54:00:ab:cd:00", "net-a")])]

end MacSample

open MacSample in
/-- The addresses of three VMs are unique. -/
theorem unique_macs_sample : ∃ s, (machine cluster).run .init events = some s ∧
    s.caches.vms.length = 3 ∧ UniqueMacs cluster s.caches.vms := by
  have hsafe : (machine cluster).Along (MacSafe cluster) .init events := by decide
  exact ⟨_, Machine.run_get (by decide), by decide,
    unique_macs hsafe (Machine.run_get _)⟩

open MacSample in
/-- **One hardware address on two interfaces of a cluster network**: in two spellings, on one VM,
and after an update of the networks. -/
theorem same_mac_in_two_spellings :
    (∃ s, (machine cluster).run .init [create (vm "a" [("nic", lower, "net-a")]),
      create (vm "b" [("nic", upper, "net-a")])] = some s ∧ ¬ UniqueMacs cluster s.caches.vms) ∧
    (∃ s, (machine cluster).run .init
      [create (vm "a" [("nic-0", lower, "net-a"), ("nic-1", lower, "net-a")])] = some s ∧
      ¬ UniqueMacs cluster s.caches.vms) ∧
    ∃ s, (machine cluster).run .init [create (vm "a" [("nic", lower, "net-a")]),
      create (vm "b" [("nic", lower, "net-b")]),
      update (vm "b" [("nic", lower, "net-b")]) (vm "b" [("nic", lower, "net-a")])] = some s ∧
      ¬ UniqueMacs cluster s.caches.vms := by
  decide

end Validator

end VirtualMachine

end Harvester
