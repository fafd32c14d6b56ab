import Harvester.Kube.Admission
import Harvester.Net.Addr

/-!
# The netmask of the management network

`checkNetworks` of `pkg/installer/console/validator.go` reads the subnet mask as an address;
`updateBridge` of `pkg/installer/config/cos.go` reads it as a mask and writes its length.  A mask
with a one after a zero gets the length `0` (`broken_mask`); `prefix_right_iff` says that no other
mask is written wrongly.
-/

namespace Harvester

namespace Installer

open Control Net

/-- An interface of the node. -/
structure NetworkInterface where
  name : String
  hwAddr : String

/-- The configuration of a network, without the options of bonds. -/
structure Network where
  interfaces : List NetworkInterface
  method : String
  ip : String
  subnetMask : String
  gateway : String
  defaultRoute : Bool
  mtu : Int
  vlanID : Int

/-- What the check finds out about the machine. -/
structure Interfaces where
  /-- An interface can be given by its hardware address. -/
  findNetworkInterfaceName : NetworkInterface → Except String String
  /-- The interfaces of the machine, and which of them are loopback interfaces. -/
  interfaces : Except String (List (String × Bool))

variable (r : AddrReader) (found : Interfaces)

/-- An error with the message when the condition holds. -/
def refuseIf (b : Bool) (message : String) : Except String Unit :=
  if b then .error message else .ok ()

@[simp] theorem refuseIf_eq_ok {b : Bool} {message : String} :
    refuseIf b message = .ok () ↔ b = false := by
  cases b <;> simp [refuseIf]

/-- The interface exists. -/
def checkInterface (iface : NetworkInterface) : Except String Unit := do
  let name ← found.findNetworkInterfaceName iface
  refuseIf (name = "") "no interface specified"
  match (← found.interfaces).find? (·.1 = name) with
  | some (_, loopback) => refuseIf loopback ("interface is a loopback interface: " ++ name)
  | none => throw ("interface not found: " ++ name)

/-- A field is given. -/
def checkStaticRequiredString (field value : String) : Except String Unit :=
  refuseIf (value = "") ("must specify " ++ field ++ " in static method")

/-- An address can be read. -/
def checkIP (addr : String) : Except String Unit :=
  refuseIf ((parseIP r addr.toList).bind to4).isNone (addr ++ " is not a valid IP address")

/-- The MTU is in range. -/
def checkMTU (mtu : Int) : Except String Unit :=
  refuseIf (mtu ≠ 0 ∧ (mtu < 576 ∨ 9000 < mtu)) (toString mtu ++ " is not a valid MTU value")

/-- The checks of the network. -/
def checkNetworks (network : Network) (dnsServers : List String) : Except String Unit := do
  refuseIf network.interfaces.isEmpty "no interface specified for management network"
  refuseIf (network.method ≠ "dhcp" ∧ network.method ≠ "static")
    "management network must configure with either static or DHCP method"
  refuseIf (network.method = "static" ∧ dnsServers.isEmpty)
    "DNS servers are required for static IP address"
  checkEach (checkInterface found) network.interfaces
  refuseIf (network.vlanID < 0 ∨ 4094 < network.vlanID) "VLAN ID should be a number 1 ~ 4094."
  if network.method ∈ ["dhcp", "none", ""] then .ok ()
  else if network.method = "static" then
    checkStaticRequiredString "ip" network.ip
    checkIP r network.ip
    checkStaticRequiredString "subnetMask" network.subnetMask
    checkIP r network.subnetMask
    checkStaticRequiredString "gateway" network.gateway
    checkIP r network.gateway
    checkMTU network.mtu
  else .error ("unknown network method: " ++ network.method)

/-- `IPMask.Size`: the number of ones, and zero when they are not all at the beginning. -/
def ones (m : BitVec 32) : Nat := ((List.range 33).find? fun n => m = mask 32 n).getD 0

/-- A text that is no IPv4 address is a mask without any octet. -/
def maskToCIDR (mask : String) : String :=
  if mask ≠ "" then toString (((parseIP r mask.toList).bind to4).elim 0 ones) else ""

/-- The data of a connection profile. -/
structure Profile where
  file : String
  name : String
  network : Network
  dnsServers : String
  ipv6Enabled : Bool

/-- The line `address1` of the profile. -/
def Profile.address1 (p : Profile) : Option String :=
  if p.network.method = "static" then
    some (p.network.ip ++ "/" ++ p.network.subnetMask ++ "," ++ p.network.gateway)
  else none

/-- The profiles that are written, the one of the bridge first. -/
def updateBridge (name : String) (network : Network) (dnsNameServers : List String)
    (ipv6Enabled : Bool) : List Profile :=
  let needVlanInterface : Bool := 2 ≤ network.vlanID ∧ network.vlanID ≤ 4094
  let cidr := { network with subnetMask := maskToCIDR r network.subnetMask }
  let servers := if dnsNameServers.isEmpty then "" else ";".intercalate dnsNameServers ++ ";"
  if needVlanInterface then
    [⟨"bridge-mgmt.nmconnection", "mgmt-br",
      { cidr with defaultRoute := false, method := "none" }, "",
        ipv6Enabled⟩,
      ⟨"vlan-mgmt.nmconnection", name, { cidr with defaultRoute := true }, servers, ipv6Enabled⟩]
  else
    [⟨"bridge-mgmt.nmconnection", "mgmt-br",
      { cidr with defaultRoute := true }, servers, ipv6Enabled⟩]

/-- No one stands after a zero. -/
def Contiguous (m : BitVec 32) : Prop :=
  ∀ j < 32, m.getMsbD j = true → ∀ i < j, m.getMsbD i = true

/-- The profiles have one address, and its prefix has the configured mask. -/
def PrefixRight (network : Network) (profiles : List Profile) : Prop :=
  ∃ n ≤ 32, parseIP r network.subnetMask.toList = some (mapped (mask 32 n)) ∧
    profiles.filterMap Profile.address1 =
      [network.ip ++ "/" ++ toString n ++ "," ++ network.gateway]

theorem contiguous_iff {m : BitVec 32} : Contiguous m ↔ ∃ n ≤ 32, m = mask 32 n := by
  constructor
  · intro h
    have hend : m.getMsbD 32 = false := BitVec.getMsbD_of_ge _ _ le_rfl
    have hzero : ∃ i, m.getMsbD i = false := ⟨32, hend⟩
    have hle := Nat.find_min' hzero hend
    refine ⟨Nat.find hzero, hle, BitVec.eq_of_getMsbD_eq fun i hi => ?_⟩
    rw [getMsbD_mask hle]
    by_cases hlt : i < Nat.find hzero
    · simpa [hlt] using Nat.find_min hzero hlt
    · rw [decide_eq_false hlt, Bool.eq_false_iff]
      intro hone
      -- The first zero would be before a one.
      have hfirst := Nat.find_spec hzero
      obtain heq | hlt := Nat.eq_or_lt_of_not_lt hlt
      · rw [← heq, hone] at hfirst
        cases hfirst
      · rw [h i hi hone _ hlt] at hfirst
        cases hfirst
  · rintro ⟨n, hn, rfl⟩ j _ hone i hi
    rw [getMsbD_mask hn, decide_eq_true_iff] at *
    exact hi.trans hone

theorem ones_mask : ∀ n ≤ 32, ones (mask 32 n) = n := by decide

variable {r found} {network : Network} {dnsServers dnsNameServers : List String}

theorem checkIP_eq_ok {addr : String} :
    checkIP r addr = .ok () ↔ ∃ a, parseIP r addr.toList = some (mapped a) :=
  refuseIf_eq_ok.trans parseIP_to4

theorem mask_of_checkNetworks (h : checkNetworks r found network dnsServers = .ok ())
    (hstatic : network.method = "static") :
    network.subnetMask ≠ "" ∧ ∃ m, parseIP r network.subnetMask.toList = some (mapped m) := by
  simp only [checkNetworks, hstatic, except_bind_unit_eq_ok] at h
  obtain ⟨-, -, -, -, -, h⟩ := h
  rw [if_neg (by decide), if_pos True.intro] at h
  simp only [except_bind_unit_eq_ok] at h
  obtain ⟨-, -, hset, hmask, -⟩ := h
  exact ⟨by simpa [checkStaticRequiredString] using hset, checkIP_eq_ok.1 hmask⟩

theorem address1_updateBridge (name : String) (ipv6Enabled : Bool)
    (hstatic : network.method = "static") :
    (updateBridge r name network dnsNameServers ipv6Enabled).filterMap Profile.address1 =
      [network.ip ++ "/" ++ maskToCIDR r network.subnetMask ++ "," ++ network.gateway] := by
  unfold updateBridge
  dsimp only
  split <;> simp [Profile.address1, hstatic]

/-- **The prefix has the configured mask exactly when no one stands after a zero in the mask.** -/
theorem prefix_right_iff (name : String) (ipv6Enabled : Bool)
    (h : checkNetworks r found network dnsServers = .ok ()) (hstatic : network.method = "static") :
    PrefixRight r network (updateBridge r name network dnsNameServers ipv6Enabled) ↔
      ∀ m, parseIP r network.subnetMask.toList = some (mapped m) → Contiguous m := by
  obtain ⟨hset, m, hm⟩ := mask_of_checkNetworks h hstatic
  constructor
  · rintro ⟨n, hn, hmask, -⟩ m' hm'
    have heq := mapped_injective (Option.some.inj (hm'.symm.trans hmask))
    exact contiguous_iff.2 ⟨n, hn, heq⟩
  · intro hcontiguous
    obtain ⟨n, hn, rfl⟩ := contiguous_iff.1 (hcontiguous m hm)
    refine ⟨n, hn, hm, ?_⟩
    rw [address1_updateBridge name ipv6Enabled hstatic, maskToCIDR, if_pos hset, hm,
      Option.bind_some, to4_mapped, Option.elim_some, ones_mask n hn]

namespace NetmaskSample

def texts : AddrReader := .ofTable
  [("10.0.0.1", .v4 0x0a000001#32), ("10.0.0.2", .v4 0x0a000002#32),
    ("255.255.252.0", .v4 0xfffffc00#32), ("255.0.255.0", .v4 0xff00ff00#32)] (by decide +kernel)

def machine : Interfaces := ⟨fun iface => .ok iface.name, .ok [("lo", true), ("eth0", false)]⟩

/-- A node with one interface. -/
def static (subnetMask : String) : Network :=
  ⟨[⟨"eth0", ""⟩], "static", "10.0.0.2", subnetMask, "10.0.0.1", false, 0, 0⟩

end NetmaskSample

open NetmaskSample in
theorem prefix_right_iff_contiguous :
    checkNetworks texts machine (static "255.255.252.0") ["10.0.0.1"] = .ok () ∧
      PrefixRight texts (static "255.255.252.0")
        (updateBridge texts "mgmt-br" (static "255.255.252.0") ["10.0.0.1"] false) := by
  have h : checkNetworks texts machine (static "255.255.252.0") ["10.0.0.1"] = .ok () := by decide
  refine ⟨h, (prefix_right_iff _ _ h rfl).2 fun m hm => ?_⟩
  have hread : parseIP texts "255.255.252.0".toList = some (mapped 0xfffffc00#32) := by decide
  cases mapped_injective (Option.some.inj (hread.symm.trans hm))
  exact contiguous_iff.2 ⟨22, by decide, by decide⟩

open NetmaskSample in
/-- The mask `255.0.255.0` is accepted and gets the length 0. -/
theorem broken_mask :
    checkNetworks texts machine (static "255.0.255.0") ["10.0.0.1"] = .ok () ∧
      (updateBridge texts "mgmt-br" (static "255.0.255.0") ["10.0.0.1"] false).filterMap
        Profile.address1 = ["10.0.0.2/0,10.0.0.1"] ∧
      ¬ PrefixRight texts (static "255.0.255.0")
        (updateBridge texts "mgmt-br" (static "255.0.255.0") ["10.0.0.1"] false) := by
  refine ⟨by decide, by decide, ?_⟩
  rintro ⟨n, hn, hmask, -⟩
  have hread : parseIP texts "255.0.255.0".toList = some (mapped 0xff00ff00#32) := by decide
  have heq := mapped_injective (Option.some.inj (hread.symm.trans hmask))
  have hcontiguous := contiguous_iff.2 ⟨n, hn, heq⟩ 16 (by decide) (by decide) 8 (by decide)
  exact absurd hcontiguous (by decide)

end Installer

end Harvester
