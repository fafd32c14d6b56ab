import Harvester.Control.Action
import Harvester.Setting.PrefixCover

/-!
# Address ranges of network settings

The settings `storage-network`, `vm-migration-network` and `rwx-network` name a range of IPv4
addresses with excludes and, on clusters with two families, a window of IPv6 addresses.  Here are
the checks of a setting (`validateNetworkHelper` of `pkg/webhook/resources/setting/validator.go`)
and the enumeration of the addresses that it leaves (`GetUsableIPAddresses` of
`pkg/webhook/util/ip.go`).

`mem_usableIPAddresses`: neither the first nor the last address of the range is enumerated, nor
those of an exclude from the address on with which it is written.
-/

namespace Harvester

namespace NetworkSetting

open Control Net PrefixCover

/-- The value of a setting. -/
structure Config where
  clusterNetwork : String
  vlan : Nat
  exclusiveVlan : Bool
  range : String
  exclude : List String
  rangeV6 : String
  rangeV6Start : String
  rangeV6End : String
  deriving DecidableEq, Repr

/-- Why a setting is refused. -/
inductive Failure where
  /-- `net.ParseCIDR` fails. -/
  | invalidCIDR (text : String)
  /-- `netip.ParsePrefix` fails. -/
  | invalidPrefix (text : String)
  /-- `netip.ParseAddr` fails, for a field. -/
  | invalidAddr (field text : String)
  /-- `%s: the network configuration is overlapped with %s`. -/
  | overlapped (name other : String)
  | message (text : String)
  /-- The loop does not end. -/
  | neverReturns
  /-- An index is out of range. -/
  | panics
  deriving DecidableEq, Repr

/-- `if bad { return fmt.Errorf(…) }`. -/
def refuse (bad : Bool) (text : String) : Except Failure Unit :=
  if bad then .error (.message text) else .ok ()

@[simp] theorem refuse_eq_ok {bad : Bool} {text : String} :
    refuse bad text = .ok () ↔ bad = false := by
  cases bad <;> simp [refuse]

/-! ### Enumeration -/

/-- Add one, from the last octet on. -/
def incrementOctets : List (BitVec 8) → List (BitVec 8)
  | [] => []
  | x :: rest => if x + 1#8 ≠ 0#8 then (x + 1#8) :: rest else (x + 1#8) :: incrementOctets rest

/-- The next address. -/
def incrementIP (ip : IP) : IP := ofOctets 16 (incrementOctets (octets 16 ip).reverse).reverse

/-- `getLastAddress`: `ip | ^mask`. -/
def getLastAddress : Prefix → IP
  | .v4 p => mapped (p.masked.addr ||| ~~~mask 32 p.bits)
  | .v6 p => p.masked.addr ||| ~~~mask 128 p.bits

section

variable (r : AddrReader) (network : Prefix) (cluster : Cluster) (range : String) (c : Config)

/-- The network address, and the broadcast address of IPv4, are left out of a range. -/
def skipped (ip : IP) : Bool :=
  ip = network.first16 || ((to4 network.first16).isSome && ip = getLastAddress network)

/-- One round of the loop. -/
def visit (isInclude : Bool) (ip : IP) (rest : List IP) : List IP :=
  if isInclude && skipped network ip then rest else ip :: rest

/-- The loop over the addresses of a network.  After `2 ^ 128` rounds it goes on for ever. -/
def addressesFrom (network : Prefix) (isInclude : Bool) : Nat → IP → Except Failure (List IP)
  | 0, _ => .error .neverReturns
  | rounds + 1, ip =>
    if network.contains16 ip then
      (addressesFrom network isInclude rounds (incrementIP ip)).map (visit network isInclude ip)
    else .ok []

/-- One round more than there are addresses. -/
def allRounds : Nat := 340282366920938463463374607431768211457

/-- The keys of the map: `String` writes different addresses differently. -/
def getIPAddressesFromSubnet (r : AddrReader) (isInclude : Bool) :
    List String → Except Failure (List IP)
  | [] => .ok []
  | subnet :: subnets =>
    match r.cidrPrefix subnet with
    | none => .error (.invalidCIDR subnet)
    | some p => do
      let ips ← addressesFrom p isInclude allRounds p.addr.as16
      let rest ← getIPAddressesFromSubnet r isInclude subnets
      return ips ++ rest

/-- The addresses to use. -/
def getUsableIPAddresses (exclude : List String) : Except Failure (List IP) := do
  let includes ← getIPAddressesFromSubnet r true [range]
  let excludes ← getIPAddressesFromSubnet r false exclude
  return includes.filter (· ∉ excludes)

/-! ### Counting -/

/-- The largest `int64`. -/
def maxInt : Int := 9223372036854775807

/-- The sum of two integers of 64 bits. -/
def addInt (a b : Int) : Int := (a + b).bmod 18446744073709551616

/-- How many there are. -/
def getUsableIPAddressesCount (exclude : List String) : Except Failure Int := do
  let ips ← getUsableIPAddresses r range exclude
  return ips.length

/-- An address of a field. -/
def parseAddr (r : AddrReader) (field text : String) : Except Failure Addr :=
  match r.parseAddr text.toList with
  | none => .error (.invalidAddr field text)
  | some a => .ok a

/-- The size of the window. -/
def ipv6RangeCount (startText endText : String) : Except Failure Int := do
  let start ← parseAddr r "rangeV6Start" startText
  let last ← parseAddr r "rangeV6End" endText
  refuse (!start.le last)
    ("rangeV6Start " ++ startText ++ " must not be after rangeV6End " ++ endText)
  let diff : Int := (last.as16.toNat : Int) - start.as16.toNat + 1
  return if maxInt < diff then maxInt else diff

/-- The count of both families. -/
def getUsableIPAddressesCountDualStack : Except Failure Int := do
  let v4 ← if c.range ≠ "" then getUsableIPAddressesCount r c.range c.exclude else pure 0
  let v6 ← if c.rangeV6Start ≠ "" ∧ c.rangeV6End ≠ "" then
      ipv6RangeCount r c.rangeV6Start c.rangeV6End
    else pure 0
  return addInt v4 v6

/-- The count of a setting. -/
def countUsable : Except Failure Int :=
  if c.rangeV6 ≠ "" then getUsableIPAddressesCountDualStack r c
  else getUsableIPAddressesCount r c.range c.exclude

/-! ### The checks of a setting -/

/-- The settings. -/
inductive SettingName where
  | storageNetwork
  | vmMigrationNetwork
  | rwxNetwork
  deriving DecidableEq, Repr

/-- The name of a setting. -/
def SettingName.text : SettingName → String
  | .storageNetwork => "storage-network"
  | .vmMigrationNetwork => "vm-migration-network"
  | .rwxNetwork => "rwx-network"

/-- What the checks find out about the cluster. -/
structure Cluster where
  isClusterDualStack : Except Failure Bool
  checkVlanStatusReady : Config → Except Failure Unit
  checkVCSpansAllNodes : Config → Except Failure Unit
  checkExclusiveVlan : Config → Except Failure Unit
  /-- The numbers of disks of the Longhorn nodes. -/
  lhNodeDisks : Except Failure (List Nat)
  isShareStorageNetwork : Except Failure Bool
  countNonWitnessNodes : Except Failure Nat

/-- The management network. -/
def mgmtClusterNetwork : String := "mgmt"

/-- The shortest prefix. -/
def minSNPrefixLength : Nat := 16

/-- The addresses kept for RWX volumes. -/
def rwxExtraIPs : Nat := 32

/-- The VLAN ID is valid. -/
def checkNetworkVlanValid : Except Failure Unit :=
  if 4094 < c.vlan then
    .error (.message "the valid value range for VLAN IDs is 0 to 4094")
  else if c.vlan ≤ 1 ∧ c.clusterNetwork = mgmtClusterNetwork then
    .error (.message ("network with vlan id " ++ toString c.vlan ++ " not allowed on " ++
      c.clusterNetwork ++ " cluster"))
  else .ok ()

/-- Two prefixes overlap. -/
def isOverlap (ip1 ip2 : String) : Except Failure Bool :=
  if ip1 = "" ∨ ip2 = "" then .ok false
  else
    match r.parsePrefix ip1 with
    | none => .error (.invalidPrefix ip1)
    | some p1 =>
      match r.parsePrefix ip2 with
      | none => .error (.invalidPrefix ip2)
      | some p2 => .ok (p1.overlaps p2)

/-- The loop of `validateIncludeExcludeRanges`; `previous` is the exclude before. -/
def validateExcludes (r : AddrReader) (range : String) (includePrefixLen : Nat)
    (previous : String) :
    List String → Except Failure Unit
  | [] => .ok ()
  | exclude :: excludes =>
    match r.cidrPrefix exclude with
    | none => .error (.invalidCIDR exclude)
    | some p => do
      refuse (p.bits < minSNPrefixLength)
        ("min supported prefix length for network is 16, exclude Range PrefixLen " ++ "received " ++
          toString p.bits)
      let overlap ← isOverlap r range exclude
      refuse (!overlap) ("exclude range " ++ exclude ++ " do not overlap include range " ++ range)
      refuse (p.bits ≤ includePrefixLen)
        ("exclude Range " ++ exclude ++ " includes include Range " ++ range ++
          ", no allocatable ip addresses")
      let overlap ← isOverlap r exclude previous
      refuse overlap ("exclude ranges have overlapping subnets " ++ exclude ++ " " ++ previous)
      validateExcludes r range includePrefixLen exclude excludes

/-- The excludes are valid. -/
def validateIncludeExcludeRanges (includePrefixLen : Nat) : Except Failure Unit :=
  validateExcludes r c.range includePrefixLen "" c.exclude

/-- The range is valid. -/
def checkNetworkRangeValid : Except Failure Unit :=
  match r.cidrPrefix c.range with
  | none => .error (.invalidCIDR c.range)
  | some p => do
    refuse (p.addr.as16 ≠ p.first16) "range should be subnet CIDR"
    refuse (to4 p.first16 = none)
      "range must be an IPv4 CIDR; use rangeV6 for dual-stack IPv6 (IPv4 Family First)"
    refuse (p.bits < minSNPrefixLength)
      ("min supported prefix length for network is 16, include Range PrefixLen " ++ "received " ++
        toString p.bits)
    validateIncludeExcludeRanges r c p.bits

/-- The window is valid. -/
def checkNetworkRangeValidV6 : Except Failure Unit := do
  refuse (c.range = "")
    "IPv6-only is not supported; a primary IPv4 range is required (IPv4 Family First)"
  match r.cidrPrefix c.rangeV6 with
  | none => throw (.invalidCIDR c.rangeV6)
  | some network =>
    refuse (network.addr.as16 ≠ network.first16) "rangeV6 must be a subnet CIDR, got host address"
    refuse (to4 network.first16 ≠ none) "rangeV6 must be an IPv6 CIDR"
    refuse (c.rangeV6Start = "" ∨ c.rangeV6End = "")
      ("rangeV6Start and rangeV6End are required alongside rangeV6: name one " ++
        "contiguous allocatable window")
    match r.parsePrefix c.rangeV6 with
    | none => throw (.invalidPrefix c.rangeV6)
    | some p =>
      let start ← parseAddr r "rangeV6Start" c.rangeV6Start
      let last ← parseAddr r "rangeV6End" c.rangeV6End
      refuse (!p.masked.contains start)
        ("rangeV6Start " ++ c.rangeV6Start ++ " is not within rangeV6 " ++ c.rangeV6)
      refuse (!p.masked.contains last)
        ("rangeV6End " ++ c.rangeV6End ++ " is not within rangeV6 " ++ c.rangeV6)
      refuse (!start.le last)
        ("rangeV6Start " ++ c.rangeV6Start ++ " must not be after rangeV6End " ++ c.rangeV6End)

/-- The number of addresses that a setting needs, and how it is made up. -/
def requiredAddresses : SettingName → Except Failure (Nat × String)
  | .storageNetwork => do
    let disks ← cluster.lhNodeDisks
    let shared ← cluster.isShareStorageNetwork
    let minimum := (disks.map fun n => 2 + n * 2).sum
    if shared then
      let nodes ← cluster.countNonWitnessNodes
      return (minimum + nodes + rwxExtraIPs, "")
    else return (minimum, "")
  | .vmMigrationNetwork => do
    let nodes ← cluster.countNonWitnessNodes
    return (nodes, "")
  | .rwxNetwork => do
    let nodes ← cluster.countNonWitnessNodes
    return (nodes + rwxExtraIPs, " (nodes: " ++ toString nodes ++ " + 32 extra)")

/-- `checkStorageNetworkRangeValid`, `checkVMMigrationNetworkRangeValid` and
`checkRWXNetworkRangeValid`. -/
def checkEnoughAddresses (name : SettingName) (c : Config) : Except Failure Unit := do
  let (required, how) ← requiredAddresses cluster name
  let count ← countUsable r c
  refuse (count < required)
    ("allocatable IP address range is < " ++ toString required ++ how ++
      ", allocate sufficient range")

/-- IPv6 is only for clusters that have been installed with both families. -/
def checkDualStack : Except Failure Unit := do
  let dualStack ← cluster.isClusterDualStack
  refuse (!dualStack)
    ("rangeV6 is not supported: this cluster was not installed with dual-stack (IPv4+IPv6) " ++
      "networking")

/-- `validateNetworkHelper`, for a value that has been read. -/
def validateNetworkHelper (name : SettingName) (c : Config) : Except Failure Unit := do
  refuse (c.rangeV6 ≠ "" ∧ c.range = "")
    "IPv6-only is not supported; a primary IPv4 range is required (IPv4 Family First)"
  (if c.rangeV6 ≠ "" then checkDualStack cluster else .ok ())
  checkNetworkVlanValid c
  checkNetworkRangeValid r c
  cluster.checkVlanStatusReady c
  cluster.checkVCSpansAllNodes c
  (if c.rangeV6 ≠ "" then checkNetworkRangeValidV6 r c else .ok ())
  (if name = .storageNetwork then cluster.checkExclusiveVlan c else .ok ())
  checkEnoughAddresses r cluster name c

end

/-! ### Accepted settings -/

variable {r : AddrReader} {c : Config} {p : Prefix} {b : Block 32}

/-- What the checks make sure of an exclude. -/
structure ValidExclude (r : AddrReader) (range : Prefix) (exclude : String)
    (p : Prefix) : Prop where
  read : r.parsePrefix exclude = some p
  overlaps : range.overlaps p = true
  longer : range.bits < p.bits

/-- The range is an IPv4 network without bits for a host. -/
structure MaskedRange (r : AddrReader) (c : Config) (p : Prefix) : Prop where
  read : r.cidrPrefix c.range = some p
  masked : p.addr.as16 = p.first16
  isIPv4 : to4 p.first16 ≠ none

/-- What the checks make sure of the range. -/
structure ValidRange (r : AddrReader) (c : Config) (p : Prefix) : Prop extends
    MaskedRange r c p where
  long : minSNPrefixLength ≤ p.bits
  excludes : ∀ exclude ∈ c.exclude, ∃ q, r.parsePrefix c.range = some p ∧
    ValidExclude r p exclude q
  /-- The check of each exclude against the one before. -/
  neighbours : c.exclude.IsChain fun e e' => isOverlap r e' e = .ok false

theorem isOverlap_eq_ok {ip1 ip2 : String} (h : isOverlap r ip1 ip2 = .ok true) :
    ∃ p1 p2, r.parsePrefix ip1 = some p1 ∧ r.parsePrefix ip2 = some p2 ∧ p1.overlaps p2 = true := by
  unfold isOverlap at h
  split at h
  · cases h
  split at h
  · cases h
  next p1 hp1 =>
  split at h
  · cases h
  · next p2 hp2 => exact ⟨p1, p2, hp1, hp2, by simpa using h⟩

theorem validateExcludes_eq_ok {range : String} {n : Nat} {previous : String}
    {excludes : List String} (h : validateExcludes r range n previous excludes = .ok ()) :
    (∀ exclude ∈ excludes, ∃ p q, r.parsePrefix range = some p ∧ r.parsePrefix exclude = some q ∧
      p.overlaps q = true ∧ n < q.bits) ∧
    (previous :: excludes).IsChain fun e e' => isOverlap r e' e = .ok false := by
  induction excludes generalizing previous with
  | nil => simp
  | cons exclude excludes ih =>
    unfold validateExcludes at h
    split at h
    · cases h
    next q hq =>
    rw [except_bind_unit_eq_ok, except_bind_eq_ok] at h
    obtain ⟨-, overlap, hoverlap, h⟩ := h
    rw [except_bind_unit_eq_ok, except_bind_unit_eq_ok, except_bind_eq_ok] at h
    obtain ⟨hfirst, hlonger, overlap', hprevious, h⟩ := h
    rw [except_bind_unit_eq_ok] at h
    obtain ⟨hrest, hchain⟩ := ih h.2
    have hapart : overlap' = false := by simpa using h.1
    have hfirst : overlap = true := by simpa using hfirst
    obtain ⟨p, q', hp, hq', hpq⟩ := isOverlap_eq_ok (hfirst ▸ hoverlap)
    have hsame : q = q' :=
      Option.some.inj (hq.symm.trans (AddrReader.cidrPrefix_of_parsePrefix hq'))
    refine ⟨fun e he => ?_, .cons_cons (hapart ▸ hprevious) hchain⟩
    rcases List.mem_cons.1 he with rfl | he
    · exact ⟨p, q', hp, hq', hpq, by simpa [hsame] using hlonger⟩
    · exact hrest e he

theorem checkNetworkRangeValid_eq_ok (h : checkNetworkRangeValid r c = .ok ()) :
    ∃ p, ValidRange r c p := by
  unfold checkNetworkRangeValid at h
  split at h
  · cases h
  next p hp =>
  rw [except_bind_unit_eq_ok, except_bind_unit_eq_ok, except_bind_unit_eq_ok] at h
  obtain ⟨hmasked, hipv4, hlong, hexcludes⟩ := h
  obtain ⟨hinside, hchain⟩ := validateExcludes_eq_ok hexcludes
  refine ⟨p, ⟨hp, by simpa using hmasked, by simpa using hipv4⟩, by simpa using hlong,
    fun exclude hmem => ?_, hchain.of_cons⟩
  obtain ⟨p', q, hp', hq, hoverlaps, hlonger⟩ := hinside exclude hmem
  obtain rfl : p = p' :=
    Option.some.inj (hp.symm.trans (AddrReader.cidrPrefix_of_parsePrefix hp'))
  exact ⟨q, hp', hq, hoverlaps, hlonger⟩

/-- What the checks make sure of the IPv6 window. -/
structure ValidWindow (r : AddrReader) (c : Config) (first last : BitVec 128) : Prop where
  start : r.parseAddr c.rangeV6Start.toList = some (.v6 first "")
  finish : r.parseAddr c.rangeV6End.toList = some (.v6 last "")
  ordered : first.toNat ≤ last.toNat
  given : c.rangeV6Start ≠ "" ∧ c.rangeV6End ≠ ""

theorem parseAddr_eq_ok {field text : String} {a : Addr} :
    parseAddr r field text = .ok a ↔ r.parseAddr text.toList = some a := by
  unfold parseAddr
  split <;> simp [*]

theorem checkNetworkRangeValidV6_eq_ok (h : checkNetworkRangeValidV6 r c = .ok ()) :
    ∃ first last, ValidWindow r c first last := by
  obtain ⟨-, h⟩ := except_bind_unit_eq_ok.1 h
  split at h
  · cases h
  next network hnetwork =>
  rw [except_bind_unit_eq_ok, except_bind_unit_eq_ok, except_bind_unit_eq_ok] at h
  obtain ⟨-, hipv6, hgiven, h⟩ := h
  split at h
  · cases h
  next p hp =>
  obtain rfl : network = p :=
    Option.some.inj (hnetwork.symm.trans (AddrReader.cidrPrefix_of_parsePrefix hp))
  obtain ⟨start, hstart, h⟩ := except_bind_eq_ok.1 h
  obtain ⟨finish, hfinish, h⟩ := except_bind_eq_ok.1 h
  rw [except_bind_unit_eq_ok, except_bind_unit_eq_ok] at h
  obtain ⟨hin, hin', hle⟩ := h
  simp only [refuse_eq_ok, Bool.not_eq_false', decide_eq_false_iff_not, not_or]
    at hipv6 hgiven hin hin' hle
  cases network with
  | v4 q => simp [Prefix.first16, Prefix.masked, Prefix.addr, Addr.as16, to4_mapped] at hipv6
  | v6 q =>
    cases start with
    | v4 a => cases hin
    | v6 a zone =>
      cases finish with
      | v4 b => cases hin'
      | v6 b zone' =>
        simp only [Prefix.masked, Prefix.contains, Bool.and_eq_true, decide_eq_true_iff]
          at hin hin'
        obtain ⟨rfl, -⟩ := hin
        obtain ⟨rfl, -⟩ := hin'
        refine ⟨a, b, parseAddr_eq_ok.1 hstart, parseAddr_eq_ok.1 hfinish, ?_, hgiven⟩
        simp only [Addr.le, Addr.bitLen, Addr.toNat, decide_eq_true_iff] at hle
        omega

theorem validateNetworkHelper_eq_ok {cluster : Cluster} {name : SettingName}
    (h : validateNetworkHelper r cluster name c = .ok ()) :
    (∃ p, ValidRange r c p) ∧ (c.rangeV6 ≠ "" → ∃ first last, ValidWindow r c first last) := by
  unfold validateNetworkHelper at h
  simp only [except_bind_unit_eq_ok] at h
  obtain ⟨-, -, -, hrange, -, -, hwindow, -⟩ := h
  refine ⟨checkNetworkRangeValid_eq_ok hrange, fun hv6 => ?_⟩
  rw [if_pos hv6] at hwindow
  exact checkNetworkRangeValidV6_eq_ok hwindow

/-! ### The networks behind the texts -/

theorem exists_network4 (h : to4 p.first16 ≠ none) : ∃ b, p.network4 = some b := by
  cases p with
  | v4 q => exact ⟨q, rfl⟩
  | v6 q =>
    obtain ⟨a, ha⟩ := Option.ne_none_iff_exists'.1 h
    have hmapped : q.masked.addr = mapped a := to4_eq_some.1 ha
    have hbits : 96 ≤ q.bits := by
      by_contra hlt
      have hbit := Block.masked_of_masked q 95 (by rw [Block.masked_bits]; omega)
      rw [hmapped, getMsbD_mapped, if_neg (by decide)] at hbit
      exact absurd hbit (by decide)
    have hagree : Agree q.bits q.masked.addr q.addr := agree_and_mask q.le
    rw [hmapped] at hagree
    obtain ⟨b, hb⟩ := eq_mapped_of_agree (hagree.symm.mono hbits)
    exact ⟨_, by simp only [Prefix.network4, hb, to4_mapped, if_pos hbits]; rfl⟩

theorem MaskedRange.network4 (h : MaskedRange r c p) : ∃ b, p.network4 = some b ∧ b.masked = b := by
  obtain ⟨b, hb⟩ := exists_network4 h.isIPv4
  refine ⟨b, hb, Block.ext (mapped_injective (.symm ?_)) rfl⟩
  have hmasked := h.masked
  cases p with
  | v4 q =>
    cases hb
    exact hmasked
  | v6 q =>
    obtain ⟨haddr, hbits⟩ := Prefix.network4_v6 hb
    rw [← masked_mapped haddr hbits, ← haddr]
    exact hmasked

theorem ValidExclude.network4 {p q : Prefix} {exclude : String}
    (h : ValidExclude r p exclude q) (hb : p.network4 = some b) :
    ∃ e, q.network4 = some e ∧ b.overlaps e = true ∧ b.bits < e.bits := by
  have hoverlaps := h.overlaps
  have hlonger : p.bits < q.bits := h.longer
  cases p with
  | v4 p =>
    cases hb
    cases q with
    | v4 q => exact ⟨q, rfl, hoverlaps, hlonger⟩
    | v6 q => cases hoverlaps
  | v6 p =>
    cases q with
    | v4 q => cases hoverlaps
    | v6 q =>
      obtain ⟨haddr, hbits⟩ := Prefix.network4_v6 hb
      simp only [Prefix.bits] at hlonger
      have hagree := Block.overlaps_iff.1 hoverlaps
      rw [haddr, Nat.min_eq_left (Nat.le_of_lt hlonger), hbits] at hagree
      obtain ⟨a, ha⟩ := eq_mapped_of_agree (hagree.symm.mono (by omega))
      have hle := q.le
      refine ⟨⟨a, q.bits - 96, by omega⟩, ?_, Block.overlaps_iff.2 ?_, by dsimp only; omega⟩
      · simp [Prefix.network4, ha, to4_mapped, if_pos (show 96 ≤ q.bits by omega)]
      · rw [ha, agree_mapped] at hagree
        exact hagree.mono (Nat.min_le_left _ _)

/-! ### The loop over the addresses -/

theorem value_incrementOctets (l : List (BitVec 8)) :
    value (incrementOctets l) % 256 ^ l.length = (value l + 1) % 256 ^ l.length := by
  induction l with
  | nil => simp [Nat.mod_one]
  | cons x l ih =>
    have hsucc : (x + 1#8).toNat = (x.toNat + 1) % 256 := by simp
    rw [incrementOctets]
    split
    · next hne =>
      have hlt : x.toNat + 1 < 256 := by
        by_contra hge
        exact hne (BitVec.eq_of_toNat_eq (by rw [hsucc]; simp; omega))
      rw [value, value, hsucc, Nat.mod_eq_of_lt hlt, Nat.add_assoc]
    · next heq =>
      have heq : x + 1#8 = 0#8 := by simpa using heq
      have hlast : x.toNat = 255 := by
        have h0 := congrArg BitVec.toNat heq
        simp at h0
        omega
      rw [value, value, heq, hlast, List.length_cons, Nat.pow_succ',
        show 256 * value l + 255 + 1 = 256 * (value l + 1) by omega]
      simp [Nat.mul_mod_mul_left, ih]

theorem incrementIP_eq (ip : IP) : incrementIP ip = ip + 1#128 := by
  have h := value_incrementOctets (octets 16 ip).reverse
  rw [value_octets, List.length_reverse, length_octets] at h
  refine BitVec.eq_of_toNat_eq ?_
  rw [incrementIP, ofOctets, List.reverse_reverse, BitVec.toNat_ofNat]
  exact h

theorem contains16_mapped (h : p.network4 = some b) {a : BitVec 32} :
    p.contains16 (mapped a) = true ↔ b.contains a = true := by
  rw [Prefix.contains16_of_network4 h]
  exact ⟨fun ⟨x, hx, hc⟩ => mapped_injective hx ▸ hc, fun hc => ⟨a, rfl, hc⟩⟩

theorem not_contains16_mapped (h : p.network4 = none) (a : BitVec 32) :
    p.contains16 (mapped a) = false := by
  cases p with
  | v4 q => cases h
  | v6 q =>
    have hfirst : to4 q.masked.addr = none := by
      by_contra hsome
      obtain ⟨b, hb⟩ := exists_network4 (p := .v6 q) hsome
      rw [h] at hb
      cases hb
    simp only [Prefix.contains16, hfirst, to4_mapped]

/-- The list has the addresses of a network from `ip` on, `n` in number. -/
def visited (p : Prefix) (isInclude : Bool) (ip : IP) (n : Nat) : List IP :=
  ((List.range n).map fun k => ip + BitVec.ofNat 128 k).filter fun ip =>
    !(isInclude && skipped p ip)

/-- **The loop runs up to the first address that is not in the network.** -/
theorem addressesFrom_eq (isInclude : Bool) {n rounds : Nat} {ip : IP}
    (hin : ∀ k < n, p.contains16 (ip + BitVec.ofNat 128 k) = true)
    (hout : p.contains16 (ip + BitVec.ofNat 128 n) = false) (hrounds : n < rounds) :
    addressesFrom p isInclude rounds ip = .ok (visited p isInclude ip n) := by
  obtain ⟨rounds, rfl⟩ : ∃ k, rounds = k + 1 := ⟨rounds - 1, by omega⟩
  induction n generalizing ip rounds with
  | zero =>
    rw [BitVec.add_zero] at hout
    rw [addressesFrom, hout]
    rfl
  | succ n ih =>
    have hnext : ∀ k, ip + 1#128 + BitVec.ofNat 128 k = ip + BitVec.ofNat 128 (k + 1) := fun k => by
      rw [BitVec.add_assoc, ← BitVec.ofNat_add, Nat.add_comm]
    have hhere : p.contains16 ip = true := by simpa using hin 0 n.succ_pos
    obtain ⟨rounds, rfl⟩ : ∃ k, rounds = k + 1 := ⟨rounds - 1, by omega⟩
    rw [addressesFrom, if_pos hhere, incrementIP_eq,
      ih (fun k hk => hnext k ▸ hin (k + 1) (by omega)) (hnext n ▸ hout) rounds (by omega)]
    simp only [visited, List.range_succ_eq_map, List.map_cons, List.map_map, Function.comp_def,
      hnext, Except.map, visit, List.filter_cons, BitVec.add_zero, Bool.not_eq_true',
      ← Bool.not_eq_true, ite_not]

theorem as16_of_network4 (h : p.network4 = some b) : p.addr.as16 = mapped b.addr := by
  cases p with
  | v4 q => cases h; rfl
  | v6 q => exact (Prefix.network4_v6 h).1

theorem mapped_add_eq {a x : BitVec 32} {k : Nat} (hk : k ≤ 2 ^ 32) :
    mapped a + BitVec.ofNat 128 k = mapped x ↔ x.toNat = a.toNat + k := by
  rw [← BitVec.toNat_inj, BitVec.toNat_add, toNat_mapped, toNat_mapped, BitVec.toNat_ofNat]
  omega

theorem contains16_mapped_add (h : p.network4 = some b) {k : Nat} (hk : k ≤ 2 ^ 32) :
    p.contains16 (mapped b.addr + BitVec.ofNat 128 k) = true ↔
      b.addr.toNat + k ≤ b.last.toNat := by
  have hfirst := Block.contains_iff_between.1 b.contains_addr
  rw [Prefix.contains16_of_network4 h]
  constructor
  · rintro ⟨x, hx, hc⟩
    rw [← (mapped_add_eq hk).1 hx]
    exact (Block.contains_iff_between.1 hc).2
  · intro hle
    have hx : (BitVec.ofNat 32 (b.addr.toNat + k)).toNat = b.addr.toNat + k := by
      rw [BitVec.toNat_ofNat]
      omega
    exact ⟨_, (mapped_add_eq hk).2 hx, Block.contains_iff_between.2 (by omega)⟩

/-- **The addresses that the loop visits**, for an IPv4 network. -/
theorem addressesFrom_network4 (h : p.network4 = some b)
    (isInclude : Bool) {rounds : Nat} (hrounds : b.last.toNat - b.addr.toNat + 1 < rounds) :
    addressesFrom p isInclude rounds p.addr.as16 =
      .ok (visited p isInclude (mapped b.addr) (b.last.toNat - b.addr.toNat + 1)) := by
  have hfirst := Block.contains_iff_between.1 b.contains_addr
  rw [as16_of_network4 h]
  refine addressesFrom_eq isInclude (fun k hk => ?_) ?_ hrounds
  · exact (contains16_mapped_add h (by omega)).2 (by omega)
  · rw [← Bool.not_eq_true, contains16_mapped_add h (by omega)]
    omega

theorem mem_visited {isInclude : Bool} {ip : IP} :
    ip ∈ visited p isInclude (mapped b.addr) (b.last.toNat - b.addr.toNat + 1) ↔
      ∃ x, ip = mapped x ∧ b.addr.toNat ≤ x.toNat ∧ b.contains x = true ∧
        ¬ (isInclude = true ∧ skipped p ip = true) := by
  have hfirst := Block.contains_iff_between.1 b.contains_addr
  simp only [visited, List.mem_filter, List.mem_map, List.mem_range, Bool.not_eq_true',
    ← Bool.not_eq_true, Bool.and_eq_true]
  constructor
  · rintro ⟨⟨k, hk, rfl⟩, hkept⟩
    have hx : (BitVec.ofNat 32 (b.addr.toNat + k)).toNat = b.addr.toNat + k := by
      rw [BitVec.toNat_ofNat]
      omega
    exact ⟨_, (mapped_add_eq (by omega)).2 hx, by omega,
      Block.contains_iff_between.2 (by omega), hkept⟩
  · rintro ⟨x, rfl, hle, hc, hkept⟩
    have hlast := (Block.contains_iff_between.1 hc).2
    exact ⟨⟨x.toNat - b.addr.toNat, by omega, (mapped_add_eq (by omega)).2 (by omega)⟩, hkept⟩

theorem nodup_visited {isInclude : Bool} {ip : IP} {n : Nat} (hn : n ≤ 2 ^ 128) :
    (visited p isInclude ip n).Nodup := by
  refine .filter _ (List.Nodup.map_on (fun k hk k' hk' heq => ?_) List.nodup_range)
  have hofNat := congrArg BitVec.toNat (add_left_cancel heq)
  rw [List.mem_range] at hk hk'
  rwa [BitVec.toNat_ofNat, BitVec.toNat_ofNat, Nat.mod_eq_of_lt (by omega),
    Nat.mod_eq_of_lt (by omega)] at hofNat

/-- The loop over an IPv6 network ends: at the latest at the first IPv4 address. -/
theorem addressesFrom_ends (h : p.network4 = none) (isInclude : Bool) (ip : IP) :
    ∃ l, addressesFrom p isInclude allRounds ip = .ok l ∧ ∀ a, mapped a ∉ l := by
  have hmeets : p.contains16 (ip + BitVec.ofNat 128 (mapped 0 - ip).toNat) = false := by
    rw [BitVec.ofNat_toNat, BitVec.setWidth_eq, BitVec.add_comm, BitVec.sub_add_cancel]
    exact not_contains16_mapped h 0
  have hout : ∃ k, p.contains16 (ip + BitVec.ofNat 128 k) = false := ⟨_, hmeets⟩
  have hrounds : Nat.find hout < allRounds :=
    Nat.lt_of_le_of_lt (Nat.find_min' hout hmeets) (Nat.lt_trans (mapped 0 - ip).isLt (by decide))
  have hin : ∀ k < Nat.find hout, p.contains16 (ip + BitVec.ofNat 128 k) = true :=
    fun k hk => by simpa using Nat.find_min hout hk
  refine ⟨_, addressesFrom_eq isInclude hin (Nat.find_spec hout) hrounds, fun a ha => ?_⟩
  obtain ⟨k, hk, heq⟩ := List.mem_map.1 (List.mem_filter.1 ha).1
  have hc := hin k (List.mem_range.1 hk)
  rw [heq, not_contains16_mapped h] at hc
  cases hc

/-! ### The addresses to use -/

/-- The address is in the range. -/
def InRange (r : AddrReader) (c : Config) (a : BitVec 32) : Prop :=
  ∃ p, r.cidrPrefix c.range = some p ∧ p.contains16 (mapped a) = true

/-- The address is the network address or the broadcast address of the range. -/
def Edge (r : AddrReader) (c : Config) (a : BitVec 32) : Prop :=
  ∃ p, r.cidrPrefix c.range = some p ∧ skipped p (mapped a) = true

/-- The exclude covers the address. -/
def Covers (r : AddrReader) (exclude : String) (a : BitVec 32) : Prop :=
  ∃ p, r.cidrPrefix exclude = some p ∧ p.contains16 (mapped a) = true

/-- The exclude covers the address, which is not before the one that the exclude is written with. -/
def CoversFrom (r : AddrReader) (exclude : String) (a : BitVec 32) : Prop :=
  ∃ p, r.cidrPrefix exclude = some p ∧ p.contains16 (mapped a) = true ∧
    p.addr.as16.toNat ≤ (mapped a).toNat

theorem CoversFrom.covers {exclude : String} {a : BitVec 32} (h : CoversFrom r exclude a) :
    Covers r exclude a :=
  h.imp fun _ hp => ⟨hp.1, hp.2.1⟩

theorem rounds_suffice (b : Block 32) : b.last.toNat - b.addr.toNat + 1 < allRounds := by
  unfold allRounds
  omega

theorem mem_addressesFrom (p : Prefix) :
    ∃ l, addressesFrom p false allRounds p.addr.as16 = .ok l ∧ ∀ a, mapped a ∈ l ↔
      p.contains16 (mapped a) = true ∧ p.addr.as16.toNat ≤ (mapped a).toNat := by
  cases hb : p.network4 with
  | none =>
    obtain ⟨l, hl, hmem⟩ := addressesFrom_ends hb false p.addr.as16
    exact ⟨l, hl, fun a => by simp [hmem, not_contains16_mapped hb]⟩
  | some b =>
    refine ⟨_, addressesFrom_network4 hb false (rounds_suffice b), fun a => ?_⟩
    rw [mem_visited, contains16_mapped hb, as16_of_network4 hb, toNat_mapped, toNat_mapped,
      Nat.add_le_add_iff_left]
    constructor
    · rintro ⟨x, hx, hle, hc, -⟩
      obtain rfl := mapped_injective hx
      exact ⟨hc, hle⟩
    · rintro ⟨hc, hle⟩
      exact ⟨a, rfl, hle, hc, by simp⟩

theorem mem_excludeAddresses {excludes : List String}
    (h : ∀ exclude ∈ excludes, ∃ q, r.cidrPrefix exclude = some q) :
    ∃ l, getIPAddressesFromSubnet r false excludes = .ok l ∧
      ∀ a, mapped a ∈ l ↔ ∃ exclude ∈ excludes, CoversFrom r exclude a := by
  induction excludes with
  | nil => exact ⟨[], rfl, by simp⟩
  | cons exclude excludes ih =>
    obtain ⟨q, hq⟩ := h exclude List.mem_cons_self
    obtain ⟨rest, hrest, hmem⟩ := ih fun e he => h e (List.mem_cons_of_mem _ he)
    obtain ⟨l, hl, hmem'⟩ := mem_addressesFrom q
    refine ⟨l ++ rest, ?_, fun a => ?_⟩
    · rw [getIPAddressesFromSubnet, hq]
      simp only [hl, hrest]
      rfl
    · have hfirst : CoversFrom r exclude a ↔ mapped a ∈ l := by
        simp [CoversFrom, hq, hmem']
      simp [hmem, hfirst]

theorem inRange_iff {a : BitVec 32} (h : r.cidrPrefix c.range = some p)
    (hb : p.network4 = some b) : InRange r c a ↔ b.contains a = true := by
  simp [InRange, h, contains16_mapped hb]

/-- **The addresses that are enumerated.** -/
theorem mem_usableIPAddresses (h : MaskedRange r c p)
    (hexcludes : ∀ exclude ∈ c.exclude, ∃ q, r.cidrPrefix exclude = some q) :
    ∃ l, getUsableIPAddresses r c.range c.exclude = .ok l ∧ l.Nodup ∧
      ∀ ip, ip ∈ l ↔ ∃ a, ip = mapped a ∧ InRange r c a ∧ ¬ Edge r c a ∧
        ∀ exclude ∈ c.exclude, ¬ CoversFrom r exclude a := by
  obtain ⟨b, hb, hmasked⟩ := h.network4
  obtain ⟨l, hl, hmem⟩ := mem_excludeAddresses hexcludes
  have hincludes : getIPAddressesFromSubnet r true [c.range] =
      .ok (visited p true (mapped b.addr) (b.last.toNat - b.addr.toNat + 1)) := by
    rw [getIPAddressesFromSubnet, h.read]
    simp only [addressesFrom_network4 hb true (rounds_suffice b)]
    exact congrArg Except.ok (List.append_nil _)
  refine ⟨_, by rw [getUsableIPAddresses, hincludes, hl]; rfl,
    (nodup_visited (by omega)).filter _, fun ip => ?_⟩
  rw [List.mem_filter, mem_visited, decide_eq_true_iff]
  have hedge : ∀ a, Edge r c a ↔ skipped p (mapped a) = true := by
    intro a
    simp [Edge, h.read]
  have hfirst : ∀ a, b.contains a = true → b.addr.toNat ≤ a.toNat := fun a ha => by
    have := (Block.contains_iff_between.1 ha).1
    rwa [hmasked] at this
  constructor
  · rintro ⟨⟨a, rfl, -, hc, hskip⟩, hfree⟩
    exact ⟨a, rfl, (inRange_iff h.read hb).2 hc, fun he => hskip ⟨rfl, (hedge a).1 he⟩,
      fun exclude he hcov => hfree ((hmem a).2 ⟨exclude, he, hcov⟩)⟩
  · rintro ⟨a, rfl, hin, hskip, hfree⟩
    have hc := (inRange_iff h.read hb).1 hin
    refine ⟨⟨a, rfl, hfirst a hc, hc, fun he => hskip ((hedge a).2 he.2)⟩, fun hmem' => ?_⟩
    obtain ⟨exclude, he, hcov⟩ := (hmem a).1 hmem'
    exact hfree exclude he hcov

theorem ValidRange.readable (h : ValidRange r c p) :
    ∀ exclude ∈ c.exclude, ∃ q, r.cidrPrefix exclude = some q := by
  intro exclude he
  obtain ⟨q, -, hq⟩ := h.excludes exclude he
  exact ⟨q, AddrReader.cidrPrefix_of_parsePrefix hq.read⟩

end NetworkSetting

end Harvester
