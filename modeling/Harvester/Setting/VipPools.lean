import Harvester.Kube.Admission
import Harvester.Net.Addr

/-!
# Pools of virtual addresses

A pool of the setting `vip-pools` is a list of elements, each the CIDR of a network or a range of
IPv4 addresses.  `ValidateCIDRs` of `pkg/controller/master/setting/vip_pools_config.go` does not
compare the two addresses of a range, so an element can stand for no address at all
(`reversed_range`); `pools_nonempty_iff` says that this is the only way.
-/

namespace Harvester

namespace VipPools

open Net

variable (r : AddrReader) (pool ns : String)

/-- `ip == nil || ip.To4() == nil`. -/
def checkIP (text : List Char) : Except String Unit :=
  if ((parseIP r text).bind to4).isNone then .error ("invalid IP value " ++ pool ++ " of " ++ ns)
  else .ok ()

/-- The check of an element. -/
def checkElement (cidrOrIPRange : List Char) : Except String Unit :=
  if cidrOrIPRange.head? = some '-' ∨ cidrOrIPRange.getLast? = some '-' then
    .error ("invalid IP Range value " ++ pool ++ " of " ++ ns)
  else
    match cidrOrIPRange.splitOn '-' with
    | [_] =>
      if (r.cidrPrefix (.ofList cidrOrIPRange)).isNone then
        .error ("invalid CIDR value " ++ pool ++ " of " ++
          ns ++ ", error: invalid CIDR address: " ++
          .ofList cidrOrIPRange)
      else .ok ()
    | [first, last] => checkEach (checkIP r pool ns) [first, last]
    | _ => .error ("invalid IP Range value " ++ pool ++ " of " ++ ns)

/-- The elements of a pool. -/
def elements : List (List Char) := pool.toList.splitOn ','

/-- The pools come in some order. -/
def validateCIDRs (pools : List (String × String)) : Except String Unit :=
  checkEach (fun (ns, pool) =>
    if '-' ∈ pool.toList ∧ '/' ∈ pool.toList then
      .error ("invalid Pool value " ++ pool ++ " of " ++ ns ++
        ", error: IP Range and CIDR cannot be used together")
    else checkEach (checkElement r pool ns) (elements pool)) pools

/-- The address is one of those that the element stands for. -/
def Denotes (element : List Char) (addr : Addr) : Prop :=
  match element.splitOn '-' with
  | [_] => ∃ p, r.cidrPrefix (.ofList element) = some p ∧ p.contains addr = true
  | [first, last] => ∃ a b x, parseIP r first = some (mapped a) ∧ parseIP r last = some (mapped b) ∧
      addr = .v4 x ∧ a.toNat ≤ x.toNat ∧ x.toNat ≤ b.toNat
  | _ => False

/-- The element is a range whose last address is before its first one. -/
def Reversed (element : List Char) : Prop :=
  ∃ first last a b, element.splitOn '-' = [first, last] ∧ parseIP r first = some (mapped a) ∧
    parseIP r last = some (mapped b) ∧ b.toNat < a.toNat

variable {r pool ns}

theorem checkIP_eq_ok {text : List Char} :
    checkIP r pool ns text = .ok () ↔ ∃ a, parseIP r text = some (mapped a) := by
  rw [← parseIP_to4]
  unfold checkIP
  split <;> simp [*]

/-- **An element that is accepted stands for some address unless it is reversed.** -/
theorem nonempty_iff {element : List Char} (h : checkElement r pool ns element = .ok ()) :
    (∃ addr, Denotes r element addr) ↔ ¬ Reversed r element := by
  unfold checkElement at h
  split at h
  · cases h
  simp only [Denotes, Reversed]
  split at h
  · next hsplit =>
    split at h
    · cases h
    next hread =>
    obtain ⟨p, hp⟩ := Option.ne_none_iff_exists'.1 (by simpa using hread)
    rw [hsplit]
    exact iff_of_true ⟨p.addr, p, hp, p.contains_addr⟩ (by simp)
  · next first last hsplit =>
    simp only [checkEach_eq_ok, List.mem_cons, List.not_mem_nil, or_false, forall_eq_or_imp,
      forall_eq, checkIP_eq_ok] at h
    obtain ⟨⟨a, ha⟩, b, hb⟩ := h
    rw [hsplit]
    constructor
    · rintro ⟨addr, a', b', x, ha', hb', -, hle, hle'⟩ ⟨_, _, a'', b'', heq, ha'', hb'', hlt⟩
      cases heq
      cases mapped_injective (Option.some.inj (ha'.symm.trans ha''))
      cases mapped_injective (Option.some.inj (hb'.symm.trans hb''))
      omega
    · intro hordered
      have hle : a.toNat ≤ b.toNat :=
        Nat.not_lt.1 fun hlt => hordered ⟨first, last, a, b, rfl, ha, hb, hlt⟩
      exact ⟨.v4 a, a, b, a, ha, hb, rfl, le_rfl, hle⟩
  · cases h

/-- **Pools that are accepted have addresses exactly when no range is reversed.** -/
theorem pools_nonempty_iff {pools : List (String × String)} (h : validateCIDRs r pools = .ok ()) :
    (∀ entry ∈ pools, ∀ element ∈ elements entry.2, ∃ addr, Denotes r element addr) ↔
      ∀ entry ∈ pools, ∀ element ∈ elements entry.2, ¬ Reversed r element := by
  refine forall₂_congr fun entry hentry => forall₂_congr fun element helement => ?_
  have hpool := checkEach_eq_ok.1 h entry hentry
  dsimp only at hpool
  split at hpool
  · cases hpool
  · exact nonempty_iff (checkEach_eq_ok.1 hpool element helement)

namespace Sample

def texts : AddrReader := .ofTable
  [("10.0.0.1", .v4 0x0a000001#32), ("10.0.0.9", .v4 0x0a000009#32)] (by decide +kernel)

end Sample

open Sample in
/-- A pool with a network and a pool with a range. -/
theorem pools_nonempty_iff_cidr :
    validateCIDRs texts [("global", "10.0.0.1/24"), ("default", "10.0.0.1-10.0.0.9")] = .ok () ∧
      ∃ addr, Denotes texts "10.0.0.1-10.0.0.9".toList addr := by
  have h : validateCIDRs texts [("global", "10.0.0.1/24"), ("default", "10.0.0.1-10.0.0.9")] =
      .ok () := by decide
  refine ⟨h, (pools_nonempty_iff h).2 ?_ ("default", "10.0.0.1-10.0.0.9") (by simp) _ (by decide)⟩
  intro entry hentry element helement
  rcases List.mem_pair.1 hentry with rfl | rfl <;> cases List.mem_singleton.1 helement <;>
    rintro ⟨first, last, a, b, hsplit, ha, hb, hlt⟩
  · have hwhole : "10.0.0.1/24".toList.splitOn '-' = ["10.0.0.1/24".toList] := by decide
    cases hwhole.symm.trans hsplit
  · have hparts : "10.0.0.1-10.0.0.9".toList.splitOn '-' =
        ["10.0.0.1".toList, "10.0.0.9".toList] := by decide
    cases hparts.symm.trans hsplit
    have hfirst : parseIP texts "10.0.0.1".toList = some (mapped 0x0a000001#32) := by decide
    have hlast : parseIP texts "10.0.0.9".toList = some (mapped 0x0a000009#32) := by decide
    cases mapped_injective (Option.some.inj (hfirst.symm.trans ha))
    cases mapped_injective (Option.some.inj (hlast.symm.trans hb))
    exact absurd hlt (by decide)

open Sample in
/-- A range from a later to an earlier address is accepted. -/
theorem reversed_range :
    validateCIDRs texts [("global", "10.0.0.9-10.0.0.1")] = .ok () ∧
      ¬ ∃ addr, Denotes texts "10.0.0.9-10.0.0.1".toList addr := by
  have hparts : "10.0.0.9-10.0.0.1".toList.splitOn '-' =
      ["10.0.0.9".toList, "10.0.0.1".toList] := by
    decide
  have hfirst : parseIP texts "10.0.0.9".toList = some (mapped 0x0a000009#32) := by decide
  have hlast : parseIP texts "10.0.0.1".toList = some (mapped 0x0a000001#32) := by decide
  have haccepted : checkElement texts "" "" "10.0.0.9-10.0.0.1".toList = .ok () := by decide
  rw [nonempty_iff haccepted, not_not]
  exact ⟨by decide, _, _, _, _, hparts, hfirst, hlast, by decide⟩

end VipPools

end Harvester
