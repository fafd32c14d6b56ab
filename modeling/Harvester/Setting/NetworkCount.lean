import Mathlib.Data.FinEnum
import Mathlib.Data.Set.Card
import Harvester.Setting.NetworkOverlap

/-!
# How many addresses a network has

`GetUsableIPAddressesCount` of `pkg/webhook/util/ip.go` counts the addresses that a network can use
by enumerating them, and `GetUsableIPAddressesCountDualStack` adds the size of the IPv6 window.

* `count_exact_iff`: the count is exact when the excludes leave out no address before the one that
  they are written with;
* `sum_not_smaller_iff`: the sum is not smaller than its parts when it is an integer of 64 bits; the
  size of the window is cut off at the largest integer *before* the other count is added;
* `visits_bounded_iff`: at most `2 ^ 16` addresses are visited unless the range is written with
  mapped addresses, whose length is larger by 96 than that of the network that is enumerated;
* `excludes_disjoint_iff`: excludes that pass the check lie in the range, and they are disjoint when
  those that are not neighbours in the list are.
-/

namespace Harvester

namespace NetworkSetting

open Control Net

variable {r : AddrReader} {c : Config} {p : Prefix} {b : Block 32} {text : String}
  {isInclude : Bool} {n : Nat}

namespace CountSample

def texts : AddrReader := .ofTable
  [("10.0.0.0", .v4 0x0a000000#32), ("10.0.0.2", .v4 0x0a000002#32),
    ("10.0.0.4", .v4 0x0a000004#32),
    ("10.0.0.6", .v4 0x0a000006#32), ("10.0.0.8", .v4 0x0a000008#32),
    ("::ffff:10.0.0.0", .v6 0xffff0a000000#128 ""),
    ("fd00::", .v6 0xfd000000000000000000000000000000#128 ""),
    ("fd00::ffff:ffff:ffff:ffff", .v6 0xfd00000000000000ffffffffffffffff#128 "")]
    (by decide +kernel)

def setting (range : String) (exclude : List String) : Config :=
  ⟨"vlan1", 100, false, range, exclude, "fd00::/64", "fd00::", "fd00::ffff:ffff:ffff:ffff"⟩

end CountSample

/-- The enumeration returns the address. -/
def Counted (r : AddrReader) (c : Config) (a : BitVec 32) : Prop :=
  InRange r c a ∧ ¬ Edge r c a ∧ ∀ exclude ∈ c.exclude, ¬ CoversFrom r exclude a

theorem getUsableIPAddressesCount_eq (h : MaskedRange r c p)
    (hexcludes : ∀ exclude ∈ c.exclude, ∃ q, r.cidrPrefix exclude = some q) :
    getUsableIPAddressesCount r c.range c.exclude = .ok (Set.ncard {a | Counted r c a}) := by
  obtain ⟨l, hl, hnodup, hmem⟩ := mem_usableIPAddresses h hexcludes
  have himage : (l.toFinset : Set IP) = mapped '' {a | Counted r c a} := by
    ext ip
    rw [List.coe_toFinset, Set.mem_ofPred_eq, hmem]
    exact exists_congr fun a => ⟨fun ⟨hip, ha⟩ => ⟨ha, hip.symm⟩, fun ⟨ha, hip⟩ => ⟨hip.symm, ha⟩⟩
  rw [← Set.ncard_image_of_injective _ mapped_injective, ← himage, Set.ncard_coe_finset,
    List.toFinset_card_of_nodup hnodup, getUsableIPAddressesCount, hl]
  rfl

theorem usable_subset_counted : {a | Usable r c a} ⊆ {a | Counted r c a} := fun _ ha =>
  ⟨ha.1.1, ha.2, fun e he hfrom => ha.1.2 e he hfrom.covers⟩

/-- **The count is exact when no exclude leaves out an address before the one that it is written
with.** -/
theorem count_exact_iff (h : MaskedRange r c p)
    (hexcludes : ∀ exclude ∈ c.exclude, ∃ q, r.cidrPrefix exclude = some q) :
    getUsableIPAddressesCount r c.range c.exclude = .ok (Set.ncard {a | Usable r c a}) ↔
      ∀ a, InRange r c a → ¬ Edge r c a → (∃ exclude ∈ c.exclude, Covers r exclude a) →
        ∃ exclude ∈ c.exclude, CoversFrom r exclude a := by
  rw [getUsableIPAddressesCount_eq h hexcludes, Except.ok.injEq, Nat.cast_inj]
  constructor
  · intro heq a hin hedge ⟨exclude, he, hcovers⟩
    by_contra hnone
    have ha : Counted r c a := ⟨hin, hedge, fun e he hfrom => hnone ⟨e, he, hfrom⟩⟩
    have husable : Usable r c a :=
      (Set.eq_of_subset_of_ncard_le usable_subset_counted (Nat.le_of_eq heq)).ge ha
    exact husable.1.2 exclude he hcovers
  · intro hwritten
    refine congrArg Set.ncard (Set.Subset.antisymm ?_ usable_subset_counted)
    rintro a ⟨hin, hedge, hfree⟩
    refine ⟨⟨hin, fun exclude he hcovers => ?_⟩, hedge⟩
    obtain ⟨e, he, hfrom⟩ := hwritten a hin hedge ⟨exclude, he, hcovers⟩
    exact hfree e he hfrom

open CountSample in
/-- Excludes with and without host bits. -/
theorem count_exact_iff_masked :
    MaskedRange texts (setting "10.0.0.0/29" ["10.0.0.4/30", "10.0.0.6/30"])
        (.v4 ⟨0x0a000000#32, 29, by decide⟩) ∧
      getUsableIPAddressesCount texts "10.0.0.0/29" ["10.0.0.4/30", "10.0.0.6/30"] = .ok 3 ∧
      Set.ncard
        {a | Usable texts (setting "10.0.0.0/29" ["10.0.0.4/30", "10.0.0.6/30"]) a} = 3 := by
  have hmasked : MaskedRange texts (setting "10.0.0.0/29" ["10.0.0.4/30", "10.0.0.6/30"])
      (.v4 ⟨0x0a000000#32, 29, by decide⟩) := by
    constructor <;> decide
  have hread : texts.cidrPrefix "10.0.0.4/30" = some (.v4 ⟨0x0a000004#32, 30, by decide⟩) := by
    decide
  have hread' : texts.cidrPrefix "10.0.0.6/30" = some (.v4 ⟨0x0a000006#32, 30, by decide⟩) := by
    decide
  have hcount : getUsableIPAddressesCount texts "10.0.0.0/29" ["10.0.0.4/30", "10.0.0.6/30"] =
      .ok 3 := by
    decide
  have hexact := (count_exact_iff hmasked (by simp [setting, hread, hread'])).2 ?_
  · exact ⟨hmasked, hcount, Nat.cast_inj.1 (Except.ok.inj (hexact.symm.trans hcount))⟩
  -- Both are the network from `10.0.0.4` on, and the first one starts there.
  rintro a - - ⟨exclude, he, q, hq, hcovers⟩
  have hfrom : 0x0a000004 ≤ a.toNat ∧ a.toNat ≤ 0x0a000007 := by
    simp only [setting, List.mem_cons, List.not_mem_nil, or_false] at he
    rcases he with rfl | rfl
    · cases hread.symm.trans hq
      exact Block.contains_iff_between.1 ((contains16_mapped rfl).1 hcovers)
    · cases hread'.symm.trans hq
      exact Block.contains_iff_between.1 ((contains16_mapped rfl).1 hcovers)
  refine ⟨"10.0.0.4/30", by simp [setting], _, hread, ?_, ?_⟩
  · rw [contains16_mapped rfl]
    exact Block.contains_iff_between.2 hfrom
  · rw [as16_of_network4 rfl, toNat_mapped, toNat_mapped]
    exact Nat.add_le_add_left hfrom.1 _

open CountSample in
/-- The exclude `10.0.0.2/30` has the address `10.0.0.1`, which is counted. -/
theorem count_not_exact :
    getUsableIPAddressesCount texts "10.0.0.0/29" ["10.0.0.2/30"] = .ok 4 ∧
      Set.ncard {a | Usable texts (setting "10.0.0.0/29" ["10.0.0.2/30"]) a} < 4 := by
  have hread : texts.cidrPrefix "10.0.0.0/29" = some (.v4 ⟨0x0a000000#32, 29, by decide⟩) := by
    decide
  have hread' : texts.cidrPrefix "10.0.0.2/30" = some (.v4 ⟨0x0a000002#32, 30, by decide⟩) := by
    decide
  have hcount : getUsableIPAddressesCount texts "10.0.0.0/29" ["10.0.0.2/30"] = .ok 4 := by
    decide
  refine ⟨hcount, ?_⟩
  have heq := hcount.symm.trans (getUsableIPAddressesCount_eq
    (c := setting "10.0.0.0/29" ["10.0.0.2/30"]) ⟨hread, by decide, by decide⟩
    (by simpa [setting] using ⟨_, hread'⟩))
  rw [← Nat.cast_inj.1 (Except.ok.inj heq.symm : (_ : Int) = (4 : Nat))]
  refine Set.ncard_lt_ncard
    (Set.ssubset_iff_exists.2 ⟨usable_subset_counted, 0x0a000001#32, ?_, ?_⟩)
  · refine ⟨⟨_, hread, by decide⟩, ?_, ?_⟩
    · simp only [Edge]
      decide
    · simp only [CoversFrom]
      decide
  · intro husable
    exact husable.1.2 "10.0.0.2/30" List.mem_cons_self ⟨_, hread', by decide⟩

theorem ipv6RangeCount_eq {first last : BitVec 128} (h : ValidWindow r c first last) :
    ipv6RangeCount r c.rangeV6Start c.rangeV6End =
      .ok (min maxInt (last.toNat - first.toNat + 1)) := by
  rw [min_def_lt]
  refine except_bind_eq_ok.2 ⟨_, parseAddr_eq_ok.2 h.start, ?_⟩
  refine except_bind_eq_ok.2 ⟨_, parseAddr_eq_ok.2 h.finish, ?_⟩
  exact except_bind_unit_eq_ok.2 ⟨by simp [le_iff_toNat.2 h.ordered], rfl⟩

/-- **The sum over both families is not smaller than its parts when it fits into an integer.** -/
theorem sum_not_smaller_iff (h : checkNetworkRangeValid r c = .ok ())
    (h' : checkNetworkRangeValidV6 r c = .ok ()) :
    ∃ v4 v6 total, getUsableIPAddressesCount r c.range c.exclude = .ok v4 ∧
      ipv6RangeCount r c.rangeV6Start c.rangeV6End = .ok v6 ∧
      getUsableIPAddressesCountDualStack r c = .ok total ∧
      ((v4 ≤ total ∧ v6 ≤ total ∧ ∀ required, required ≤ v4 ∨ required ≤ v6 → required ≤ total) ↔
        v4 = 0 ∨ ∀ first last, ValidWindow r c first last →
          v4 + (last.toNat - first.toNat + 1) ≤ maxInt) := by
  obtain ⟨p, hp⟩ := checkNetworkRangeValid_eq_ok h
  obtain ⟨first, last, hw⟩ := checkNetworkRangeValidV6_eq_ok h'
  have hv4 := getUsableIPAddressesCount_eq hp.toMaskedRange hp.readable
  have hv6 := ipv6RangeCount_eq hw
  have hbound : Set.ncard {a | Counted r c a} ≤ 2 ^ 32 := by
    refine Nat.le_trans (Set.ncard_le_card _) (Nat.le_of_eq ?_)
    rw [Nat.card_eq_fintype_card, ← FinEnum.card_eq_fintypeCard, FinEnum.card_bitVec]
  generalize Set.ncard {a | Counted r c a} = v4 at hv4 hbound
  refine ⟨v4, _, addInt v4 (min maxInt (last.toNat - first.toNat + 1)), hv4, hv6, ?_, ?_⟩
  · simp only [getUsableIPAddressesCountDualStack, if_pos hp.range_ne, if_pos hw.given, hv4, hv6]
    rfl
  have hwindow : (∀ first last, ValidWindow r c first last →
      (v4 : Int) + (last.toNat - first.toNat + 1) ≤ maxInt) ↔
        (v4 : Int) + (last.toNat - first.toNat + 1) ≤ maxInt := by
    refine ⟨fun hall => hall first last hw, fun hle first' last' hw' => ?_⟩
    have hfirst := hw.start.symm.trans hw'.start
    have hlast := hw.finish.symm.trans hw'.finish
    cases hfirst
    cases hlast
    exact hle
  have hordered := hw.ordered
  rw [hwindow, addInt, Int.bmod_def]
  unfold maxInt
  constructor
  · rintro ⟨h4, h6, -⟩
    split at h6 <;> omega
  · intro hfits
    rw [if_pos (by omega)]
    refine ⟨by omega, by omega, fun required hrequired => by omega⟩

open Sample in
theorem sum_not_smaller_iff_storage :
    checkNetworkRangeValid texts storage = .ok () ∧
    checkNetworkRangeValidV6 texts storage = .ok () ∧
      ∃ total, getUsableIPAddressesCountDualStack texts storage = .ok total ∧ 7 ≤ total := by
  have hrange : checkNetworkRangeValid texts storage = .ok () := by decide
  have hwindow : checkNetworkRangeValidV6 texts storage = .ok () := by decide
  have hcount : getUsableIPAddressesCount texts storage.range storage.exclude = .ok 7 := by
    decide
  have hstart : texts.parseAddr storage.rangeV6Start.toList =
      some (.v6 0xfd000000000000000000000000000010#128 "") := by decide
  have hfinish : texts.parseAddr storage.rangeV6End.toList =
      some (.v6 0xfd0000000000000000000000000000ff#128 "") := by decide
  obtain ⟨v4, v6, total, hv4, -, htotal, hiff⟩ := sum_not_smaller_iff hrange hwindow
  cases hcount.symm.trans hv4
  refine ⟨hrange, hwindow, total, htotal, (hiff.2 (.inr fun first last hw => ?_)).1⟩
  cases hstart.symm.trans hw.start
  cases hfinish.symm.trans hw.finish
  decide

open CountSample in
/-- A window of `2 ^ 64` addresses and six addresses of the range make a negative sum. -/
theorem sum_negative :
    checkNetworkRangeValid texts (setting "10.0.0.0/29" []) = .ok () ∧
      checkNetworkRangeValidV6 texts (setting "10.0.0.0/29" []) = .ok () ∧
      getUsableIPAddressesCount texts "10.0.0.0/29" [] = .ok 6 ∧
      ipv6RangeCount texts "fd00::" "fd00::ffff:ffff:ffff:ffff" = .ok maxInt ∧
      getUsableIPAddressesCountDualStack texts (setting "10.0.0.0/29" []) =
        .ok (-9223372036854775803) := by
  decide

/-- The loop over the addresses of a text visits `n` addresses at most. -/
def VisitsAtMost (r : AddrReader) (isInclude : Bool) (n : Nat) (text : String) : Prop :=
  ∀ p, r.cidrPrefix text = some p → ∃ l, addressesFrom p isInclude (n + 1) p.addr.as16 = .ok l

theorem neverReturns_of_contains {rounds : Nat} {ip : IP}
    (h : ∀ k < rounds, p.contains16 (ip + BitVec.ofNat 128 k) = true) :
    addressesFrom p isInclude rounds ip = .error .neverReturns := by
  induction rounds generalizing ip with
  | zero => rfl
  | succ rounds ih =>
    have hhere : p.contains16 ip = true := by simpa using h 0 rounds.succ_pos
    rw [addressesFrom, if_pos hhere, incrementIP_eq, ih]
    · rfl
    intro k hk
    rw [BitVec.add_assoc, ← BitVec.ofNat_add, Nat.add_comm]
    exact h (k + 1) (by omega)

theorem visitsAtMost_iff (hp : r.cidrPrefix text = some p) (hb : p.network4 = some b) :
    VisitsAtMost r isInclude n text ↔ b.last.toNat - b.addr.toNat < n := by
  simp only [VisitsAtMost, hp, Option.some.injEq, forall_eq']
  constructor
  · rintro ⟨l, hl⟩
    by_contra hlt
    have hfirst := Block.contains_iff_between.1 b.contains_addr
    rw [as16_of_network4 hb, neverReturns_of_contains fun k hk =>
      (contains16_mapped_add hb (by omega)).2 (by omega)] at hl
    cases hl
  · exact fun hlt => ⟨_, addressesFrom_network4 hb isInclude (by omega)⟩

theorem last_sub_addr_lt (b : Block 32) : b.last.toNat - b.addr.toNat < 2 ^ (32 - b.bits) := by
  have hfirst := (Block.contains_iff_between.1 b.contains_addr).1
  have hpos := Nat.two_pow_pos (32 - b.bits)
  rw [Block.toNat_masked] at hfirst
  rw [Block.toNat_last]
  omega

theorem last_sub_addr_of_masked (h : b.masked = b) :
    b.last.toNat - b.addr.toNat = 2 ^ (32 - b.bits) - 1 := by
  have hmasked := b.toNat_masked
  rw [h] at hmasked
  rw [Block.toNat_last]
  omega

/-- **At most `2 ^ 16` addresses of each text are visited unless the range is written with mapped
addresses and too short.** -/
theorem visits_bounded_iff (h : checkNetworkRangeValid r c = .ok ()) :
    (VisitsAtMost r true (2 ^ 16) c.range ∧
      ∀ exclude ∈ c.exclude, VisitsAtMost r false (2 ^ 16) exclude) ↔
        ∀ q, r.cidrPrefix c.range = some (.v6 q) → 96 + 16 ≤ q.bits := by
  obtain ⟨p, hp⟩ := checkNetworkRangeValid_eq_ok h
  obtain ⟨b, hb, hmasked⟩ := hp.network4
  have hlong : (∀ q, r.cidrPrefix c.range = some (.v6 q) → 96 + 16 ≤ q.bits) ↔ 16 ≤ b.bits := by
    have hbits := hp.long
    rw [hp.read]
    cases p with
    | v4 q =>
      cases hb
      exact iff_of_true nofun hbits
    | v6 q =>
      have heq := (Prefix.network4_v6 hb).2
      simp only [Option.some.injEq, Prefix.v6.injEq, forall_eq']
      omega
  have hpow : ∀ m, m ≤ 32 → 16 ≤ m → 2 ^ (32 - m) ≤ 2 ^ 16 := fun m _ _ =>
    Nat.pow_le_pow_right (by decide) (by omega)
  rw [hlong, visitsAtMost_iff hp.read hb, last_sub_addr_of_masked hmasked]
  constructor
  · rintro ⟨hlt, -⟩
    by_contra hshort
    have : 2 ^ 17 ≤ 2 ^ (32 - b.bits) := Nat.pow_le_pow_right (by decide) (by omega)
    omega
  · intro hge
    have hle := hpow b.bits b.le hge
    refine ⟨by omega, fun exclude he => ?_⟩
    obtain ⟨q, -, hq⟩ := hp.excludes exclude he
    obtain ⟨e, hnetwork, -, hlonger⟩ := hq.network4 hb
    refine (visitsAtMost_iff (AddrReader.cidrPrefix_of_parsePrefix hq.read) hnetwork).2 ?_
    exact Nat.lt_of_lt_of_le (last_sub_addr_lt e) (hpow e.bits e.le (by omega))

open CountSample in
theorem visits_bounded_iff_dotted :
    checkNetworkRangeValid texts (setting "10.0.0.0/16" ["10.0.0.4/30"]) = .ok () ∧
      VisitsAtMost texts true (2 ^ 16) "10.0.0.0/16" := by
  have hvalid : checkNetworkRangeValid texts (setting "10.0.0.0/16" ["10.0.0.4/30"]) = .ok () := by
    decide
  have hread : texts.cidrPrefix "10.0.0.0/16" = some (.v4 ⟨0x0a000000#32, 16, by decide⟩) := by
    decide
  refine ⟨hvalid, ((visits_bounded_iff hvalid).2 fun q hq => ?_).1⟩
  cases hread.symm.trans hq

open CountSample in
/-- The prefix of length 104 is the IPv4 network `10.0.0.0/8`. -/
theorem visits_unbounded :
    checkNetworkRangeValid texts (setting "::ffff:10.0.0.0/104" []) = .ok () ∧
      ¬ VisitsAtMost texts true (2 ^ 16) "::ffff:10.0.0.0/104" := by
  have hread : texts.cidrPrefix "::ffff:10.0.0.0/104" =
      some (.v6 ⟨0xffff0a000000#128, 104, by decide⟩) := by
    decide
  refine ⟨by decide, ?_⟩
  rw [visitsAtMost_iff (b := ⟨0x0a000000#32, 8, by decide⟩) hread (by decide)]
  decide

/-- No address is covered by both excludes. -/
def Apart (r : AddrReader) (exclude exclude' : String) : Prop :=
  ∀ a, ¬ (Covers r exclude a ∧ Covers r exclude' a)

theorem ValidRange.inRange_of_covers (h : ValidRange r c p) {exclude : String}
    (he : exclude ∈ c.exclude) {a : BitVec 32} (ha : Covers r exclude a) : InRange r c a := by
  obtain ⟨b, hb, -⟩ := h.network4
  obtain ⟨q, -, hq⟩ := h.excludes exclude he
  obtain ⟨e, hnetwork, hoverlaps, hlonger⟩ := hq.network4 hb
  obtain ⟨q', hread, hcontains⟩ := ha
  cases (AddrReader.cidrPrefix_of_parsePrefix hq.read).symm.trans hread
  rw [contains16_mapped hnetwork] at hcontains
  exact (inRange_iff h.read hb).2
    (Block.subset_of_overlaps hoverlaps (Nat.le_of_lt hlonger) hcontains)

/-- The comparison with the exclude before is right for excludes of the range. -/
theorem ValidRange.apart_of_isOverlap (h : ValidRange r c p) {exclude exclude' : String}
    (he : exclude ∈ c.exclude) (he' : exclude' ∈ c.exclude)
    (hoverlap : isOverlap r exclude' exclude = .ok false) : Apart r exclude exclude' := by
  rintro a ⟨ha, ha'⟩
  obtain ⟨b, hb, -⟩ := h.network4
  obtain ⟨q, -, hq⟩ := h.excludes exclude he
  obtain ⟨q', -, hq'⟩ := h.excludes exclude' he'
  obtain ⟨_, hread, hcontains⟩ := (excludes_iff_covers hq hb).2 ha
  obtain ⟨_, hread', hcontains'⟩ := (excludes_iff_covers hq' hb).2 ha'
  cases hq.read.symm.trans hread
  cases hq'.read.symm.trans hread'
  rw [Prefix.contains_masked] at hcontains hcontains'
  have hne : ¬ (exclude' = "" ∨ exclude = "") := by
    rintro (rfl | rfl)
    · cases hread'
    · cases hread
  simp [isOverlap, hne, hread, hread', Prefix.overlaps_of_contains hcontains' hcontains] at hoverlap

/-- **Excludes that are accepted lie in the range; they are disjoint when those that are not
neighbours in the list are.** -/
theorem excludes_disjoint_iff (h : checkNetworkRangeValid r c = .ok ()) :
    (c.exclude.Pairwise (Apart r) ∧
      ∀ exclude ∈ c.exclude, ∀ a, Covers r exclude a → InRange r c a) ↔
        ∀ (i j : Nat) (_ : i < c.exclude.length) (_ : j < c.exclude.length), i + 1 < j →
          Apart r c.exclude[i] c.exclude[j] := by
  obtain ⟨p, hp⟩ := checkNetworkRangeValid_eq_ok h
  constructor
  · rintro ⟨hpairwise, -⟩ i j hi hj hlt
    exact List.pairwise_iff_getElem.1 hpairwise i j hi hj (by omega)
  · intro hdistant
    refine ⟨List.pairwise_iff_getElem.2 fun i j hi hj hlt => ?_,
      fun exclude he a ha => hp.inRange_of_covers he ha⟩
    rcases Nat.lt_or_eq_of_le (Nat.succ_le_of_lt hlt) with hlt | rfl
    · exact hdistant i j hi hj hlt
    · exact hp.apart_of_isOverlap (List.getElem_mem _) (List.getElem_mem _)
        (List.isChain_iff_getElem.1 hp.neighbours i hj)

open CountSample in
theorem excludes_disjoint_iff_three :
    checkNetworkRangeValid texts
        (setting "10.0.0.0/28" ["10.0.0.0/30", "10.0.0.8/30", "10.0.0.4/30"]) = .ok () ∧
      ["10.0.0.0/30", "10.0.0.8/30", "10.0.0.4/30"].Pairwise (Apart texts) := by
  have hvalid : checkNetworkRangeValid texts
      (setting "10.0.0.0/28" ["10.0.0.0/30", "10.0.0.8/30", "10.0.0.4/30"]) = .ok () := by decide
  have hread : texts.cidrPrefix "10.0.0.0/30" = some (.v4 ⟨0x0a000000#32, 30, by decide⟩) := by
    decide
  have hread' : texts.cidrPrefix "10.0.0.4/30" = some (.v4 ⟨0x0a000004#32, 30, by decide⟩) := by
    decide
  refine ⟨hvalid, ((excludes_disjoint_iff hvalid).2 fun i j hi hj hlt => ?_).1⟩
  simp only [setting, List.length_cons, List.length_nil] at hi hj
  obtain rfl : i = 0 := by omega
  obtain rfl : j = 2 := by omega
  rintro a ⟨⟨_, hfirst, ha⟩, ⟨_, hlast, ha'⟩⟩
  cases hread.symm.trans hfirst
  cases hread'.symm.trans hlast
  rw [contains16_mapped rfl] at ha ha'
  have hbefore : a.toNat ≤ 0x0a000003 := (Block.contains_iff_between.1 ha).2
  have hafter : 0x0a000004 ≤ a.toNat := (Block.contains_iff_between.1 ha').1
  omega

open CountSample in
/-- The last exclude lies in the first one, and is only compared with the second one. -/
theorem excludes_nested :
    checkNetworkRangeValid texts
        (setting "10.0.0.0/28" ["10.0.0.0/30", "10.0.0.4/30", "10.0.0.2/31"]) = .ok () ∧
      ¬ ["10.0.0.0/30", "10.0.0.4/30", "10.0.0.2/31"].Pairwise (Apart texts) := by
  refine ⟨by decide, fun h => ?_⟩
  have hapart := List.rel_of_pairwise_cons h (List.mem_cons_of_mem _ List.mem_cons_self)
  exact hapart 0x0a000002#32 ⟨⟨.v4 ⟨0x0a000000#32, 30, by decide⟩, by decide,
    by decide⟩, .v4 ⟨0x0a000002#32, 31, by decide⟩, by decide, by decide⟩

end NetworkSetting

end Harvester
