import Harvester.Setting.NetworkRange

/-!
# Networks that overlap

`checkNetworkOverlap` of `pkg/webhook/resources/setting/validator.go` refuses a network that shares
addresses with another one.  When the network that is validated has no IPv6 range, the usable
addresses of both networks are enumerated; when it has one, the ranges are compared as prefixes.

The enumeration leaves out the network and the broadcast address of a range, and begins an exclude
at the address that it is written with; the comparison does neither, refuses texts that the
enumeration reads, and takes an IPv4 range with mapped addresses for another family.  `agrees_iff`
says for exactly which networks none of this matters; `order_matters` are two networks that overlap
or not depending on which is validated.
-/

namespace Harvester

namespace NetworkSetting

open Control Net PrefixCover

/-! ### The code -/

/-- The addresses have one in common. -/
def meet (ips ips' : List IP) : Bool := ips.any ips'.contains

section

variable (r : AddrReader) (c : Config)

/-- Two ranges overlap. -/
def checkPrefixOverlap (range1 : String) (excludes1 : List String) (range2 : String)
    (excludes2 : List String) : Except Failure Bool :=
  match r.parsePrefix range1 with
  | none => .error (.invalidPrefix range1)
  | some p1 =>
    match r.parsePrefix range2 with
    | none => .error (.invalidPrefix range2)
    | some p2 =>
      if p1.masked.overlaps p2.masked = false then .ok false
      else
        let intersection := if p1.masked.bits < p2.masked.bits then p2.masked else p1.masked
        match isCoveredByPrefixes r intersection (excludes1 ++ excludes2) with
        | none => .error .panics
        | some covered => .ok (!covered)

/-- Two windows overlap. -/
def checkV6RangeOverlap (start1 end1 start2 end2 : String) : Except Failure Bool := do
  let s1 ← parseAddr r "rangeV6Start" start1
  let e1 ← parseAddr r "rangeV6End" end1
  let s2 ← parseAddr r "rangeV6Start" start2
  let e2 ← parseAddr r "rangeV6End" end2
  return s1.le e2 && s2.le e1

/-- The IPv4 ranges of two networks, as prefixes. -/
def comparePrefixes (c c' : Config) : Except Failure Bool :=
  if c.range ≠ "" ∧ c'.range ≠ "" then checkPrefixOverlap r c.range c.exclude c'.range c'.exclude
  else .ok false

/-- The IPv6 windows of two networks. -/
def compareWindows (c c' : Config) : Except Failure Bool :=
  if c.rangeV6Start ≠ "" ∧ c.rangeV6End ≠ "" ∧ c'.rangeV6Start ≠ "" ∧ c'.rangeV6End ≠ "" then
    checkV6RangeOverlap r c.rangeV6Start c.rangeV6End c'.rangeV6Start c'.rangeV6End
  else .ok false

/-- The comparison of prefixes. -/
def checkNetworkOverlapWithArithmetic (r : AddrReader) (name : String) (c : Config) :
    List (String × Option Config) → Except Failure Unit
  | [] => .ok ()
  | (_, none) :: others => checkNetworkOverlapWithArithmetic r name c others
  | (name', some c') :: others => do
    let overlaps ← comparePrefixes r c c'
    if overlaps then throw (.overlapped name name')
    else
      let overlaps ← compareWindows r c c'
      if overlaps then throw (.overlapped name name')
      else checkNetworkOverlapWithArithmetic r name c others

/-- The loop of the enumeration. -/
def compareUsable (r : AddrReader) (name : String) (ips : List IP) :
    List (String × Option Config) → Except Failure Unit
  | [] => .ok ()
  | (_, none) :: others => compareUsable r name ips others
  | (name', some c') :: others => do
    let ips' ← getUsableIPAddresses r c'.range c'.exclude
    if meet ips ips' then throw (.overlapped name name') else compareUsable r name ips others

/-- The other networks come in some order, and are missing when they are not configured. -/
def checkNetworkOverlap (name : String) (config : Option Config)
    (others : List (String × Option Config)) : Except Failure Unit :=
  match config with
  | none => .ok ()
  | some c =>
    if c.rangeV6 ≠ "" then checkNetworkOverlapWithArithmetic r name c others
    else do
      let ips ← getUsableIPAddresses r c.range c.exclude
      compareUsable r name ips others

/-! ### What the checks are for -/

/-- The address is in the range and not excluded. -/
def Free (a : BitVec 32) : Prop :=
  InRange r c a ∧ ∀ exclude ∈ c.exclude, ¬ Covers r exclude a

/-- The network can use the IPv4 address. -/
def Usable (a : BitVec 32) : Prop := Free r c a ∧ ¬ Edge r c a

/-- The network can use the IPv6 address. -/
def UsableV6 (a : BitVec 128) : Prop :=
  c.rangeV6 ≠ "" ∧ ∃ first last, r.parseAddr c.rangeV6Start.toList = some (.v6 first "") ∧
    r.parseAddr c.rangeV6End.toList = some (.v6 last "") ∧
    first.toNat ≤ a.toNat ∧ a.toNat ≤ last.toNat

/-- Both networks can use some IPv4 address. -/
def Shares4 (c c' : Config) : Prop := ∃ a, Usable r c a ∧ Usable r c' a

/-- Both networks can use some address. -/
def Shares (c c' : Config) : Prop :=
  Shares4 r c c' ∨ ∃ a, UsableV6 r c a ∧ UsableV6 r c' a

/-- The check answers the question. -/
def Decides (x : Except Failure Unit) (p : Prop) : Prop :=
  (p ∧ ∃ name other, x = .error (.overlapped name other)) ∨ (¬ p ∧ x = .ok ())

/-- **The verdict is right when the first of two networks is validated**, and each of the two ways
gives the right verdict on their IPv4 ranges. -/
structure AgreesFrom (name name' : String) (c c' : Config) : Prop where
  verdict : Decides (checkNetworkOverlap r name (some c) [(name', some c')]) (Shares r c c')
  enumeration : ∃ ips ips', getUsableIPAddresses r c.range c.exclude = .ok ips ∧
    getUsableIPAddresses r c'.range c'.exclude = .ok ips' ∧
    (meet ips ips' = true ↔ Shares4 r c c')
  arithmetic : ∃ overlaps, comparePrefixes r c c' = .ok overlaps ∧
    (overlaps = true ↔ Shares4 r c c')

/-- The verdict is right whichever of two networks is validated. -/
def Agrees (name name' : String) (c c' : Config) : Prop :=
  AgreesFrom r name name' c c' ∧ AgreesFrom r name' name c' c

/-! ### When they are right -/

/-- Both ranges are read as prefixes of one family. -/
def SameFamily (c c' : Config) : Prop :=
  ∃ p p', r.parsePrefix c.range = some p ∧ r.parsePrefix c'.range = some p' ∧ p.bitLen = p'.bitLen

/-- A network without IPv6 has no window that would meet the one of the other network. -/
def NoStrayWindow (c c' : Config) : Prop :=
  c.rangeV6 ≠ "" → c'.rangeV6 = "" → c'.rangeV6Start ≠ "" → c'.rangeV6End ≠ "" →
    Shares4 r c c' ∨ ∃ s e s' e', r.parseAddr c.rangeV6Start.toList = some s ∧
      r.parseAddr c.rangeV6End.toList = some e ∧ r.parseAddr c'.rangeV6Start.toList = some s' ∧
      r.parseAddr c'.rangeV6End.toList = some e' ∧ ¬ (s.le e' = true ∧ s'.le e = true)

/-- **The networks for which the difference does not matter.** -/
structure Unambiguous (c c' : Config) : Prop where
  /-- The lengths have no leading zeros. -/
  readable : r.parsePrefix c.range ≠ none ∧ r.parsePrefix c'.range ≠ none
  /-- No address is shared by ranges that are written in different families. -/
  family : SameFamily r c c' ∨ ¬ ∃ a, Usable r c a ∧ Usable r c' a
  /-- What is left of the common part is not just network and broadcast addresses. -/
  edges : SameFamily r c c' → (∃ a, Free r c a ∧ Free r c' a) → ∃ a, Usable r c a ∧ Usable r c' a
  /-- What is left of the common part is not just addresses before the ones that the excludes are
  written with. -/
  written : (∃ a, InRange r c a ∧ InRange r c' a ∧ ¬ Edge r c a ∧ ¬ Edge r c' a ∧
      (∀ exclude ∈ c.exclude, ¬ CoversFrom r exclude a) ∧
      ∀ exclude ∈ c'.exclude, ¬ CoversFrom r exclude a) →
    ∃ a, Usable r c a ∧ Usable r c' a
  windows : NoStrayWindow r c c' ∧ NoStrayWindow r c' c

end

variable {r : AddrReader} {c c' : Config} {p p' q : Prefix} {b b' e : Block 32}
  {exclude name name' : String} {a x : BitVec 32}

theorem shares4_comm : Shares4 r c c' ↔ Shares4 r c' c := exists_congr fun _ => and_comm

/-! ### Addresses of one family -/

/-- An IPv4 address, as an address of the family of a prefix. -/
def embed : Prefix → BitVec 32 → Addr
  | .v4 _, x => .v4 x
  | .v6 _, x => .v6 (mapped x) ""

theorem embed_injective (p : Prefix) : Function.Injective (embed p) := by
  intro x y h
  cases p with
  | v4 p => exact Addr.v4.inj h
  | v6 p => exact mapped_injective (Addr.v6.inj h).1

theorem embed_eq (h : p.bitLen = q.bitLen) : embed p = embed q := by
  cases p <;> cases q <;> first | rfl | (simp [Prefix.bitLen] at h)

theorem bitLen_eq_of_overlaps (h : p.overlaps q = true) : p.bitLen = q.bitLen := by
  cases p <;> cases q <;> first | rfl | cases h

theorem contains_iff_embed (hb : p.network4 = some b) {addr : Addr} :
    p.contains addr = true ↔ ∃ x, addr = embed p x ∧ b.contains x = true := by
  cases p with
  | v4 q =>
    cases hb
    cases addr with
    | v4 x | v6 ip zone => simp [Prefix.contains, embed]
  | v6 q =>
    obtain ⟨haddr, hbits⟩ := Prefix.network4_v6 hb
    cases addr with
    | v4 x => simp [Prefix.contains, embed]
    | v6 ip zone =>
      simp only [Prefix.contains, Bool.and_eq_true, decide_eq_true_iff,
        contains_mapped haddr hbits, embed, Addr.v6.injEq]
      constructor
      · rintro ⟨hzone, x, hx, hc⟩
        exact ⟨x, ⟨hx, hzone⟩, hc⟩
      · rintro ⟨x, ⟨hx, hzone⟩, hc⟩
        exact ⟨hzone, x, hx, hc⟩

theorem contains_embed (hb : p.network4 = some b) :
    p.contains (embed p x) = true ↔ b.contains x = true := by
  rw [contains_iff_embed hb]
  exact ⟨fun ⟨y, hy, hc⟩ => embed_injective p hy ▸ hc, fun hc => ⟨x, rfl, hc⟩⟩

/-- For the excludes of a range, prefixes and networks cover the same addresses. -/
theorem excludes_iff_covers (h : ValidExclude r p exclude q) (hb : p.network4 = some b) :
    Excludes r exclude (embed p x) ↔ Covers r exclude x := by
  obtain ⟨e, he, -⟩ := h.network4 hb
  have hcidr : r.cidrPrefix exclude = some q := AddrReader.cidrPrefix_of_parsePrefix h.read
  simp only [Excludes, Covers, h.read, hcidr, Option.some.injEq, exists_eq_left',
    Prefix.contains_masked, contains16_mapped he]
  rw [embed_eq (bitLen_eq_of_overlaps h.overlaps), contains_embed he]

/-! ### The comparison of prefixes -/

theorem contains_intersection (h : p.overlaps q = true) {addr : Addr} :
    (if p.bits < q.bits then q else p).contains addr = true ↔
      p.contains addr = true ∧ q.contains addr = true := by
  split
  · next hlt =>
    exact ⟨fun ha => ⟨Prefix.subset_of_overlaps h (Nat.le_of_lt hlt) ha, ha⟩, And.right⟩
  · next hge =>
    rw [Prefix.overlaps_comm] at h
    exact ⟨fun ha => ⟨ha, Prefix.subset_of_overlaps h (Nat.not_lt.1 hge) ha⟩, And.left⟩

theorem free_iff (h : ValidRange r c p) :
    Free r c a ↔ p.masked.contains (embed p a) = true ∧
      ∀ exclude ∈ c.exclude, ¬ Excludes r exclude (embed p a) := by
  obtain ⟨b, hb, -⟩ := h.network4
  rw [Free, inRange_iff h.read hb, Prefix.contains_masked, contains_embed hb]
  refine and_congr_right fun _ => forall₂_congr fun exclude he => ?_
  obtain ⟨q, -, hq⟩ := h.excludes exclude he
  rw [excludes_iff_covers hq hb]

/-- **The comparison finds the addresses that are not excluded**, edges or not. -/
theorem checkPrefixOverlap_eq (h : ValidRange r c p) (h' : ValidRange r c' p')
    (hp : r.parsePrefix c.range = some p) (hp' : r.parsePrefix c'.range = some p') :
    ∃ overlaps, checkPrefixOverlap r c.range c.exclude c'.range c'.exclude = .ok overlaps ∧
      (overlaps = true ↔ p.bitLen = p'.bitLen ∧ ∃ a, Free r c a ∧ Free r c' a) := by
  obtain ⟨b, hb, -⟩ := h.network4
  simp only [checkPrefixOverlap, hp, hp', free_iff h, free_iff h']
  cases hoverlaps : p.masked.overlaps p'.masked with
  | false =>
    refine ⟨false, by rw [if_pos rfl], ?_⟩
    simp only [Bool.false_eq_true, false_iff, not_and]
    rintro hlen ⟨a, ⟨ha, -⟩, ha', -⟩
    rw [← embed_eq hlen] at ha'
    rw [Prefix.overlaps_of_contains ha ha'] at hoverlaps
    cases hoverlaps
  | true =>
    have hlen : p.bitLen = p'.bitLen := by simpa using bitLen_eq_of_overlaps hoverlaps
    have hmasked : (if p.masked.bits < p'.masked.bits then p'.masked else p.masked).masked =
        if p.masked.bits < p'.masked.bits then p'.masked else p.masked := by
      split <;> exact Prefix.masked_masked _
    obtain ⟨⟨covered, hcovered, hiff⟩, -⟩ :=
      isCoveredByPrefixes_iff r hmasked (c.exclude ++ c'.exclude)
    refine ⟨!covered, by rw [if_neg (by simp), hcovered], ?_⟩
    rw [Bool.not_eq_true', ← Bool.not_eq_true, hiff, and_iff_right hlen, ← embed_eq hlen]
    simp only [contains_intersection hoverlaps, not_forall, not_exists, not_and,
      List.forall_mem_append]
    constructor
    · rintro ⟨addr, ⟨hc, hc'⟩, hfree, hfree'⟩
      obtain ⟨a, rfl, -⟩ := (contains_iff_embed hb).1 (Prefix.contains_masked.1 hc)
      exact ⟨a, ⟨hc, hfree⟩, hc', hfree'⟩
    · rintro ⟨a, ⟨hc, hfree⟩, hc', hfree'⟩
      exact ⟨embed p a, ⟨hc, hc'⟩, hfree, hfree'⟩

theorem ValidRange.range_ne (h : ValidRange r c p) : c.range ≠ "" := by
  intro hempty
  have := h.read
  rw [hempty] at this
  cases this

theorem ValidRange.parsePrefix_eq (h : ValidRange r c p) (hread : r.parsePrefix c.range ≠ none) :
    r.parsePrefix c.range = some p := by
  obtain ⟨q, hq⟩ := Option.ne_none_iff_exists'.1 hread
  rw [hq, ← h.read, AddrReader.cidrPrefix_of_parsePrefix hq]

theorem arithmetic_iff (h : ValidRange r c p) (h' : ValidRange r c' p') :
    (∃ overlaps, comparePrefixes r c c' = .ok overlaps ∧ (overlaps = true ↔ Shares4 r c c')) ↔
      (r.parsePrefix c.range ≠ none ∧ r.parsePrefix c'.range ≠ none) ∧
      (SameFamily r c c' ∨ ¬ Shares4 r c c') ∧
      (SameFamily r c c' → (∃ a, Free r c a ∧ Free r c' a) → Shares4 r c c') := by
  have hfree : Shares4 r c c' → ∃ a, Free r c a ∧ Free r c' a :=
    fun ⟨a, ha, ha'⟩ => ⟨a, ha.1, ha'.1⟩
  rw [comparePrefixes, if_pos ⟨h.range_ne, h'.range_ne⟩]
  by_cases hread : r.parsePrefix c.range ≠ none ∧ r.parsePrefix c'.range ≠ none
  · have hp := h.parsePrefix_eq hread.1
    have hp' := h'.parsePrefix_eq hread.2
    have hfamily : SameFamily r c c' ↔ p.bitLen = p'.bitLen := by
      simp [SameFamily, hp, hp']
    obtain ⟨overlaps, heq, hiff⟩ := checkPrefixOverlap_eq h h' hp hp'
    simp only [heq, Except.ok.injEq, exists_eq_left', hiff, hfamily, and_iff_right hread]
    by_cases hlen : p.bitLen = p'.bitLen
    · simp only [hlen, true_and, true_or, forall_const]
      exact ⟨Iff.mp, fun hshares => ⟨hshares, hfree⟩⟩
    · simp [hlen]
  · refine iff_of_false ?_ fun hand => hread hand.1
    rintro ⟨overlaps, heq, -⟩
    rw [checkPrefixOverlap] at heq
    rw [not_and_or, not_not, not_not] at hread
    rcases hread with hnone | hnone
    · rw [hnone] at heq
      cases heq
    · rw [hnone] at heq
      split at heq <;> cases heq

/-! ### The enumeration -/

/-- Both networks use some address as far as the enumeration can see. -/
def Enumerated (r : AddrReader) (c c' : Config) : Prop :=
  ∃ a, InRange r c a ∧ InRange r c' a ∧ ¬ Edge r c a ∧ ¬ Edge r c' a ∧
    (∀ exclude ∈ c.exclude, ¬ CoversFrom r exclude a) ∧
    ∀ exclude ∈ c'.exclude, ¬ CoversFrom r exclude a

theorem enumeration_iff (h : ValidRange r c p) (h' : ValidRange r c' p') :
    ∃ ips ips', getUsableIPAddresses r c.range c.exclude = .ok ips ∧
      getUsableIPAddresses r c'.range c'.exclude = .ok ips' ∧
      (meet ips ips' = true ↔ Enumerated r c c') := by
  obtain ⟨ips, hips, -, hmem⟩ := mem_usableIPAddresses h.toMaskedRange h.readable
  obtain ⟨ips', hips', -, hmem'⟩ := mem_usableIPAddresses h'.toMaskedRange h'.readable
  refine ⟨ips, ips', hips, hips', ?_⟩
  simp only [meet, List.any_eq_true, List.contains_iff_mem, hmem, hmem']
  constructor
  · rintro ⟨ip, ⟨a, rfl, hin, hedge, hfree⟩, a', heq, hin', hedge', hfree'⟩
    obtain rfl := mapped_injective heq
    exact ⟨a, hin, hin', hedge, hedge', hfree, hfree'⟩
  · rintro ⟨a, hin, hin', hedge, hedge', hfree, hfree'⟩
    exact ⟨mapped a, ⟨a, rfl, hin, hedge, hfree⟩, a, rfl, hin', hedge', hfree'⟩

theorem Shares4.enumerated (h : Shares4 r c c') : Enumerated r c c' :=
  h.imp fun _ ⟨⟨hfree, hedge⟩, hfree', hedge'⟩ => ⟨hfree.1, hfree'.1, hedge, hedge',
    fun exclude he hcov => hfree.2 exclude he hcov.covers,
    fun exclude he hcov => hfree'.2 exclude he hcov.covers⟩

/-! ### The windows -/

theorem usableV6_iff {first last first' last' : BitVec 128} (hv6 : c.rangeV6 ≠ "")
    (hv6' : c'.rangeV6 ≠ "") (h : ValidWindow r c first last) (h' : ValidWindow r c' first' last') :
    (∃ a, UsableV6 r c a ∧ UsableV6 r c' a) ↔
      first.toNat ≤ last'.toNat ∧ first'.toNat ≤ last.toNat := by
  have hordered := h.ordered
  have hordered' := h'.ordered
  have huse : ∀ a, UsableV6 r c a ↔ first.toNat ≤ a.toNat ∧ a.toNat ≤ last.toNat := fun a => by
    simp [UsableV6, hv6, h.start, h.finish]
  have huse' : ∀ a, UsableV6 r c' a ↔ first'.toNat ≤ a.toNat ∧ a.toNat ≤ last'.toNat := fun a => by
    simp [UsableV6, hv6', h'.start, h'.finish]
  simp only [huse, huse']
  constructor
  · omega
  intro hmeet
  rcases Nat.le_total first.toNat first'.toNat with hle | hle
  · exact ⟨first', by omega, by omega⟩
  · exact ⟨first, by omega, by omega⟩

theorem le_iff_toNat {a b : BitVec 128} :
    (Addr.v6 a "").le (.v6 b "") = true ↔ a.toNat ≤ b.toNat := by
  simp only [Addr.le, Addr.bitLen, Addr.toNat, Addr.zone, decide_eq_true_iff]
  simp only [le_refl, and_true, true_and]
  omega

theorem compareWindows_eq_ok {overlaps : Bool} (hgiven : c.rangeV6Start ≠ "" ∧ c.rangeV6End ≠ "")
    (hgiven' : c'.rangeV6Start ≠ "" ∧ c'.rangeV6End ≠ "") :
    compareWindows r c c' = .ok overlaps ↔
      ∃ s e s' e', r.parseAddr c.rangeV6Start.toList = some s ∧
        r.parseAddr c.rangeV6End.toList = some e ∧ r.parseAddr c'.rangeV6Start.toList = some s' ∧
        r.parseAddr c'.rangeV6End.toList = some e' ∧ (s.le e' && s'.le e) = overlaps := by
  rw [compareWindows, if_pos ⟨hgiven.1, hgiven.2, hgiven'.1, hgiven'.2⟩]
  simp [checkV6RangeOverlap, except_bind_eq_ok, parseAddr_eq_ok, pure, Except.pure]

/-! ### The verdict -/

theorem decides_of_overlap {p : Prop} {name name' : String} (h : p) :
    Decides (.error (.overlapped name name')) p :=
  .inl ⟨h, name, name', rfl⟩

theorem checkNetworkOverlap_enumeration {ips ips' : List IP} (hv6 : c.rangeV6 = "")
    (hips : getUsableIPAddresses r c.range c.exclude = .ok ips)
    (hips' : getUsableIPAddresses r c'.range c'.exclude = .ok ips')
    (hmeet : meet ips ips' = true ↔ Shares4 r c c') :
    Decides (checkNetworkOverlap r name (some c) [(name', some c')]) (Shares r c c') := by
  have hshares : Shares r c c' ↔ Shares4 r c c' :=
    or_iff_left fun ⟨_, ha, _⟩ => ha.1 hv6
  have heq : checkNetworkOverlap r name (some c) [(name', some c')] =
      if meet ips ips' then .error (.overlapped name name') else .ok () := by
    simp only [checkNetworkOverlap, hv6, hips, compareUsable, hips']
    rfl
  rw [heq, hshares]
  split
  · next h => exact decides_of_overlap (hmeet.1 h)
  · next h => exact .inr ⟨fun hs => h (hmeet.2 hs), rfl⟩

theorem checkNetworkOverlap_arithmetic {overlaps : Bool} (hv6 : c.rangeV6 ≠ "")
    (heq : comparePrefixes r c c' = .ok overlaps) :
    checkNetworkOverlap r name (some c) [(name', some c')] =
      if overlaps then .error (.overlapped name name')
      else compareWindows r c c' >>= fun meets =>
        if meets then .error (.overlapped name name') else .ok () := by
  rw [checkNetworkOverlap, if_pos hv6, checkNetworkOverlapWithArithmetic, heq]
  cases overlaps <;> rfl

/-- **The verdict of the comparison is right when there is no stray window.** -/
theorem verdict_iff {overlaps : Bool} (hv6 : c.rangeV6 ≠ "")
    (hwindow : ∃ first last, ValidWindow r c first last)
    (hwindow' : c'.rangeV6 ≠ "" → ∃ first last, ValidWindow r c' first last)
    (heq : comparePrefixes r c c' = .ok overlaps) (hiff : overlaps = true ↔ Shares4 r c c') :
    Decides (checkNetworkOverlap r name (some c) [(name', some c')]) (Shares r c c') ↔
      NoStrayWindow r c c' := by
  obtain ⟨first, last, hw⟩ := hwindow
  rw [checkNetworkOverlap_arithmetic hv6 heq]
  cases overlaps with
  | true =>
    have hshares := hiff.1 rfl
    exact iff_of_true (decides_of_overlap (.inl hshares)) fun _ _ _ _ => .inl hshares
  | false =>
    have hnot : ¬ Shares4 r c c' := fun h => Bool.false_ne_true (hiff.2 h)
    by_cases hv6' : c'.rangeV6 = ""
    · have hnone : ¬ Shares r c c' := fun h => h.elim hnot fun ⟨_, _, ha⟩ => ha.1 hv6'
      by_cases hgiven : c'.rangeV6Start ≠ "" ∧ c'.rangeV6End ≠ ""
      · have hdecides : Decides (compareWindows r c c' >>= fun meets =>
            if meets then .error (.overlapped name name') else .ok ()) (Shares r c c') ↔
              compareWindows r c c' = .ok false := by
          simp only [Decides, hnone, false_and, not_false_eq_true, true_and, false_or,
            except_bind_eq_ok]
          constructor
          · rintro ⟨_ | _, hmeets, h⟩
            · exact hmeets
            · cases h
          · exact fun hmeets => ⟨false, hmeets, rfl⟩
        simp [hdecides, compareWindows_eq_ok hw.given hgiven, NoStrayWindow,
          hv6, hv6', hgiven, hnot]
      · have hskip : compareWindows r c c' = .ok false := by
          rw [compareWindows, if_neg fun h => hgiven h.2.2]
        rw [hskip]
        exact iff_of_true (.inr ⟨hnone, rfl⟩) fun _ _ hs he => absurd ⟨hs, he⟩ hgiven
    · obtain ⟨first', last', hw'⟩ := hwindow' hv6'
      rw [(compareWindows_eq_ok hw.given hw'.given).2
        ⟨_, _, _, _, hw.start, hw.finish, hw'.start, hw'.finish, rfl⟩]
      refine iff_of_true ?_ fun _ h => absurd h hv6'
      have hshares : Shares r c c' ↔
          first.toNat ≤ last'.toNat ∧ first'.toNat ≤ last.toNat :=
        (or_iff_right hnot).trans (usableV6_iff hv6 hv6' hw hw')
      rw [hshares, ← le_iff_toNat, ← le_iff_toNat, ← Bool.and_eq_true]
      cases hmeet :
        (Addr.v6 first "").le (.v6 last' "") && (Addr.v6 first' "").le (.v6 last "") with
      | true => exact decides_of_overlap rfl
      | false => exact .inr ⟨Bool.false_ne_true, rfl⟩

/-- What the checks make sure of a network. -/
structure Valid (r : AddrReader) (c : Config) (p : Prefix) : Prop where
  range : ValidRange r c p
  window : c.rangeV6 ≠ "" → ∃ first last, ValidWindow r c first last

theorem agreesFrom_iff (h : Valid r c p) (h' : Valid r c' p') :
    AgreesFrom r name name' c c' ↔
      (∃ overlaps, comparePrefixes r c c' = .ok overlaps ∧ (overlaps = true ↔ Shares4 r c c')) ∧
      (Enumerated r c c' → Shares4 r c c') ∧ NoStrayWindow r c c' := by
  obtain ⟨ips, ips', hips, hips', hmeet⟩ := enumeration_iff h.range h'.range
  constructor
  · rintro ⟨hverdict, ⟨jps, jps', hjps, hjps', henum⟩, overlaps, heq, hiff⟩
    obtain rfl := Except.ok.inj (hips.symm.trans hjps)
    obtain rfl := Except.ok.inj (hips'.symm.trans hjps')
    refine ⟨⟨overlaps, heq, hiff⟩, fun ha => henum.1 (hmeet.2 ha), fun hv6 => ?_⟩
    exact (verdict_iff hv6 (h.window hv6) h'.window heq hiff).1 hverdict hv6
  · rintro ⟨⟨overlaps, heq, hiff⟩, hwritten, hstray⟩
    have henum : meet ips ips' = true ↔ Shares4 r c c' :=
      ⟨fun h => hwritten (hmeet.1 h), fun h => hmeet.2 h.enumerated⟩
    refine ⟨?_, ⟨ips, ips', hips, hips', henum⟩, overlaps, heq, hiff⟩
    by_cases hv6 : c.rangeV6 = ""
    · exact checkNetworkOverlap_enumeration hv6 hips hips' henum
    · exact (verdict_iff hv6 (h.window hv6) h'.window heq hiff).2 hstray

theorem Unambiguous.symm (h : Unambiguous r c c') : Unambiguous r c' c := by
  have hfamily : SameFamily r c' c → SameFamily r c c' :=
    fun ⟨p, p', hp, hp', hlen⟩ => ⟨p', p, hp', hp, hlen.symm⟩
  have hfamily' : SameFamily r c c' → SameFamily r c' c :=
    fun ⟨p, p', hp, hp', hlen⟩ => ⟨p', p, hp', hp, hlen.symm⟩
  refine ⟨h.readable.symm, ?_, fun hf ⟨a, ha, ha'⟩ => ?_, fun ⟨a, ha⟩ => ?_, h.windows.symm⟩
  · exact h.family.imp hfamily' fun hn ⟨a, ha, ha'⟩ => hn ⟨a, ha', ha⟩
  · exact shares4_comm.1 (h.edges (hfamily hf) ⟨a, ha', ha⟩)
  · obtain ⟨hin, hin', hedge, hedge', hfree, hfree'⟩ := ha
    exact shares4_comm.1 (h.written ⟨a, hin', hin, hedge', hedge, hfree', hfree⟩)

/-- **The verdict is right exactly for unambiguous networks.** -/
theorem agrees_iff {cluster : Cluster} {setting setting' : SettingName}
    (h : validateNetworkHelper r cluster setting c = .ok ())
    (h' : validateNetworkHelper r cluster setting' c' = .ok ()) :
    Agrees r setting.text setting'.text c c' ↔ Unambiguous r c c' := by
  obtain ⟨⟨p, hp⟩, hwindow⟩ := validateNetworkHelper_eq_ok h
  obtain ⟨⟨p', hp'⟩, hwindow'⟩ := validateNetworkHelper_eq_ok h'
  have hvalid : Valid r c p := ⟨hp, hwindow⟩
  have hvalid' : Valid r c' p' := ⟨hp', hwindow'⟩
  rw [Agrees, agreesFrom_iff hvalid hvalid', agreesFrom_iff hvalid' hvalid, arithmetic_iff hp hp',
    arithmetic_iff hp' hp]
  constructor
  · rintro ⟨⟨⟨hread, hfamily, hedges⟩, hwritten, hstray⟩, -, -, hstray'⟩
    exact ⟨hread, hfamily, hedges, hwritten, hstray, hstray'⟩
  intro hu
  have hs := hu.symm
  exact ⟨⟨⟨hu.readable, hu.family, hu.edges⟩, hu.written, hu.windows.1⟩,
    ⟨hs.readable, hs.family, hs.edges⟩, hs.written, hs.windows.1⟩

namespace Sample

def texts : AddrReader := .ofTable
  [("10.0.0.0", .v4 0x0a000000#32), ("10.0.0.1", .v4 0x0a000001#32),
    ("10.0.0.2", .v4 0x0a000002#32),
    ("10.0.0.4", .v4 0x0a000004#32), ("10.0.1.0", .v4 0x0a000100#32),
    ("fd00::", .v6 0xfd000000000000000000000000000000#128 ""),
    ("fd00::10", .v6 0xfd000000000000000000000000000010#128 ""),
    ("fd00::ff", .v6 0xfd0000000000000000000000000000ff#128 "")] (by decide +kernel)

/-- A cluster with both families and one node with one disk. -/
def oneNode : Cluster where
  isClusterDualStack := .ok true
  checkVlanStatusReady _ := .ok ()
  checkVCSpansAllNodes _ := .ok ()
  checkExclusiveVlan _ := .ok ()
  lhNodeDisks := .ok [1]
  isShareStorageNetwork := .ok false
  countNonWitnessNodes := .ok 1

/-- A storage network with both families and half of its range excluded. -/
def storage : Config :=
  ⟨"vlan1", 100, false, "10.0.0.0/28", ["10.0.0.1/32", "10.0.0.2/31", "10.0.0.4/30"],
    "fd00::/64", "fd00::10", "fd00::ff"⟩

/-- A network for the migration of VMs. -/
def migration (range : String) : Config := ⟨"vlan1", 200, false, range, [], "", "", ""⟩

end Sample

open Sample in
theorem agrees_iff_apart :
    validateNetworkHelper texts oneNode .storageNetwork storage = .ok () ∧
      validateNetworkHelper texts oneNode .vmMigrationNetwork (migration "10.0.1.0/29") = .ok () ∧
      Agrees texts "storage-network" "vm-migration-network" storage (migration "10.0.1.0/29") := by
  have hvalid : validateNetworkHelper texts oneNode .storageNetwork storage = .ok () := by
    decide
  have hvalid' : validateNetworkHelper texts oneNode .vmMigrationNetwork
      (migration "10.0.1.0/29") = .ok () := by
    decide
  have hread : texts.parsePrefix storage.range = some (.v4 ⟨0x0a000000#32, 28, by decide⟩) := by
    decide
  have hread' : texts.parsePrefix (migration "10.0.1.0/29").range =
      some (.v4 ⟨0x0a000100#32, 29, by decide⟩) := by
    decide
  have hapart : ∀ a, ¬ (InRange texts storage a ∧ InRange texts (migration "10.0.1.0/29") a) := by
    rintro a ⟨ha, ha'⟩
    rw [inRange_iff (AddrReader.cidrPrefix_of_parsePrefix hread) rfl] at ha
    rw [inRange_iff (AddrReader.cidrPrefix_of_parsePrefix hread') rfl] at ha'
    exact absurd (Block.overlaps_of_contains ha ha') (by decide)
  refine ⟨hvalid, hvalid', (agrees_iff hvalid hvalid').2 ⟨?_, ?_, ?_, ?_, ?_, ?_⟩⟩
  · exact ⟨Option.some_ne_none _, Option.some_ne_none _⟩
  · exact .inl ⟨_, _, hread, hread', rfl⟩
  · rintro - ⟨a, ha, ha'⟩
    exact absurd ⟨ha.1, ha'.1⟩ (hapart a)
  · rintro ⟨a, hin, hin', -⟩
    exact absurd ⟨hin, hin'⟩ (hapart a)
  · intro _ _ hstart
    exact absurd rfl hstart
  · intro hv6
    exact absurd rfl hv6

open Sample in
/-- Two networks that are accepted in one order and not in the other. -/
theorem order_matters :
    validateNetworkHelper texts oneNode .storageNetwork storage = .ok () ∧
      validateNetworkHelper texts oneNode .vmMigrationNetwork (migration "10.0.0.0/29") = .ok () ∧
      checkNetworkOverlap texts "storage-network" (some storage)
        [("vm-migration-network", some (migration "10.0.0.0/29"))] =
          .error (.overlapped "storage-network" "vm-migration-network") ∧
      checkNetworkOverlap texts "vm-migration-network" (some (migration "10.0.0.0/29"))
        [("storage-network", some storage)] = .ok () := by
  decide +kernel

end NetworkSetting

end Harvester
