import Mathlib.Data.String.Basic
import Harvester.Net.Block

/-!
# Addresses and prefixes of Go

The packages `net/netip` and `net` of Go: IPv4 and IPv6 addresses, prefixes of them, and the
addresses of 16 octets of the older package, in which an IPv4 address is written as an IPv6 address
(`mapped`).

How the text of an address is read is left open (`AddrReader`).  The two packages differ in the text
of a prefix: `parsePrefix` refuses a length with leading zeros, which `parseCIDR` accepts.
-/

namespace Harvester

namespace Net

/-- `netip.Addr`. -/
inductive Addr where
  | v4 (a : BitVec 32)
  | v6 (a : BitVec 128) (zone : String)
  deriving DecidableEq, Repr

namespace Addr

/-- The number of bits. -/
def bitLen : Addr → Nat
  | .v4 _ => 32
  | .v6 _ _ => 128

/-- The zone of an address. -/
def zone : Addr → String
  | .v4 _ => ""
  | .v6 _ zone => zone

/-- The address as a number. -/
def toNat : Addr → Nat
  | .v4 a => a.toNat
  | .v6 a _ => a.toNat

/-- `Compare(…) <= 0`: by the length, the value and the zone. -/
def le (a b : Addr) : Bool :=
  a.bitLen < b.bitLen ∨ a.bitLen = b.bitLen ∧
    (a.toNat < b.toNat ∨ a.toNat = b.toNat ∧ a.zone ≤ b.zone)

end Addr

/-- A valid `netip.Prefix`. -/
inductive Prefix where
  | v4 (p : Block 32)
  | v6 (p : Block 128)
  deriving DecidableEq

namespace Prefix

/-- The address of a prefix. -/
def addr : Prefix → Addr
  | .v4 p => .v4 p.addr
  | .v6 p => .v6 p.addr ""

/-- The length of a prefix. -/
def bits : Prefix → Nat
  | .v4 p => p.bits
  | .v6 p => p.bits

/-- The number of bits. -/
def bitLen : Prefix → Nat
  | .v4 _ => 32
  | .v6 _ => 128

/-- The prefix without host bits. -/
def masked : Prefix → Prefix
  | .v4 p => .v4 p.masked
  | .v6 p => .v6 p.masked

/-- No address with a zone is in a prefix. -/
def contains : Prefix → Addr → Bool
  | .v4 p, .v4 a => p.contains a
  | .v6 p, .v6 a zone => zone = "" && p.contains a
  | _, _ => false

/-- The prefixes have a common address. -/
def overlaps : Prefix → Prefix → Bool
  | .v4 p, .v4 q => p.overlaps q
  | .v6 p, .v6 q => p.overlaps q
  | _, _ => false

variable {p q : Prefix} {a : Addr}

theorem bits_le (p : Prefix) : p.bits ≤ p.bitLen := by
  cases p with
  | v4 p | v6 p => exact p.le

@[simp] theorem masked_bits (p : Prefix) : p.masked.bits = p.bits := by cases p <;> rfl

@[simp] theorem masked_bitLen (p : Prefix) : p.masked.bitLen = p.bitLen := by cases p <;> rfl

theorem contains_addr (p : Prefix) : p.contains p.addr = true := by
  cases p with
  | v4 p => exact p.contains_addr
  | v6 p => simpa [contains, addr] using p.contains_addr

theorem contains_masked : p.masked.contains a = true ↔ p.contains a = true := by
  cases p with
  | v4 p =>
    cases a with
    | v4 a => exact Block.contains_masked
    | v6 a zone => rfl
  | v6 p =>
    cases a with
    | v4 a => rfl
    | v6 a zone => simpa [contains, masked] using fun _ => Block.contains_masked

theorem masked_masked (p : Prefix) : p.masked.masked = p.masked := by
  cases p with
  | v4 p => exact congrArg Prefix.v4 (Block.masked_of_masked p).masked_eq
  | v6 p => exact congrArg Prefix.v6 (Block.masked_of_masked p).masked_eq

theorem overlaps_comm (p q : Prefix) : p.overlaps q = q.overlaps p := by
  cases p <;> cases q <;> first | exact Block.overlaps_comm | rfl

theorem subset_of_overlaps (h : p.overlaps q = true) (hbits : p.bits ≤ q.bits)
    (ha : q.contains a = true) : p.contains a = true := by
  cases p with
  | v4 p =>
    cases q with
    | v4 q =>
      cases a with
      | v4 a => exact Block.subset_of_overlaps h hbits ha
      | v6 a zone => exact ha
    | v6 q => cases h
  | v6 p =>
    cases q with
    | v4 q => cases h
    | v6 q =>
      cases a with
      | v4 a => exact ha
      | v6 a zone =>
        simp only [contains, Bool.and_eq_true] at ha ⊢
        exact ⟨ha.1, Block.subset_of_overlaps h hbits ha.2⟩

theorem overlaps_of_contains (hp : p.contains a = true) (hq : q.contains a = true) :
    p.overlaps q = true := by
  cases a with
  | v4 a =>
    cases p <;> cases q <;> first | exact Block.overlaps_of_contains hp hq | cases hp | cases hq
  | v6 a zone =>
    cases p with
    | v4 p => cases hp
    | v6 p =>
      cases q with
      | v4 q => cases hq
      | v6 q =>
        simp only [contains, Bool.and_eq_true] at hp hq
        exact Block.overlaps_of_contains hp.2 hq.2

end Prefix

/-- `netip.PrefixFrom`, when the length is in range.  The zone is dropped. -/
def prefixFrom : Addr → Nat → Option Prefix
  | .v4 a, bits => if h : bits ≤ 32 then some (.v4 ⟨a, bits, h⟩) else none
  | .v6 a _, bits => if h : bits ≤ 128 then some (.v6 ⟨a, bits, h⟩) else none

/-- A reader of addresses like `netip.ParseAddr`.  A slash can only be part of a zone. -/
structure AddrReader where
  parseAddr : List Char → Option Addr
  zone_of_slash : ∀ text a, parseAddr text = some a → '/' ∈ text → a.zone ≠ ""

/-- A reader that knows only some texts. -/
def AddrReader.ofTable (table : List (String × Addr))
    (h : (table.all fun entry => '/' ∉ entry.1.toList) = true) : AddrReader where
  parseAddr text := (table.find? fun entry => entry.1.toList = text).map Prod.snd
  zone_of_slash text a ha hslash := by
    obtain ⟨entry, hentry, -⟩ := Option.map_eq_some_iff.1 ha
    have htext : entry.1.toList = text := by simpa using List.find?_some hentry
    have hplain := List.all_eq_true.1 h entry (List.mem_of_find?_eq_some hentry)
    rw [htext] at hplain
    exact absurd hslash (of_decide_eq_true hplain)

/-- The text before and after the first slash. -/
def cut : List Char → Option (List Char × List Char)
  | [] => none
  | ch :: rest =>
    if ch = '/' then some ([], rest) else (cut rest).map fun parts => (ch :: parts.1, parts.2)

/-- The text before and after the last slash. -/
def cutLast (text : List Char) : Option (List Char × List Char) :=
  (cut text.reverse).map fun parts => (parts.2.reverse, parts.1.reverse)

/-- A number of decimal digits. -/
def decimal (text : List Char) : Option Nat :=
  if text ≠ [] ∧ text.all Char.isDigit then
    some (text.foldl (fun n ch => 10 * n + (ch.toNat - '0'.toNat)) 0)
  else none

/-- There are no leading zeros. -/
def isPlainLength : List Char → Bool
  | first :: _ :: _ => first ≠ '0'
  | _ => true

namespace AddrReader

variable (r : AddrReader)

/-- The prefix that an address and a length stand for. -/
def prefixOf (addr bits : List Char) : Option Prefix :=
  (r.parseAddr addr).bind fun a =>
    if a.zone = "" then (decimal bits).bind (prefixFrom a) else none

/-- `netip.ParsePrefix`. -/
def parsePrefix (text : String) : Option Prefix :=
  (cutLast text.toList).bind fun (addr, bits) =>
    if isPlainLength bits then r.prefixOf addr bits else none

/-- The prefix that `net.ParseCIDR` reads. -/
def cidrPrefix (text : String) : Option Prefix :=
  (cut text.toList).bind fun (addr, bits) => r.prefixOf addr bits

end AddrReader

theorem cut_eq_some {text addr rest : List Char} :
    cut text = some (addr, rest) ↔ text = addr ++ '/' :: rest ∧ '/' ∉ addr := by
  induction text generalizing addr with
  | nil => simp [cut]
  | cons ch text ih =>
    rw [cut]
    split
    · next hch =>
      subst hch
      cases addr with
      | nil => simp
      | cons first addr =>
        simp only [Option.some.injEq, Prod.mk.injEq, reduceCtorEq, false_and, List.mem_cons, not_or,
          false_iff]
        rintro ⟨⟨rfl, -⟩, hne, -⟩
        exact hne rfl
    · next hch =>
      rw [Option.map_eq_some_iff]
      constructor
      · rintro ⟨⟨front, back⟩, hcut, hparts⟩
        obtain ⟨rfl, rfl⟩ := Prod.mk.inj hparts
        obtain ⟨rfl, hfront⟩ := ih.1 hcut
        exact ⟨rfl, by simp [Ne.symm hch, hfront]⟩
      · rintro ⟨htext, haddr⟩
        cases addr with
        | nil => exact absurd (List.cons.inj htext).1 hch
        | cons first addr =>
          obtain ⟨rfl, hrest⟩ := List.cons.inj htext
          have hmem : '/' ∉ addr := fun hmem => haddr (List.mem_cons_of_mem _ hmem)
          exact ⟨(addr, rest), ih.2 ⟨hrest, hmem⟩, rfl⟩

theorem cutLast_eq_some {text addr rest : List Char} :
    cutLast text = some (addr, rest) ↔ text = addr ++ '/' :: rest ∧ '/' ∉ rest := by
  rw [cutLast, Option.map_eq_some_iff]
  constructor
  · rintro ⟨⟨last, front⟩, hcut, hparts⟩
    obtain ⟨rfl, rfl⟩ := Prod.mk.inj hparts
    obtain ⟨htext, hlast⟩ := cut_eq_some.1 hcut
    refine ⟨?_, by simpa using hlast⟩
    simpa using congrArg List.reverse htext
  · rintro ⟨rfl, hrest⟩
    exact ⟨(rest.reverse, addr.reverse), cut_eq_some.2 ⟨by simp, by simpa using hrest⟩, by simp⟩

/-- What `ParsePrefix` reads, `ParseCIDR` reads as well. -/
theorem AddrReader.cidrPrefix_of_parsePrefix {r : AddrReader} {text : String} {p : Prefix}
    (h : r.parsePrefix text = some p) : r.cidrPrefix text = some p := by
  obtain ⟨⟨addr, bits⟩, hcut, hread⟩ := Option.bind_eq_some_iff.1 h
  have hprefix : r.prefixOf addr bits = some p := by
    dsimp only at hread
    split at hread
    · exact hread
    · cases hread
  obtain ⟨a, ha, hbits⟩ := Option.bind_eq_some_iff.1 hprefix
  have hzone : a.zone = "" := by
    by_contra hzone
    rw [if_neg hzone] at hbits
    cases hbits
  have hslash : '/' ∉ addr := fun hmem => r.zone_of_slash addr a ha hmem hzone
  have hfirst : cut text.toList = some (addr, bits) :=
    cut_eq_some.2 ⟨(cutLast_eq_some.1 hcut).1, hslash⟩
  rw [cidrPrefix, hfirst]
  exact hprefix

/-- A `net.IP` of 16 octets. -/
abbrev IP := BitVec 128

/-- `AddrFrom4(a).As16()`. -/
def mapped (a : BitVec 32) : IP := 0xffff#96 ++ a

/-- `IP.To4`. -/
def to4 (ip : IP) : Option (BitVec 32) :=
  if ip.extractLsb' 32 96 = 0xffff#96 then some (ip.extractLsb' 0 32) else none

/-- The address with 16 octets. -/
def Addr.as16 : Addr → IP
  | .v4 a => mapped a
  | .v6 a _ => a

theorem eq_append (ip : IP) : ip = ip.extractLsb' 32 96 ++ ip.extractLsb' 0 32 := by
  rw [BitVec.extractLsb'_append_extractLsb'_eq_extractLsb' (by rfl), BitVec.extractLsb'_eq_self]

theorem to4_eq_some {ip : IP} {a : BitVec 32} : to4 ip = some a ↔ ip = mapped a := by
  unfold to4 mapped
  constructor
  · intro h
    split at h
    · next hhigh =>
      rw [eq_append ip, hhigh, Option.some.inj h]
    · cases h
  · rintro rfl
    rw [if_pos (BitVec.extractLsb'_append_eq_left), BitVec.extractLsb'_append_eq_right]

theorem to4_mapped (a : BitVec 32) : to4 (mapped a) = some a := to4_eq_some.2 rfl

/-- `net.ParseIP`. -/
def parseIP (r : AddrReader) (text : List Char) : Option IP :=
  (r.parseAddr text).bind fun a => if a.zone = "" then some a.as16 else none

theorem parseIP_to4 {r : AddrReader} {text : List Char} :
    ((parseIP r text).bind to4).isNone = false ↔ ∃ a, parseIP r text = some (mapped a) := by
  simp [Option.isSome_iff_exists, Option.bind_eq_some_iff, to4_eq_some]

theorem mapped_injective : Function.Injective mapped := fun a b h =>
  Option.some.inj ((to4_mapped a).symm.trans ((congrArg to4 h).trans (to4_mapped b)))

theorem toNat_mapped (a : BitVec 32) : (mapped a).toNat = 0xffff * 2 ^ 32 + a.toNat := by
  rw [mapped, BitVec.toNat_append, Nat.shiftLeft_eq, Nat.mul_comm,
    ← Nat.two_pow_add_eq_or_of_lt a.isLt]
  rfl

/-- `IPNet.Contains`: an IPv4 address is only compared with an IPv4 network. -/
def Prefix.contains16 (p : Prefix) (ip : IP) : Bool :=
  match p with
  | .v4 p => (to4 ip).any p.contains
  | .v6 p =>
    match to4 p.masked.addr, to4 ip with
    | some network, some a =>
      network &&& (mask 128 p.bits).extractLsb' 0 32 = a &&& (mask 128 p.bits).extractLsb' 0 32
    | none, none => p.contains ip
    | _, _ => false

/-- The network address, as 16 octets. -/
def Prefix.first16 (p : Prefix) : IP := p.masked.addr.as16

/-- The IPv4 network that a prefix, also one of mapped addresses, is for the package `net`. -/
def Prefix.network4 : Prefix → Option (Block 32)
  | .v4 p => some p
  | .v6 p => (to4 p.addr).bind fun a =>
    if 96 ≤ p.bits then some ⟨a, p.bits - 96, by have := p.le; omega⟩ else none

theorem getMsbD_mapped (a : BitVec 32) (i : Nat) :
    (mapped a).getMsbD i = if 96 ≤ i then a.getMsbD (i - 96) else (0xffff#96).getMsbD i := by
  rw [mapped, BitVec.getMsbD_append]

theorem agree_mapped {n : Nat} {a b : BitVec 32} :
    Agree (96 + n) (mapped a) (mapped b) ↔ Agree n a b := by
  constructor
  · intro h i hi
    have hbit := h (96 + i) (by omega)
    rwa [getMsbD_mapped, getMsbD_mapped, if_pos (Nat.le_add_right 96 i),
      if_pos (Nat.le_add_right 96 i), Nat.add_sub_cancel_left] at hbit
  · intro h i hi
    rw [getMsbD_mapped, getMsbD_mapped]
    split
    · exact h (i - 96) (by omega)
    · rfl

theorem eq_mapped_of_agree {ip : IP} {a : BitVec 32} (h : Agree 96 ip (mapped a)) :
    ∃ b, ip = mapped b := by
  refine ⟨ip.extractLsb' 0 32, (eq_append ip).trans (congrArg (· ++ _) ?_)⟩
  refine BitVec.eq_of_getMsbD_eq fun i hi => ?_
  have hbit := h i (by omega)
  rw [getMsbD_mapped, if_neg (by omega)] at hbit
  simpa [hi, show 128 - (128 - i) = i by omega] using hbit

section

variable {p : Prefix} {b : Block 32}

theorem Prefix.network4_v6 {q : Block 128} (h : Prefix.network4 (.v6 q) = some b) :
    q.addr = mapped b.addr ∧ q.bits = 96 + b.bits := by
  obtain ⟨a, ha, hb⟩ := Option.bind_eq_some_iff.1 h
  split at hb
  · cases hb
    exact ⟨to4_eq_some.1 ha, by dsimp only; omega⟩
  · cases hb

/-- A block of mapped addresses holds the addresses that its network holds. -/
theorem contains_mapped {q : Block 128} (haddr : q.addr = mapped b.addr)
    (hbits : q.bits = 96 + b.bits) {ip : IP} :
    q.contains ip = true ↔ ∃ a, ip = mapped a ∧ b.contains a = true := by
  rw [Block.contains_iff, haddr, hbits]
  constructor
  · intro h
    obtain ⟨a, rfl⟩ := eq_mapped_of_agree (h.mono (by omega))
    exact ⟨a, rfl, Block.contains_iff.2 (agree_mapped.1 h)⟩
  · rintro ⟨a, rfl, ha⟩
    exact agree_mapped.2 (Block.contains_iff.1 ha)

theorem masked_mapped {q : Block 128} (haddr : q.addr = mapped b.addr)
    (hbits : q.bits = 96 + b.bits) : q.masked.addr = mapped b.masked.addr := by
  have hq : q.masked.Masked := Block.masked_of_masked q
  obtain ⟨a, ha⟩ : ∃ a, q.masked.addr = mapped a :=
    ((contains_mapped haddr hbits).1
      (Block.contains_masked.1 q.masked.contains_addr)).imp fun _ h => h.1
  have hagree : Agree b.bits a b.masked.addr := by
    have h := Block.contains_iff.1 (Block.contains_masked.1 q.masked.contains_addr)
    rw [ha, haddr, hbits, agree_mapped] at h
    exact h.trans (agree_and_mask b.le).symm
  rw [ha]
  refine congrArg mapped (BitVec.eq_of_getMsbD_eq fun i hi => ?_)
  by_cases hlt : i < b.bits
  · exact hagree i hlt
  · rw [Block.masked_of_masked b i (Nat.not_lt.1 hlt)]
    have hbit := hq (96 + i) (by rw [Block.masked_bits]; omega)
    rwa [ha, getMsbD_mapped, if_pos (Nat.le_add_right 96 i), Nat.add_sub_cancel_left] at hbit

/-- **What an IPv4 network contains.** -/
theorem Prefix.contains16_of_network4 (h : p.network4 = some b) {ip : IP} :
    p.contains16 ip = true ↔ ∃ a, ip = mapped a ∧ b.contains a = true := by
  cases p with
  | v4 q =>
    cases h
    simp only [contains16, Option.any_eq_true]
    exact exists_congr fun a => and_congr_left' to4_eq_some
  | v6 q =>
    obtain ⟨haddr, hbits⟩ := Prefix.network4_v6 h
    have hmask : (mask 128 q.bits).extractLsb' 0 32 = mask 32 b.bits := by
      refine BitVec.eq_of_getMsbD_eq fun i hi => ?_
      rw [BitVec.getMsbD_extractLsb', getMsbD_mask q.le, getMsbD_mask b.le, decide_eq_true hi,
        decide_eq_true (show 0 + 32 - i ≤ 128 by omega), Bool.true_and]
      exact decide_eq_decide.2 (by omega)
    have hnetwork : to4 q.masked.addr = some b.masked.addr :=
      to4_eq_some.2 (masked_mapped haddr hbits)
    cases hip : to4 ip with
    | none =>
      simp only [contains16, hnetwork, hip, Bool.false_eq_true, false_iff]
      rintro ⟨a, rfl, -⟩
      rw [to4_mapped] at hip
      cases hip
    | some a =>
      obtain rfl := to4_eq_some.1 hip
      have hcontains : b.masked.addr &&& mask 32 b.bits = a &&& mask 32 b.bits ↔
          b.contains a = true := by
        rw [agree_iff_and_mask b.le, Block.contains_iff]
        have hmasked : Agree b.bits b.masked.addr b.addr := agree_and_mask b.le
        exact ⟨fun h => h.symm.trans hmasked, fun h => hmasked.trans h.symm⟩
      simp only [contains16, hnetwork, hip, hmask, decide_eq_true_iff, hcontains]
      refine ⟨fun h => ⟨a, rfl, h⟩, ?_⟩
      rintro ⟨c, hc, h⟩
      exact mapped_injective hc ▸ h

end

end Net

end Harvester
