import Harvester.Net.Addr

/-!
# Prefixes that are covered by others

`IsCoveredByPrefixes` of `pkg/webhook/util/ip.go` takes one exclude after the other off each of the
prefixes that are still uncovered; where an exclude covers only a part, the prefix is cut in halves
until the parts lie inside or outside.

`isCoveredByPrefixes_iff`: the answer is right, and the list of prefixes is at every step the target
without the excludes so far.
-/

namespace Harvester

namespace PrefixCover

open Net

/-- Set one bit of an address of `n` octets, unless there is no free bit. -/
def setBit (n : Nat) (a : BitVec (8 * n)) (bits : Nat) : Option (BitVec (8 * n)) :=
  let b := octets n a
  b[bits / 8]?.map fun x => ofOctets n (b.set (bits / 8) (x ||| 1#8 <<< (7 - bits % 8)))

/-- The upper half. -/
def rightHalfPrefix : Prefix → Option Prefix
  | .v4 p => (setBit 4 p.addr p.bits).bind fun b => prefixFrom (.v4 b) (p.bits + 1)
  | .v6 p => (setBit 16 p.addr p.bits).bind fun b => prefixFrom (.v6 b "") (p.bits + 1)

/-- The lower half. -/
def leftHalfPrefix (p : Prefix) : Option Prefix :=
  (prefixFrom p.addr (p.bits + 1)).map Prefix.masked

theorem prefixFrom_bits {a : Addr} {n : Nat} {p : Prefix} (h : prefixFrom a n = some p) :
    p.bitLen = a.bitLen ∧ p.bits = n := by
  cases a <;> simp only [prefixFrom] at h <;> split at h <;> cases h <;> exact ⟨rfl, rfl⟩

theorem leftHalfPrefix_bits {p left : Prefix} (h : leftHalfPrefix p = some left) :
    left.bitLen = p.bitLen ∧ left.bits = p.bits + 1 := by
  obtain ⟨q, hq, rfl⟩ := Option.map_eq_some_iff.1 h
  obtain ⟨hlen, hbits⟩ := prefixFrom_bits hq
  rw [Prefix.masked_bitLen, Prefix.masked_bits, hlen, hbits]
  cases p <;> exact ⟨rfl, rfl⟩

theorem rightHalfPrefix_bits {p right : Prefix} (h : rightHalfPrefix p = some right) :
    right.bitLen = p.bitLen ∧ right.bits = p.bits + 1 := by
  cases p with
  | v4 p | v6 p =>
    obtain ⟨b, -, hb⟩ := Option.bind_eq_some_iff.1 h
    exact prefixFrom_bits hb

/-- The part of `target` that `ex` does not cover. -/
def subtractPrefix (target ex : Prefix) : Option (List Prefix) :=
  if target.overlaps ex = false then some [target]
  else if ex.bits ≤ target.bits ∧ ex.contains target.addr then some []
  else
    match _ : leftHalfPrefix target, _ : rightHalfPrefix target with
    | some left, some right =>
      (subtractPrefix left ex).bind fun result =>
        (subtractPrefix right ex).map fun rest => result ++ rest
    -- A prefix without free bits: the index is out of range.
    | _, _ => none
termination_by target.bitLen - target.bits
decreasing_by
  · obtain ⟨hlen, hbits⟩ := leftHalfPrefix_bits ‹leftHalfPrefix target = some left›
    have := left.bits_le
    omega
  · obtain ⟨hlen, hbits⟩ := rightHalfPrefix_bits ‹rightHalfPrefix target = some right›
    have := right.bits_le
    omega

/-- The inner loop: take `ex` off all the prefixes. -/
def subtractAll (ex : Prefix) : List Prefix → Option (List Prefix)
  | [] => some []
  | p :: rest => (subtractPrefix p ex).bind fun next => (subtractAll ex rest).map (next ++ ·)

/-- The outer loop. -/
def coverLoop (r : AddrReader) (remaining : List Prefix) : List String → Option Bool
  | [] => some remaining.isEmpty
  | exclude :: excludes =>
    match r.parsePrefix exclude with
    | none => coverLoop r remaining excludes
    | some ex =>
      (subtractAll ex.masked remaining).bind fun next =>
        if next.isEmpty then some true else coverLoop r next excludes

/-- All addresses are excluded. -/
def isCoveredByPrefixes (r : AddrReader) (target : Prefix) (excludes : List String) : Option Bool :=
  coverLoop r [target] excludes

theorem getMsbD_setBit {n bits : Nat} {a : BitVec (8 * n)} (h : bits < 8 * n) :
    ∃ b, setBit n a bits = some b ∧
      ∀ i < 8 * n, b.getMsbD i = (a.getMsbD i || decide (i = bits)) := by
  have hlt : bits / 8 < (octets n a).length := by rw [length_octets]; omega
  refine ⟨_, by rw [setBit, List.getElem?_eq_getElem hlt, Option.map_some], fun i hi => ?_⟩
  rw [getMsbD_ofOctets (by rw [List.length_set, length_octets]) hi, ← getMsbD_octets a hi,
    List.getD_eq_getElem?_getD, List.getElem?_set, List.getD_eq_getElem?_getD]
  by_cases hdiv : bits / 8 = i / 8
  · have hbit : (1#8 <<< (7 - bits % 8)).getMsbD (i % 8) = decide (i = bits) := by
      rw [BitVec.getMsbD_shiftLeft, show (1#8) = BitVec.twoPow 8 0 from rfl, BitVec.getMsbD_twoPow]
      exact decide_eq_decide.2 (by omega)
    rw [if_pos hdiv, if_pos hlt, ← hdiv, List.getElem?_eq_getElem hlt, Option.getD_some,
      Option.getD_some, BitVec.getMsbD_or, hbit]
  · rw [if_neg hdiv, decide_eq_false (by rintro rfl; exact hdiv rfl), Bool.or_false]

theorem setBit_eq {n bits : Nat} {a : BitVec (8 * n)} (h : bits < 8 * n) :
    setBit n a bits = some (a ||| BitVec.twoPow _ (8 * n - 1 - bits)) := by
  obtain ⟨b, hb, hbits⟩ := getMsbD_setBit h
  rw [hb]
  refine congrArg some (BitVec.eq_of_getMsbD_eq fun i hi => ?_)
  rw [hbits i hi, BitVec.getMsbD_or, BitVec.getMsbD_twoPow,
    decide_eq_true (show 8 * n - 1 - bits < 8 * n by omega)]
  exact congrArg _ (decide_eq_decide.2 (by omega))

/-- What the halves of a prefix have to be. -/
structure Halves (p left right : Prefix) : Prop where
  maskedLeft : left.masked = left
  maskedRight : right.masked = right
  union : ∀ a, p.contains a = true ↔ left.contains a = true ∨ right.contains a = true
  apart : ∀ a, left.contains a = true → ¬ right.contains a = true

theorem exists_halves {p : Prefix} (hmasked : p.masked = p) (h : p.bits < p.bitLen) :
    ∃ left right, leftHalfPrefix p = some left ∧ rightHalfPrefix p = some right ∧
      Halves p left right := by
  cases p with
  | v4 p | v6 p =>
    have hp : p.Masked := by simpa [Block.masked_iff, Prefix.masked] using hmasked
    simp only [Prefix.bits, Prefix.bitLen] at h
    have hbits := Nat.succ_le_of_lt h
    have hapart := fun a => @Block.not_contains_both _ a _ hp h
    first
    | refine ⟨.v4 (p.leftHalf h), .v4 (p.rightHalf h), ?_, ?_, ?_, ?_, fun a => ?_, fun a => ?_⟩
    | refine ⟨.v6 (p.leftHalf h), .v6 (p.rightHalf h), ?_, ?_, ?_, ?_, fun a => ?_, fun a => ?_⟩
    · simp only [leftHalfPrefix, Prefix.addr, Prefix.bits, prefixFrom, dif_pos hbits]
      rfl
    · rw [rightHalfPrefix, setBit_eq h, Option.bind_some, prefixFrom, dif_pos hbits]
      rfl
    · exact congrArg _ (Block.masked_leftHalf h).masked_eq
    · exact congrArg _ (Block.masked_rightHalf hp h).masked_eq
    · cases a <;> simp [Prefix.contains, Block.contains_halves hp h, and_or_left]
    · cases a <;> grind [Prefix.contains]

/-- The prefixes have no address in common. -/
def Disjoint (p q : Prefix) : Prop := ∀ a, p.contains a = true → ¬ q.contains a = true

/-- The prefixes are disjoint, and together they are the addresses that meet `s`. -/
structure Pieces (s : Addr → Prop) (l : List Prefix) : Prop where
  masked : ∀ p ∈ l, p.masked = p
  disjoint : l.Pairwise Disjoint
  mem_iff : ∀ a, (∃ p ∈ l, p.contains a = true) ↔ s a

variable {s t : Addr → Prop} {l l' : List Prefix} {p ex target : Prefix}

theorem Pieces.congr (h : Pieces s l) (hst : ∀ a, s a ↔ t a) : Pieces t l :=
  ⟨h.masked, h.disjoint, fun a => (h.mem_iff a).trans (hst a)⟩

theorem Pieces.nil (hs : ∀ a, ¬ s a) : Pieces s [] :=
  ⟨by simp, List.Pairwise.nil, fun a => by simp [hs a]⟩

theorem Pieces.singleton (hp : p.masked = p) : Pieces (fun a => p.contains a = true) [p] :=
  ⟨by simpa using hp, List.pairwise_singleton _ _, fun a => by simp⟩

theorem Pieces.append (h : Pieces s l) (h' : Pieces t l') (hst : ∀ a, s a → ¬ t a) :
    Pieces (fun a => s a ∨ t a) (l ++ l') where
  masked p hp := (List.mem_append.1 hp).elim (h.masked p) (h'.masked p)
  disjoint := by
    refine List.pairwise_append.2 ⟨h.disjoint, h'.disjoint, fun p hp q hq a ha ha' => ?_⟩
    exact hst a ((h.mem_iff a).1 ⟨p, hp, ha⟩) ((h'.mem_iff a).1 ⟨q, hq, ha'⟩)
  mem_iff a := by
    simp [or_and_right, exists_or, h.mem_iff, h'.mem_iff]

theorem Pieces.eq_nil_iff (h : Pieces s l) : l = [] ↔ ∀ a, ¬ s a := by
  constructor
  · rintro rfl a ha
    obtain ⟨p, hp, -⟩ := (h.mem_iff a).2 ha
    cases hp
  · intro hs
    rcases l with _ | ⟨p, l⟩
    · rfl
    · exact absurd ((h.mem_iff p.addr).1 ⟨p, List.mem_cons_self, p.contains_addr⟩) (hs _)

theorem bits_lt_bitLen (hoverlaps : target.overlaps ex = true)
    (hcovered : ¬ (ex.bits ≤ target.bits ∧ ex.contains target.addr = true)) :
    target.bits < target.bitLen := by
  have hbits : target.bits < ex.bits := by
    by_contra hle
    have hle : ex.bits ≤ target.bits := Nat.not_lt.1 hle
    rw [Prefix.overlaps_comm] at hoverlaps
    exact hcovered ⟨hle, Prefix.subset_of_overlaps hoverlaps hle target.contains_addr⟩
  have hlen : ex.bitLen = target.bitLen := by
    cases target <;> cases ex <;> first | rfl | cases hoverlaps
  exact hlen ▸ Nat.lt_of_lt_of_le hbits ex.bits_le

/-- **What is left of a prefix.** -/
theorem subtractPrefix_pieces (ex : Prefix) (hmasked : target.masked = target) :
    ∃ l, subtractPrefix target ex = some l ∧
      Pieces (fun a => target.contains a = true ∧ ¬ ex.contains a = true) l := by
  -- By induction on the number of free bits: the halves have one less.
  induction hfree : target.bitLen - target.bits using Nat.strong_induction_on generalizing target
    with
  | _ free ih =>
    rw [subtractPrefix]
    by_cases hoverlaps : target.overlaps ex = true
    · rw [if_neg (by simp [hoverlaps])]
      by_cases hcovered : ex.bits ≤ target.bits ∧ ex.contains target.addr = true
      · rw [if_pos hcovered]
        rw [Prefix.overlaps_comm] at hoverlaps
        exact ⟨_, rfl, Pieces.nil fun a ha =>
          ha.2 (Prefix.subset_of_overlaps hoverlaps hcovered.1 ha.1)⟩
      · rw [if_neg hcovered]
        have hlt := bits_lt_bitLen hoverlaps hcovered
        obtain ⟨left, right, hleft, hright, halves⟩ := exists_halves hmasked hlt
        obtain ⟨hlen, hbits⟩ := leftHalfPrefix_bits hleft
        obtain ⟨hlen', hbits'⟩ := rightHalfPrefix_bits hright
        obtain ⟨result, hresult, hpieces⟩ := ih _ (by omega) halves.maskedLeft rfl
        obtain ⟨rest, hrest, hpieces'⟩ := ih _ (by omega) halves.maskedRight rfl
        have hunion := hpieces.append hpieces' fun a ha ha' => halves.apart a ha.1 ha'.1
        refine ⟨result ++ rest, ?_, hunion.congr fun a => ?_⟩
        · split
          · next left' right' hleft' hright' =>
            rw [hleft] at hleft'
            rw [hright] at hright'
            cases hleft'
            cases hright'
            rw [hresult, hrest]
            rfl
          · next hnone => exact absurd hright (hnone left right hleft)
        · rw [halves.union a, or_and_right]
    · rw [if_pos (by simpa using hoverlaps)]
      refine ⟨_, rfl, (Pieces.singleton hmasked).congr fun a => ?_⟩
      exact ⟨fun ha => ⟨ha, fun hex => hoverlaps (Prefix.overlaps_of_contains ha hex)⟩, And.left⟩

theorem subtractAll_pieces (ex : Prefix) (h : Pieces s l) :
    ∃ l', subtractAll ex l = some l' ∧ Pieces (fun a => s a ∧ ¬ ex.contains a = true) l' := by
  induction l generalizing s with
  | nil => exact ⟨[], rfl, Pieces.nil fun a ha => (h.eq_nil_iff.1 rfl a) ha.1⟩
  | cons p l ih =>
    have hrest : Pieces (fun a => ∃ q ∈ l, q.contains a = true) l :=
      ⟨fun q hq => h.masked q (List.mem_cons_of_mem _ hq), h.disjoint.of_cons, fun a => Iff.rfl⟩
    obtain ⟨next, hnext, hpieces⟩ := subtractPrefix_pieces ex (h.masked p List.mem_cons_self)
    obtain ⟨rest, hsub, hpieces'⟩ := ih hrest
    have hapart : ∀ q ∈ l, Disjoint p q := (List.pairwise_cons.1 h.disjoint).1
    have hunion := hpieces.append hpieces' fun a ha ha' =>
      ha'.1.elim fun q hq => hapart q hq.1 a ha.1 hq.2
    refine ⟨next ++ rest, ?_, hunion.congr fun a => ?_⟩
    · rw [subtractAll, hnext, hsub]
      rfl
    · rw [← or_and_right, ← h.mem_iff a]
      simp

variable {r : AddrReader} {remaining : List Prefix}

/-- One step of the loop. -/
def step (r : AddrReader) (remaining : List Prefix) (exclude : String) : Option (List Prefix) :=
  match r.parsePrefix exclude with
  | none => some remaining
  | some ex => subtractAll ex.masked remaining

/-- The prefixes that are left after some excludes. -/
def remainingAfter (r : AddrReader) (target : Prefix) (excludes : List String) :
    Option (List Prefix) :=
  excludes.foldlM (step r) [target]

/-- The exclude covers the address. -/
def Excludes (r : AddrReader) (exclude : String) (a : Addr) : Prop :=
  ∃ ex, r.parsePrefix exclude = some ex ∧ ex.masked.contains a = true

theorem step_pieces (exclude : String) (h : Pieces s l) :
    ∃ l', step r l exclude = some l' ∧ Pieces (fun a => s a ∧ ¬ Excludes r exclude a) l' := by
  unfold step Excludes
  cases r.parsePrefix exclude with
  | none => exact ⟨l, rfl, h.congr fun a => by simp⟩
  | some ex =>
    obtain ⟨l', hl', hpieces⟩ := subtractAll_pieces ex.masked h
    exact ⟨l', hl', hpieces.congr fun a => by simp⟩

theorem foldlM_pieces (excludes : List String) (h : Pieces s l) :
    ∃ l', excludes.foldlM (step r) l = some l' ∧
      Pieces (fun a => s a ∧ ∀ exclude ∈ excludes, ¬ Excludes r exclude a) l' := by
  induction excludes generalizing s l with
  | nil => exact ⟨l, rfl, h.congr fun a => by simp⟩
  | cons exclude excludes ih =>
    obtain ⟨next, hnext, hpieces⟩ := step_pieces exclude h
    obtain ⟨l', hl', hpieces'⟩ := ih hpieces
    refine ⟨l', ?_, hpieces'.congr fun a => ?_⟩
    · rw [List.foldlM_cons, hnext]
      exact hl'
    · simp [and_assoc]

theorem foldlM_step_nil (excludes : List String) : excludes.foldlM (step r) [] = some [] := by
  induction excludes with
  | nil => rfl
  | cons exclude excludes ih =>
    have hstep : step r [] exclude = some [] := by
      unfold step
      cases r.parsePrefix exclude <;> rfl
    rw [List.foldlM_cons, hstep]
    exact ih

theorem coverLoop_eq (remaining : List Prefix) (excludes : List String) :
    coverLoop r remaining excludes = (excludes.foldlM (step r) remaining).map List.isEmpty := by
  induction excludes generalizing remaining with
  | nil => rfl
  | cons exclude excludes ih =>
    rw [coverLoop, List.foldlM_cons, step]
    cases r.parsePrefix exclude with
    | none => exact ih remaining
    | some ex =>
      cases hsub : subtractAll ex.masked remaining with
      | none => simp [hsub]
      | some next =>
        simp only [hsub, Option.bind_some, Option.bind_eq_bind]
        cases next with
        | nil => rw [foldlM_step_nil]; rfl
        | cons p next => exact ih (p :: next)

/-- **The answer is right, and so is every step.**  A masked prefix is covered when each of its
addresses is in an exclude that can be read.  At every step the prefixes that are left are disjoint,
and they are the target without the excludes so far. -/
theorem isCoveredByPrefixes_iff (r : AddrReader) (hmasked : target.masked = target)
    (excludes : List String) :
    (∃ covered, isCoveredByPrefixes r target excludes = some covered ∧
      (covered = true ↔ ∀ a, target.contains a = true →
        ∃ exclude ∈ excludes, Excludes r exclude a)) ∧
    ∀ done, done <+: excludes → ∃ pieces, remainingAfter r target done = some pieces ∧
      pieces.Pairwise Disjoint ∧
      ∀ a, (∃ p ∈ pieces, p.contains a = true) ↔
        target.contains a = true ∧ ∀ exclude ∈ done, ¬ Excludes r exclude a := by
  have hafter : ∀ done : List String, ∃ pieces, remainingAfter r target done = some pieces ∧
      Pieces (fun a => target.contains a = true ∧ ∀ exclude ∈ done, ¬ Excludes r exclude a)
        pieces := fun done => foldlM_pieces done (Pieces.singleton hmasked)
  constructor
  · obtain ⟨pieces, hpieces, hp⟩ := hafter excludes
    refine ⟨pieces.isEmpty, ?_, ?_⟩
    · rw [isCoveredByPrefixes, coverLoop_eq]
      exact congrArg (Option.map List.isEmpty) hpieces
    · rw [List.isEmpty_iff, hp.eq_nil_iff]
      simp
  · intro done _
    obtain ⟨pieces, hpieces, hp⟩ := hafter done
    exact ⟨pieces, hpieces, hp.disjoint, hp.mem_iff⟩

namespace Sample

def reader : AddrReader :=
  .ofTable [("10.0.0.0", .v4 0x0a000000#32), ("10.0.0.128", .v4 0x0a000080#32)]
  (by decide)

def target24 : Prefix := .v4 ⟨0x0a000000#32, 24, by decide⟩

/-- The two halves, and a text that is not a prefix. -/
def halves : List String := ["10.0.0.128/25", "10.0.0.0", "10.0.0.0/25"]

end Sample

open Sample in
theorem isCoveredByPrefixes_iff_halves :
    isCoveredByPrefixes reader target24 halves = some true ∧
      ∃ exclude ∈ halves, Excludes reader exclude (.v4 0x0a000063#32) := by
  have hcovered : isCoveredByPrefixes reader target24 halves = some true := by decide +kernel
  have hmasked : target24.masked = target24 := by decide
  have hcontains : target24.contains (.v4 0x0a000063#32) = true := by decide
  obtain ⟨⟨covered, heq, hiff⟩, -⟩ := isCoveredByPrefixes_iff reader hmasked halves
  rw [hcovered] at heq
  exact ⟨hcovered, hiff.1 (Option.some.inj heq).symm _ hcontains⟩

end PrefixCover

end Harvester
