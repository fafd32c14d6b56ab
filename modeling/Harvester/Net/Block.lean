import Mathlib.Data.BitVec

/-!
# Blocks of addresses

A block is the set of the words of `w` bits that have the same first bits as a given one.  Two
blocks are either disjoint or one of them lies in the other (`Block.subset_of_overlaps`), and a
block of more than one word is the disjoint union of its two halves (`Block.contains_halves`).

Words can be taken apart into octets and put together again, the highest bits first.
-/

namespace Harvester

namespace Net

variable {w n m i : Nat} {a b c x : BitVec w}

/-- The first `n` bits of two words are the same. -/
def Agree (n : Nat) (a b : BitVec w) : Prop := ∀ i < n, a.getMsbD i = b.getMsbD i

theorem Agree.refl (n : Nat) (a : BitVec w) : Agree n a a := fun _ _ => rfl

theorem Agree.symm (h : Agree n a b) : Agree n b a := fun i hi => (h i hi).symm

theorem Agree.trans (h : Agree n a b) (h' : Agree n b c) : Agree n a c :=
  fun i hi => (h i hi).trans (h' i hi)

theorem Agree.mono (h : Agree n a b) (hm : m ≤ n) : Agree m a b :=
  fun i hi => h i (Nat.lt_of_lt_of_le hi hm)

theorem agree_succ : Agree (n + 1) a b ↔ Agree n a b ∧ a.getMsbD n = b.getMsbD n := by
  constructor
  · intro h
    exact ⟨h.mono n.le_succ, h n n.lt_succ_self⟩
  rintro ⟨h, hn⟩ i hi
  rcases Nat.lt_succ_iff_lt_or_eq.1 hi with hi | rfl
  · exact h i hi
  · exact hn

/-- The word whose first `n` bits are set. -/
def mask (w n : Nat) : BitVec w := BitVec.allOnes w <<< (w - n)

theorem getMsbD_mask (hn : n ≤ w) : (mask w n).getMsbD i = decide (i < n) := by
  rw [mask, BitVec.getMsbD_shiftLeft, BitVec.getMsbD_allOnes]
  exact decide_eq_decide.2 (by omega)

theorem agree_iff_and_mask (hn : n ≤ w) : a &&& mask w n = b &&& mask w n ↔ Agree n a b := by
  constructor
  · intro h i hi
    have hbit := congrArg (fun v => v.getMsbD i) h
    simpa [getMsbD_mask hn, hi] using hbit
  · intro h
    refine BitVec.eq_of_getMsbD_eq fun i _ => ?_
    rw [BitVec.getMsbD_and, BitVec.getMsbD_and, getMsbD_mask hn]
    by_cases hi : i < n
    · rw [h i hi]
    · simp [hi]

theorem agree_iff_xor_mask (hn : n ≤ w) : (a ^^^ b) &&& mask w n = 0#w ↔ Agree n a b := by
  rw [show (0#w) = 0#w &&& mask w n by simp, agree_iff_and_mask hn]
  refine forall₂_congr fun i _ => ?_
  rw [BitVec.getMsbD_xor, BitVec.getMsbD_zero]
  cases a.getMsbD i <;> cases b.getMsbD i <;> decide

theorem agree_and_mask (hn : n ≤ w) : Agree n (a &&& mask w n) a := by
  intro i hi
  simp [getMsbD_mask hn, hi]

theorem getMsbD_eq_testBit (a : BitVec w) (hi : i < w) :
    a.getMsbD i = a.toNat.testBit (w - 1 - i) := by
  rw [BitVec.getMsbD_eq_getLsbD, decide_eq_true hi]
  rfl

theorem agree_iff_div (hn : n ≤ w) :
    Agree n a b ↔ a.toNat / 2 ^ (w - n) = b.toNat / 2 ^ (w - n) := by
  constructor
  · intro h
    refine Nat.eq_of_testBit_eq fun j => ?_
    rw [Nat.testBit_div_two_pow, Nat.testBit_div_two_pow]
    by_cases hj : j < n
    · have hbit := h (n - 1 - j) (by omega)
      rw [getMsbD_eq_testBit a (by omega), getMsbD_eq_testBit b (by omega)] at hbit
      rwa [show w - 1 - (n - 1 - j) = j + (w - n) by omega] at hbit
    · have hge : 2 ^ w ≤ 2 ^ (j + (w - n)) := Nat.pow_le_pow_right (by decide) (by omega)
      rw [Nat.testBit_lt_two_pow (Nat.lt_of_lt_of_le a.isLt hge),
        Nat.testBit_lt_two_pow (Nat.lt_of_lt_of_le b.isLt hge)]
  · intro h i hi
    have hbit := congrArg (fun v => v.testBit (n - 1 - i)) h
    simp only [Nat.testBit_div_two_pow] at hbit
    rw [getMsbD_eq_testBit a (by omega), getMsbD_eq_testBit b (by omega)]
    rwa [show n - 1 - i + (w - n) = w - 1 - i by omega] at hbit

/-- The number of a word, from its first bits and the rest. -/
theorem toNat_eq_of_agree (hn : n ≤ w) (h : Agree n a b) :
    a.toNat = 2 ^ (w - n) * (b.toNat / 2 ^ (w - n)) + a.toNat % 2 ^ (w - n) := by
  rw [← (agree_iff_div hn).1 h, Nat.div_add_mod]

/-- The words that have the same first `bits` bits as `addr`. -/
@[ext]
structure Block (w : Nat) where
  addr : BitVec w
  bits : Nat
  le : bits ≤ w
  deriving DecidableEq

namespace Block

variable {p q : Block w}

/-- The word is in the block. -/
def contains (p : Block w) (x : BitVec w) : Bool := (x ^^^ p.addr) &&& mask w p.bits = 0#w

/-- The block without host bits. -/
def masked (p : Block w) : Block w := { p with addr := p.addr &&& mask w p.bits }

/-- No bit is set after the first ones. -/
def Masked (p : Block w) : Prop := ∀ i, p.bits ≤ i → p.addr.getMsbD i = false

/-- The blocks have a common word. -/
def overlaps (p q : Block w) : Bool :=
  p.addr &&& mask w (min p.bits q.bits) = q.addr &&& mask w (min p.bits q.bits)

@[simp] theorem masked_bits (p : Block w) : p.masked.bits = p.bits := rfl

theorem contains_iff : p.contains x = true ↔ Agree p.bits x p.addr := by
  rw [contains, decide_eq_true_iff, agree_iff_xor_mask p.le]

theorem contains_addr (p : Block w) : p.contains p.addr = true := contains_iff.2 (Agree.refl _ _)

theorem contains_masked : p.masked.contains x = true ↔ p.contains x = true := by
  have hmask : Agree p.bits p.masked.addr p.addr := agree_and_mask p.le
  rw [contains_iff, contains_iff]
  exact ⟨fun h => h.trans hmask, fun h => h.trans hmask.symm⟩

theorem masked_of_masked (p : Block w) : p.masked.Masked := by
  intro i hi
  simp only [masked] at hi ⊢
  rw [BitVec.getMsbD_and, getMsbD_mask p.le, decide_eq_false (Nat.not_lt.2 hi), Bool.and_false]

theorem Masked.masked_eq (h : p.Masked) : p.masked = p := by
  refine Block.ext (BitVec.eq_of_getMsbD_eq fun i _ => ?_) rfl
  by_cases hi : i < p.bits
  · exact agree_and_mask p.le i hi
  · rw [masked_of_masked p i (Nat.not_lt.1 hi), h i (Nat.not_lt.1 hi)]

theorem masked_iff : p.Masked ↔ p.masked = p :=
  ⟨Masked.masked_eq, fun h => h ▸ masked_of_masked p⟩

theorem overlaps_iff : p.overlaps q = true ↔ Agree (min p.bits q.bits) p.addr q.addr := by
  rw [overlaps, decide_eq_true_iff, agree_iff_and_mask (Nat.le_trans (Nat.min_le_left _ _) p.le)]

theorem overlaps_comm : p.overlaps q = q.overlaps p := by
  rw [Bool.eq_iff_iff, overlaps_iff, overlaps_iff, Nat.min_comm]
  exact ⟨Agree.symm, Agree.symm⟩

/-- **Blocks are nested or disjoint.** -/
theorem subset_of_overlaps (h : p.overlaps q = true) (hbits : p.bits ≤ q.bits)
    (hx : q.contains x = true) : p.contains x = true := by
  rw [overlaps_iff, Nat.min_eq_left hbits] at h
  exact contains_iff.2 (((contains_iff.1 hx).mono hbits).trans h.symm)

theorem overlaps_of_contains (hp : p.contains x = true) (hq : q.contains x = true) :
    p.overlaps q = true :=
  overlaps_iff.2 (((contains_iff.1 hp).mono (Nat.min_le_left _ _)).symm.trans
    ((contains_iff.1 hq).mono (Nat.min_le_right _ _)))

/-- The word of the block with all other bits set. -/
def last (p : Block w) : BitVec w := p.masked.addr ||| ~~~mask w p.bits

theorem getMsbD_last (p : Block w) (hi : i < w) :
    p.last.getMsbD i = if i < p.bits then p.addr.getMsbD i else true := by
  rw [last, BitVec.getMsbD_or, BitVec.getMsbD_not, getMsbD_mask p.le, decide_eq_true hi]
  split
  · next hlt =>
    have hagree : p.masked.addr.getMsbD i = p.addr.getMsbD i := agree_and_mask p.le i hlt
    simp [hlt, hagree]
  · next hge => simp [hge]

theorem contains_last (p : Block w) : p.contains p.last = true :=
  contains_iff.2 fun i hi => by
    rw [getMsbD_last p (Nat.lt_of_lt_of_le hi p.le), if_pos hi]

theorem toNat_masked (p : Block w) :
    p.masked.addr.toNat = 2 ^ (w - p.bits) * (p.addr.toNat / 2 ^ (w - p.bits)) := by
  have hrest : p.masked.addr.toNat % 2 ^ (w - p.bits) = 0 := by
    refine Nat.eq_of_testBit_eq fun j => ?_
    rw [Nat.testBit_mod_two_pow, Nat.zero_testBit, Bool.and_eq_false_iff]
    by_cases hj : j < w - p.bits
    · right
      have hbit := masked_of_masked p (w - 1 - j) (by rw [masked_bits]; omega)
      rwa [getMsbD_eq_testBit _ (by omega), show w - 1 - (w - 1 - j) = j by omega] at hbit
    · exact .inl (decide_eq_false hj)
  have hagree : Agree p.bits p.masked.addr p.addr := agree_and_mask p.le
  have h := toNat_eq_of_agree p.le hagree
  rwa [hrest] at h

theorem toNat_last (p : Block w) :
    p.last.toNat =
      2 ^ (w - p.bits) * (p.addr.toNat / 2 ^ (w - p.bits)) + (2 ^ (w - p.bits) - 1) := by
  have hrest : p.last.toNat % 2 ^ (w - p.bits) = 2 ^ (w - p.bits) - 1 := by
    refine Nat.eq_of_testBit_eq fun j => ?_
    rw [Nat.testBit_mod_two_pow, Nat.testBit_two_pow_sub_one]
    by_cases hj : j < w - p.bits
    · have hbit := getMsbD_last p (i := w - 1 - j) (by omega)
      rw [getMsbD_eq_testBit _ (by omega), show w - 1 - (w - 1 - j) = j by omega,
        if_neg (by omega)] at hbit
      rw [hbit, Bool.and_true]
    · rw [decide_eq_false hj, Bool.false_and]
  have h := toNat_eq_of_agree p.le (contains_iff.1 p.contains_last)
  rwa [hrest] at h

/-- **A block is an interval.** -/
theorem contains_iff_between :
    p.contains x = true ↔ p.masked.addr.toNat ≤ x.toNat ∧ x.toNat ≤ p.last.toNat := by
  have hpos : 0 < 2 ^ (w - p.bits) := Nat.two_pow_pos _
  rw [contains_iff, agree_iff_div p.le, Nat.div_eq_iff hpos, toNat_masked, toNat_last,
    Nat.mul_comm]
  omega

/-- The half in which the next bit is not set. -/
def leftHalf (p : Block w) (h : p.bits < w) : Block w := masked ⟨p.addr, p.bits + 1, h⟩

/-- The half in which the next bit is set. -/
def rightHalf (p : Block w) (h : p.bits < w) : Block w :=
  ⟨p.addr ||| BitVec.twoPow w (w - 1 - p.bits), p.bits + 1, h⟩

theorem getMsbD_rightHalf (h : p.bits < w) :
    (p.rightHalf h).addr.getMsbD i = (p.addr.getMsbD i || decide (i = p.bits)) := by
  rw [rightHalf, BitVec.getMsbD_or, BitVec.getMsbD_twoPow, decide_eq_true (by omega)]
  exact congrArg _ (decide_eq_decide.2 (by omega))

theorem masked_leftHalf (h : p.bits < w) : (p.leftHalf h).Masked := masked_of_masked _

theorem masked_rightHalf (hp : p.Masked) (h : p.bits < w) : (p.rightHalf h).Masked := by
  intro i hi
  have hlt : p.bits < i := hi
  rw [getMsbD_rightHalf h, hp i (Nat.le_of_lt hlt), Bool.false_or, decide_eq_false]
  exact Nat.ne_of_gt hlt

theorem contains_leftHalf (hp : p.Masked) (h : p.bits < w) :
    (p.leftHalf h).contains x = true ↔ p.contains x = true ∧ x.getMsbD p.bits = false := by
  rw [leftHalf, contains_masked, contains_iff, contains_iff, agree_succ, hp p.bits le_rfl]

theorem contains_rightHalf (h : p.bits < w) :
    (p.rightHalf h).contains x = true ↔ p.contains x = true ∧ x.getMsbD p.bits = true := by
  have hagree : Agree p.bits (p.rightHalf h).addr p.addr := by
    intro i hi
    rw [getMsbD_rightHalf h, decide_eq_false (Nat.ne_of_lt hi), Bool.or_false]
  have hbit : (p.rightHalf h).addr.getMsbD p.bits = true := by
    rw [getMsbD_rightHalf h, decide_eq_true rfl, Bool.or_true]
  have hsplit : (p.rightHalf h).contains x = true ↔
      Agree p.bits x (p.rightHalf h).addr ∧
        x.getMsbD p.bits = (p.rightHalf h).addr.getMsbD p.bits := by
    rw [contains_iff, ← agree_succ]
    rfl
  rw [hsplit, hbit, contains_iff]
  exact and_congr_left fun _ => ⟨fun hx => hx.trans hagree, fun hx => hx.trans hagree.symm⟩

/-- **A block is the union of its halves.** -/
theorem contains_halves (hp : p.Masked) (h : p.bits < w) :
    p.contains x = true ↔ (p.leftHalf h).contains x = true ∨ (p.rightHalf h).contains x = true := by
  rw [contains_leftHalf hp, contains_rightHalf]
  cases x.getMsbD p.bits <;> simp

theorem not_contains_both (hp : p.Masked) (h : p.bits < w) (hl : (p.leftHalf h).contains x = true) :
    ¬ (p.rightHalf h).contains x = true := by
  rw [contains_leftHalf hp] at hl
  rw [contains_rightHalf, hl.2]
  simp

end Block

/-- The octets of a word, the highest one first. -/
def octets (n : Nat) (a : BitVec (8 * n)) : List (BitVec 8) :=
  (List.range n).map fun i => a.extractLsb' (8 * (n - 1 - i)) 8

/-- The number with the given octets, the lowest one first. -/
def value : List (BitVec 8) → Nat
  | [] => 0
  | x :: l => 256 * value l + x.toNat

/-- The word with the given octets, the highest one first. -/
def ofOctets (n : Nat) (b : List (BitVec 8)) : BitVec (8 * n) := BitVec.ofNat _ (value b.reverse)

theorem length_octets (a : BitVec (8 * n)) : (octets n a).length = n := by simp [octets]

theorem testBit_value (l : List (BitVec 8)) (j : Nat) :
    (value l).testBit j = (l.getD (j / 8) 0#8).getLsbD (j % 8) := by
  induction l generalizing j with
  | nil => simp [value]
  | cons x l ih =>
    rw [value, Nat.testBit_two_pow_mul_add _ x.isLt]
    by_cases hj : j < 8
    · rw [if_pos hj, Nat.div_eq_of_lt hj, Nat.mod_eq_of_lt hj]
      rfl
    · rw [if_neg hj, ih, show j / 8 = (j - 8) / 8 + 1 by omega, show (j - 8) % 8 = j % 8 by omega]
      rfl

theorem value_lt (l : List (BitVec 8)) : value l < 256 ^ l.length := by
  induction l with
  | nil => exact Nat.one_pos
  | cons x l ih =>
    rw [value, List.length_cons]
    omega

theorem getMsbD_ofOctets {b : List (BitVec 8)} (hb : b.length = n) (hi : i < 8 * n) :
    (ofOctets n b).getMsbD i = (b.getD (i / 8) 0#8).getMsbD (i % 8) := by
  rw [ofOctets, BitVec.getMsbD_eq_getLsbD, BitVec.getLsbD_ofNat, testBit_value,
    BitVec.getMsbD_eq_getLsbD, decide_eq_true hi, decide_eq_true (show i % 8 < 8 by omega),
    decide_eq_true (show 8 * n - 1 - i < 8 * n by omega)]
  have hindex : b.reverse.getD ((8 * n - 1 - i) / 8) 0#8 = b.getD (i / 8) 0#8 := by
    rw [List.getD_eq_getElem?_getD, List.getElem?_reverse (by omega)]
    congr 2
    omega
  rw [hindex, show (8 * n - 1 - i) % 8 = 8 - 1 - i % 8 by omega]
  simp

theorem getMsbD_octets (a : BitVec (8 * n)) (hi : i < 8 * n) :
    ((octets n a).getD (i / 8) 0#8).getMsbD (i % 8) = a.getMsbD i := by
  have hlt : i / 8 < n := by omega
  rw [octets, List.getD_eq_getElem?_getD, List.getElem?_map, List.getElem?_range hlt,
    Option.map_some, Option.getD_some, BitVec.getMsbD_extractLsb',
    decide_eq_true (show i % 8 < 8 by omega),
    decide_eq_true (show 8 * (n - 1 - i / 8) + 8 - i % 8 ≤ 8 * n by omega),
    show 8 * n - (8 * (n - 1 - i / 8) + 8 - i % 8) = i by omega]
  simp

theorem ofOctets_octets (a : BitVec (8 * n)) : ofOctets n (octets n a) = a :=
  BitVec.eq_of_getMsbD_eq fun i hi => by
    rw [getMsbD_ofOctets (length_octets a) hi, getMsbD_octets a hi]

theorem value_octets (a : BitVec (8 * n)) : value (octets n a).reverse = a.toNat := by
  have hlt := value_lt (octets n a).reverse
  rw [List.length_reverse, length_octets, show 256 = 2 ^ 8 from rfl, ← Nat.pow_mul] at hlt
  have h := congrArg BitVec.toNat (ofOctets_octets a)
  rwa [ofOctets, BitVec.toNat_ofNat, Nat.mod_eq_of_lt hlt] at h

end Net

end Harvester
