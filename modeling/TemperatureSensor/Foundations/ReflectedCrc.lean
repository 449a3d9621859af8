import Mathlib.Algebra.Ring.Nat
import Mathlib.Data.List.GetD
import Mathlib.Logic.Function.Iterate
import Mathlib.Tactic.Common

/-
  Cyclic redundancy checks with a reflected polynomial, as a
  shift register that takes in the bits of a message, least
  significant bit first.

  Main declarations:
    * `round`, `feed` and `feedBits`
    * `feedBits_bits`
    * `feedBits_eq_zero`
    * `feedBits_burst_ne`
-/

------------------------------------------------------------
-- The Shift Register
------------------------------------------------------------

namespace ReflectedCrc

variable {w : Nat}

/- Shift down; a one that drops out subtracts `p`. -/
def round (p s : BitVec w) : BitVec w :=
  if s.getLsbD 0 then (s >>> 1) ^^^ p else s >>> 1

/- Take in one bit at the low end. -/
def feed (p s : BitVec w) (bit : Bool) : BitVec w :=
  round p (s ^^^ (BitVec.ofBool bit).setWidth w)

/- Take in the bits of a message in order. -/
def feedBits (p s : BitVec w) (bits : List Bool) : BitVec w :=
  bits.foldl (feed p) s

/- The lowest `n` bits of a word, the least significant first. -/
def lowBits (n : Nat) (b : BitVec w) : List Bool :=
  (List.range n).map b.getLsbD

/- The bits of a round. -/
theorem getLsbD_round
    (p s : BitVec w)
    (i : Nat) :
    (round p s).getLsbD i =
      (s.getLsbD (i + 1) ^^ (s.getLsbD 0 && p.getLsbD i)) := by
  unfold round
  cases s.getLsbD 0 with
  | false => simp [Nat.add_comm]
  | true => simp [Nat.add_comm]

theorem round_xor
    (p a b : BitVec w) :
    round p (a ^^^ b) = round p a ^^^ round p b := by
  apply BitVec.eq_of_getLsbD_eq
  intro i _
  simp only [getLsbD_round, BitVec.getLsbD_xor,
    Bool.and_xor_distrib_right, Bool.xor_assoc,
    Bool.xor_left_comm]

@[simp]
theorem round_zero
    (p : BitVec w) :
    round p 0#w = 0#w := by
  apply BitVec.eq_of_getLsbD_eq
  intro i _
  simp [getLsbD_round]

theorem feedBits_append
    (p s : BitVec w)
    (bits bits' : List Bool) :
    feedBits p s (bits ++ bits') =
      feedBits p (feedBits p s bits) bits' :=
  List.foldl_append

theorem getLsbD_bit
    (hWidth : 0 < w)
    (bit : Bool)
    (i : Nat) :
    ((BitVec.ofBool bit).setWidth w).getLsbD i =
      (decide (i = 0) && bit) := by
  cases i with
  | zero => simp [hWidth]
  | succ i => simp

------------------------------------------------------------
-- Words
------------------------------------------------------------

/-
  A word may be added to the register as a whole, or bit by
  bit while the rest of it is shifted along.
-/
theorem round_xor_word
    (p s b : BitVec w) :
    round p (s ^^^ b) =
      feed p s (b.getLsbD 0) ^^^ (b >>> 1) := by
  apply BitVec.eq_of_getLsbD_eq
  intro i hIndex
  have hWidth : 0 < w := by omega
  simp only [feed, getLsbD_round, BitVec.getLsbD_xor,
    BitVec.getLsbD_ushiftRight, getLsbD_bit hWidth,
    Nat.add_comm 1 i, decide_true, Bool.true_and]
  simp [Bool.xor_comm]

theorem lowBits_succ
    (n : Nat)
    (b : BitVec w) :
    lowBits (n + 1) b =
      b.getLsbD 0 :: lowBits n (b >>> 1) := by
  unfold lowBits
  rw [List.range_succ_eq_map, List.map_cons, List.map_map]
  simp [Function.comp_def, Nat.add_comm]

theorem lowBits_add
    (m n : Nat)
    (b : BitVec w) :
    lowBits (m + n) b = lowBits m b ++ lowBits n (b >>> m) := by
  unfold lowBits
  rw [List.range_add, List.map_append, List.map_map]
  simp [Function.comp_def]

theorem lowBits_setWidth
    {v n : Nat}
    (hWidth : n ≤ w)
    (b : BitVec v) :
    lowBits n (b.setWidth w) = lowBits n b := by
  unfold lowBits
  apply List.map_congr_left
  intro i hIndex
  rw [List.mem_range] at hIndex
  have hInside : i < w := by omega
  simp [hInside]

/-
  Feeding the bits of a word is adding the word and shifting
  it through.
-/
theorem feedBits_lowBits
    (p s : BitVec w)
    {n : Nat}
    {b : BitVec w}
    (hBits : b.toNat < 2 ^ n) :
    feedBits p s (lowBits n b) = (round p)^[n] (s ^^^ b) := by
  induction n generalizing s b with
  | zero =>
      have hZero : b = 0#w := by
        apply BitVec.eq_of_toNat_eq
        rw [pow_zero] at hBits
        rw [BitVec.toNat_zero]
        omega
      simp [hZero, feedBits, lowBits]
  | succ n ih =>
      have hRest : (b >>> 1).toNat < 2 ^ n := by
        rw [BitVec.toNat_ushiftRight,
          Nat.shiftRight_eq_div_pow]
        omega
      rw [lowBits_succ, Function.iterate_succ_apply,
        round_xor_word, ← ih _ hRest]
      rfl

------------------------------------------------------------
-- Differences
------------------------------------------------------------

theorem feed_xor
    (p s s' : BitVec w)
    (bit bit' : Bool) :
    feed p s bit ^^^ feed p s' bit' =
      feed p (s ^^^ s') (bit ^^ bit') := by
  unfold feed
  rw [← round_xor]
  congr 1
  apply BitVec.eq_of_getLsbD_eq
  intro i hIndex
  have hWidth : 0 < w := by omega
  simp only [BitVec.getLsbD_xor, getLsbD_bit hWidth,
    Bool.and_xor_distrib_left]
  simp [Bool.xor_left_comm]

/- Two messages differ by what their difference leaves. -/
theorem feedBits_xor
    (p s s' : BitVec w)
    {bits bits' : List Bool}
    (hLength : bits.length = bits'.length) :
    feedBits p s bits ^^^ feedBits p s' bits' =
      feedBits p (s ^^^ s') (bits.zipWith xor bits') := by
  induction bits generalizing bits' s s' with
  | nil =>
      cases bits' with
      | nil => rfl
      | cons bit' bits' => simp at hLength
  | cons bit bits ih =>
      cases bits' with
      | nil => simp at hLength
      | cons bit' bits' =>
          have hRest := ih (feed p s bit) (feed p s' bit')
            (Nat.succ.inj hLength)
          rw [feed_xor] at hRest
          exact hRest

/- Zero bits leave a zero register zero. -/
theorem feedBits_zero
    (p : BitVec w)
    {bits : List Bool}
    (hBits : ∀ bit ∈ bits, bit = false) :
    feedBits p 0#w bits = 0#w := by
  induction bits with
  | nil => rfl
  | cons bit bits ih =>
      rw [List.forall_mem_cons] at hBits
      have hFirst : feed p 0#w bit = 0#w := by
        rw [hBits.1]
        unfold feed
        simp
      unfold feedBits
      rw [List.foldl_cons, hFirst]
      exact ih hBits.2

theorem eq_of_zipWith_xor
    {bits bits' : List Bool}
    (hLength : bits.length = bits'.length)
    (hZero : ∀ bit ∈ bits.zipWith xor bits', bit = false) :
    bits = bits' := by
  induction bits generalizing bits' with
  | nil =>
      cases bits' with
      | nil => rfl
      | cons bit' bits' => simp at hLength
  | cons bit bits ih =>
      cases bits' with
      | nil => simp at hLength
      | cons bit' bits' =>
          rw [List.zipWith_cons_cons, List.forall_mem_cons]
            at hZero
          have hHead : bit = bit' := by simpa using hZero.1
          rw [hHead, ih (Nat.succ.inj hLength) hZero.2]

section Burst

variable {p : BitVec w}
variable (hTop : p.getLsbD (w - 1) = true)

include hTop

/- With a top bit in the polynomial a round loses nothing. -/
theorem eq_zero_of_round_eq_zero
    {s : BitVec w}
    (hRound : round p s = 0#w) :
    s = 0#w := by
  have hBits : ∀ i,
      (s.getLsbD (i + 1) ^^ (s.getLsbD 0 && p.getLsbD i)) =
        false := by
    intro i
    rw [← getLsbD_round, hRound, BitVec.getLsbD_zero]
  have hLow : s.getLsbD 0 = false := by
    have hLast := hBits (w - 1)
    rw [hTop, BitVec.getLsbD_of_ge s (w - 1 + 1) (by omega),
      Bool.and_true, Bool.false_xor] at hLast
    exact hLast
  apply BitVec.eq_of_getLsbD_eq
  intro i _
  rw [BitVec.getLsbD_zero]
  cases i with
  | zero => exact hLow
  | succ i =>
      have hBit := hBits i
      rw [hLow, Bool.false_and, Bool.xor_false] at hBit
      exact hBit

theorem eq_zero_of_feedBits_zeros
    {s : BitVec w}
    {bits : List Bool}
    (hBits : ∀ bit ∈ bits, bit = false)
    (hFeed : feedBits p s bits = 0#w) :
    s = 0#w := by
  induction bits generalizing s with
  | nil => exact hFeed
  | cons bit bits ih =>
      rw [List.forall_mem_cons] at hBits
      have hRound := ih hBits.2 hFeed
      rw [hBits.1] at hRound
      unfold feed at hRound
      simpa using eq_zero_of_round_eq_zero hTop hRound

/-
  Up to the width of the register, the bits that lead to zero
  are those of the register itself.
-/
theorem getLsbD_of_feedBits_eq_zero
    {s : BitVec w}
    {bits : List Bool}
    (hLength : bits.length ≤ w)
    (hFeed : feedBits p s bits = 0#w)
    (i : Nat) :
    s.getLsbD i = bits.getD i false := by
  induction bits generalizing s i with
  | nil =>
      have hZero : s = 0#w := hFeed
      simp [hZero]
  | cons bit bits ih =>
      rw [List.length_cons] at hLength
      have hWidth : 0 < w := by omega
      have hNext := ih (by omega) hFeed
      simp only [feed, getLsbD_round, BitVec.getLsbD_xor,
        getLsbD_bit hWidth, Nat.succ_ne_zero, decide_true,
        decide_false, Bool.true_and, Bool.false_and,
        Bool.xor_false] at hNext
      -- The top bit of the polynomial would show at the top.
      have hFirst : (s.getLsbD 0 ^^ bit) = false := by
        have hLast := hNext (w - 1)
        rw [hTop, BitVec.getLsbD_of_ge s (w - 1 + 1) (by omega),
          List.getD_eq_default bits false (by omega),
          Bool.and_true, Bool.false_xor] at hLast
        exact hLast
      cases i with
      | zero => simpa using hFirst
      | succ i =>
          have hBit := hNext i
          rw [hFirst, Bool.false_and, Bool.xor_false] at hBit
          simpa using hBit

/-
  A message that is zero outside a window as wide as the
  register, and leaves a zero register zero, is zero.
-/
theorem eq_false_of_feedBits_eq_zero
    {bits : List Bool}
    {start : Nat}
    (hWindow :
      ∀ i : Nat, bits[i]? = some true →
        start ≤ i ∧ i < start + w)
    (hFeed : feedBits p 0#w bits = 0#w) :
    ∀ bit ∈ bits, bit = false := by
  have hBefore : ∀ bit ∈ bits.take start, bit = false := by
    intro bit hMember
    rcases List.mem_iff_getElem?.mp hMember with ⟨i, hBit⟩
    rw [List.getElem?_take] at hBit
    split at hBit
    · next hIndex =>
        by_contra hTrue
        rw [Bool.not_eq_false] at hTrue
        rw [hTrue] at hBit
        have hInside := hWindow i hBit
        omega
    · cases hBit
  have hAfter :
      ∀ bit ∈ (bits.drop start).drop w, bit = false := by
    intro bit hMember
    rcases List.mem_iff_getElem?.mp hMember with ⟨i, hBit⟩
    rw [List.getElem?_drop, List.getElem?_drop] at hBit
    by_contra hTrue
    rw [Bool.not_eq_false] at hTrue
    rw [hTrue] at hBit
    have hInside := hWindow _ hBit
    omega
  have hFeedWindow :
      feedBits p 0#w ((bits.drop start).take w) = 0#w := by
    rw [← List.take_append_drop start bits,
      feedBits_append, feedBits_zero p hBefore,
      ← List.take_append_drop w (bits.drop start),
      feedBits_append] at hFeed
    exact eq_zero_of_feedBits_zeros hTop hAfter hFeed
  have hInside :
      ∀ bit ∈ (bits.drop start).take w, bit = false := by
    intro bit hMember
    rcases List.mem_iff_getElem?.mp hMember with ⟨i, hBit⟩
    have hZero :=
      getLsbD_of_feedBits_eq_zero hTop
        (List.length_take_le _ _) hFeedWindow i
    rw [List.getD_eq_getElem?_getD, hBit] at hZero
    simpa using hZero.symm
  intro bit hMember
  rw [← List.take_append_drop start bits,
    ← List.take_append_drop w (bits.drop start),
    List.mem_append, List.mem_append] at hMember
  rcases hMember with hLeft | hMiddle | hRight
  · exact hBefore bit hLeft
  · exact hInside bit hMiddle
  · exact hAfter bit hRight

/-
  Burst errors: two messages that differ, in no bits but
  those of a window as wide as the register, leave different
  registers.
-/
theorem feedBits_burst_ne
    (s : BitVec w)
    {bits bits' : List Bool}
    (hLength : bits.length = bits'.length)
    (hDiffer : bits ≠ bits')
    {start : Nat}
    (hWindow :
      ∀ i : Nat, bits[i]? ≠ bits'[i]? →
        start ≤ i ∧ i < start + w) :
    feedBits p s bits ≠ feedBits p s bits' := by
  intro hSame
  have hDifference := feedBits_xor p s s hLength
  rw [hSame, BitVec.xor_self, BitVec.xor_self] at hDifference
  apply hDiffer
  apply eq_of_zipWith_xor hLength
  apply eq_false_of_feedBits_eq_zero hTop _
    hDifference.symm
  · exact start
  · intro i hOne
    rw [List.getElem?_zipWith'] at hOne
    apply hWindow i
    intro hEqual
    rw [hEqual] at hOne
    cases hBit : bits'[i]? with
    | none => simp [hBit] at hOne
    | some bit => simp [hBit] at hOne

end Burst

end ReflectedCrc
