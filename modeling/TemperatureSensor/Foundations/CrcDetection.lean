import Mathlib.Algebra.Ring.Parity
import TemperatureSensor.Foundations.ReflectedCrc

/-
  Errors that a reflected cyclic redundancy check detects by
  their number: an odd number of errors, if the polynomial has
  an even number of terms, and two errors that are less apart
  than the order of the polynomial.

  Main declarations:
    * `errors`
    * `feedBits_odd_ne`
    * `feedBits_two_ne`
-/

------------------------------------------------------------
-- Errors
------------------------------------------------------------

namespace ReflectedCrc

variable {w : Nat}

/- Where two messages of one length differ. -/
def errors (bits bits' : List Bool) : List Bool :=
  bits.zipWith xor bits'

/- The registers agree if the errors are not noticed. -/
theorem feedBits_errors
    {p s : BitVec w}
    {bits bits' : List Bool}
    (hLength : bits.length = bits'.length)
    (hSame : feedBits p s bits = feedBits p s bits') :
    feedBits p 0#w (errors bits bits') = 0#w := by
  have hDifference := feedBits_xor p s s hLength
  rw [hSame, BitVec.xor_self, BitVec.xor_self] at hDifference
  exact hDifference.symm

------------------------------------------------------------
-- Rounds
------------------------------------------------------------

theorem iterate_round_xor
    (p a b : BitVec w)
    (n : Nat) :
    (round p)^[n] (a ^^^ b) =
      (round p)^[n] a ^^^ (round p)^[n] b := by
  induction n generalizing a b with
  | zero => rfl
  | succ n ih =>
      simp only [Function.iterate_succ_apply]
      rw [round_xor, ih]

/- Zeros at the low end are shifted out. -/
theorem iterate_round_of_zeros
    (p : BitVec w)
    {s : BitVec w}
    {n : Nat}
    (hZeros : ∀ i, i < n → s.getLsbD i = false) :
    (round p)^[n] s = s >>> n := by
  induction n with
  | zero => simp
  | succ n ih =>
      have hLow : (s >>> n).getLsbD 0 = false := by
        rw [BitVec.getLsbD_ushiftRight]
        exact hZeros n (by omega)
      have hBefore := ih fun i hInside => hZeros i (by omega)
      rw [Function.iterate_succ_apply', hBefore]
      unfold round
      rw [hLow, BitVec.shiftRight_add]
      rfl

------------------------------------------------------------
-- Parity
------------------------------------------------------------

/- Whether a list has an odd number of ones. -/
def parity (bits : List Bool) : Bool :=
  bits.foldr xor false

@[simp]
theorem parity_nil :
    parity [] = false := by
  rfl

@[simp]
theorem parity_cons
    (bit : Bool)
    (bits : List Bool) :
    parity (bit :: bits) = (bit ^^ parity bits) := by
  rfl

theorem parity_append
    (bits bits' : List Bool) :
    parity (bits ++ bits') =
      (parity bits ^^ parity bits') := by
  induction bits with
  | nil => simp
  | cons bit bits ih => simp [ih]

theorem parity_errors
    {bits bits' : List Bool}
    (hLength : bits.length = bits'.length) :
    parity (errors bits bits') =
      (parity bits ^^ parity bits') := by
  induction bits generalizing bits' with
  | nil =>
      cases bits' with
      | nil => rfl
      | cons bit' bits' => simp at hLength
  | cons bit bits ih =>
      cases bits' with
      | nil => simp at hLength
      | cons bit' bits' =>
          have hRest := ih (Nat.succ.inj hLength)
          unfold errors at hRest ⊢
          rw [List.zipWith_cons_cons, parity_cons, hRest,
            parity_cons, parity_cons]
          simp [Bool.xor_left_comm]

theorem parity_eq_true_iff
    {bits : List Bool} :
    parity bits = true ↔ Odd (bits.count true) := by
  induction bits with
  | nil => simp
  | cons bit bits ih =>
      cases bit with
      | false => simpa using ih
      | true =>
          rw [parity_cons, Bool.true_xor, Bool.not_eq_true',
            List.count_cons_self, Nat.odd_add_one, ← ih]
          simp

/- The parity of all bits of a word. -/
def wordParity (s : BitVec w) : Bool :=
  parity (lowBits w s)

theorem wordParity_xor
    (a b : BitVec w) :
    wordParity (a ^^^ b) =
      (wordParity a ^^ wordParity b) := by
  have hBits :
      lowBits w (a ^^^ b) =
        errors (lowBits w a) (lowBits w b) := by
    unfold errors lowBits
    rw [List.zipWith_map]
    simp
  unfold wordParity
  rw [hBits, parity_errors (by simp [lowBits])]

/- Shifting loses the lowest bit, and nothing else. -/
theorem wordParity_shift
    (s : BitVec w) :
    wordParity (s >>> 1) =
      (s.getLsbD 0 ^^ wordParity s) := by
  have hLow := congrArg parity (lowBits_succ w s)
  rw [lowBits_add, parity_append, parity_cons] at hLow
  have hTop : parity (lowBits 1 (s >>> w)) = false := by
    simp [lowBits]
  rw [hTop, Bool.xor_false] at hLow
  unfold wordParity
  rw [hLow]
  simp

@[simp]
theorem wordParity_zero :
    wordParity 0#w = false := by
  have hSelf := wordParity_xor 0#w 0#w
  rw [BitVec.xor_self, Bool.xor_self] at hSelf
  exact hSelf

section Odd

variable {p : BitVec w}
variable (hOdd : wordParity p = true)

include hOdd

/- A one that drops out is replaced by an odd number. -/
theorem wordParity_round
    (s : BitVec w) :
    wordParity (round p s) = wordParity s := by
  unfold round
  split
  · next hOne =>
      rw [wordParity_xor, hOdd, wordParity_shift, hOne]
      simp
  · next hZero =>
      rw [wordParity_shift, Bool.eq_false_iff.mpr hZero]
      simp

theorem wordParity_feed
    (hWidth : 0 < w)
    (s : BitVec w)
    (bit : Bool) :
    wordParity (feed p s bit) = (wordParity s ^^ bit) := by
  have hBit :
      wordParity ((BitVec.ofBool bit).setWidth w) = bit := by
    have hShift :=
      wordParity_shift ((BitVec.ofBool bit).setWidth w)
    have hNone :
        (BitVec.ofBool bit).setWidth w >>> 1 = 0#w := by
      apply BitVec.eq_of_getLsbD_eq
      intro i _
      rw [BitVec.getLsbD_ushiftRight, getLsbD_bit hWidth]
      simp
    rw [hNone, wordParity_zero, getLsbD_bit hWidth] at hShift
    have hSame :
        bit = wordParity ((BitVec.ofBool bit).setWidth w) := by
      simpa using hShift
    exact hSame.symm
  unfold feed
  rw [wordParity_round hOdd, wordParity_xor, hBit]

/- The register counts the ones of the message modulo two. -/
theorem wordParity_feedBits
    (hWidth : 0 < w)
    (s : BitVec w)
    (bits : List Bool) :
    wordParity (feedBits p s bits) =
      (wordParity s ^^ parity bits) := by
  induction bits generalizing s with
  | nil => simp [feedBits]
  | cons bit bits ih =>
      have hRest := ih (feed p s bit)
      rw [wordParity_feed hOdd hWidth] at hRest
      rw [parity_cons, ← Bool.xor_assoc]
      exact hRest

/- An odd number of errors is noticed wherever they are. -/
theorem feedBits_odd_ne
    (hWidth : 0 < w)
    (s : BitVec w)
    {bits bits' : List Bool}
    (hLength : bits.length = bits'.length)
    (hErrors : Odd ((errors bits bits').count true)) :
    feedBits p s bits ≠ feedBits p s bits' := by
  intro hSame
  have hParity :=
    wordParity_feedBits hOdd hWidth 0#w (errors bits bits')
  rw [feedBits_errors hLength hSame, wordParity_zero,
    Bool.false_xor, parity_eq_true_iff.mpr hErrors] at hParity
  cases hParity

end Odd

------------------------------------------------------------
-- Two Errors
------------------------------------------------------------

theorem exists_first_one
    {bits : List Bool}
    (hOne : 0 < bits.count true) :
    ∃ zeros rest,
      bits = zeros ++ true :: rest ∧
        (∀ bit ∈ zeros, bit = false) ∧
          rest.count true + 1 = bits.count true := by
  induction bits with
  | nil => simp at hOne
  | cons bit bits ih =>
      cases bit with
      | true =>
          refine ⟨[], bits, rfl, ?_, ?_⟩
          · intro bit hMember
            cases hMember
          · rw [List.count_cons_self]
      | false =>
          have hLater : (false :: bits).count true =
              bits.count true := by
            simp
          rw [hLater] at hOne ⊢
          rcases ih hOne with ⟨zeros, rest, rfl, hZeros, hCount⟩
          refine ⟨false :: zeros, rest, rfl, ?_, hCount⟩
          exact List.forall_mem_cons.mpr ⟨rfl, hZeros⟩

theorem forall_eq_false_of_count
    {bits : List Bool}
    (hCount : bits.count true = 0) :
    ∀ bit ∈ bits, bit = false := by
  intro bit hMember
  by_contra hTrue
  rw [Bool.not_eq_false] at hTrue
  rw [hTrue] at hMember
  exact List.count_eq_zero.mp hCount hMember

/- Zero bits shift the register along. -/
theorem feedBits_zeros
    (p s : BitVec w)
    {bits : List Bool}
    (hBits : ∀ bit ∈ bits, bit = false) :
    feedBits p s bits = (round p)^[bits.length] s := by
  induction bits generalizing s with
  | nil => rfl
  | cons bit bits ih =>
      rw [List.forall_mem_cons] at hBits
      have hFirst : feed p s bit = round p s := by
        rw [hBits.1]
        unfold feed
        simp
      rw [List.length_cons, Function.iterate_succ_apply,
        ← hFirst, ← ih _ hBits.2]
      rfl

/- No state of the next `n` rounds is one. -/
def avoidsOne (p : BitVec w) : Nat → BitVec w → Bool
| 0, _ => true
| n + 1, s => s != 1#w && avoidsOne p n (round p s)

theorem iterate_round_ne_one
    {p s : BitVec w}
    {n : Nat}
    (hAvoids : avoidsOne p n s = true)
    {k : Nat}
    (hInside : k < n) :
    (round p)^[k] s ≠ 1#w := by
  induction n generalizing s k with
  | zero => omega
  | succ n ih =>
      rw [avoidsOne, Bool.and_eq_true, bne_iff_ne] at hAvoids
      cases k with
      | zero => exact hAvoids.1
      | succ k =>
          rw [Function.iterate_succ_apply]
          exact ih hAvoids.2 (by omega)

/-
  Two errors are noticed if no number of rounds below the
  length of the message leads from one back to one.
-/
theorem feedBits_two_ne
    {p : BitVec w}
    (hTop : p.getLsbD (w - 1) = true)
    (s : BitVec w)
    {bits bits' : List Bool}
    (hLength : bits.length = bits'.length)
    {n : Nat}
    (hAvoids : avoidsOne p n (round p 1#w) = true)
    (hShort : bits.length ≤ n + 1)
    (hErrors : (errors bits bits').count true = 2) :
    feedBits p s bits ≠ feedBits p s bits' := by
  intro hSame
  have hFeed := feedBits_errors hLength hSame
  have hTotal :
      (errors bits bits').length = bits.length := by
    unfold errors
    rw [List.length_zipWith, ← hLength, Nat.min_self]
  rcases exists_first_one (by rw [hErrors]; omega) with
    ⟨zeros, rest, hFirst, hZeros, hCount⟩
  have hSecond : 0 < rest.count true := by omega
  rcases exists_first_one hSecond with
    ⟨middle, last, rfl, hMiddle, hCount'⟩
  have hNone : last.count true = 0 := by omega
  have hLast := forall_eq_false_of_count hNone
  have hOne : ∀ t : BitVec w,
      feed p t true = round p (t ^^^ 1#w) := by
    intro t
    unfold feed
    congr 2
    apply BitVec.eq_of_getLsbD_eq
    intro i hIndex
    rw [getLsbD_bit (by omega), BitVec.getLsbD_one]
    simp
    omega
  have hParts :
      feedBits p 0#w (zeros ++ true :: (middle ++ true :: last)) =
        feedBits p
          (round p ((round p)^[middle.length + 1] 1#w ^^^ 1#w))
          last := by
    rw [feedBits_append, feedBits_zero p hZeros]
    change
      feedBits p (feed p 0#w true) (middle ++ true :: last) = _
    rw [hOne, BitVec.zero_xor, feedBits_append,
      feedBits_zeros p _ hMiddle, Function.iterate_succ_apply,
      ← hOne]
    rfl
  rw [hFirst, hParts] at hFeed
  have hZero :=
    eq_zero_of_round_eq_zero hTop
      (eq_zero_of_feedBits_zeros hTop hLast hFeed)
  have hInside : middle.length + 1 < bits.length := by
    rw [← hTotal, hFirst, List.length_append, List.length_cons,
      List.length_append, List.length_cons]
    omega
  apply iterate_round_ne_one hAvoids (k := middle.length)
  · omega
  · rw [← Function.iterate_succ_apply]
    exact BitVec.xor_eq_zero_iff.mp hZero

end ReflectedCrc
