import Mathlib.Data.Int.ConditionallyCompleteOrder
import Mathlib.Order.Monotone.Basic
import Mathlib.Tactic.Linarith

/-
  The signed 16-bit integers as a linear order, and the
  conversions a C compiler inserts between the 16-bit types
  and `int`, and between `int` and `uint32_t`.

  `Int16.ofInt` is the narrowing store of an `int` into an
  `int16_t`; `Int16.toUInt16` is the implicit conversion at a
  call that takes a `uint16_t`.

  Main declarations:
    * the `LinearOrder Int16` instance
    * `Int16.toInt_ofInt_of_mem`
    * `Int16.toNat_toUInt16_of_nonneg`
    * `Int16.toNat_toUInt16_of_neg`
    * `Int32.toNat_toUInt32_of_nonneg`
    * `UInt32.toInt_toInt32_of_lt`
    * `UInt16.toNat_sub_of_toNat_le`
    * `UInt16.toNat_and_topNibble`
-/

------------------------------------------------------------
-- Signed Order
------------------------------------------------------------

namespace Int16

instance instLinearOrder : LinearOrder Int16 where
  le_refl := Int16.le_refl
  le_trans := fun _ _ _ => Int16.le_trans
  le_antisymm := fun _ _ => Int16.le_antisymm
  le_total := Int16.le_total
  lt_iff_le_not_ge := by
    intro a b
    simp only [Int16.lt_iff_toInt_lt, Int16.le_iff_toInt_le]
    omega
  toDecidableLE := inferInstance
  toDecidableEq := inferInstance
  toDecidableLT := inferInstance

/- Reading a sample as an integer keeps the order. -/
theorem toInt_monotone : Monotone Int16.toInt := by
  intro a b hLe
  exact Int16.le_iff_toInt_le.mp hLe

------------------------------------------------------------
-- Narrowing and Reinterpretation
------------------------------------------------------------

/- A value in range survives the narrowing store. -/
theorem toInt_ofInt_of_mem
    {n : Int}
    (hLower : -32768 ≤ n)
    (hUpper : n ≤ 32767) :
    (Int16.ofInt n).toInt = n := by
  apply Int16.toInt_ofInt_of_le
  · omega
  · omega

/- The signed value of a 16-bit word, by its sign bit. -/
theorem toInt_eq_toNat_toUInt16
    (v : Int16) :
    v.toInt = (v.toUInt16.toNat : Int).bmod 65536 := by
  have hBits : v.toBitVec.toNat = v.toUInt16.toNat := rfl
  rw [← hBits]
  exact BitVec.toInt_eq_toNat_bmod v.toBitVec

/- A non-negative value keeps its value as a `uint16_t`. -/
theorem toNat_toUInt16_of_nonneg
    {v : Int16}
    (hSign : 0 ≤ v.toInt) :
    (v.toUInt16.toNat : Int) = v.toInt := by
  have hSigned := toInt_eq_toNat_toUInt16 v
  have hWidth := v.toUInt16.toNat_lt
  rw [Int.bmod_def] at hSigned
  split at hSigned <;> omega

/- A negative value wraps to the upper half of `uint16_t`. -/
theorem toNat_toUInt16_of_neg
    {v : Int16}
    (hSign : v.toInt < 0) :
    (v.toUInt16.toNat : Int) = v.toInt + 65536 := by
  have hSigned := toInt_eq_toNat_toUInt16 v
  have hWidth := v.toUInt16.toNat_lt
  rw [Int.bmod_def] at hSigned
  split at hSigned <;> omega

end Int16

namespace Int32

/- A non-negative value keeps its value as a `uint32_t`. -/
theorem toNat_toUInt32_of_nonneg
    {v : Int32}
    (hSign : 0 ≤ v.toInt) :
    (v.toUInt32.toNat : Int) = v.toInt := by
  have hSigned :
      v.toInt = (v.toUInt32.toNat : Int).bmod (2 ^ 32) :=
    BitVec.toInt_eq_toNat_bmod v.toBitVec
  have hWidth := v.toUInt32.toNat_lt
  rw [Int.bmod_def] at hSigned
  split at hSigned <;> omega

end Int32

namespace UInt32

/- A value below the sign bit keeps its value as an `int`. -/
theorem toInt_toInt32_of_lt
    {v : UInt32}
    (hSmall : v.toNat < 2 ^ 31) :
    v.toInt32.toInt = v.toNat := by
  have hSigned :
      v.toInt32.toInt = (v.toNat : Int).bmod (2 ^ 32) :=
    BitVec.toInt_eq_toNat_bmod v.toBitVec
  rw [hSigned, Int.bmod_def, if_pos (by omega)]
  omega

end UInt32

------------------------------------------------------------
-- Differences
------------------------------------------------------------

namespace UInt16

/- A difference that does not wrap, as an integer. -/
theorem toNat_sub_of_toNat_le
    {a b : UInt16}
    (hLe : b.toNat ≤ a.toNat) :
    ((a - b).toNat : Int) = (a.toNat : Int) - b.toNat := by
  rw [UInt16.toNat_sub_of_le _ _
    (UInt16.le_iff_toNat_le.mpr hLe)]
  omega

theorem sub_ne_zero_of_toNat_lt
    {a b : UInt16}
    (hLess : b.toNat < a.toNat) :
    a - b ≠ 0 := by
  have hDifference := toNat_sub_of_toNat_le hLess.le
  rw [ne_eq, ← UInt16.toNat_inj]
  change ¬ (a - b).toNat = 0
  omega

------------------------------------------------------------
-- Masks
------------------------------------------------------------

/- The mask of the top four bits keeps multiples of 4096. -/
theorem toNat_and_topNibble
    (v : UInt16) :
    (v &&& 0xF000).toNat = v.toNat / 4096 * 4096 := by
  have hWidth : v.toNat < 2 ^ 16 := v.toNat_lt
  have hShifts :
      v.toNat / 4096 * 4096 = (v.toNat >>> 12) <<< 12 := by
    rw [Nat.shiftRight_eq_div_pow, Nat.shiftLeft_eq]
  have hMask :
      (0xF000 : UInt16).toNat = (2 ^ 4 - 1) <<< 12 := by
    decide
  rw [UInt16.toNat_and, hMask, hShifts]
  apply Nat.eq_of_testBit_eq
  intro i
  rw [Nat.testBit_and, Nat.testBit_shiftLeft,
    Nat.testBit_shiftLeft, Nat.testBit_shiftRight,
    Nat.testBit_two_pow_sub_one]
  by_cases hLow : i < 12
  · simp [Nat.not_le.mpr hLow]
  · by_cases hHigh : i < 16
    · have hIndex : 12 + (i - 12) = i := by omega
      have hInside : i - 12 < 4 := by omega
      simp [hIndex, hInside, not_lt.mp hLow]
    · have hOutside : v.toNat.testBit i = false := by
        apply Nat.testBit_lt_two_pow
        exact hWidth.trans_le
          (Nat.pow_le_pow_right (by omega) (by omega))
      have hIndex : 12 + (i - 12) = i := by omega
      simp [hIndex, hOutside]

end UInt16
