import Mathlib.Algebra.Order.Field.Basic
import Mathlib.Algebra.Order.Field.Rat
import Mathlib.Algebra.Order.Floor.Semiring
import Mathlib.Tactic.FieldSimp
import Mathlib.Tactic.Linarith
import Mathlib.Tactic.Ring

/-
  Division to the nearest integer, halves rounded up, folded
  into one floor division as integer code computes it, and
  the nearest integer in an ordered field.

  Main declarations:
    * `roundDiv`
    * `roundDiv_mono`
    * `roundDiv_zero` and `roundDiv_mul_self`
    * `roundDiv_nonneg` and `roundDiv_le`
    * `abs_sub_roundDiv_le`
    * `IsNearest`
-/

------------------------------------------------------------
-- Rounded Quotients
------------------------------------------------------------

namespace RoundedDivision

/- The quotient `n / d` rounded to the nearest integer. -/
def roundDiv (n d : Int) : Int :=
  (n + d / 2) / d

theorem roundDiv_mono
    {n m d : Int}
    (hPositive : 0 < d)
    (hLe : n ≤ m) :
    roundDiv n d ≤ roundDiv m d := by
  apply Int.ediv_le_ediv hPositive
  omega

@[simp] theorem roundDiv_zero
    {d : Int}
    (hPositive : 0 < d) :
    roundDiv 0 d = 0 := by
  unfold roundDiv
  rw [zero_add]
  apply Int.ediv_eq_zero_of_lt
  · omega
  · omega

/- An exact multiple of the divisor is not rounded. -/
theorem roundDiv_mul_self
    (s : Int)
    {d : Int}
    (hPositive : 0 < d) :
    roundDiv (s * d) d = s := by
  unfold roundDiv
  rw [add_comm, Int.add_mul_ediv_right _ _ hPositive.ne']
  have hHalf : d / 2 / d = 0 := by
    apply Int.ediv_eq_zero_of_lt
    · omega
    · omega
  omega

theorem roundDiv_nonneg
    {n d : Int}
    (hPositive : 0 < d)
    (hNumerator : 0 ≤ n) :
    0 ≤ roundDiv n d := by
  rw [← roundDiv_zero hPositive]
  exact roundDiv_mono hPositive hNumerator

theorem roundDiv_le
    {n s d : Int}
    (hPositive : 0 < d)
    (hNumerator : n ≤ s * d) :
    roundDiv n d ≤ s := by
  rw [← roundDiv_mul_self s hPositive]
  exact roundDiv_mono hPositive hNumerator

/- The remainder of the rounding is at most half a divisor. -/
theorem abs_two_mul_remainder_le
    (n : Int)
    {d : Int}
    (hPositive : 0 < d) :
    |2 * (n - d * roundDiv n d)| ≤ d := by
  have hDivision := Int.mul_ediv_add_emod (n + d / 2) d
  have hLower := Int.emod_nonneg (n + d / 2) hPositive.ne'
  have hUpper := Int.emod_lt_of_pos (n + d / 2) hPositive
  change
    d * roundDiv n d + (n + d / 2) % d = n + d / 2
    at hDivision
  rw [abs_le]
  constructor <;> omega

/- Rounding moves the exact quotient by at most one half. -/
theorem abs_sub_roundDiv_le
    (n : Int)
    {d : Int}
    (hPositive : 0 < d) :
    |(n : ℚ) / d - roundDiv n d| ≤ 1 / 2 := by
  have hDivisor : (0 : ℚ) < d := by exact_mod_cast hPositive
  have hRemainder :
      |2 * ((n : ℚ) - d * roundDiv n d)| ≤ d := by
    exact_mod_cast abs_two_mul_remainder_le n hPositive
  have hQuotient :
      (n : ℚ) / d - roundDiv n d =
        2 * ((n : ℚ) - d * roundDiv n d) / (2 * d) := by
    field_simp
  rw [hQuotient, abs_div,
    abs_of_pos (mul_pos two_pos hDivisor),
    div_le_iff₀ (mul_pos two_pos hDivisor)]
  linarith

------------------------------------------------------------
-- Nearest Integers
------------------------------------------------------------

section Nearest

variable {K : Type} [Field K] [LinearOrder K]

/- `n` is `x` rounded to the nearest integer, halves up. -/
structure IsNearest (x : K) (n : Int) : Prop where
  lower : (n : K) ≤ x + 1 / 2
  upper : x + 1 / 2 < n + 1

/- Truncation after adding one half. -/
theorem isNearest_floor
    [FloorSemiring K]
    {x : K}
    (hNonneg : 0 ≤ x + 1 / 2) :
    IsNearest x ⌊x + 1 / 2⌋₊ := by
  constructor
  · rw [Int.cast_natCast]
    exact Nat.floor_le hNonneg
  · rw [Int.cast_natCast]
    exact Nat.lt_floor_add_one _

variable [IsStrictOrderedRing K]

theorem IsNearest.mono
    {x y : K}
    {n m : Int}
    (hLeft : IsNearest x n)
    (hRight : IsNearest y m)
    (hLe : x ≤ y) :
    n ≤ m := by
  have hBelow : (n : K) < m + 1 := by
    calc
      (n : K) ≤ x + 1 / 2 := hLeft.lower
      _ ≤ y + 1 / 2 := add_le_add_left hLe _
      _ < m + 1 := hRight.upper
  have hInteger : n < m + 1 := by exact_mod_cast hBelow
  omega

/- An integer is its own nearest integer. -/
theorem isNearest_intCast (n : Int) :
    IsNearest (n : K) n := by
  constructor
  · linarith
  · linarith

/- The half may be folded into the quotient. -/
theorem two_mul_add_div_two_mul
    (a : K)
    {b : K}
    (hDivisor : b ≠ 0) :
    (2 * a + b) / (2 * b) = a / b + 1 / 2 := by
  field_simp

end Nearest

end RoundedDivision
