import Mathlib.Algebra.Order.Ring.Int
import Mathlib.Tactic.Positivity

/-
  Signed integer arithmetic of a fixed width in which an
  overflow is an error, and evenly spaced values.

  Main declarations:
    * `fit`, `add` and `mul`
    * `fit_eq_some_iff`
    * `add_fit`
    * `le_abs_sub_iff_ne`
-/

------------------------------------------------------------
-- Checked Operations
------------------------------------------------------------

namespace CheckedInt

variable {w : Nat}
variable {a b n : Int}

/- A signed integer of `w` bits, unless it overflows. -/
def fit (w : Nat) (n : Int) : Option Int :=
  if -2 ^ (w - 1) ≤ n ∧ n < 2 ^ (w - 1) then some n else none

/- The sum of two checked operands. -/
def add (w : Nat) (left right : Option Int) : Option Int :=
  left.bind fun a => right.bind fun b => fit w (a + b)

/- The product of two checked operands. -/
def mul (w : Nat) (left right : Option Int) : Option Int :=
  left.bind fun a => right.bind fun b => fit w (a * b)

@[simp]
theorem mul_some
    (w : Nat)
    (a b : Int) :
    mul w (some a) (some b) = fit w (a * b) := by
  rfl

theorem fit_eq_some_iff
    (hNonneg : 0 ≤ n)
    {m : Int} :
    fit w n = some m ↔ n = m ∧ n < 2 ^ (w - 1) := by
  have hWidth : (0 : Int) < 2 ^ (w - 1) := by positivity
  unfold fit
  split
  · next hInside =>
      constructor
      · intro hSame
        exact ⟨Option.some.inj hSame, hInside.2⟩
      · rintro ⟨rfl, -⟩
        rfl
  · next hOutside =>
      constructor
      · intro hSame
        cases hSame
      · rintro ⟨-, hBelow⟩
        exact absurd ⟨by omega, hBelow⟩ hOutside

/-
  Operands that are not negative overflow no earlier than
  their sum.
-/
theorem add_fit
    (hLeft : 0 ≤ a)
    (hRight : 0 ≤ b) :
    add w (fit w a) (fit w b) = fit w (a + b) := by
  have hSum : 0 ≤ a + b := Int.add_nonneg hLeft hRight
  ext m
  unfold add
  simp only [Option.bind_eq_some_iff, fit_eq_some_iff hLeft,
    fit_eq_some_iff hRight]
  constructor
  · rintro ⟨_, ⟨rfl, -⟩, _, ⟨rfl, -⟩, hFits⟩
    exact hFits
  · intro hFits
    rcases (fit_eq_some_iff hSum).mp hFits with ⟨-, hBelow⟩
    exact
      ⟨a, ⟨rfl, by omega⟩, b, ⟨rfl, by omega⟩, hFits⟩

------------------------------------------------------------
-- Even Spacing
------------------------------------------------------------

/- Evenly spaced values are apart as soon as they differ. -/
theorem le_abs_sub_iff_ne
    {gap : Int}
    (hGap : 0 < gap)
    (base i j : Int) :
    gap ≤ |(base + gap * i) - (base + gap * j)| ↔ i ≠ j := by
  have hDifference :
      (base + gap * i) - (base + gap * j) = gap * (i - j) := by
    rw [Int.mul_sub]
    omega
  rw [hDifference, abs_mul, abs_of_pos hGap,
    le_mul_iff_one_le_right hGap]
  constructor
  · intro hApart hSame
    rw [hSame, Int.sub_self, abs_zero] at hApart
    omega
  · intro hDiffer
    exact Int.one_le_abs (sub_ne_zero.mpr hDiffer)

end CheckedInt
