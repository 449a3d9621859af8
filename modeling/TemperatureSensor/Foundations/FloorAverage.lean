import Mathlib.Logic.Function.Iterate
import Mathlib.Tactic.Linarith
import Mathlib.Tactic.Ring

/-
  The smoothing recurrence of integer code: a weighted
  average of the old value and the input, rounded down.

  Main declarations:
    * `average`
    * `le_average` and `average_le`
    * `settled`
    * `iterate_average`
    * `exists_le_foldl` and `exists_foldl_le`
-/

------------------------------------------------------------
-- Averages
------------------------------------------------------------

namespace FloorAverage

variable {k f c : Int}

/- One step from `f` to the input `c`, which weighs `1 / k`. -/
def average (k f c : Int) : Int :=
  ((k - 1) * f + c) / k

theorem average_eq_add
    (hWeight : 0 < k) :
    average k f c = f + (c - f) / k := by
  have hSplit : (k - 1) * f + c = (c - f) + f * k := by ring
  unfold average
  rw [hSplit, Int.add_mul_ediv_right _ _ hWeight.ne', add_comm]

/- An average is not below a common lower bound. -/
theorem le_average
    {low : Int}
    (hWeight : 0 < k)
    (hValue : low ≤ f)
    (hInput : low ≤ c) :
    low ≤ average k f c := by
  unfold average
  rw [Int.le_ediv_iff_mul_le hWeight]
  have hScaled : (k - 1) * low ≤ (k - 1) * f :=
    mul_le_mul_of_nonneg_left hValue (by omega)
  calc
    low * k = (k - 1) * low + low := by ring
    _ ≤ (k - 1) * f + c := by omega

/- An average is not above a common upper bound. -/
theorem average_le
    {high : Int}
    (hWeight : 0 < k)
    (hValue : f ≤ high)
    (hInput : c ≤ high) :
    average k f c ≤ high := by
  have hScaled : (k - 1) * f ≤ (k - 1) * high :=
    mul_le_mul_of_nonneg_left hValue (by omega)
  have hSum : (k - 1) * f + c ≤ high * k := by
    calc
      (k - 1) * f + c ≤ (k - 1) * high + high := by omega
      _ = high * k := by ring
  unfold average
  calc
    ((k - 1) * f + c) / k
        ≤ high * k / k := Int.ediv_le_ediv hWeight hSum
    _ = high := Int.mul_ediv_cancel _ hWeight.ne'

------------------------------------------------------------
-- Constant Inputs
------------------------------------------------------------

/- From above the value falls, but not below the input. -/
theorem average_of_gt
    (hWeight : 1 < k)
    (hAbove : c < f) :
    c ≤ average k f c ∧ average k f c < f := by
  have hQuotient : (c - f) / k < 0 :=
    Int.ediv_neg_of_neg_of_pos (by omega) (by omega)
  refine ⟨le_average (by omega) hAbove.le le_rfl, ?_⟩
  rw [average_eq_add (by omega)]
  omega

/- Less than one weight below the input nothing changes. -/
theorem average_of_near
    (hWeight : 1 < k)
    (hNear : c - k < f)
    (hBelow : f ≤ c) :
    average k f c = f := by
  have hQuotient : (c - f) / k = 0 :=
    Int.ediv_eq_zero_of_lt (by omega) (by omega)
  rw [average_eq_add (by omega), hQuotient, add_zero]

/- From further below it grows, but not beyond `c - (k - 1)`. -/
theorem average_of_le
    (hWeight : 1 < k)
    (hFar : f ≤ c - k) :
    f < average k f c ∧ average k f c ≤ c - (k - 1) := by
  have hDivision := Int.mul_ediv_add_emod (c - f) k
  have hLower := Int.emod_nonneg (c - f) (by omega : k ≠ 0)
  have hQuotient : 1 ≤ (c - f) / k := by
    rw [Int.le_ediv_iff_mul_le (by omega)]
    omega
  have hScaled : 0 ≤ (k - 1) * ((c - f) / k - 1) :=
    mul_nonneg (by omega) (by omega)
  rw [average_eq_add (by omega)]
  constructor
  · omega
  · linarith

/-
  Where a constant input leaves the value: at the input from
  above, and up to `k - 1` short of it from below.
-/
def settled (k f c : Int) : Int :=
  if c ≤ f then c else max f (c - (k - 1))

theorem settled_mem
    (hWeight : 1 < k) :
    c - (k - 1) ≤ settled k f c ∧ settled k f c ≤ c := by
  unfold settled
  split <;> omega

theorem settled_eq_iff
    (hWeight : 1 < k) :
    settled k f c = c ↔ c ≤ f := by
  unfold settled
  split <;> omega

/- A step does not change where the value settles. -/
theorem settled_average
    (hWeight : 1 < k) :
    settled k (average k f c) c = settled k f c := by
  unfold settled
  rcases lt_or_ge c f with hAbove | hBelow
  · have hStep := average_of_gt hWeight hAbove
    rw [if_pos hStep.1, if_pos hAbove.le]
  · rcases lt_or_ge (c - k) f with hNear | hFar
    · rw [average_of_near hWeight hNear hBelow]
    · have hStep := average_of_le hWeight hFar
      rw [if_neg (by omega), if_neg (by omega)]
      omega

/- A step comes closer, unless the value is settled. -/
theorem abs_average_sub_settled_le
    (hWeight : 1 < k)
    {n : Nat}
    (hDistance : |f - settled k f c| ≤ n + 1) :
    |average k f c - settled k f c| ≤ n := by
  unfold settled at hDistance ⊢
  rw [abs_le] at hDistance ⊢
  rcases lt_or_ge c f with hAbove | hBelow
  · have hStep := average_of_gt hWeight hAbove
    rw [if_pos hAbove.le] at hDistance ⊢
    omega
  · rcases lt_or_ge (c - k) f with hNear | hFar
    · rw [average_of_near hWeight hNear hBelow]
      split at hDistance <;> omega
    · have hStep := average_of_le hWeight hFar
      rw [if_neg (by omega)] at hDistance ⊢
      omega

/- After enough steps the value is settled, and stays so. -/
theorem iterate_average
    (hWeight : 1 < k)
    {n : Nat}
    (hDistance : |f - settled k f c| ≤ n) :
    (fun x => average k x c)^[n] f = settled k f c := by
  induction n generalizing f with
  | zero =>
      have hZero : f - settled k f c = 0 := by
        simpa using hDistance
      rw [Function.iterate_zero_apply]
      omega
  | succ n ih =>
      rw [Function.iterate_succ_apply,
        ih (by
          rw [settled_average hWeight]
          exact
            abs_average_sub_settled_le hWeight
              (by exact_mod_cast hDistance)),
        settled_average hWeight]

/- The distance to the input bounds the number of steps. -/
theorem abs_sub_settled_le
    (hWeight : 1 < k) :
    |f - settled k f c| ≤ |f - c| := by
  unfold settled
  split
  · exact le_rfl
  · next hBelow =>
      rw [abs_of_nonpos (by omega : f - c ≤ 0), abs_le]
      omega

------------------------------------------------------------
-- Changing Inputs
------------------------------------------------------------

section Folds

variable {α : Type}
variable [LinearOrder α]
variable {step : α → α → α}

/-
  Steps that stay above their arguments' lower bounds do not
  fall below the start and all inputs.
-/
theorem exists_le_foldl
    (hStep :
      ∀ low f x, low ≤ f → low ≤ x → low ≤ step f x)
    (inputs : List α)
    (f : α) :
    ∃ low ∈ f :: inputs, low ≤ inputs.foldl step f := by
  induction inputs generalizing f with
  | nil => exact ⟨f, by simp⟩
  | cons x inputs ih =>
      rcases ih (step f x) with ⟨low, hMember, hLow⟩
      rw [List.foldl_cons]
      rcases List.mem_cons.mp hMember with hHead | hTail
      · subst hHead
        rcases le_total f x with hFirst | hSecond
        · exact
            ⟨f, by simp,
              (hStep f f x le_rfl hFirst).trans hLow⟩
        · exact
            ⟨x, by simp,
              (hStep x f x hSecond le_rfl).trans hLow⟩
      · exact ⟨low, by simp [hTail], hLow⟩

/- The same for upper bounds. -/
theorem exists_foldl_le
    (hStep :
      ∀ high f x, f ≤ high → x ≤ high → step f x ≤ high)
    (inputs : List α)
    (f : α) :
    ∃ high ∈ f :: inputs, inputs.foldl step f ≤ high :=
  exists_le_foldl (α := αᵒᵈ) hStep inputs f

end Folds

end FloorAverage
