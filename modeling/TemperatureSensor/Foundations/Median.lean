import Mathlib.Data.Fintype.Card
import Mathlib.Order.Basic

/-
  Medians of an odd number of values in a linear order: more
  than half of the values lie on either side, the median
  itself counted on both.

  Main declarations:
    * `IsMedian`
    * `IsMedian.unique`
    * `IsMedian.comp_equiv`
-/

------------------------------------------------------------
-- Majorities
------------------------------------------------------------

namespace Median

variable {ι α : Type}
variable [Fintype ι]

/- More than half of the indices satisfy the test. -/
def Majority (b : ι → Bool) : Prop :=
  Fintype.card ι < 2 * (Finset.univ.filter (b · = true)).card

instance (b : ι → Bool) : Decidable (Majority b) := by
  unfold Majority
  infer_instance

/- Two majorities have an index in common. -/
theorem Majority.exists_common
    {b c : ι → Bool}
    (hLeft : Majority b)
    (hRight : Majority c) :
    ∃ i, b i = true ∧ c i = true := by
  classical
  by_contra hNone
  have hDisjoint :
      Disjoint (Finset.univ.filter (b · = true))
        (Finset.univ.filter (c · = true)) := by
    rw [Finset.disjoint_filter]
    intro i _ hFirst hSecond
    exact hNone ⟨i, hFirst, hSecond⟩
  have hCard :=
    Finset.card_le_univ
      (Finset.univ.filter (b · = true) ∪
        Finset.univ.filter (c · = true))
  rw [Finset.card_union_of_disjoint hDisjoint] at hCard
  unfold Majority at hLeft hRight
  omega

/- Of an odd number, one side of a test is the majority. -/
theorem majority_not
    (hOdd : Fintype.card ι % 2 = 1)
    {b : ι → Bool}
    (hMinority : ¬ Majority b) :
    Majority (fun i => !b i) := by
  have hSplit :=
    Finset.card_filter_add_card_filter_not
      (s := (Finset.univ : Finset ι)) (p := (b · = true))
  have hComplement :
      Finset.univ.filter (fun i => (!b i) = true) =
        Finset.univ.filter (fun i => ¬ b i = true) := by
    ext i
    simp
  rw [Finset.card_univ] at hSplit
  unfold Majority at hMinority ⊢
  rw [hComplement]
  omega

/- A majority does not depend on the order of the indices. -/
theorem majority_comp_equiv
    (σ : Equiv.Perm ι)
    (b : ι → Bool) :
    Majority (b ∘ σ) ↔ Majority b := by
  have hCard :
      (Finset.univ.filter ((b ∘ σ) · = true)).card =
        (Finset.univ.filter (b · = true)).card := by
    apply Finset.card_equiv σ
    intro i
    simp
  unfold Majority
  rw [hCard]

------------------------------------------------------------
-- Medians
------------------------------------------------------------

variable [LinearOrder α]

/- Most values are at most `v`, and most are at least `v`. -/
structure IsMedian (p : ι → α) (v : α) : Prop where
  below : Majority (fun i => decide (p i ≤ v))
  above : Majority (fun i => decide (v ≤ p i))

theorem IsMedian.le
    {p : ι → α}
    {v w : α}
    (hLeft : IsMedian p v)
    (hRight : IsMedian p w) :
    v ≤ w := by
  rcases hLeft.above.exists_common hRight.below with
    ⟨i, hAbove, hBelow⟩
  exact
    (of_decide_eq_true hAbove).trans
      (of_decide_eq_true hBelow)

theorem IsMedian.unique
    {p : ι → α}
    {v w : α}
    (hLeft : IsMedian p v)
    (hRight : IsMedian p w) :
    v = w :=
  le_antisymm (hLeft.le hRight) (hRight.le hLeft)

/- A permutation of the values keeps the median. -/
theorem IsMedian.comp_equiv
    {p : ι → α}
    {v : α}
    (hMedian : IsMedian p v)
    (σ : Equiv.Perm ι) :
    IsMedian (p ∘ σ) v :=
  ⟨(majority_comp_equiv σ _).mpr hMedian.below,
    (majority_comp_equiv σ _).mpr hMedian.above⟩

end Median
