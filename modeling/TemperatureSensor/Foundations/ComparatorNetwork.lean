import TemperatureSensor.Foundations.Median
import Mathlib.Order.Monotone.Basic
import Mathlib.Order.MinMax
import Mathlib.Logic.Equiv.Basic

/-
  Comparator networks over an arbitrary linear order.

  A network is a list of pairs of cells; each pair exchanges
  its two cells when the first one holds the larger value.
  The pair may name its cells in either index order.

  Main declarations:
    * `exchange` and `run`
    * `exchange_apply`
    * `run_mono`
    * `run_const`
    * `exists_run_eq`
    * `run_comp_monotone`
    * `isMedian_run`
    * `run_eq_runBool`
-/

------------------------------------------------------------
-- Exchanges and Networks
------------------------------------------------------------

namespace ComparatorNetwork

variable {ι α : Type}
variable [DecidableEq ι] [LinearOrder α]

/- Exchange two cells when the first holds the larger value. -/
def exchange
    (a b : ι)
    (p : ι → α) : ι → α :=
  if p a > p b then
    fun i => p (Equiv.swap a b i)
  else
    p

/- Run the exchanges of a network from left to right. -/
def run :
    List (ι × ι) → (ι → α) → ι → α
| [], p => p
| (a, b) :: network, p => run network (exchange a b p)

/-
  After an exchange the first cell holds the minimum of the
  pair and the second the maximum.
-/
theorem exchange_apply
    (a b : ι)
    (p : ι → α)
    (i : ι) :
    exchange a b p i =
      if i = a then min (p a) (p b)
      else if i = b then max (p a) (p b)
      else p i := by
  unfold exchange
  by_cases hOrder : p a > p b
  · rw [if_pos hOrder, Equiv.swap_apply_def,
      min_eq_right hOrder.le, max_eq_left hOrder.le]
    split_ifs <;> rfl
  · have hLe : p a ≤ p b := not_lt.mp hOrder
    rw [if_neg hOrder, min_eq_left hLe, max_eq_right hLe]
    split_ifs with hFirst hSecond
    · rw [hFirst]
    · rw [hSecond]
    · rfl

------------------------------------------------------------
-- Monotonicity
------------------------------------------------------------

theorem exchange_mono
    (a b : ι)
    {p q : ι → α}
    (hLe : p ≤ q) :
    exchange a b p ≤ exchange a b q := by
  intro i
  simp only [exchange_apply]
  split_ifs
  · exact min_le_min (hLe a) (hLe b)
  · exact max_le_max (hLe a) (hLe b)
  · exact hLe i

/- A network is monotone in every one of its inputs. -/
theorem run_mono
    (network : List (ι × ι))
    {p q : ι → α}
    (hLe : p ≤ q) :
    run network p ≤ run network q := by
  induction network generalizing p q with
  | nil => exact hLe
  | cons pair network ih =>
      exact ih (exchange_mono pair.1 pair.2 hLe)

/- A network leaves a constant input alone. -/
@[simp] theorem run_const
    (network : List (ι × ι))
    (c : α) :
    run network (fun _ => c) = fun _ => c := by
  induction network with
  | nil => rfl
  | cons pair network ih =>
      have hPair :
          exchange pair.1 pair.2 (fun _ : ι => c) =
            fun _ => c := by
        simp [exchange]
      rw [run, hPair, ih]

/- Every output is at least any lower bound of the inputs. -/
theorem le_run_of_forall_le
    (network : List (ι × ι))
    {p : ι → α}
    {c : α}
    (hLower : ∀ i, c ≤ p i)
    (i : ι) :
    c ≤ run network p i := by
  have hMono :
      run network (fun _ => c) ≤ run network p :=
    run_mono network hLower
  simpa using hMono i

/- Every output is one of the inputs. -/
theorem exists_run_eq
    (network : List (ι × ι))
    (p : ι → α)
    (i : ι) :
    ∃ j, run network p i = p j := by
  induction network generalizing p i with
  | nil => exact ⟨i, rfl⟩
  | cons pair network ih =>
      rcases ih (exchange pair.1 pair.2 p) i with ⟨j, hOutput⟩
      rw [run, hOutput]
      unfold exchange
      split
      · exact ⟨_, rfl⟩
      · exact ⟨j, rfl⟩

------------------------------------------------------------
-- Threshold Principle
------------------------------------------------------------

variable {β : Type}
variable [LinearOrder β]

theorem exchange_comp_monotone
    {f : α → β}
    (hMono : Monotone f)
    (a b : ι)
    (p : ι → α) :
    exchange a b (f ∘ p) = f ∘ exchange a b p := by
  funext i
  rw [Function.comp_apply, exchange_apply, exchange_apply]
  split_ifs
  · exact (hMono.map_min).symm
  · exact (hMono.map_max).symm
  · rfl

/- A network commutes with every monotone map. -/
theorem run_comp_monotone
    {f : α → β}
    (hMono : Monotone f)
    (network : List (ι × ι))
    (p : ι → α) :
    run network (f ∘ p) = f ∘ run network p := by
  induction network generalizing p with
  | nil => rfl
  | cons pair network ih =>
      rw [run, run, exchange_comp_monotone hMono, ih]

/-
  A network whose output takes the majority of all Boolean
  inputs takes the median of an odd number of inputs.
-/
theorem isMedian_run
    [Fintype ι]
    (hOdd : Fintype.card ι % 2 = 1)
    {network : List (ι × ι)}
    {k : ι}
    (hMajority :
      ∀ b : ι → Bool,
        run network b k = true ↔ Median.Majority b)
    (p : ι → α) :
    Median.IsMedian p (run network p k) := by
  constructor
  · -- The threshold just above the output is not reached.
    have hThreshold :
        Monotone fun x => decide (run network p k < x) := by
      intro x y hLe hReached
      exact
        decide_eq_true
          ((of_decide_eq_true hReached).trans_le hLe)
    have hOutput := run_comp_monotone hThreshold network p
    have hMinority :
        ¬ Median.Majority
            ((fun x => decide (run network p k < x)) ∘ p) := by
      rw [← hMajority, hOutput]
      simp
    have hBelow := Median.majority_not hOdd hMinority
    have hTests :
        (fun i => !((fun x => decide (run network p k < x)) ∘
          p) i) =
          fun i => decide (p i ≤ run network p k) := by
      funext i
      simp [← decide_not]
    rwa [hTests] at hBelow
  · have hThreshold :
        Monotone fun x => decide (run network p k ≤ x) := by
      intro x y hLe hReached
      exact
        decide_eq_true ((of_decide_eq_true hReached).trans hLe)
    have hOutput := run_comp_monotone hThreshold network p
    apply (hMajority _).mp
    rw [show
      (fun i => decide (run network p k ≤ p i)) =
        (fun x => decide (run network p k ≤ x)) ∘ p from rfl,
      hOutput]
    simp

------------------------------------------------------------
-- Boolean Inputs
------------------------------------------------------------

/- On Booleans an exchange is a conjunction and a disjunction. -/
def exchangeBool
    (a b : ι)
    (p : ι → Bool) : ι → Bool :=
  fun i =>
    if i = a then p a && p b
    else if i = b then p a || p b
    else p i

/- The same run, without the order of the Booleans. -/
def runBool :
    List (ι × ι) → (ι → Bool) → ι → Bool
| [], p => p
| (a, b) :: network, p => runBool network (exchangeBool a b p)

theorem exchange_eq_exchangeBool
    (a b : ι)
    (p : ι → Bool) :
    exchange a b p = exchangeBool a b p := by
  funext i
  rw [exchange_apply]
  rfl

theorem run_eq_runBool
    (network : List (ι × ι))
    (p : ι → Bool) :
    run network p = runBool network p := by
  induction network generalizing p with
  | nil => rfl
  | cons pair network ih =>
      rw [run, runBool, exchange_eq_exchangeBool, ih]

end ComparatorNetwork
