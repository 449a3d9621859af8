import Mathlib.Algebra.GroupWithZero.Nat
import Mathlib.Data.List.Basic
import Mathlib.Order.Lattice
import Mathlib.Tactic.Common

/-
  Segments of numbers that are laid out one behind the other,
  and the segment that holds a number.

  Main declarations:
    * `Tiles`
    * `owner` and `Tiles.owner_eq_some_iff`
-/

------------------------------------------------------------
-- Segments
------------------------------------------------------------

namespace Segments

variable {α : Type}

/- A number between the ends of a segment. -/
def Holds (first last : α → Nat) (c : Nat) (a : α) : Prop :=
  first a ≤ c ∧ c ≤ last a

instance (first last : α → Nat) (c : Nat) (a : α) :
    Decidable (Holds first last c a) :=
  inferInstanceAs (Decidable (_ ∧ _))

/- Nonempty segments that fill the numbers up to `stop`. -/
def Tiles (first last : α → Nat) :
    Nat → List α → Nat → Prop
| start, [], stop => start = stop
| start, a :: l, stop =>
    first a = start ∧ first a ≤ last a ∧
      Tiles first last (last a + 1) l stop

variable {first last : α → Nat}
variable {l : List α}
variable {start stop : Nat}

theorem Tiles.start_le
    (hTiles : Tiles first last start l stop) :
    start ≤ stop := by
  induction l generalizing start with
  | nil => exact Nat.le_of_eq hTiles
  | cons a l ih =>
      rcases hTiles with ⟨hStart, hNonempty, hRest⟩
      have hNext := ih hRest
      omega

theorem Tiles.bounds
    (hTiles : Tiles first last start l stop)
    {a : α}
    (hMember : a ∈ l) :
    start ≤ first a ∧ first a ≤ last a ∧ last a < stop := by
  induction l generalizing start with
  | nil => cases hMember
  | cons b l ih =>
      rcases hTiles with ⟨hStart, hNonempty, hRest⟩
      rcases List.mem_cons.mp hMember with rfl | hBehind
      · have hNext := hRest.start_le
        omega
      · have hBounds := ih hRest hBehind
        omega

/- Earlier segments end before later ones begin. -/
theorem Tiles.last_lt_first
    (hTiles : Tiles first last start l stop)
    {i j : Nat}
    {a b : α}
    (hBefore : i < j)
    (hFirst : l[i]? = some a)
    (hSecond : l[j]? = some b) :
    last a < first b := by
  induction l generalizing start i j with
  | nil => cases hFirst
  | cons c l ih =>
      rcases hTiles with ⟨hStart, hNonempty, hRest⟩
      cases j with
      | zero => omega
      | succ j =>
          rw [List.getElem?_cons_succ] at hSecond
          cases i with
          | zero =>
              cases hFirst
              have hBounds :=
                hRest.bounds (List.mem_of_getElem? hSecond)
              omega
          | succ i =>
              rw [List.getElem?_cons_succ] at hFirst
              exact
                ih hRest (by omega) hFirst hSecond

/- A segment begins behind the lengths of the earlier ones. -/
theorem Tiles.first_eq
    (hTiles : Tiles first last start l stop)
    {i : Nat}
    {a : α}
    (hHere : l[i]? = some a) :
    first a =
      start +
        ((l.take i).map fun b => last b + 1 - first b).sum := by
  induction l generalizing start i with
  | nil => cases hHere
  | cons b l ih =>
      rcases hTiles with ⟨hStart, hNonempty, hRest⟩
      cases i with
      | zero =>
          cases hHere
          exact hStart
      | succ i =>
          rw [List.getElem?_cons_succ] at hHere
          rw [ih hRest hHere, List.take_succ_cons,
            List.map_cons, List.sum_cons]
          omega

theorem Tiles.eq_of_holds
    (hTiles : Tiles first last start l stop)
    {c i j : Nat}
    {a b : α}
    (hFirst : l[i]? = some a)
    (hSecond : l[j]? = some b)
    (hHolds : Holds first last c a)
    (hOther : Holds first last c b) :
    i = j := by
  rcases hHolds with ⟨hFrom, hTo⟩
  rcases hOther with ⟨hFrom', hTo'⟩
  rcases lt_trichotomy i j with hLess | hSame | hGreater
  · have hApart := hTiles.last_lt_first hLess hFirst hSecond
    omega
  · exact hSame
  · have hApart := hTiles.last_lt_first hGreater hSecond hFirst
    omega

/- Every number up to `stop` lies in a segment. -/
theorem Tiles.exists_holds
    (hTiles : Tiles first last start l stop)
    {c : Nat}
    (hFrom : start ≤ c)
    (hTo : c < stop) :
    ∃ (i : Nat) (a : α),
      l[i]? = some a ∧ Holds first last c a := by
  induction l generalizing start with
  | nil =>
      have hEmpty : start = stop := hTiles
      omega
  | cons b l ih =>
      rcases hTiles with ⟨hStart, hNonempty, hRest⟩
      by_cases hHere : c ≤ last b
      · exact ⟨0, b, rfl, by omega, hHere⟩
      · rcases ih hRest (by omega) with ⟨i, a, hMember, hHolds⟩
        exact ⟨i + 1, a, hMember, hHolds⟩

------------------------------------------------------------
-- Owners
------------------------------------------------------------

/- The position of the segment that holds a number. -/
def owner
    (first last : α → Nat)
    (c : Nat)
    (l : List α) : Option Nat :=
  l.findIdx? fun a => Holds first last c a

theorem Tiles.owner_eq_some_iff
    (hTiles : Tiles first last start l stop)
    {c i : Nat} :
    owner first last c l = some i ↔
      ∃ a, l[i]? = some a ∧ Holds first last c a := by
  unfold owner
  rw [List.findIdx?_eq_some_iff_getElem]
  constructor
  · rintro ⟨hInside, hHolds, -⟩
    exact
      ⟨l[i], List.getElem?_eq_getElem hInside,
        of_decide_eq_true hHolds⟩
  · rintro ⟨a, hHere, hHolds⟩
    rcases List.getElem?_eq_some_iff.mp hHere with
      ⟨hInside, rfl⟩
    refine ⟨hInside, decide_eq_true hHolds, ?_⟩
    intro j hBefore hEarlier
    have hSame :=
      hTiles.eq_of_holds
        (List.getElem?_eq_getElem (by omega)) hHere
        (of_decide_eq_true hEarlier) hHolds
    omega

theorem owner_eq_none_iff
    {c : Nat} :
    owner first last c l = none ↔
      ∀ a ∈ l, ¬ Holds first last c a := by
  simp [owner, List.findIdx?_eq_none_iff]

end Segments
