import Mathlib.Data.List.Basic
import Mathlib.Logic.Function.Basic
import Mathlib.Order.Lattice
import Mathlib.Tactic.Common

/-
  Trees that are written as the depths of their nodes in
  preorder, and their representation by links from a node to
  the one above, the first one below and the next beside it.

  Main declarations:
    * `IsParent`, `parent` and `children`
    * `Siblings`
    * `Represents`
    * `Represents.addChild` and `Represents.addSibling`
-/

------------------------------------------------------------
-- Parents and Children
------------------------------------------------------------

namespace DepthSequence

/-
  The last node before another that lies one level above it,
  with nothing of that level or above in between.
-/
def IsParent (level : Nat → Int) (j i : Nat) : Prop :=
  j < i ∧ level j + 1 = level i ∧
    ∀ k, k < i → j < k → level i ≤ level k

instance (level : Nat → Int) (j i : Nat) :
    Decidable (IsParent level j i) :=
  inferInstanceAs (Decidable (_ ∧ _ ∧ _))

/- The children of a node among the first `m` nodes. -/
def children (level : Nat → Int) (m j : Nat) : List Nat :=
  (List.range m).filter fun i => IsParent level j i

variable {level : Nat → Int}

theorem IsParent.unique
    {j j' i : Nat}
    (hParent : IsParent level j i)
    (hOther : IsParent level j' i) :
    j = j' := by
  rcases hParent with ⟨hBefore, hLevel, hBetween⟩
  rcases hOther with ⟨hBefore', hLevel', hBetween'⟩
  rcases lt_trichotomy j j' with hLess | hSame | hGreater
  · have hBelow := hBetween j' hBefore' hLess
    omega
  · exact hSame
  · have hBelow := hBetween' j hBefore hGreater
    omega

/- The parent of a node, if it has one. -/
def parent (level : Nat → Int) (i : Nat) : Option Nat :=
  (List.range i).find? fun j => IsParent level j i

theorem parent_eq_some_iff
    {i j : Nat} :
    parent level i = some j ↔ IsParent level j i := by
  unfold parent
  constructor
  · intro hFound
    have hHere := List.find?_some hFound
    exact of_decide_eq_true hHere
  · intro hParent
    cases hFound :
        (List.range i).find? fun j => IsParent level j i with
    | none =>
        rw [List.find?_eq_none] at hFound
        have hOther :=
          hFound j (List.mem_range.mpr hParent.1)
        exact absurd (decide_eq_true hParent) hOther
    | some k =>
        have hHere := List.find?_some hFound
        have hOther : IsParent level k i :=
          of_decide_eq_true hHere
        rw [hOther.unique hParent]

theorem mem_children
    {m j i : Nat} :
    i ∈ children level m j ↔ i < m ∧ IsParent level j i := by
  simp [children]

theorem children_succ
    (level : Nat → Int)
    (m j : Nat) :
    children level (m + 1) j =
      children level m j ++
        if IsParent level j m then [m] else [] := by
  unfold children
  rw [List.range_succ, List.filter_append]
  by_cases hParent : IsParent level j m
  · simp [hParent]
  · simp [hParent]

/- A node has no children before itself. -/
theorem children_eq_nil
    {m j : Nat}
    (hBefore : m ≤ j + 1) :
    children level m j = [] := by
  rw [List.eq_nil_iff_forall_not_mem]
  intro i hMember
  rw [mem_children] at hMember
  have hAfter := hMember.2.1
  omega

/- One level deeper is below the node before. -/
theorem isParent_of_deeper
    {m : Nat}
    (hDeeper : level (m + 1) = level m + 1) :
    IsParent level m (m + 1) := by
  refine ⟨by omega, by omega, ?_⟩
  intro k hBefore hAfter
  omega

------------------------------------------------------------
-- Last Nodes
------------------------------------------------------------

/- What follows a node up to `m` is all below it. -/
def LastAt (level : Nat → Int) (x m : Nat) : Prop :=
  x ≤ m ∧ ∀ k, x < k → k ≤ m → level x < level k

theorem lastAt_self
    (level : Nat → Int)
    (m : Nat) :
    LastAt level m m := by
  refine ⟨le_rfl, ?_⟩
  intro k hAfter hBefore
  omega

theorem lastAt_parent
    {t m : Nat}
    (hParent : IsParent level t m) :
    LastAt level t m := by
  rcases hParent with ⟨hBefore, hLevel, hBetween⟩
  refine ⟨by omega, ?_⟩
  intro k hAfter hUpTo
  rcases Nat.lt_or_eq_of_le hUpTo with hInside | rfl
  · have hBelow := hBetween k hInside hAfter
    omega
  · omega

/- A new node beside the last one of its level. -/
theorem isParent_beside
    {x m : Nat}
    (hLast : LastAt level x m)
    (hSame : level (m + 1) = level x)
    (j : Nat) :
    IsParent level j (m + 1) ↔ IsParent level j x := by
  rcases hLast with ⟨hUpTo, hBelow⟩
  constructor
  · rintro ⟨hBefore, hLevel, hBetween⟩
    have hBeforeLast : j < x := by
      rcases lt_trichotomy j x with hLess | rfl | hGreater
      · exact hLess
      · omega
      · have hDeep := hBelow j hGreater (by omega)
        omega
    refine ⟨hBeforeLast, by omega, ?_⟩
    intro k hK hAfter
    have hDeep := hBetween k (by omega) hAfter
    omega
  · rintro ⟨hBefore, hLevel, hBetween⟩
    refine ⟨by omega, by omega, ?_⟩
    intro k hK hAfter
    rw [hSame]
    rcases lt_trichotomy k x with hLess | rfl | hGreater
    · exact hBetween k hLess hAfter
    · exact le_rfl
    · exact (hBelow k hGreater (by omega)).le

/- The last node of a level is the last child above it. -/
theorem children_of_lastAt
    {x m p : Nat}
    (hLast : LastAt level x m)
    (hParent : IsParent level p x) :
    children level (m + 1) p = children level x p ++ [x] := by
  rcases hLast with ⟨hUpTo, hBelow⟩
  induction m, hUpTo using Nat.le_induction with
  | base => rw [children_succ, if_pos hParent]
  | succ m hUpTo ih =>
      have hOther : ¬ IsParent level p (m + 1) := by
        intro hNew
        have hDeep := hBelow (m + 1) (by omega) le_rfl
        have hLevel := hNew.2.1
        have hLevelLast := hParent.2.1
        omega
      rw [children_succ, if_neg hOther, List.append_nil, ih]
      intro k hAfter hK
      exact hBelow k hAfter (by omega)

------------------------------------------------------------
-- Links
------------------------------------------------------------

/- The list that the links from a start run through. -/
def Siblings (next : Nat → Option Nat) :
    Option Nat → List Nat → Prop
| start, [] => start = none
| start, i :: is => start = some i ∧ Siblings next (next i) is

theorem Siblings.congr
    {next next' : Nat → Option Nat}
    {start : Option Nat}
    {is : List Nat}
    (hSiblings : Siblings next start is)
    (hSame : ∀ i ∈ is, next' i = next i) :
    Siblings next' start is := by
  induction is generalizing start with
  | nil => exact hSiblings
  | cons i is ih =>
      rcases hSiblings with ⟨hStart, hRest⟩
      refine ⟨hStart, ?_⟩
      rw [hSame i (by simp)]
      exact ih hRest fun k hMember =>
        hSame k (by simp [hMember])

/- The last element gets a new neighbour. -/
theorem Siblings.concat
    {next : Nat → Option Nat}
    {start : Option Nat}
    {is : List Nat}
    {x new : Nat}
    (hSiblings : Siblings next start (is ++ [x]))
    (hLast : x ∉ is)
    (hNew : new ∉ is ++ [x]) :
    Siblings
      (Function.update (Function.update next new none) x
        (some new))
      start (is ++ [x] ++ [new]) := by
  have hDistinct : new ≠ x := by
    intro hSame
    simp [hSame] at hNew
  induction is generalizing start with
  | nil =>
      refine ⟨hSiblings.1, ?_, ?_⟩
      · simp
      · rw [Function.update_of_ne hDistinct,
          Function.update_self]
        rfl
  | cons i is ih =>
      rcases hSiblings with ⟨hStart, hRest⟩
      simp only [List.mem_cons, not_or] at hLast
      simp only [List.cons_append, List.mem_cons,
        not_or] at hNew
      refine ⟨hStart, ?_⟩
      rw [Function.update_of_ne (Ne.symm hLast.1),
        Function.update_of_ne (Ne.symm hNew.1)]
      exact ih hRest hLast.2 hNew.2

/- The elements behind the first ones. -/
theorem Siblings.tail
    {next : Nat → Option Nat}
    {i : Nat}
    {is : List Nat}
    (hSiblings : Siblings next (some i) is) :
    ∃ rest, is = i :: rest ∧ Siblings next (next i) rest := by
  cases is with
  | nil => cases hSiblings
  | cons k rest =>
      rcases hSiblings with ⟨hStart, hRest⟩
      cases hStart
      exact ⟨rest, rfl, hRest⟩

------------------------------------------------------------
-- Represented Trees
------------------------------------------------------------

structure Links where
  top : Nat → Option Nat
  sub : Nat → Option Nat
  next : Nat → Option Nat

/- The links of the first `m` nodes are those of the tree. -/
structure Represents
    (level : Nat → Int)
    (m : Nat)
    (l : Links) : Prop where
  top : ∀ i, i < m → ∀ j, l.top i = some j ↔ IsParent level j i
  sub :
    ∀ i, i < m → Siblings l.next (l.sub i) (children level m i)

/- A node without links. -/
def Links.unlink (i : Nat) (l : Links) : Links where
  top := Function.update l.top i none
  sub := Function.update l.sub i none
  next := Function.update l.next i none

/- The next node as the first one below the last. -/
def Links.addChild (above i : Nat) (l : Links) : Links where
  top := Function.update l.top i (some above)
  sub := Function.update l.sub above (some i)
  next := l.next

/- The next node beside one of the same level. -/
def Links.addSibling (before i : Nat) (l : Links) : Links where
  top := Function.update l.top i (l.top before)
  sub := l.sub
  next := Function.update l.next before (some i)

theorem represents_root
    (l : Links)
    (hRoot : l.top 0 = none)
    (hAlone : l.sub 0 = none) :
    Represents level 1 l := by
  refine ⟨?_, ?_⟩
  · intro i hInside j
    obtain rfl : i = 0 := by omega
    rw [hRoot]
    constructor
    · intro hNone
      cases hNone
    · intro hParent
      exact absurd hParent.1 (by omega)
  · intro i hInside
    obtain rfl : i = 0 := by omega
    rw [children_eq_nil (by omega)]
    exact hAlone

/- The children of a node that gets no new one. -/
theorem Represents.siblings_of_not_parent
    {m i : Nat}
    {l : Links}
    (hRep : Represents level m l)
    (hInside : i < m)
    (hOther : ¬ IsParent level i m)
    {next : Nat → Option Nat}
    (hSame :
      ∀ k, k < m → IsParent level i k → next k = l.next k) :
    Siblings next (l.sub i) (children level (m + 1) i) := by
  rw [children_succ, if_neg hOther, List.append_nil]
  apply (hRep.sub i hInside).congr
  intro k hMember
  rw [mem_children] at hMember
  exact hSame k hMember.1 hMember.2

theorem Represents.addChild
    {m : Nat}
    {l : Links}
    (hRep : Represents level (m + 1) l)
    (hDeeper : level (m + 1) = level m + 1) :
    Represents level (m + 2)
      ((l.unlink (m + 1)).addChild m (m + 1)) := by
  have hParent := isParent_of_deeper hDeeper
  refine ⟨?_, ?_⟩
  · intro i hInside j
    by_cases hNew : i = m + 1
    · rw [hNew]
      dsimp only [Links.addChild]
      rw [Function.update_self, Option.some_inj]
      constructor
      · rintro rfl
        exact hParent
      · exact hParent.unique
    · dsimp only [Links.addChild, Links.unlink]
      rw [Function.update_of_ne hNew, Function.update_of_ne hNew]
      exact hRep.top i (by omega) j
  · intro i hInside
    dsimp only [Links.addChild, Links.unlink]
    by_cases hNew : i = m + 1
    · rw [hNew, children_eq_nil (by omega),
        Function.update_of_ne (by omega), Function.update_self]
      rfl
    by_cases hAbove : i = m
    · -- The node before had no children so far.
      rw [hAbove, children_succ, if_pos hParent,
        children_eq_nil le_rfl, Function.update_self]
      refine ⟨rfl, ?_⟩
      rw [Function.update_self]
      rfl
    · rw [Function.update_of_ne hAbove,
        Function.update_of_ne hNew]
      apply hRep.siblings_of_not_parent (by omega)
      · intro hOther
        exact hAbove (hOther.unique hParent)
      · intro k hK _
        rw [Function.update_of_ne (by omega)]

theorem Represents.addSibling
    {x m p : Nat}
    {l : Links}
    (hRep : Represents level (m + 1) l)
    (hLast : LastAt level x m)
    (hSame : level (m + 1) = level x)
    (hTop : l.top x = some p) :
    Represents level (m + 2)
      ((l.unlink (m + 1)).addSibling x (m + 1)) := by
  have hUpTo : x ≤ m := hLast.1
  have hParentLast : IsParent level p x :=
    (hRep.top x (by omega) p).mp hTop
  have hParent : IsParent level p (m + 1) :=
    (isParent_beside hLast hSame p).mpr hParentLast
  refine ⟨?_, ?_⟩
  · intro i hInside j
    by_cases hNew : i = m + 1
    · rw [hNew]
      dsimp only [Links.addSibling, Links.unlink]
      rw [Function.update_self,
        Function.update_of_ne (by omega), hTop, Option.some_inj]
      constructor
      · rintro rfl
        exact hParent
      · exact hParent.unique
    · dsimp only [Links.addSibling, Links.unlink]
      rw [Function.update_of_ne hNew, Function.update_of_ne hNew]
      exact hRep.top i (by omega) j
  · intro i hInside
    dsimp only [Links.addSibling, Links.unlink]
    by_cases hNew : i = m + 1
    · rw [hNew, children_eq_nil (by omega), Function.update_self]
      rfl
    rw [Function.update_of_ne hNew]
    by_cases hAbove : i = p
    · have hSiblings := hRep.sub p (by omega)
      rw [children_of_lastAt hLast hParentLast] at hSiblings
      rw [hAbove, children_succ, if_pos hParent,
        children_of_lastAt hLast hParentLast]
      apply hSiblings.concat
      · rw [mem_children]
        omega
      · rw [List.mem_append, mem_children, List.mem_singleton]
        omega
    · apply hRep.siblings_of_not_parent (by omega)
      · intro hOther
        exact hAbove (hOther.unique hParent)
      · -- The node beside the new one has another parent.
        intro k hK hOther
        have hDistinct : k ≠ x := by
          rintro rfl
          exact hAbove (hOther.unique hParentLast)
        rw [Function.update_of_ne hDistinct,
          Function.update_of_ne (by omega)]

end DepthSequence
