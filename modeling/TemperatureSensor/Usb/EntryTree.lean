import TemperatureSensor.Foundations.DepthSequence
import TemperatureSensor.Usb.Emfat

/-
  The links of `emfat_init_entries`. The table of entries is
  a tree in preorder; the function accepts exactly such tables
  and links every entry to the one above it, to the first one
  below it and to the next one beside it.

  Main declarations:
    * `LevelOrder`
    * `Linked`
    * `linkEntry_inserted`
    * `emfatInitEntries_spec`
-/

------------------------------------------------------------
-- Tables
------------------------------------------------------------

namespace TemperatureSensor

namespace Emfat

open DepthSequence

/- The level of an entry of the table. -/
def levelAt (entries : List Entry) (i : Nat) : Int :=
  ((entries[i]?).map Entry.level).getD 0

/-
  An entry that may stand behind another: below it, beside it,
  or one level up, but never beside the root.
-/
def Follows (before e : Entry) : Prop :=
  1 ≤ e.level ∧ before.level - 1 ≤ e.level ∧
    (e.level ≤ before.level ∨
      e.level = before.level + 1 ∧ before.dir = true)

instance (before e : Entry) : Decidable (Follows before e) :=
  inferInstanceAs (Decidable (_ ∧ _ ∧ _))

/- The tables that describe a tree of directories. -/
structure LevelOrder (entries : List Entry) : Prop where
  root :
    ∃ e, entries.head? = some e ∧ e.level = 0 ∧ e.dir = true
  follows : entries.IsChain Follows

/- A field of the links of an entry. -/
def privAt
    {β : Type}
    [Inhabited β]
    (field : EntryPriv → β)
    (entries : List Entry)
    (i : Nat) : β :=
  ((entries[i]?).map fun e => field e.priv).getD default

/- The links of the entries of a table. -/
def linksOf (entries : List Entry) : Links where
  top := privAt EntryPriv.top entries
  sub := privAt EntryPriv.sub entries
  next := privAt EntryPriv.next entries

/- The first child of a directory is not counted. -/
def Counted
    (level : Nat → Int)
    (m : Nat)
    (entries : List Entry) : Prop :=
  ∀ i, i < m →
    privAt EntryPriv.numSubentry entries i =
      UInt32.ofNat ((children level m i).length - 1)

/- The links are those of the tree. -/
structure Linked (entries : List Entry) : Prop where
  represents :
    Represents (levelAt entries) entries.length
      (linksOf entries)
  counted : Counted (levelAt entries) entries.length entries

------------------------------------------------------------
-- Entries Without Links
------------------------------------------------------------

/- An entry as it is written down in the program. -/
def Entry.bare (e : Entry) : Entry :=
  { e with
    priv :=
      { firstClust := 0,
        lastClust := 0,
        lastReserved := 0,
        numSubentry := 0,
        top := none,
        sub := none,
        next := none } }

/- Two tables that differ in their links only. -/
def SameBare (entries entries' : List Entry) : Prop :=
  entries'.map Entry.bare = entries.map Entry.bare

variable {entries entries' : List Entry}

theorem SameBare.length_eq
    (hSame : SameBare entries entries') :
    entries'.length = entries.length := by
  simpa using congrArg List.length hSame

theorem SameBare.getElem?_bare
    (hSame : SameBare entries entries')
    (i : Nat) :
    (entries'[i]?).map Entry.bare =
      (entries[i]?).map Entry.bare := by
  rw [← List.getElem?_map, ← List.getElem?_map, hSame]

theorem SameBare.exists_entry
    (hSame : SameBare entries entries')
    {i : Nat}
    {e : Entry}
    (hEntry : entries[i]? = some e) :
    ∃ e', entries'[i]? = some e' ∧ e'.bare = e.bare := by
  have hBare := hSame.getElem?_bare i
  rw [hEntry, Option.map_some, Option.map_eq_some_iff] at hBare
  exact hBare

theorem SameBare.levelAt_eq
    (hSame : SameBare entries entries') :
    levelAt entries' = levelAt entries := by
  funext i
  have hBare :=
    congrArg (Option.map Entry.level) (hSame.getElem?_bare i)
  rw [Option.map_map, Option.map_map] at hBare
  unfold levelAt
  exact congrArg (fun o => o.getD 0) hBare

theorem SameBare.modify
    (hSame : SameBare entries entries')
    {f : Entry → Entry}
    (hLinks : ∀ e, (f e).bare = e.bare)
    (i : Nat) :
    SameBare entries (entries'.modify i f) := by
  apply List.ext_getElem?
  intro j
  rw [List.getElem?_map, List.getElem?_map,
    ← hSame.getElem?_bare j]
  by_cases hHere : i = j
  · rw [← hHere, List.getElem?_modify_eq, Option.map_eq_map,
      Option.map_map]
    congr 1
    funext e
    exact hLinks e
  · rw [List.getElem?_modify_ne _ _ hHere]

theorem levelAt_eq
    {i : Nat}
    {e : Entry}
    (hEntry : entries[i]? = some e) :
    levelAt entries i = e.level := by
  unfold levelAt
  rw [hEntry]
  rfl

------------------------------------------------------------
-- Links of a Changed Table
------------------------------------------------------------

section Fields

variable {β : Type}
variable [Inhabited β]
variable {field : EntryPriv → β}
variable {f : Entry → Entry}

theorem privAt_eq
    {i : Nat}
    {e : Entry}
    (hEntry : entries[i]? = some e) :
    privAt field entries i = field e.priv := by
  unfold privAt
  rw [hEntry]
  rfl

/- A change that leaves a field alone. -/
theorem privAt_keep
    (hKeep : ∀ e, field (f e).priv = field e.priv)
    (entries : List Entry)
    (i : Nat) :
    privAt field (entries.modify i f) =
      privAt field entries := by
  funext j
  unfold privAt
  by_cases hHere : i = j
  · rw [← hHere, List.getElem?_modify_eq]
    cases entries[i]? with
    | none => rfl
    | some e => exact hKeep e
  · rw [List.getElem?_modify_ne _ _ hHere]

/- A change of a field of one entry. -/
theorem privAt_modify
    {g : β → β}
    (hChange : ∀ e, field (f e).priv = g (field e.priv))
    {i : Nat}
    (hInside : i < entries.length) :
    privAt field (entries.modify i f) =
      Function.update (privAt field entries) i
        (g (privAt field entries i)) := by
  funext j
  by_cases hHere : i = j
  · have hEntry := List.getElem?_eq_getElem hInside
    rw [← hHere, Function.update_self, privAt_eq hEntry]
    unfold privAt
    rw [List.getElem?_modify_eq, hEntry]
    exact hChange _
  · rw [Function.update_of_ne (Ne.symm hHere)]
    unfold privAt
    rw [List.getElem?_modify_ne _ _ hHere]

end Fields

theorem linksOf_unlink
    {i : Nat}
    (hInside : i < entries.length) :
    linksOf (entries.modify i Entry.unlink) =
      (linksOf entries).unlink i := by
  unfold linksOf Links.unlink
  congr 1
  · refine privAt_modify (g := fun _ => _) ?_ hInside
    intro e
    rfl
  · refine privAt_modify (g := fun _ => _) ?_ hInside
    intro e
    rfl
  · refine privAt_modify (g := fun _ => _) ?_ hInside
    intro e
    rfl

theorem linksOf_setTop
    {i : Nat}
    (hInside : i < entries.length)
    (top : Option Nat) :
    linksOf (entries.modify i (Entry.setTop top)) =
      { linksOf entries with
        top := Function.update (linksOf entries).top i top } := by
  unfold linksOf
  congr 1
  · refine privAt_modify (g := fun _ => _) ?_ hInside
    intro e
    rfl
  · refine privAt_keep ?_ entries i
    intro e
    rfl
  · refine privAt_keep ?_ entries i
    intro e
    rfl

theorem linksOf_setSub
    {above : Nat}
    (hInside : above < entries.length)
    (i : Nat) :
    linksOf (entries.modify above (Entry.setSub i)) =
      { linksOf entries with
        sub :=
          Function.update (linksOf entries).sub above
            (some i) } := by
  unfold linksOf
  congr 1
  · refine privAt_keep ?_ entries above
    intro e
    rfl
  · refine privAt_modify (g := fun _ => _) ?_ hInside
    intro e
    rfl
  · refine privAt_keep ?_ entries above
    intro e
    rfl

theorem linksOf_setNext
    {before : Nat}
    (hInside : before < entries.length)
    (i : Nat) :
    linksOf (entries.modify before (Entry.setNext i)) =
      { linksOf entries with
        next :=
          Function.update (linksOf entries).next before
            (some i) } := by
  unfold linksOf
  congr 1
  · refine privAt_keep ?_ entries before
    intro e
    rfl
  · refine privAt_keep ?_ entries before
    intro e
    rfl
  · refine privAt_modify (g := fun _ => _) ?_ hInside
    intro e
    rfl

theorem linksOf_countSub
    (entries : List Entry)
    (top : Nat) :
    linksOf (entries.modify top Entry.countSub) =
      linksOf entries := by
  unfold linksOf
  congr 1
  · refine privAt_keep ?_ entries top
    intro e
    rfl
  · refine privAt_keep ?_ entries top
    intro e
    rfl
  · refine privAt_keep ?_ entries top
    intro e
    rfl

theorem linksOf_addChild
    {above i : Nat}
    (hAbove : above < entries.length)
    (hInside : i < entries.length) :
    linksOf
        ((entries.modify above (Entry.setSub i)).modify i
          (Entry.setTop (some above))) =
      (linksOf entries).addChild above i := by
  rw [linksOf_setTop (by rwa [List.length_modify]),
    linksOf_setSub hAbove]
  rfl

theorem linksOf_addSibling
    {before i top : Nat}
    (hBefore : before < entries.length)
    (hInside : i < entries.length)
    (hTop : (linksOf entries).top before = some top) :
    linksOf
        (((entries.modify top Entry.countSub).modify i
          (Entry.setTop (some top))).modify before
            (Entry.setNext i)) =
      (linksOf entries).addSibling before i := by
  rw [linksOf_setNext
      (by rwa [List.length_modify, List.length_modify]),
    linksOf_setTop (by rwa [List.length_modify]),
    linksOf_countSub]
  unfold Links.addSibling
  rw [hTop]

------------------------------------------------------------
-- Rounds
------------------------------------------------------------

/- The loop has linked the entries up to one of them. -/
structure Inserted
    (entries : List Entry)
    (m : Nat)
    (s : InitState) : Prop where
  bare : SameBare entries s.entries
  last : s.e = m
  depth : s.n = levelAt entries m
  root : levelAt entries 0 = 0
  below : ∀ i, 0 < i → i ≤ m → 1 ≤ levelAt entries i
  links :
    Represents (levelAt entries) (m + 1) (linksOf s.entries)
  above :
    ∀ i, 0 < i → i ≤ m →
      ∃ p, (linksOf s.entries).top i = some p
  counted : Counted (levelAt entries) (m + 1) s.entries

variable {m : Nat}
variable {s : InitState}

theorem SameBare.unlink
    (hSame : SameBare entries entries')
    (i : Nat) :
    SameBare entries (entries'.modify i Entry.unlink) := by
  apply hSame.modify
  intro e
  rfl

theorem numSubentry_setTop
    (entries : List Entry)
    (i : Nat)
    (top : Option Nat) :
    privAt EntryPriv.numSubentry
        (entries.modify i (Entry.setTop top)) =
      privAt EntryPriv.numSubentry entries := by
  apply privAt_keep
  intro e
  rfl

theorem numSubentry_setSub
    (entries : List Entry)
    (above i : Nat) :
    privAt EntryPriv.numSubentry
        (entries.modify above (Entry.setSub i)) =
      privAt EntryPriv.numSubentry entries := by
  apply privAt_keep
  intro e
  rfl

theorem numSubentry_setNext
    (entries : List Entry)
    (before i : Nat) :
    privAt EntryPriv.numSubentry
        (entries.modify before (Entry.setNext i)) =
      privAt EntryPriv.numSubentry entries := by
  apply privAt_keep
  intro e
  rfl

/- The counters when a new entry has no children yet. -/
theorem Counted.unlink
    {level : Nat → Int}
    (hCounted : Counted level (m + 1) entries)
    (hInside : m + 1 < entries.length)
    {i : Nat}
    (hUpTo : i < m + 2) :
    privAt EntryPriv.numSubentry
        (entries.modify (m + 1) Entry.unlink) i =
      UInt32.ofNat ((children level (m + 1) i).length - 1) := by
  rw [privAt_modify (g := fun _ => 0) (fun _ => rfl) hInside]
  by_cases hNew : i = m + 1
  · rw [hNew, Function.update_self,
      children_eq_nil (by omega)]
    rfl
  · rw [Function.update_of_ne hNew]
    exact hCounted i (by omega)

/- A first child is not counted. -/
theorem Counted.addChild
    (hCounted : Counted (levelAt entries) (m + 1) entries')
    (hInside : m + 1 < entries'.length)
    (hDeeper :
      levelAt entries (m + 1) = levelAt entries m + 1) :
    Counted (levelAt entries) (m + 2)
      (((entries'.modify (m + 1) Entry.unlink).modify m
        (Entry.setSub (m + 1))).modify (m + 1)
          (Entry.setTop (some m))) := by
  intro i hUpTo
  have hParent := isParent_of_deeper hDeeper
  rw [numSubentry_setTop, numSubentry_setSub,
    hCounted.unlink hInside hUpTo, children_succ _ (m + 1)]
  split
  · next hAbove =>
      rw [hAbove.unique hParent, children_eq_nil le_rfl]
      rfl
  · rw [List.append_nil]

theorem Counted.addSibling
    (hCounted : Counted (levelAt entries) (m + 1) entries')
    (hInside : m + 1 < entries'.length)
    {x p : Nat}
    (hLast : LastAt (levelAt entries) x m)
    (hSame : levelAt entries (m + 1) = levelAt entries x)
    (hParentLast : IsParent (levelAt entries) p x) :
    Counted (levelAt entries) (m + 2)
      ((((entries'.modify (m + 1) Entry.unlink).modify p
        Entry.countSub).modify (m + 1)
          (Entry.setTop (some p))).modify x
            (Entry.setNext (m + 1))) := by
  intro i hUpTo
  have hUpToLast : x ≤ m := hLast.1
  have hBeforeLast : p < x := hParentLast.1
  have hParent :=
    (isParent_beside hLast hSame p).mpr hParentLast
  rw [numSubentry_setNext, numSubentry_setTop,
    privAt_modify (g := fun v => v + 1) (fun _ => rfl)
      (by rw [List.length_modify]; omega)]
  by_cases hAbove : i = p
  · rw [hAbove, Function.update_self,
      hCounted.unlink hInside (by omega),
      children_succ _ (m + 1),
      if_pos hParent, children_of_lastAt hLast hParentLast]
    rw [← UInt32.toNat_inj]
    simp
  · have hOther : ¬ IsParent (levelAt entries) i (m + 1) := by
      intro hNew
      exact hAbove (hNew.unique hParent)
    rw [Function.update_of_ne hAbove,
      hCounted.unlink hInside hUpTo, children_succ _ (m + 1),
      if_neg hOther, List.append_nil]

/- An entry below the last one. -/
theorem Inserted.addChild
    (hInserted : Inserted entries m s)
    (hInside : m + 1 < entries.length)
    (hDeeper :
      levelAt entries (m + 1) = levelAt entries m + 1) :
    Inserted entries (m + 1)
      { entries :=
          ((s.entries.modify (m + 1) Entry.unlink).modify m
            (Entry.setSub (m + 1))).modify (m + 1)
              (Entry.setTop (some m)),
        n := levelAt entries m + 1,
        e := m + 1 } := by
  have hLength := hInserted.bare.length_eq
  have hLinks :
      linksOf
          (((s.entries.modify (m + 1) Entry.unlink).modify m
            (Entry.setSub (m + 1))).modify (m + 1)
              (Entry.setTop (some m))) =
        ((linksOf s.entries).unlink (m + 1)).addChild m
          (m + 1) := by
    rw [linksOf_addChild (by rw [List.length_modify]; omega)
        (by rw [List.length_modify]; omega),
      linksOf_unlink (by omega)]
  constructor
  case bare =>
    apply SameBare.modify
    · apply SameBare.modify
      · exact hInserted.bare.unlink (m + 1)
      · intro e
        rfl
    · intro e
      rfl
  case last => rfl
  case depth => exact hDeeper.symm
  case root => exact hInserted.root
  case below =>
    intro i hPositive hUpTo
    rcases Nat.lt_or_eq_of_le hUpTo with hBefore | rfl
    · exact hInserted.below i hPositive (by omega)
    · rw [hDeeper]
      rcases Nat.eq_zero_or_pos m with rfl | hLater
      · rw [hInserted.root]
        rfl
      · have hLevel := hInserted.below m hLater le_rfl
        omega
  case links =>
    rw [hLinks]
    exact hInserted.links.addChild hDeeper
  case above =>
    intro i hPositive hUpTo
    rw [hLinks]
    dsimp only [Links.addChild, Links.unlink]
    by_cases hNew : i = m + 1
    · exact ⟨m, by rw [hNew, Function.update_self]⟩
    · rw [Function.update_of_ne hNew, Function.update_of_ne hNew]
      exact hInserted.above i hPositive (by omega)
  case counted =>
    exact hInserted.counted.addChild (by omega) hDeeper

/- An entry beside the last one of its level. -/
theorem Inserted.addSibling
    (hInserted : Inserted entries m s)
    (hInside : m + 1 < entries.length)
    {x p : Nat}
    (hLast : LastAt (levelAt entries) x m)
    (hSame : levelAt entries (m + 1) = levelAt entries x)
    (hLevel : 1 ≤ levelAt entries (m + 1))
    (hTop : (linksOf s.entries).top x = some p) :
    Inserted entries (m + 1)
      { entries :=
          (((s.entries.modify (m + 1) Entry.unlink).modify p
            Entry.countSub).modify (m + 1)
              (Entry.setTop (some p))).modify x
                (Entry.setNext (m + 1)),
        n := levelAt entries x,
        e := m + 1 } := by
  have hLength := hInserted.bare.length_eq
  have hUpToLast : x ≤ m := hLast.1
  have hTopUnlinked :
      (linksOf (s.entries.modify (m + 1) Entry.unlink)).top x =
        some p := by
    rw [linksOf_unlink (by omega)]
    dsimp only [Links.unlink]
    rw [Function.update_of_ne (by omega), hTop]
  have hLinks :
      linksOf
          ((((s.entries.modify (m + 1) Entry.unlink).modify p
            Entry.countSub).modify (m + 1)
              (Entry.setTop (some p))).modify x
                (Entry.setNext (m + 1))) =
        ((linksOf s.entries).unlink (m + 1)).addSibling x
          (m + 1) := by
    rw [linksOf_addSibling (by rw [List.length_modify]; omega)
        (by rw [List.length_modify]; omega) hTopUnlinked,
      linksOf_unlink (by omega)]
  have hParentLast : IsParent (levelAt entries) p x :=
    (hInserted.links.top x (by omega) p).mp hTop
  constructor
  case bare =>
    apply SameBare.modify
    · apply SameBare.modify
      · apply SameBare.modify
        · exact hInserted.bare.unlink (m + 1)
        · intro e
          rfl
      · intro e
        rfl
    · intro e
      rfl
  case last => rfl
  case depth => exact hSame.symm
  case root => exact hInserted.root
  case below =>
    intro i hPositive hUpTo
    rcases Nat.lt_or_eq_of_le hUpTo with hBefore | rfl
    · exact hInserted.below i hPositive (by omega)
    · exact hLevel
  case links =>
    rw [hLinks]
    exact hInserted.links.addSibling hLast hSame hTop
  case above =>
    intro i hPositive hUpTo
    rw [hLinks]
    dsimp only [Links.addSibling, Links.unlink]
    rw [Function.update_of_ne (by omega : x ≠ m + 1), hTop]
    by_cases hNew : i = m + 1
    · exact ⟨p, by rw [hNew, Function.update_self]⟩
    · rw [Function.update_of_ne hNew, Function.update_of_ne hNew]
      exact hInserted.above i hPositive (by omega)
  case counted =>
    exact
      hInserted.counted.addSibling (by omega) hLast hSame
        hParentLast

/- What a round leaves behind, and when it succeeds. -/
structure RoundResult
    (entries : List Entry)
    (m : Nat)
    (accepted : Prop)
    (r : Bool × InitState) : Prop where
  bare : SameBare entries r.2.entries
  accepted_iff : r.1 = true ↔ accepted
  inserted : r.1 = true → Inserted entries (m + 1) r.2

theorem RoundResult.refused
    {accepted : Prop}
    (hBare : SameBare entries s.entries)
    (hRefused : ¬ accepted) :
    RoundResult entries m accepted (false, s) where
  bare := hBare
  accepted_iff := iff_of_false Bool.false_ne_true hRefused
  inserted := fun hFalse => absurd hFalse Bool.false_ne_true

theorem RoundResult.linked
    {accepted : Prop}
    (hNext : Inserted entries (m + 1) s)
    (hAccepted : accepted) :
    RoundResult entries m accepted (true, s) where
  bare := hNext.bare
  accepted_iff := iff_of_true rfl hAccepted
  inserted := fun _ => hNext

theorem top_eq_of_linksOf
    {i : Nat}
    {e : Entry}
    (hEntry : entries[i]? = some e) :
    (linksOf entries).top i = e.priv.top :=
  privAt_eq hEntry

/- The round for an entry of the level of an earlier one. -/
theorem linkEntry_beside
    (hInserted : Inserted entries m s)
    (hInside : m + 1 < entries.length)
    {x : Nat}
    (hLast : LastAt (levelAt entries) x m)
    (hSame : levelAt entries (m + 1) = levelAt entries x) :
    ∃ r,
      linkEntry
          { entries := s.entries.modify (m + 1) Entry.unlink,
            n := levelAt entries x,
            e := x }
          (m + 1) (levelAt entries (m + 1)) = some r ∧
        RoundResult entries m (1 ≤ levelAt entries (m + 1))
          r := by
  have hUpTo : x ≤ m := hLast.1
  have hBare := hInserted.bare.unlink (m + 1)
  unfold linkEntry
  rw [if_neg (by dsimp only; omega), if_pos hSame]
  dsimp only
  split
  · next hRoot =>
      exact ⟨_, rfl, RoundResult.refused hBare (by omega)⟩
  · next hBelow =>
      have hPositive : 0 < x := by
        rcases Nat.eq_zero_or_pos x with rfl | hPositive
        · exact absurd hInserted.root hBelow
        · exact hPositive
      have hLevel := hInserted.below x hPositive hUpTo
      rcases hInserted.above x hPositive hUpTo with ⟨p, hTop⟩
      rcases hBare.exists_entry
          (List.getElem?_eq_getElem
            (by omega : x < entries.length))
        with ⟨b, hEntry, -⟩
      have hTopEntry : b.priv.top = some p := by
        rw [← top_eq_of_linksOf hEntry,
          linksOf_unlink
            (by rw [hInserted.bare.length_eq]; omega)]
        dsimp only [Links.unlink]
        rw [Function.update_of_ne (by omega), hTop]
      rw [hEntry, Option.bind_some, hTopEntry, Option.bind_some]
      have hNext :=
        hInserted.addSibling hInside hLast hSame (by omega) hTop
      exact ⟨_, rfl, RoundResult.linked hNext (by omega)⟩

/- The round for an entry one level deeper. -/
theorem linkEntry_below
    (hInserted : Inserted entries m s)
    (hInside : m + 1 < entries.length)
    (hDeeper :
      levelAt entries (m + 1) = levelAt entries m + 1) :
    ∃ r,
      linkEntry
          { entries := s.entries.modify (m + 1) Entry.unlink,
            n := levelAt entries m,
            e := m }
          (m + 1) (levelAt entries (m + 1)) = some r ∧
        RoundResult entries m
          (∀ b, entries[m]? = some b → b.dir = true) r := by
  have hBare := hInserted.bare.unlink (m + 1)
  have hHere :=
    List.getElem?_eq_getElem (by omega : m < entries.length)
  rcases hBare.exists_entry hHere with ⟨b, hEntry, hSame⟩
  have hDir : b.dir = entries[m].dir := by
    have hBareDir := congrArg Entry.dir hSame
    exact hBareDir
  unfold linkEntry
  rw [if_pos hDeeper]
  dsimp only
  rw [hEntry, Option.bind_some, hHere, hDir]
  split
  · next hDirectory =>
      have hNext := hInserted.addChild hInside hDeeper
      refine ⟨_, rfl, RoundResult.linked hNext ?_⟩
      rintro a hSome
      cases hSome
      exact hDirectory
  · next hFile =>
      refine ⟨_, rfl, RoundResult.refused hBare ?_⟩
      intro hAll
      exact hFile (hAll _ rfl)

/- A round accepts what may follow the entry before. -/
theorem initEntry_spec
    (hInserted : Inserted entries m s)
    {before e : Entry}
    (hBefore : entries[m]? = some before)
    (hEntry : entries[m + 1]? = some e) :
    ∃ r, initEntry s (m + 1) = some r ∧
      RoundResult entries m (Follows before e) r := by
  have hInside : m + 1 < entries.length :=
    (List.getElem?_eq_some_iff.mp hEntry).1
  have hBare := hInserted.bare.unlink (m + 1)
  have hLevelBefore := levelAt_eq hBefore
  have hLevel := levelAt_eq hEntry
  rcases hBare.exists_entry hEntry with ⟨e', hHere, hSame⟩
  have hLevelHere : e'.level = levelAt entries (m + 1) := by
    have hBareLevel := congrArg Entry.level hSame
    rw [hLevel]
    exact hBareLevel
  unfold initEntry
  dsimp only
  rw [hHere, Option.bind_some, hLevelHere, hInserted.depth,
    hInserted.last]
  split
  · next hUp =>
      split
      · next hRoot =>
          refine ⟨_, rfl, RoundResult.refused hBare ?_⟩
          intro hFollows
          have hBelow := hFollows.1
          omega
      · next hBelow =>
          have hPositive : 0 < m := by
            rcases Nat.eq_zero_or_pos m with rfl | hPositive
            · exact absurd hInserted.root hBelow
            · exact hPositive
          rcases hInserted.above m hPositive le_rfl with
            ⟨t, hTop⟩
          have hParent :=
            (hInserted.links.top m (by omega) t).mp hTop
          rcases hBare.exists_entry hBefore with
            ⟨b, hLast, -⟩
          have hTopEntry : b.priv.top = some t := by
            rw [← top_eq_of_linksOf hLast,
              linksOf_unlink
                (by rw [hInserted.bare.length_eq]; omega)]
            dsimp only [Links.unlink]
            rw [Function.update_of_ne (by omega), hTop]
          have hLevelAbove :
              levelAt entries m - 1 = levelAt entries t := by
            have hAbove := hParent.2.1
            omega
          rw [hLast, Option.bind_some, hTopEntry,
            Option.bind_some, hLevelAbove]
          rcases linkEntry_beside hInserted hInside
              (lastAt_parent hParent) (by omega)
            with ⟨r, hRound, hResult⟩
          refine
            ⟨r, hRound, hResult.bare, ?_, hResult.inserted⟩
          rw [hResult.accepted_iff]
          unfold Follows
          omega
  · next hNotUp =>
      by_cases hDeeper :
          levelAt entries (m + 1) = levelAt entries m + 1
      · rcases linkEntry_below hInserted hInside hDeeper
          with ⟨r, hRound, hResult⟩
        refine ⟨r, hRound, hResult.bare, ?_, hResult.inserted⟩
        rw [hResult.accepted_iff, hBefore]
        constructor
        · intro hDir
          have hDirectory := hDir before rfl
          have hNonneg : 0 ≤ levelAt entries m := by
            rcases Nat.eq_zero_or_pos m with rfl | hPositive
            · exact hInserted.root.ge
            · have := hInserted.below m hPositive le_rfl
              omega
          refine ⟨by omega, by omega, Or.inr ⟨by omega, ?_⟩⟩
          exact hDirectory
        · rintro hFollows b hSome
          cases hSome
          rcases hFollows.2.2 with hFlat | hDir
          · omega
          · exact hDir.2
      by_cases hBeside :
          levelAt entries (m + 1) = levelAt entries m
      · rcases linkEntry_beside hInserted hInside
            (lastAt_self _ m) hBeside
          with ⟨r, hRound, hResult⟩
        refine ⟨r, hRound, hResult.bare, ?_, hResult.inserted⟩
        rw [hResult.accepted_iff]
        unfold Follows
        omega
      · -- Neither below, nor beside, nor one level up.
        unfold linkEntry
        rw [if_neg hDeeper, if_neg hBeside]
        refine ⟨_, rfl, RoundResult.refused hBare ?_⟩
        unfold Follows
        omega

------------------------------------------------------------
-- Loop
------------------------------------------------------------

/- The rounds behind the first linked entries. -/
theorem initLoop_spec
    {k : Nat}
    (hInserted : Inserted entries m s)
    (hLength : m + 1 + k = entries.length) :
    ∃ r, initLoop (List.range' (m + 1) k) s = some r ∧
      SameBare entries r.2 ∧
        (r.1 = true ↔ (entries.drop m).IsChain Follows) ∧
          (r.1 = true →
            Represents (levelAt entries) entries.length
                (linksOf r.2) ∧
              Counted (levelAt entries) entries.length r.2) := by
  induction k generalizing m s with
  | zero =>
      refine ⟨_, rfl, hInserted.bare, ?_, ?_⟩
      · apply iff_of_true rfl
        rw [List.drop_eq_getElem_cons (by omega),
          List.drop_eq_nil_of_le (by omega)]
        exact List.IsChain.singleton _
      · intro _
        rw [← hLength]
        exact ⟨hInserted.links, hInserted.counted⟩
  | succ k ih =>
      have hBefore :=
        List.getElem?_eq_getElem (by omega : m < entries.length)
      have hEntry :=
        List.getElem?_eq_getElem
          (by omega : m + 1 < entries.length)
      rcases initEntry_spec hInserted hBefore hEntry with
        ⟨round, hRound, hResult⟩
      have hChain :
          (entries.drop m).IsChain Follows ↔
            Follows entries[m] entries[m + 1] ∧
              (entries.drop (m + 1)).IsChain Follows := by
        rw [List.drop_eq_getElem_cons (by omega : m < _),
          List.drop_eq_getElem_cons (by omega : m + 1 < _),
          List.isChain_cons_cons]
      rw [List.range'_succ, initLoop, hRound, Option.bind_some,
        hChain, ← hResult.accepted_iff]
      split
      · next hAccepted =>
          rcases ih (hResult.inserted hAccepted) (by omega)
            with ⟨r, hLoop, hBare, hIff, hLinks⟩
          refine ⟨r, hLoop, hBare, ?_, hLinks⟩
          rw [hIff]
          exact ⟨fun h => ⟨hAccepted, h⟩, And.right⟩
      · next hRefused =>
          refine ⟨_, rfl, hResult.bare, ?_, ?_⟩
          · apply iff_of_false Bool.false_ne_true
            exact fun hBoth => hRefused hBoth.1
          · exact fun hFalse => absurd hFalse Bool.false_ne_true

------------------------------------------------------------
-- emfat_init_entries
------------------------------------------------------------

theorem inserted_root
    {e : Entry}
    {rest : List Entry}
    (hLevel : e.level = 0) :
    Inserted (e :: rest) 0
      { entries := (e :: rest).modify 0 Entry.unlink,
        n := 0,
        e := 0 } := by
  have hRoot : levelAt (e :: rest) 0 = 0 := by
    rw [← hLevel]
    rfl
  constructor
  case bare => exact SameBare.unlink rfl 0
  case last => rfl
  case depth => exact hRoot.symm
  case root => exact hRoot
  case below =>
    intro i hPositive hUpTo
    omega
  case links => exact represents_root _ rfl rfl
  case above =>
    intro i hPositive hUpTo
    omega
  case counted =>
    intro i hUpTo
    obtain rfl : i = 0 := by omega
    rw [children_eq_nil (by omega)]
    rfl

/-
  No access leaves the table or goes through a null pointer;
  exactly the tables in level order are accepted, and these
  are linked as trees.
-/
theorem emfatInitEntries_spec
    (entries : List Entry) :
    ∃ r, emfatInitEntries entries = some r ∧
      SameBare entries r.2 ∧
        (r.1 = true ↔ LevelOrder entries) ∧
          (r.1 = true → Linked r.2) := by
  unfold emfatInitEntries
  cases entries with
  | nil =>
      refine ⟨_, rfl, rfl, ?_, ?_⟩
      · apply iff_of_false Bool.false_ne_true
        rintro ⟨⟨e, hNone, -⟩, -⟩
        cases hNone
      · exact fun hFalse => absurd hFalse Bool.false_ne_true
  | cons e rest =>
      dsimp only
      split
      · next hNoRoot =>
          refine ⟨_, rfl, rfl, ?_, ?_⟩
          · apply iff_of_false Bool.false_ne_true
            rintro ⟨⟨r, hHead, hLevel, hDir⟩, -⟩
            cases hHead
            rcases hNoRoot with hOther | hFile
            · exact hOther hLevel
            · rw [hDir] at hFile
              cases hFile
          · exact fun hFalse => absurd hFalse Bool.false_ne_true
      · next hRoot =>
          rw [not_or, not_not, Bool.not_eq_false] at hRoot
          have hLength :
              0 + 1 + rest.length = (e :: rest).length := by
            rw [List.length_cons]
            omega
          rcases initLoop_spec (inserted_root hRoot.1) hLength
            with ⟨r, hLoop, hBare, hIff, hLinks⟩
          refine ⟨r, hLoop, hBare, ?_, ?_⟩
          · rw [hIff, List.drop_zero]
            constructor
            · intro hFollows
              exact ⟨⟨e, rfl, hRoot.1, hRoot.2⟩, hFollows⟩
            · exact LevelOrder.follows
          · intro hAccepted
            rcases hLinks hAccepted with ⟨hTree, hCounted⟩
            constructor
            · rwa [hBare.levelAt_eq, hBare.length_eq]
            · rwa [hBare.levelAt_eq, hBare.length_eq]

end Emfat

end TemperatureSensor
