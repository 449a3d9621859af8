import TemperatureSensor.Foundations.Segments
import TemperatureSensor.Usb.EntryTree

/-
  The clusters of the entries. `emfat_init` lays them out one
  entry behind the other, and `find_entry` finds the entry of
  a cluster from any other entry.

  Main declarations:
    * `Table`
    * `placeAll_tiles`
    * `findEntry_eq_owner`
    * `emfatInit_volume`
-/

------------------------------------------------------------
-- Sizes
------------------------------------------------------------

namespace TemperatureSensor

namespace Emfat

open DepthSequence Segments

/- The clusters for a number of bytes, at least one. -/
def clustersFor (bytes : Nat) : Nat :=
  max 1 ((bytes + 4095) / 4096)

theorem clustersFor_pos
    (bytes : Nat) :
    0 < clustersFor bytes := by
  unfold clustersFor
  omega

theorem clustersFor_mono
    {a b : Nat}
    (hLe : a ≤ b) :
    clustersFor a ≤ clustersFor b := by
  unfold clustersFor
  omega

theorem toNat_sizeToNclust
    {s : UInt32}
    (hSmall : s.toNat + 4095 < 2 ^ 32) :
    (sizeToNclust s).toNat = clustersFor s.toNat := by
  unfold sizeToNclust clustersFor
  split
  · next hZero =>
      rw [hZero]
      simp
  · next hSome =>
      have hPositive : s.toNat ≠ 0 := by
        intro hZero
        exact hSome (UInt32.toNat_inj.mp hZero)
      have hSum : (s + 4095).toNat = s.toNat + 4095 := by
        rw [UInt32.toNat_add]
        exact Nat.mod_eq_of_lt hSmall
      rw [UInt32.toNat_div, hSum]
      change (s.toNat + 4095) / 4096 = _
      omega

/- The sizes of an entry do not wrap. -/
structure Sized (e : Entry) : Prop where
  dir :
    e.dir = true →
      e.priv.numSubentry.toNat * 32 + 4095 < 2 ^ 32
  file :
    e.dir = false →
      e.currSize.toNat ≤ e.maxSize.toNat ∧
        e.maxSize.toNat + 4095 < 2 ^ 32

/- The clusters that an entry fills. -/
def Entry.used (e : Entry) : Nat :=
  if e.dir then
    clustersFor (e.priv.numSubentry.toNat * 32)
  else
    clustersFor e.currSize.toNat

/- The clusters that are kept for an entry. -/
def Entry.reserved (e : Entry) : Nat :=
  if e.dir then
    clustersFor (e.priv.numSubentry.toNat * 32)
  else
    clustersFor e.maxSize.toNat

theorem Entry.used_pos
    (e : Entry) :
    0 < e.used := by
  unfold Entry.used
  split
  · exact clustersFor_pos _
  · exact clustersFor_pos _

theorem Sized.used_le_reserved
    {e : Entry}
    (hSized : Sized e) :
    e.used ≤ e.reserved := by
  unfold Entry.used Entry.reserved
  split
  · exact le_rfl
  · next hFile =>
      exact
        clustersFor_mono
          (hSized.file (Bool.eq_false_iff.mpr hFile)).1

------------------------------------------------------------
-- Placement
------------------------------------------------------------

def firstOf (e : Entry) : Nat :=
  e.priv.firstClust.toNat

def lastOf (e : Entry) : Nat :=
  e.priv.lastReserved.toNat

/- The last of some clusters from one on. -/
theorem toNat_lastFrom
    (clust : UInt32)
    {n : UInt32}
    (hPositive : 0 < n.toNat)
    (hFits : clust.toNat + n.toNat < 2 ^ 32) :
    (clust + n - 1).toNat + 1 = clust.toNat + n.toNat := by
  have hSum : (clust + n).toNat = clust.toNat + n.toNat := by
    rw [UInt32.toNat_add]
    exact Nat.mod_eq_of_lt hFits
  have hOne : (1 : UInt32).toNat = 1 := rfl
  rw [UInt32.toNat_sub_of_le _ _
      (by rw [UInt32.le_iff_toNat_le, hSum, hOne]; omega),
    hSum, hOne]
  omega

/- Where the clusters of a placed entry begin and end. -/
structure PlacedAt
    (e : Entry)
    (start : Nat)
    (e' : Entry) : Prop where
  first : e'.priv.firstClust.toNat = start
  last : e'.priv.lastClust.toNat + 1 = start + e.used
  reserved : e'.priv.lastReserved.toNat + 1 = start + e.reserved

theorem place_placedAt
    {e : Entry}
    (hSized : Sized e)
    (clust : UInt32)
    (hFits : clust.toNat + e.reserved < 2 ^ 32) :
    PlacedAt e clust.toNat (e.place clust) := by
  have hUsed := hSized.used_le_reserved
  unfold Entry.used Entry.reserved at hUsed
  unfold Entry.reserved at hFits
  unfold Entry.place
  split
  · next hDir =>
      rw [if_pos hDir] at hFits
      have hBytes :
          (e.priv.numSubentry * 32).toNat =
            e.priv.numSubentry.toNat * 32 := by
        have hSmall := hSized.dir hDir
        rw [UInt32.toNat_mul]
        apply Nat.mod_eq_of_lt
        change e.priv.numSubentry.toNat * 32 < 2 ^ 32
        omega
      have hCount :
          (sizeToNclust (e.priv.numSubentry * 32)).toNat =
            clustersFor (e.priv.numSubentry.toNat * 32) := by
        rw [toNat_sizeToNclust
          (by rw [hBytes]; exact hSized.dir hDir), hBytes]
      have hLast :=
        toNat_lastFrom clust
          (by rw [hCount]; exact clustersFor_pos _)
          (by rw [hCount]; exact hFits)
      rw [hCount] at hLast
      refine ⟨rfl, ?_, ?_⟩
      · unfold Entry.used
        rw [if_pos hDir]
        exact hLast
      · unfold Entry.reserved
        rw [if_pos hDir]
        exact hLast
  · next hFile =>
      rw [if_neg hFile, if_neg hFile] at hUsed
      rw [if_neg hFile] at hFits
      have hSizes := hSized.file (Bool.eq_false_iff.mpr hFile)
      have hCurr :=
        toNat_sizeToNclust (s := e.currSize) (by omega)
      have hMax := toNat_sizeToNclust hSizes.2
      have hLast :=
        toNat_lastFrom clust
          (by rw [hCurr]; exact clustersFor_pos _)
          (by rw [hCurr]; omega)
      have hReserved :=
        toNat_lastFrom clust
          (by rw [hMax]; exact clustersFor_pos _)
          (by rw [hMax]; exact hFits)
      rw [hCurr] at hLast
      rw [hMax] at hReserved
      refine ⟨rfl, ?_, ?_⟩
      · unfold Entry.used
        rw [if_neg hFile]
        exact hLast
      · unfold Entry.reserved
        rw [if_neg hFile]
        exact hReserved

/- The placed entries fill the clusters without a gap. -/
theorem placeAll_tiles
    {entries : List Entry}
    (hSized : ∀ e ∈ entries, Sized e)
    (clust : UInt32)
    (hFits :
      clust.toNat + (entries.map Entry.reserved).sum < 2 ^ 32) :
    Tiles firstOf lastOf clust.toNat (placeAll clust entries).1
        (clust.toNat + (entries.map Entry.reserved).sum) ∧
      (placeAll clust entries).2.toNat =
        clust.toNat + (entries.map Entry.reserved).sum := by
  induction entries generalizing clust with
  | nil => exact ⟨rfl, rfl⟩
  | cons e rest ih =>
      rw [List.map_cons, List.sum_cons] at hFits ⊢
      have hPlaced :=
        place_placedAt (hSized e (by simp)) clust (by omega)
      have hNext :
          ((e.place clust).priv.lastReserved + 1).toNat =
            clust.toNat + e.reserved := by
        rw [UInt32.toNat_add, ← hPlaced.reserved]
        apply Nat.mod_eq_of_lt
        have hLast := hPlaced.reserved
        change (e.place clust).priv.lastReserved.toNat + 1 < _
        omega
      have hUsed := (hSized e (by simp)).used_le_reserved
      have hPositive := e.used_pos
      rcases ih (fun e' hMember => hSized e' (by simp [hMember]))
          ((e.place clust).priv.lastReserved + 1)
          (by rw [hNext]; omega)
        with ⟨hTiles, hEnd⟩
      rw [hNext, Nat.add_assoc] at hTiles hEnd
      refine ⟨⟨hPlaced.first, ?_, ?_⟩, hEnd⟩
      · unfold firstOf lastOf
        have hFirst := hPlaced.first
        have hLast := hPlaced.reserved
        omega
      · unfold lastOf
        rw [hPlaced.reserved]
        exact hTiles

/- The clusters in use are the first of those kept. -/
structure Filled (e : Entry) : Prop where
  last : e.priv.lastClust.toNat + 1 = firstOf e + e.used
  inside : e.priv.lastClust.toNat ≤ lastOf e
  kept : lastOf e + 1 = firstOf e + e.reserved

theorem place_filled
    {e : Entry}
    (hSized : Sized e)
    {clust : UInt32}
    (hFits : clust.toNat + e.reserved < 2 ^ 32) :
    Filled (e.place clust) := by
  have hPlaced := place_placedAt hSized clust hFits
  have hUsed := hSized.used_le_reserved
  have hSame : (e.place clust).used = e.used := by
    unfold Entry.place Entry.used
    cases e.dir <;> rfl
  have hSameKept : (e.place clust).reserved = e.reserved := by
    unfold Entry.place Entry.reserved
    cases e.dir <;> rfl
  have hLast := hPlaced.last
  have hReserved := hPlaced.reserved
  constructor
  case last =>
    unfold firstOf
    rw [hLast, hPlaced.first, hSame]
  case inside =>
    unfold lastOf
    omega
  case kept =>
    unfold firstOf lastOf
    rw [hReserved, hPlaced.first, hSameKept]

theorem placeAll_filled
    {entries : List Entry}
    (hSized : ∀ e ∈ entries, Sized e)
    {clust : UInt32}
    (hFits :
      clust.toNat + (entries.map Entry.reserved).sum < 2 ^ 32) :
    ∀ e ∈ (placeAll clust entries).1, Filled e := by
  induction entries generalizing clust with
  | nil =>
      intro e hMember
      cases hMember
  | cons e rest ih =>
      rw [List.map_cons, List.sum_cons] at hFits
      have hHere : clust.toNat + e.reserved < 2 ^ 32 := by
        omega
      have hPlaced :=
        (place_placedAt (hSized e (by simp)) clust hHere).reserved
      intro e' hMember
      rcases List.mem_cons.mp hMember with rfl | hBehind
      · exact place_filled (hSized e (by simp)) hHere
      · refine
          ih (fun e' hIn => hSized e' (by simp [hIn])) ?_
            e' hBehind
        rw [UInt32.toNat_add]
        change ((e.place clust).priv.lastReserved.toNat + 1) %
          2 ^ 32 + _ < _
        rw [hPlaced, Nat.mod_eq_of_lt hHere]
        omega

------------------------------------------------------------
-- Search
------------------------------------------------------------

/- The entry that a cluster is kept for. -/
def ownerOf
    (entries : List Entry)
    (clust : UInt32) : Option Nat :=
  owner firstOf lastOf clust.toNat entries

theorem isClustOf_iff
    {clust : UInt32}
    {e : Entry} :
    isClustOf clust e = true ↔
      Holds firstOf lastOf clust.toNat e := by
  unfold isClustOf Holds firstOf lastOf
  rw [Bool.and_eq_true, decide_eq_true_iff,
    decide_eq_true_iff, UInt32.le_iff_toNat_le,
    UInt32.le_iff_toNat_le]

theorem ownerOf_eq_findIdx?
    (entries : List Entry)
    (clust : UInt32) :
    ownerOf entries clust =
      entries.findIdx? (isClustOf clust) := by
  unfold ownerOf owner
  congr 1
  funext e
  rw [Bool.eq_iff_iff, decide_eq_true_iff, isClustOf_iff]

variable {entries : List Entry}
variable {start stop : Nat}

theorem ownerOf_eq_some_iff
    (hTiles : Tiles firstOf lastOf start entries stop)
    {clust : UInt32}
    {i : Nat} :
    ownerOf entries clust = some i ↔
      ∃ e, entries[i]? = some e ∧ isClustOf clust e = true := by
  unfold ownerOf
  rw [hTiles.owner_eq_some_iff]
  simp only [isClustOf_iff]

/- The search down to the first entry. -/
theorem findBackward_eq_owner
    (hTiles : Tiles firstOf lastOf start entries stop)
    {clust : UInt32}
    {n : Nat}
    (hInside : n < entries.length)
    (hUpTo : ∀ i, ownerOf entries clust = some i → i ≤ n) :
    findBackward entries clust n =
      some (ownerOf entries clust) := by
  induction n with
  | zero =>
      have hHere := List.getElem?_eq_getElem hInside
      unfold findBackward
      rw [hHere, Option.map_some]
      split
      · next hOwner =>
          rw [(ownerOf_eq_some_iff hTiles).mpr
            ⟨_, hHere, hOwner⟩]
      · next hOther =>
          cases hFound : ownerOf entries clust with
          | none => rfl
          | some i =>
              obtain rfl : i = 0 := by
                have hZero := hUpTo i hFound
                omega
              rcases (ownerOf_eq_some_iff hTiles).mp hFound with
                ⟨e, hEntry, hOwner⟩
              rw [hHere] at hEntry
              cases hEntry
              exact absurd hOwner hOther
  | succ n ih =>
      have hHere := List.getElem?_eq_getElem hInside
      unfold findBackward
      rw [hHere, Option.bind_some]
      split
      · next hOwner =>
          rw [(ownerOf_eq_some_iff hTiles).mpr
            ⟨_, hHere, hOwner⟩]
      · next hOther =>
          apply ih (by omega)
          intro i hFound
          have hLe := hUpTo i hFound
          rcases Nat.lt_or_eq_of_le hLe with hLess | rfl
          · omega
          · rcases (ownerOf_eq_some_iff hTiles).mp hFound with
              ⟨e, hEntry, hOwner⟩
            rw [hHere] at hEntry
            cases hEntry
            exact absurd hOwner hOther

theorem findForward_eq
    (clust : UInt32)
    (l : List Entry)
    (i : Nat) :
    findForward clust l i =
      (l.findIdx? (isClustOf clust)).map (· + i) := by
  induction l generalizing i with
  | nil => rfl
  | cons e rest ih =>
      rw [findForward, List.findIdx?_cons]
      split
      · next hOwner => simp
      · next hOther =>
          rw [ih, Option.map_map]
          congr 1
          funext j
          change j + (i + 1) = j + 1 + i
          omega

/- The search up to the end of the table. -/
theorem findForward_eq_owner
    {clust : UInt32}
    {n : Nat}
    (hFrom : ∀ i, ownerOf entries clust = some i → n ≤ i)
    (hInside : n ≤ entries.length) :
    findForward clust (entries.drop n) n =
      ownerOf entries clust := by
  have hParts :
      ownerOf entries clust =
        ((entries.take n).findIdx? (isClustOf clust)).or
          (((entries.drop n).findIdx? (isClustOf clust)).map
            (· + n)) := by
    conv => lhs; rw [ownerOf_eq_findIdx?,
      ← List.take_append_drop n entries]
    rw [List.findIdx?_append, List.length_take,
      Nat.min_eq_left hInside]
  rw [findForward_eq, hParts]
  cases hEarlier :
      (entries.take n).findIdx? (isClustOf clust) with
  | none => rfl
  | some i =>
      rw [hEarlier, Option.some_or] at hParts
      have hLate := hFrom i hParts
      rcases List.findIdx?_eq_some_iff_getElem.mp hEarlier with
        ⟨hBefore, -, -⟩
      rw [List.length_take] at hBefore
      omega

/- The hint does not change what is found. -/
theorem findEntry_eq_owner
    (hTiles : Tiles firstOf lastOf start entries stop)
    (clust : UInt32)
    {nearest : Nat}
    (hHint : nearest < entries.length) :
    findEntry entries clust nearest =
      some (ownerOf entries clust) := by
  have hHere := List.getElem?_eq_getElem hHint
  have hBounds := hTiles.bounds (List.getElem_mem hHint)
  unfold findEntry
  rw [hHere, Option.bind_some]
  split
  · next hBehind =>
      apply findBackward_eq_owner hTiles hHint
      intro i hFound
      rcases (ownerOf_eq_some_iff hTiles).mp hFound with
        ⟨e, hEntry, hOwner⟩
      rw [isClustOf_iff] at hOwner
      rw [gt_iff_lt, UInt32.lt_iff_toNat_lt] at hBehind
      by_contra hLater
      have hApart :=
        hTiles.last_lt_first (not_le.mp hLater) hHere hEntry
      have hFrom := hOwner.1
      unfold firstOf at hBounds hApart hFrom
      omega
  · next hAhead =>
      rw [findForward_eq_owner ?_ hHint.le]
      intro i hFound
      rcases (ownerOf_eq_some_iff hTiles).mp hFound with
        ⟨e, hEntry, hOwner⟩
      rw [isClustOf_iff] at hOwner
      rw [gt_iff_lt, UInt32.lt_iff_toNat_lt, not_lt] at hAhead
      by_contra hEarlier
      have hApart :=
        hTiles.last_lt_first (not_le.mp hEarlier) hEntry hHere
      have hTo := hOwner.2
      unfold firstOf at hApart
      omega

------------------------------------------------------------
-- Tables and Volumes
------------------------------------------------------------

/- The children of an entry of the table, in order. -/
def childrenOf (entries : List Entry) (i : Nat) : List Nat :=
  children (levelAt entries) entries.length i

/-
  The clusters that an entry of a table needs. The records of
  the first child and of the label or the dots are missing in
  the size of a directory.
-/
def entryClusters
    (entries : List Entry)
    (i : Nat)
    (e : Entry) : Nat :=
  if e.dir then
    clustersFor (((childrenOf entries i).length - 1) * 32)
  else
    clustersFor e.maxSize.toNat

def totalClusters (entries : List Entry) : Nat :=
  (entries.mapIdx (entryClusters entries)).sum

/-
  What the table of the program has to be: a tree whose sizes
  and clusters have room in their fields.
-/
structure Table (entries : List Entry) : Prop where
  order : LevelOrder entries
  length_lt : entries.length * 32 + 4095 < 2 ^ 32
  sizes :
    ∀ e ∈ entries, e.dir = false →
      e.currSize.toNat ≤ e.maxSize.toNat ∧
        e.maxSize.toNat + 4095 < 2 ^ 32
  clusters : totalClusters entries + 2 < 0x0FFFFFF8

/- The sectors of a table of the allocation. -/
def fatSectors (clusters : Nat) : Nat :=
  max 1 ((clusters * 4 + 511) / 512)

/- A volume as `emfat_init` sets it up. -/
structure Formatted (v : Volume) : Prop where
  order : LevelOrder v.entries
  linked : Linked v.entries
  length_lt : v.entries.length < 2 ^ 32
  tiles :
    Tiles firstOf lastOf 2 v.entries (v.numClust.toNat + 2)
  filled : ∀ e ∈ v.entries, Filled e
  bounded : v.numClust.toNat + 2 < 0x0FFFFFF8
  bootLba : v.bootLba = 62
  fsinfoLba : v.fsinfoLba = 63
  fat1Lba : v.fat1Lba = 64
  fat2Lba :
    v.fat2Lba.toNat = 64 + fatSectors v.numClust.toNat
  rootLba :
    v.rootLba.toNat = 64 + 2 * fatSectors v.numClust.toNat
  diskSectors :
    v.diskSectors.toNat =
      v.numClust.toNat * 8 +
        (64 + 2 * fatSectors v.numClust.toNat)
  hint : v.lastEntry < v.entries.length

/- The entry in a volume; a directory has no size. -/
def Entry.stored (e : Entry) : Entry :=
  if e.dir then
    { e.bare with currSize := 0, maxSize := 0 }
  else
    e.bare

theorem place_stored
    (e : Entry)
    (clust : UInt32) :
    (e.place clust).stored = e.stored := by
  unfold Entry.place
  split
  · next hDir => simp [Entry.stored, Entry.bare, hDir]
  · next hFile => simp [Entry.stored, Entry.bare, hFile]

theorem placeAll_stored
    (clust : UInt32)
    (entries : List Entry) :
    (placeAll clust entries).1.map Entry.stored =
      entries.map Entry.stored := by
  induction entries generalizing clust with
  | nil => rfl
  | cons e rest ih =>
      unfold placeAll
      rw [List.map_cons, List.map_cons, ih, place_stored]

/- The links do not depend on the clusters. -/
theorem placeAll_privAt
    {β : Type}
    [Inhabited β]
    {field : EntryPriv → β}
    (hField :
      ∀ (e : Entry) (c : UInt32),
        field (e.place c).priv = field e.priv)
    (clust : UInt32)
    (entries : List Entry) :
    privAt field (placeAll clust entries).1 =
      privAt field entries := by
  funext i
  unfold privAt
  congr 1
  induction entries generalizing clust i with
  | nil => rfl
  | cons e rest ih =>
      cases i with
      | zero => exact congrArg some (hField e clust)
      | succ i => exact ih _ i

/- Two tables with the same entries in a volume. -/
def SameStored (entries entries' : List Entry) : Prop :=
  entries'.map Entry.stored = entries.map Entry.stored

variable {entries' : List Entry}

theorem Entry.stored_eq_of_bare
    {e e' : Entry}
    (hBare : e'.bare = e.bare) :
    e'.stored = e.stored := by
  have hDir : e'.dir = e.dir := by
    have hBareDir := congrArg Entry.dir hBare
    exact hBareDir
  unfold Entry.stored
  rw [hDir, hBare]

theorem SameBare.sameStored
    (hSame : SameBare entries entries') :
    SameStored entries entries' := by
  apply List.ext_getElem?
  intro i
  have hBare := hSame.getElem?_bare i
  rw [List.getElem?_map, List.getElem?_map]
  cases hHere : entries'[i]? with
  | none =>
      rw [hHere, Option.map_none] at hBare
      rw [Option.map_eq_none_iff.mp hBare.symm]
  | some e' =>
      rcases hEntry : entries[i]? with _ | e
      · rw [hHere, hEntry] at hBare
        cases hBare
      · rw [hHere, hEntry, Option.map_some, Option.map_some,
          Option.some_inj] at hBare
        rw [Option.map_some, Option.map_some,
          Entry.stored_eq_of_bare hBare]

theorem SameStored.length_eq
    (hSame : SameStored entries entries') :
    entries'.length = entries.length := by
  simpa using congrArg List.length hSame

theorem SameStored.exists_entry
    (hSame : SameStored entries entries')
    {i : Nat}
    {e : Entry}
    (hEntry : entries[i]? = some e) :
    ∃ e', entries'[i]? = some e' ∧ e'.stored = e.stored := by
  have hStored :
      (entries'[i]?).map Entry.stored =
        (entries[i]?).map Entry.stored := by
    rw [← List.getElem?_map, ← List.getElem?_map, hSame]
  rw [hEntry, Option.map_some, Option.map_eq_some_iff] at hStored
  exact hStored

theorem Entry.stored_level
    (e : Entry) :
    e.stored.level = e.level := by
  unfold Entry.stored
  split <;> rfl

theorem SameStored.levelAt_eq
    (hSame : SameStored entries entries') :
    levelAt entries' = levelAt entries := by
  funext i
  have hStored :
      (entries'.map Entry.stored)[i]? =
        (entries.map Entry.stored)[i]? := by
    rw [hSame]
  have hLevels := congrArg (Option.map Entry.level) hStored
  rw [List.getElem?_map, List.getElem?_map, Option.map_map,
    Option.map_map] at hLevels
  unfold levelAt
  rw [show Entry.level = Entry.level ∘ Entry.stored from
    funext fun e => e.stored_level.symm, hLevels]

theorem Entry.stored_dir
    (e : Entry) :
    e.stored.dir = e.dir := by
  unfold Entry.stored
  split <;> rfl

theorem follows_stored_iff
    (before e : Entry) :
    Follows before.stored e.stored ↔ Follows before e := by
  unfold Follows
  rw [Entry.stored_level, Entry.stored_level,
    Entry.stored_dir]

/- The order does not depend on links, clusters or sizes. -/
theorem SameStored.levelOrder
    (hSame : SameStored entries entries')
    (hOrder : LevelOrder entries) :
    LevelOrder entries' := by
  rcases hOrder with ⟨⟨root, hHead, hLevel, hDir⟩, hFollows⟩
  constructor
  · rw [List.head?_eq_getElem?] at hHead ⊢
    rcases hSame.exists_entry hHead with ⟨e', hHere, hStored⟩
    refine ⟨e', hHere, ?_, ?_⟩
    · rw [← e'.stored_level, hStored, Entry.stored_level,
        hLevel]
    · rw [← e'.stored_dir, hStored, Entry.stored_dir, hDir]
  · have hMapped :
        ∀ l : List Entry,
          (l.map Entry.stored).IsChain Follows ↔
            l.IsChain Follows := by
      intro l
      rw [List.isChain_map]
      simp only [follows_stored_iff]
    rw [← hMapped, hSame, hMapped]
    exact hFollows

theorem SameStored.childrenOf_eq
    (hSame : SameStored entries entries')
    (i : Nat) :
    childrenOf entries' i = childrenOf entries i := by
  unfold childrenOf
  rw [hSame.levelAt_eq, hSame.length_eq]

/- The links stay when the clusters are laid out. -/
theorem Linked.placeAll
    (hLinked : Linked entries)
    (clust : UInt32) :
    Linked (placeAll clust entries).1 := by
  have hSame :
      SameStored entries (Emfat.placeAll clust entries).1 :=
    placeAll_stored clust entries
  have hLinks :
      linksOf (Emfat.placeAll clust entries).1 =
        linksOf entries := by
    unfold linksOf
    congr 1
    · refine placeAll_privAt ?_ clust entries
      intro e c
      unfold Entry.place
      split <;> rfl
    · refine placeAll_privAt ?_ clust entries
      intro e c
      unfold Entry.place
      split <;> rfl
    · refine placeAll_privAt ?_ clust entries
      intro e c
      unfold Entry.place
      split <;> rfl
  have hCounts :
      privAt EntryPriv.numSubentry
          (Emfat.placeAll clust entries).1 =
        privAt EntryPriv.numSubentry entries := by
    refine placeAll_privAt ?_ clust entries
    intro e c
    unfold Entry.place
    split <;> rfl
  constructor
  · rw [hSame.levelAt_eq, hSame.length_eq, hLinks]
    exact hLinked.represents
  · unfold Counted
    rw [hSame.levelAt_eq, hSame.length_eq, hCounts]
    exact hLinked.counted

------------------------------------------------------------
-- emfat_init
------------------------------------------------------------

/- A linked entry needs the clusters that the table says. -/
theorem reserved_eq
    (hSame : SameBare entries entries')
    (hLinked : Linked entries')
    (hSmall : entries.length < 2 ^ 32)
    {i : Nat}
    {e : Entry}
    (hEntry : entries[i]? = some e)
    {e' : Entry}
    (hLinkedEntry : entries'[i]? = some e') :
    e'.reserved = entryClusters entries i e ∧
      (e.dir = true →
        e'.priv.numSubentry.toNat =
          (childrenOf entries i).length - 1) := by
  have hInside : i < entries'.length :=
    (List.getElem?_eq_some_iff.mp hLinkedEntry).1
  have hBare : e'.bare = e.bare := by
    have hBoth := hSame.getElem?_bare i
    rw [hEntry, hLinkedEntry] at hBoth
    exact Option.some_inj.mp hBoth
  have hDir : e'.dir = e.dir := by
    have hField := congrArg Entry.dir hBare
    exact hField
  have hMax : e'.maxSize = e.maxSize := by
    have hField := congrArg Entry.maxSize hBare
    exact hField
  have hFew : (childrenOf entries i).length ≤ entries.length := by
    unfold childrenOf children
    apply (List.length_filter_le _ _).trans
    rw [List.length_range]
  have hCount :
      e'.priv.numSubentry.toNat =
        (childrenOf entries i).length - 1 := by
    have hCounted := hLinked.counted i hInside
    rw [privAt_eq hLinkedEntry, hSame.levelAt_eq,
      hSame.length_eq] at hCounted
    rw [hCounted, UInt32.toNat_ofNat']
    apply Nat.mod_eq_of_lt
    change (childrenOf entries i).length - 1 < 2 ^ 32
    omega
  refine ⟨?_, fun _ => hCount⟩
  unfold Entry.reserved entryClusters
  rw [hDir, hMax, hCount]

theorem Table.sized
    (hTable : Table entries)
    (hSame : SameBare entries entries')
    (hLinked : Linked entries') :
    (∀ e ∈ entries', Sized e) ∧
      (entries'.map Entry.reserved).sum =
        totalClusters entries := by
  have hLength := hTable.length_lt
  have hReserved :
      entries'.map Entry.reserved =
        entries.mapIdx (entryClusters entries) := by
    apply List.ext_getElem?
    intro i
    rw [List.getElem?_map, List.getElem?_mapIdx]
    cases hEntry : entries[i]? with
    | none =>
        rw [List.getElem?_eq_none_iff] at hEntry
        rw [List.getElem?_eq_none
          (by rw [hSame.length_eq]; exact hEntry)]
        rfl
    | some e =>
        rcases hSame.exists_entry hEntry with ⟨e', hHere, -⟩
        rw [hHere, Option.map_some, Option.map_some,
          (reserved_eq hSame hLinked (by omega) hEntry hHere).1]
  refine ⟨?_, ?_⟩
  · intro e' hMember
    rcases List.getElem?_of_mem hMember with ⟨i, hHere⟩
    have hInside : i < entries'.length :=
      (List.getElem?_eq_some_iff.mp hHere).1
    rw [hSame.length_eq] at hInside
    have hEntry := List.getElem?_eq_getElem hInside
    have hBare : e'.bare = entries[i].bare := by
      have hBoth := hSame.getElem?_bare i
      rw [hEntry, hHere] at hBoth
      exact Option.some_inj.mp hBoth
    have hDir : e'.dir = entries[i].dir := by
      have hField := congrArg Entry.dir hBare
      exact hField
    have hCurr : e'.currSize = entries[i].currSize := by
      have hField := congrArg Entry.currSize hBare
      exact hField
    have hMax : e'.maxSize = entries[i].maxSize := by
      have hField := congrArg Entry.maxSize hBare
      exact hField
    refine ⟨?_, ?_⟩
    · intro hDirectory
      have hCount :=
        (reserved_eq hSame hLinked (by omega) hEntry hHere).2
          (hDir ▸ hDirectory)
      have hFew :
          (childrenOf entries i).length ≤ entries.length := by
        unfold childrenOf children
        apply (List.length_filter_le _ _).trans
        rw [List.length_range]
      omega
    · intro hFile
      rw [hCurr, hMax]
      exact
        hTable.sizes _ (List.getElem_mem hInside)
          (hDir ▸ hFile)
  · rw [hReserved]
    rfl

theorem toNat_sizeToNsect
    {n : Nat}
    (hSmall : n < 2 ^ 28)
    {clust : UInt32}
    (hClust : clust.toNat = n) :
    (sizeToNsect (clust.toUInt64 * 4)).toUInt32.toNat =
      fatSectors n := by
  have hBytes : (clust.toUInt64 * 4).toNat = n * 4 := by
    rw [UInt64.toNat_mul, UInt32.toNat_toUInt64, hClust]
    apply Nat.mod_eq_of_lt
    change n * 4 < 2 ^ 64
    omega
  unfold sizeToNsect fatSectors
  split
  · next hZero =>
      have hNone : n * 4 = 0 := by
        rw [← hBytes, hZero]
        rfl
      rw [hNone]
      rfl
  · next hSome =>
      have hPositive : n * 4 ≠ 0 := by
        intro hNone
        rw [← hBytes] at hNone
        exact hSome (UInt64.toNat_inj.mp hNone)
      have hSum :
          (clust.toUInt64 * 4 + 511).toNat = n * 4 + 511 := by
        rw [UInt64.toNat_add, hBytes]
        apply Nat.mod_eq_of_lt
        change n * 4 + 511 < 2 ^ 64
        omega
      rw [UInt64.toNat_toUInt32, UInt64.toNat_div, hSum]
      change (n * 4 + 511) / 512 % 2 ^ 32 = _
      omega

/- What `emfat_init` does with the result of the links. -/
theorem emfatInit_eq
    {r : Bool × List Entry}
    (hLinks : emfatInitEntries entries = some r)
    (label : List UInt8) :
    ∃ o, emfatInit label entries = some o ∧
      (o.isSome = true ↔ r.1 = true) ∧
        ∀ v, o = some v →
          v.entries = (placeAll 2 r.2).1 ∧
            v.volLabel = label := by
  unfold emfatInit
  rw [hLinks, Option.map_some]
  split
  · next hAccepted =>
      refine ⟨_, rfl, iff_of_true rfl hAccepted, ?_⟩
      rintro v hVolume
      cases hVolume
      exact ⟨rfl, rfl⟩
  · next hRefused =>
      refine
        ⟨_, rfl, iff_of_false Bool.false_ne_true hRefused, ?_⟩
      rintro v hVolume
      cases hVolume

/-
  `emfat_init` always returns, it returns a volume exactly for
  a table in level order, and it links its entries as a tree.
-/
theorem emfatInit_links
    (label : List UInt8)
    (entries : List Entry) :
    ∃ o, emfatInit label entries = some o ∧
      (o.isSome = true ↔ LevelOrder entries) ∧
        ∀ v, o = some v →
          SameStored entries v.entries ∧ Linked v.entries := by
  rcases emfatInitEntries_spec entries with
    ⟨r, hInit, hSame, hAccepted, hLinked⟩
  rcases emfatInit_eq hInit label with
    ⟨o, hVolume, hSome, hEntries⟩
  refine ⟨o, hVolume, hSome.trans hAccepted, ?_⟩
  rintro v rfl
  have hTrue : r.1 = true := hSome.mp rfl
  rw [(hEntries v rfl).1]
  refine ⟨?_, (hLinked hTrue).placeAll 2⟩
  unfold SameStored
  rw [placeAll_stored]
  exact hSame.sameStored

/- A fitting table gives a volume. -/
theorem emfatInit_formatted
    (hTable : Table entries)
    (label : List UInt8) :
    ∃ v, emfatInit label entries = some (some v) ∧
      Formatted v ∧ SameStored entries v.entries ∧
        v.volLabel = label ∧
          v.numClust.toNat = totalClusters entries := by
  rcases emfatInitEntries_spec entries with
    ⟨r, hInit, hSame, hAccepted, hLinked⟩
  have hTrue := hAccepted.mpr hTable.order
  rcases hTable.sized hSame (hLinked hTrue) with
    ⟨hSized, hTotal⟩
  have hClusters := hTable.clusters
  have hTwo : (2 : UInt32).toNat = 2 := rfl
  have hFits :
      (2 : UInt32).toNat + (r.2.map Entry.reserved).sum <
        2 ^ 32 := by
    rw [hTotal, hTwo]
    omega
  have hTiles := placeAll_tiles hSized 2 hFits
  rw [hTotal, hTwo] at hTiles
  have hNumClust :
      ((placeAll 2 r.2).2 - 2).toNat = totalClusters entries := by
    rw [UInt32.toNat_sub_of_le _ _
        (by rw [UInt32.le_iff_toNat_le, hTiles.2, hTwo]; omega),
      hTiles.2, hTwo]
    omega
  have hNsect :=
    toNat_sizeToNsect (n := totalClusters entries) (by omega)
      hNumClust
  have hFew : fatSectors (totalClusters entries) < 2 ^ 22 := by
    unfold fatSectors
    omega
  have hStored : SameStored entries (placeAll 2 r.2).1 := by
    unfold SameStored
    rw [placeAll_stored]
    exact hSame.sameStored
  have hLength := hTable.length_lt
  unfold emfatInit
  rw [hInit, Option.map_some, if_pos hTrue]
  refine ⟨_, rfl, ?_, hStored, rfl, hNumClust⟩
  constructor
  case order => exact hStored.levelOrder hTable.order
  case linked => exact (hLinked hTrue).placeAll 2
  case length_lt =>
    rw [hStored.length_eq]
    omega
  case tiles =>
    rw [hNumClust, Nat.add_comm]
    exact hTiles.1
  case filled => exact placeAll_filled hSized hFits
  case bounded =>
    rw [hNumClust]
    exact hClusters
  case bootLba => rfl
  case fsinfoLba => rfl
  case fat1Lba => rfl
  case fat2Lba =>
    rw [hNumClust]
    dsimp only
    rw [UInt32.toNat_add, hNsect]
    change (64 + fatSectors (totalClusters entries)) % 2 ^ 32 = _
    omega
  case rootLba =>
    rw [hNumClust]
    dsimp only
    rw [UInt32.toNat_add, UInt32.toNat_add, hNsect]
    change
      ((64 + fatSectors (totalClusters entries)) % 2 ^ 32 +
        fatSectors (totalClusters entries)) % 2 ^ 32 = _
    omega
  case diskSectors =>
    rw [hNumClust]
    dsimp only
    rw [UInt32.toNat_add, UInt32.toNat_add, UInt32.toNat_add,
      UInt32.toNat_mul, hNsect, hNumClust]
    change
      (totalClusters entries * 8 % 2 ^ 32 +
        ((64 + fatSectors (totalClusters entries)) % 2 ^ 32 +
          fatSectors (totalClusters entries)) % 2 ^ 32) %
        2 ^ 32 = _
    omega
  case hint =>
    rw [hStored.length_eq]
    cases entries with
    | nil =>
        rcases hTable.order.root with ⟨e, hNone, -⟩
        cases hNone
    | cons e rest => exact Nat.succ_pos _

end Emfat

end TemperatureSensor
