import TemperatureSensor.Usb.Disk

/-
  What a directory of the table lists, told from the table
  alone: names, attributes, first clusters and sizes.

  Main declarations:
    * `firstCluster` and `firstOf_eq`
    * `listing` and `dirEntry_dirRecords`
-/

------------------------------------------------------------
-- Clusters of a Table
------------------------------------------------------------

namespace TemperatureSensor

namespace Emfat

open DepthSequence Fat32

/- An entry begins behind the clusters of the earlier ones. -/
def firstCluster (entries : List Entry) (i : Nat) : Nat :=
  2 + ((entries.mapIdx (entryClusters entries)).take i).sum

variable {v : Volume}
variable {entries : List Entry}
variable {i : Nat}
variable {e e' : Entry}

/- The kept clusters are those that the table asks for. -/
theorem reserved_stored
    (hFormatted : Formatted v)
    (hSame : SameStored entries v.entries)
    (hEntry : entries[i]? = some e)
    (hHere : v.entries[i]? = some e') :
    e'.reserved = entryClusters entries i e := by
  have hFields := hSame.sameFile hEntry hHere
  unfold entryClusters
  cases hDir : e.dir with
  | true =>
      have hDir' : e'.dir = true := by rw [hFields.dir, hDir]
      have hUsed := used_dir hFormatted hHere hDir'
      unfold Entry.used at hUsed
      unfold Entry.reserved
      rw [if_pos hDir'] at hUsed ⊢
      rw [if_pos rfl, hUsed, hSame.childrenOf_eq]
  | false =>
      have hDir' : e'.dir = false := by rw [hFields.dir, hDir]
      unfold Entry.reserved
      rw [if_neg (by rw [hDir']; exact Bool.false_ne_true),
        if_neg Bool.false_ne_true, (hFields.sizes hDir).2]

/- Clusters in the volume are where the table puts them. -/
theorem firstOf_eq
    (hFormatted : Formatted v)
    (hSame : SameStored entries v.entries)
    (hHere : v.entries[i]? = some e') :
    firstOf e' = firstCluster entries i := by
  have hSizes :
      (v.entries.map fun b => lastOf b + 1 - firstOf b) =
        entries.mapIdx (entryClusters entries) := by
    apply List.ext_getElem?
    intro k
    rw [List.getElem?_map, List.getElem?_mapIdx]
    cases hEntry : entries[k]? with
    | none =>
        rw [hSame.getElem?_eq_none hEntry]
        rfl
    | some e =>
        rcases hSame.exists_entry hEntry with ⟨b, hB, -⟩
        have hKept :=
          (hFormatted.filled b (List.mem_of_getElem? hB)).kept
        rw [hB, Option.map_some, Option.map_some,
          ← reserved_stored hFormatted hSame hEntry hB]
        congr 1
        omega
  rw [hFormatted.tiles.first_eq hHere, List.map_take, hSizes]
  rfl

------------------------------------------------------------
-- Listings of a Table
------------------------------------------------------------

/- How a directory is shown under a name, as by its dot. -/
def shownDir
    (name : List UInt8)
    (cluster : Nat) : DirEntry where
  name := (shortName name (attrDir ||| attrRead)).map upperCase
  attr := 0x11
  cluster := cluster
  size := 0

def shownLabel (label : List UInt8) : DirEntry where
  name := (shortName label attrVolLabel).map upperCase
  attr := 0x08
  cluster := 0
  size := 0

/- How an entry is shown in the directory above it. -/
def shownEntry
    (entries : List Entry)
    (i : Nat)
    (e : Entry) : DirEntry where
  name := e.shown
  attr := if e.dir then 0x11 else 0x21
  cluster := firstCluster entries i
  size := if e.dir then 0 else e.currSize.toNat

/- The label or the dots, and the children in their order. -/
def listing
    (label : List UInt8)
    (entries : List Entry)
    (i : Nat) : List DirEntry :=
  (match parentOf entries i with
    | none => [shownLabel label]
    | some above =>
        [shownDir (chars ".") (firstCluster entries i),
          shownDir (chars "..")
            (firstCluster entries above)]) ++
    (childrenOf entries i).filterMap fun k =>
      (entries[k]?).map (shownEntry entries k)

theorem dirEntry_dirRecord
    (hFormatted : Formatted v)
    (hSame : SameStored entries v.entries)
    (hEntry : entries[i]? = some e)
    (hHere : v.entries[i]? = some e') :
    dirEntry e'.dirRecord = shownEntry entries i e := by
  have hFields := hSame.sameFile hEntry hHere
  have hFirst := firstOf_eq hFormatted hSame hHere
  unfold firstOf at hFirst
  rw [dirRecord_eq, dirEntry_fillEntry, hFirst, hFields.dir]
  unfold shownEntry Entry.shown Entry.attr
  rw [hFields.name, hFields.dir]
  cases hDir : e.dir with
  | true => rfl
  | false =>
      rw [if_neg Bool.false_ne_true,
        if_neg Bool.false_ne_true, (hFields.sizes hDir).1]
      rfl

/- What is read of the records is what the table lists. -/
theorem dirEntry_dirRecords
    (hFormatted : Formatted v)
    (hSame : SameStored entries v.entries)
    (hHere : v.entries[i]? = some e') :
    (dirRecords v i e').map dirEntry =
      listing v.volLabel entries i := by
  have hFirst := firstOf_eq hFormatted hSame hHere
  have hTop := hFormatted.linked.top_eq hHere
  rw [hSame.parentOf_eq] at hTop
  unfold firstOf at hFirst
  unfold dirRecords listing
  rw [List.map_append, hSame.childrenOf_eq]
  congr 1
  · unfold headRecords
    rw [← hTop]
    cases hAbove : e'.priv.top with
    | none =>
        dsimp only
        rw [Option.getD_some, List.map_cons, List.map_nil,
          dirEntry_fillEntry]
        rfl
    | some p =>
        rw [hAbove] at hTop
        have hParent : IsParent (levelAt entries) p i :=
          parent_eq_some_iff.mp hTop.symm
        have hInside : i < v.entries.length :=
          (List.getElem?_eq_some_iff.mp hHere).1
        have hThere :=
          List.getElem?_eq_getElem (hParent.1.trans hInside)
        have hUp := firstOf_eq hFormatted hSame hThere
        unfold firstOf at hUp
        dsimp only
        rw [hThere, Option.map_some, Option.getD_some,
          List.map_cons, List.map_cons, List.map_nil,
          dirEntry_fillEntry, dirEntry_fillEntry, hFirst, hUp]
        rfl
  · rw [List.map_map, ← List.filterMap_eq_map]
    apply List.filterMap_congr
    intro k hMember
    have hInside : k < v.entries.length := by
      rw [hSame.length_eq]
      exact (mem_childrenOf.mp hMember).1
    have hRecord := List.getElem?_eq_getElem hInside
    rcases hSame.exists_source hRecord with ⟨e, hEntry, -⟩
    rw [hEntry, Option.map_some, Function.comp_apply,
      Function.comp_apply, recordAt_eq hRecord,
      dirEntry_dirRecord hFormatted hSame hEntry hRecord]

end Emfat

end TemperatureSensor
