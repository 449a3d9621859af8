import TemperatureSensor.Usb.Clusters

/-
  The disk behind `emfat_read`: what a read stores for each
  sector. The sectors are a function of the volume alone, and
  do not depend on the entry that the last read has found.

  Main declarations:
    * `sectorOf`
    * `Ready`
    * `readSector_eq`
    * `emfatRead_eq`
-/

------------------------------------------------------------
-- Sectors
------------------------------------------------------------

namespace TemperatureSensor

namespace Emfat

open DepthSequence Segments

/- The entry of a cluster. -/
def entryOf
    (entries : List Entry)
    (clust : UInt32) : Option Entry :=
  (ownerOf entries clust).bind fun i => entries[i]?

/- The value of a cluster in the allocation table. -/
def fatValueAt
    (entries : List Entry)
    (curr : UInt32) : UInt32 :=
  match entryOf entries curr with
  | none => clustReserved
  | some e => e.fatValue curr

/- The values of some neighbouring clusters. -/
def fatValuesFrom
    (entries : List Entry)
    (count : Nat)
    (curr : UInt32) : List UInt32 :=
  (List.range count).map fun k =>
    fatValueAt entries (curr + UInt32.ofNat k)

/- A sector of the allocation table. -/
def fatSector
    (entries : List Entry)
    (index : UInt32) : List UInt8 :=
  let curr := index * 128
  let values :=
    if curr = 0 then
      clustRootEnd :: 0xFFFFFFFF ::
        fatValuesFrom entries 126 (curr + 2)
    else
      fatValuesFrom entries 128 curr
  values.flatMap word32

/- The record of an entry in the directory above it. -/
def recordAt (entries : List Entry) (i : Nat) : List UInt8 :=
  ((entries[i]?).map Entry.dirRecord).getD []

/- The records of a directory: the label or the dots first. -/
def dirRecords
    (v : Volume)
    (i : Nat)
    (e : Entry) : List (List UInt8) :=
  (headRecords v e).getD [] ++
    (childrenOf v.entries i).map (recordAt v.entries)

/- The records of one sector, filled up with zeros. -/
def recordSector
    (records : List (List UInt8))
    (k : Nat) : List UInt8 :=
  let bytes := ((records.drop (16 * k)).take 16).flatten
  bytes ++ List.replicate (512 - bytes.length) 0

/- A sector of a cluster; the rest of a file has no bytes. -/
def entrySector
    (v : Volume)
    (content : Nat → List UInt8)
    (i : Nat)
    (e : Entry)
    (cluster relSect : UInt32) : List UInt8 :=
  if e.dir then
    recordSector (dirRecords v i e) relSect.toNat
  else
    match e.readcb with
    | none => List.replicate 512 0
    | some _ =>
        blockOf (content i) 512
          ((cluster - e.priv.firstClust) * 4096 +
            relSect * 512 + e.offset)

def dataSector
    (v : Volume)
    (content : Nat → List UInt8)
    (relSect : UInt32) : List UInt8 :=
  let cluster := relSect / 8 + 2
  match ownerOf v.entries cluster with
  | none => fillerSector
  | some i =>
      match v.entries[i]? with
      | none => []
      | some e =>
          entrySector v content i e cluster (relSect % 8)

/- The bytes that a read of a sector stores. -/
def sectorOf
    (v : Volume)
    (content : Nat → List UInt8)
    (sector : UInt32) : List UInt8 :=
  if sector ≥ v.rootLba then
    dataSector v content (sector - v.rootLba)
  else if sector = 0 then
    mbrSector v
  else if sector = v.fsinfoLba then
    fsinfoSector v
  else if sector = v.bootLba then
    bootSector v
  else if v.fat1Lba ≤ sector ∧ sector < v.fat2Lba then
    fatSector v.entries (sector - v.fat1Lba)
  else if v.fat2Lba ≤ sector ∧ sector < v.rootLba then
    fatSector v.entries (sector - v.fat2Lba)
  else
    List.replicate 512 0

/-
  The callbacks of the files serve fixed contents, and the
  offsets of their clusters have room in their fields.
-/
def Backed
    (entries : List Entry)
    (content : Nat → List UInt8) : Prop :=
  ∀ i e, entries[i]? = some e → e.dir = false →
    ∀ p, e.readcb = some p →
      Serves p (content i) ∧
        e.offset.toNat + 4096 * clustersFor e.maxSize.toNat <
          2 ^ 32

structure Ready
    (v : Volume)
    (content : Nat → List UInt8) : Prop where
  formatted : Formatted v
  backed : Backed v.entries content

------------------------------------------------------------
-- Hints
------------------------------------------------------------

/- A volume that remembers another entry. -/
def Volume.hinted (v : Volume) (i : Nat) : Volume :=
  { v with lastEntry := i }

variable {v : Volume}
variable {content : Nat → List UInt8}

theorem Formatted.hinted
    (hFormatted : Formatted v)
    {i : Nat}
    (hInside : i < v.entries.length) :
    Formatted (v.hinted i) where
  order := hFormatted.order
  linked := hFormatted.linked
  length_lt := hFormatted.length_lt
  tiles := hFormatted.tiles
  filled := hFormatted.filled
  bounded := hFormatted.bounded
  bootLba := hFormatted.bootLba
  fsinfoLba := hFormatted.fsinfoLba
  fat1Lba := hFormatted.fat1Lba
  fat2Lba := hFormatted.fat2Lba
  rootLba := hFormatted.rootLba
  diskSectors := hFormatted.diskSectors
  hint := hInside

theorem Ready.hinted
    (hReady : Ready v content)
    {i : Nat}
    (hInside : i < v.entries.length) :
    Ready (v.hinted i) content where
  formatted := hReady.formatted.hinted hInside
  backed := hReady.backed

theorem entryOf_of_owner
    {entries : List Entry}
    {clust : UInt32}
    {i : Nat}
    (hOwner : ownerOf entries clust = some i) :
    entryOf entries clust = entries[i]? := by
  unfold entryOf
  rw [hOwner, Option.bind_some]

------------------------------------------------------------
-- Allocation Table
------------------------------------------------------------

theorem fatValuesFrom_succ
    (entries : List Entry)
    (count : Nat)
    (curr : UInt32) :
    fatValuesFrom entries (count + 1) curr =
      fatValueAt entries curr ::
        fatValuesFrom entries count (curr + 1) := by
  unfold fatValuesFrom
  rw [List.range_succ_eq_map, List.map_cons, List.map_map]
  congr 2
  · exact UInt32.add_zero curr
  · funext k
    rw [Function.comp_apply, Nat.succ_eq_add_one,
      UInt32.ofNat_add, UInt32.add_comm (UInt32.ofNat k),
      ← UInt32.add_assoc]
    rfl

/- The loop finds the values from any entry on. -/
theorem fatValues_eq
    (hFormatted : Formatted v)
    (count : Nat)
    (curr : UInt32)
    {le : Nat}
    (hHint : le < v.entries.length) :
    ∃ le', le' < v.entries.length ∧
      fatValues v count curr le =
        some (fatValuesFrom v.entries count curr, le') := by
  induction count generalizing curr le with
  | zero => exact ⟨le, hHint, rfl⟩
  | succ count ih =>
      have hHere := List.getElem?_eq_getElem hHint
      rw [fatValuesFrom_succ]
      unfold fatValues
      rw [hHere, Option.bind_some]
      split
      · next hCluster =>
          have hOwner :=
            (ownerOf_eq_some_iff hFormatted.tiles).mpr
              ⟨_, hHere, hCluster⟩
          rcases ih (curr + 1) hHint with
            ⟨le', hInside, hRest⟩
          refine ⟨le', hInside, ?_⟩
          unfold fatValueAt
          rw [hRest, entryOf_of_owner hOwner, hHere]
          rfl
      · rw [findEntry_eq_owner hFormatted.tiles curr hHint,
          Option.bind_some]
        cases hOwner : ownerOf v.entries curr with
        | none =>
            rcases ih (curr + 1) hFormatted.hint with
              ⟨le', hInside, hRest⟩
            refine ⟨le', hInside, ?_⟩
            unfold fatValueAt entryOf
            dsimp only
            rw [hRest, hOwner]
            rfl
        | some i =>
            rcases (ownerOf_eq_some_iff hFormatted.tiles).mp
                hOwner with ⟨e, hEntry, -⟩
            have hFound : i < v.entries.length :=
              (List.getElem?_eq_some_iff.mp hEntry).1
            rcases ih (curr + 1) hFound with
              ⟨le', hInside, hRest⟩
            refine ⟨le', hInside, ?_⟩
            unfold fatValueAt
            dsimp only
            rw [hEntry, Option.bind_some, hRest,
              entryOf_of_owner hOwner, hEntry]
            rfl

theorem readFatSector_eq
    (hFormatted : Formatted v)
    (index : UInt32) :
    ∃ i, i < v.entries.length ∧
      readFatSector v index =
        some (fatSector v.entries index, v.hinted i) := by
  unfold readFatSector fatSector
  dsimp only
  split
  · rcases fatValues_eq hFormatted 126 (index * 128 + 2)
        hFormatted.hint with ⟨i, hInside, hValues⟩
    refine ⟨i, hInside, ?_⟩
    rw [hValues]
    rfl
  · rcases fatValues_eq hFormatted 128 (index * 128)
        hFormatted.hint with ⟨i, hInside, hValues⟩
    refine ⟨i, hInside, ?_⟩
    rw [hValues]
    rfl

------------------------------------------------------------
-- Directories
------------------------------------------------------------

/- The links run through the rest of a directory. -/
theorem listEntries_eq
    {entries : List Entry}
    {start : Option Nat}
    {is : List Nat}
    (hSiblings : Siblings (linksOf entries).next start is)
    (hInside : ∀ i ∈ is, i < entries.length)
    (avail : Nat) :
    listEntries entries avail start =
      some ((is.map (recordAt entries)).take avail) := by
  induction avail generalizing start is with
  | zero => rw [List.take_zero]; rfl
  | succ avail ih =>
      cases is with
      | nil =>
          cases hSiblings
          rfl
      | cons i is =>
          rcases hSiblings with ⟨rfl, hRest⟩
          have hFirst : i < entries.length := hInside i (by simp)
          have hHere := List.getElem?_eq_getElem hFirst
          have hNext :
              (linksOf entries).next i =
                entries[i].priv.next :=
            privAt_eq hHere
          rw [hNext] at hRest
          have hRecord :
              recordAt entries i = entries[i].dirRecord := by
            unfold recordAt
            rw [hHere]
            rfl
          unfold listEntries
          rw [hHere, Option.bind_some,
            ih hRest fun k hMember =>
              hInside k (by simp [hMember]),
            Option.map_some, List.map_cons,
            List.take_succ_cons, hRecord]

theorem skipEntries_eq
    {entries : List Entry}
    {start : Option Nat}
    {is : List Nat}
    (hSiblings : Siblings (linksOf entries).next start is)
    (hInside : ∀ i ∈ is, i < entries.length)
    (n : Nat) :
    ∃ start', skipEntries entries n start = some start' ∧
      Siblings (linksOf entries).next start' (is.drop n) := by
  induction n generalizing start is with
  | zero => exact ⟨start, rfl, hSiblings⟩
  | succ n ih =>
      cases is with
      | nil =>
          cases hSiblings
          exact ⟨none, rfl, rfl⟩
      | cons i is =>
          rcases hSiblings with ⟨rfl, hRest⟩
          have hFirst : i < entries.length := hInside i (by simp)
          have hHere := List.getElem?_eq_getElem hFirst
          have hNext :
              (linksOf entries).next i =
                entries[i].priv.next :=
            privAt_eq hHere
          rw [hNext] at hRest
          rcases ih hRest fun k hMember =>
              hInside k (by simp [hMember])
            with ⟨start', hSkip, hBehind⟩
          refine ⟨start', ?_, hBehind⟩
          unfold skipEntries
          rw [hHere, Option.bind_some, hSkip]

theorem mem_childrenOf
    {entries : List Entry}
    {i k : Nat} :
    k ∈ childrenOf entries i ↔
      k < entries.length ∧
        IsParent (levelAt entries) i k := by
  unfold childrenOf
  exact mem_children

/- The directory of an entry runs through its children. -/
theorem Linked.siblings
    {entries : List Entry}
    (hLinked : Linked entries)
    {i : Nat}
    {e : Entry}
    (hEntry : entries[i]? = some e) :
    Siblings (linksOf entries).next e.priv.sub
      (childrenOf entries i) := by
  have hInside : i < entries.length :=
    (List.getElem?_eq_some_iff.mp hEntry).1
  have hSub : (linksOf entries).sub i = e.priv.sub :=
    privAt_eq hEntry
  rw [← hSub]
  exact hLinked.represents.sub i hInside

theorem headRecords_eq
    (hLinked : Linked v.entries)
    {i : Nat}
    {e : Entry}
    (hEntry : v.entries[i]? = some e) :
    ∃ head, headRecords v e = some head ∧
      head.length = if e.priv.top = none then 1 else 2 := by
  have hInside : i < v.entries.length :=
    (List.getElem?_eq_some_iff.mp hEntry).1
  unfold headRecords
  cases hTop : e.priv.top with
  | none => exact ⟨_, rfl, rfl⟩
  | some p =>
      have hLink : (linksOf v.entries).top i = some p := by
        rw [← hTop]
        exact privAt_eq hEntry
      have hParent :=
        (hLinked.represents.top i hInside p).mp hLink
      have hAbove : p < v.entries.length :=
        hParent.1.trans hInside
      dsimp only
      rw [List.getElem?_eq_getElem hAbove]
      exact ⟨_, rfl, rfl⟩

theorem fillDirSector_eq
    (hLinked : Linked v.entries)
    {i : Nat}
    {e : Entry}
    (hEntry : v.entries[i]? = some e)
    (k : Nat) :
    fillDirSector v e k =
      some (recordSector (dirRecords v i e) k) := by
  rcases headRecords_eq hLinked hEntry with
    ⟨head, hHead, hLength⟩
  have hSiblings := hLinked.siblings hEntry
  have hInside :
      ∀ k ∈ childrenOf v.entries i, k < v.entries.length := by
    intro k hMember
    exact (mem_childrenOf.mp hMember).1
  unfold fillDirSector recordSector dirRecords
  dsimp only
  rw [hHead, Option.getD_some]
  split
  · next hFirst =>
      have hFew : head.length ≤ 16 := by
        rw [hLength]
        split <;> omega
      rw [Option.bind_some,
        listEntries_eq hSiblings hInside, Option.map_some,
        Option.map_some, hFirst, Nat.mul_zero, List.drop_zero,
        List.take_append,
        List.take_of_length_le hFew]
  · next hLater =>
      rcases skipEntries_eq hSiblings hInside
          (k * 16 - if e.priv.top = none then 1 else 2)
        with ⟨start', hStart, hBehind⟩
      have hPast : head.length ≤ 16 * k := by
        rw [hLength]
        split <;> omega
      rw [hStart, Option.bind_some,
        listEntries_eq hBehind fun j hMember =>
          hInside j (List.mem_of_mem_drop hMember),
        Option.map_some, List.map_drop, ← hLength,
        List.drop_append, List.drop_eq_nil_of_le hPast,
        List.nil_append, Nat.mul_comm k]

------------------------------------------------------------
-- Data Sectors
------------------------------------------------------------

/- The place in a file of a sector of its clusters. -/
theorem toNat_fileOffset
    {e : Entry}
    (hFilled : Filled e)
    (hFile : e.dir = false)
    (hRoom :
      e.offset.toNat + 4096 * clustersFor e.maxSize.toNat <
        2 ^ 32)
    {cluster relSect : UInt32}
    (hCluster : isClustOf cluster e = true)
    (hSector : relSect.toNat < 8) :
    ((cluster - e.priv.firstClust) * 4096 + relSect * 512 +
          e.offset).toNat =
        (cluster.toNat - firstOf e) * 4096 +
          relSect.toNat * 512 + e.offset.toNat ∧
      (cluster.toNat - firstOf e) * 4096 +
          relSect.toNat * 512 + e.offset.toNat + 512 <
        2 ^ 32 := by
  rw [isClustOf_iff] at hCluster
  have hFrom : firstOf e ≤ cluster.toNat := hCluster.1
  have hTo : cluster.toNat ≤ lastOf e := hCluster.2
  have hKept := hFilled.kept
  have hReserved :
      e.reserved = clustersFor e.maxSize.toNat := by
    unfold Entry.reserved
    rw [if_neg (by rw [hFile]; exact Bool.false_ne_true)]
  rw [← hReserved] at hRoom
  have hDifference :
      (cluster - e.priv.firstClust).toNat =
        cluster.toNat - firstOf e :=
    UInt32.toNat_sub_of_le _ _
      (UInt32.le_iff_toNat_le.mpr hFrom)
  refine ⟨?_, by omega⟩
  rw [UInt32.toNat_add, UInt32.toNat_add, UInt32.toNat_mul,
    UInt32.toNat_mul, hDifference]
  change
    ((((cluster.toNat - firstOf e) * 4096) % 2 ^ 32 +
        (relSect.toNat * 512) % 2 ^ 32) % 2 ^ 32 +
      e.offset.toNat) % 2 ^ 32 = _
  omega

theorem readEntrySector_eq
    (hReady : Ready v content)
    {i : Nat}
    {e : Entry}
    (hEntry : v.entries[i]? = some e)
    {cluster relSect : UInt32}
    (hCluster : isClustOf cluster e = true)
    (hSector : relSect.toNat < 8)
    (mem : HostMemory)
    (data : Nat) :
    readEntrySector v mem data e cluster relSect =
      some
        (ByteCopy.store data
          (entrySector v content i e cluster relSect) mem) := by
  unfold readEntrySector entrySector
  split
  · rw [fillDirSector_eq hReady.formatted.linked hEntry,
      Option.map_some]
  · next hFile =>
      rw [Bool.not_eq_true] at hFile
      cases hCallback : e.readcb with
      | none => rfl
      | some p =>
          rcases hReady.backed i e hEntry hFile p hCallback with
            ⟨hServes, hRoom⟩
          have hFilled :=
            hReady.formatted.filled e
              (List.mem_of_getElem? hEntry)
          rcases toNat_fileOffset hFilled hFile hRoom hCluster
              hSector with ⟨hOffset, hBound⟩
          have hSize : (512 : Int32).toInt = 512 := by decide
          dsimp only
          apply hServes
          · rw [hSize]
            decide
          · rw [hSize, hOffset]
            omega

theorem readDataSector_eq
    (hReady : Ready v content)
    (mem : HostMemory)
    (data : Nat)
    (relSect : UInt32) :
    ∃ i, i < v.entries.length ∧
      readDataSector v mem data relSect =
        some
          (ByteCopy.store data (dataSector v content relSect)
              mem,
            v.hinted i) := by
  have hTiles := hReady.formatted.tiles
  have hHint := hReady.formatted.hint
  have hHere := List.getElem?_eq_getElem hHint
  have hSector : (relSect % 8).toNat < 8 := by
    rw [UInt32.toNat_mod]
    exact Nat.mod_lt _ (by decide)
  unfold readDataSector dataSector
  dsimp only
  rw [hHere, Option.bind_some]
  split
  · next hCluster =>
      have hOwner :=
        (ownerOf_eq_some_iff hTiles).mpr ⟨_, hHere, hCluster⟩
      refine ⟨v.lastEntry, hHint, ?_⟩
      rw [readEntrySector_eq hReady hHere hCluster hSector,
        hOwner]
      dsimp only
      rw [hHere]
      rfl
  · rw [findEntry_eq_owner hTiles _ hHint, Option.bind_some]
    cases hOwner :
        ownerOf v.entries (relSect / 8 + 2) with
    | none => exact ⟨v.lastEntry, hHint, rfl⟩
    | some i =>
        rcases (ownerOf_eq_some_iff hTiles).mp hOwner with
          ⟨e, hEntry, hCluster⟩
        have hInside : i < v.entries.length :=
          (List.getElem?_eq_some_iff.mp hEntry).1
        have hRead :=
          readEntrySector_eq (hReady.hinted hInside) hEntry
            hCluster hSector mem data
        refine ⟨i, hInside, ?_⟩
        dsimp only
        rw [hEntry, Option.bind_some]
        unfold Volume.hinted at hRead
        rw [hRead]
        rfl

/- One sector, whatever the last read has found. -/
theorem readSector_eq
    (hReady : Ready v content)
    (mem : HostMemory)
    (data : Nat)
    (sector : UInt32) :
    ∃ i, i < v.entries.length ∧
      readSector v mem data sector =
        some
          (ByteCopy.store data (sectorOf v content sector) mem,
            v.hinted i) := by
  have hHint := hReady.formatted.hint
  unfold readSector sectorOf
  split
  · exact readDataSector_eq hReady mem data _
  split
  · exact ⟨v.lastEntry, hHint, rfl⟩
  split
  · exact ⟨v.lastEntry, hHint, rfl⟩
  split
  · exact ⟨v.lastEntry, hHint, rfl⟩
  split
  · rcases readFatSector_eq hReady.formatted
        (sector - v.fat1Lba) with ⟨i, hInside, hRead⟩
    refine ⟨i, hInside, ?_⟩
    rw [hRead]
    rfl
  split
  · rcases readFatSector_eq hReady.formatted
        (sector - v.fat2Lba) with ⟨i, hInside, hRead⟩
    refine ⟨i, hInside, ?_⟩
    rw [hRead]
    rfl
  · exact ⟨v.lastEntry, hHint, rfl⟩

------------------------------------------------------------
-- Lengths
------------------------------------------------------------

theorem length_word32
    (v : UInt32) :
    (word32 v).length = 4 :=
  ByteLayout.length_littleEndian 4 _

theorem length_word16
    (v : UInt16) :
    (word16 v).length = 2 :=
  ByteLayout.length_littleEndian 2 _

theorem length_blankFilled
    {n : Nat}
    {part : List UInt8}
    (hFits : part.length ≤ n) :
    (blankFilled n part).length = n := by
  unfold blankFilled
  rw [List.length_append, List.length_replicate]
  omega

theorem length_shortName
    (name : List UInt8)
    (attr : UInt8) :
    (shortName name attr).length = 11 := by
  unfold shortName
  dsimp only
  split
  · rw [List.length_append,
      length_blankFilled (List.length_take_le 8 name),
      length_blankFilled (Nat.zero_le 3)]
  · next dot _ =>
      have hName :
          (name.take (min dot 8)).length ≤ 8 := by
        rw [List.length_take]
        omega
      rw [List.length_append, length_blankFilled hName,
        length_blankFilled (List.length_take_le 3 _)]

theorem length_fillEntry
    (name : List UInt8)
    (attr : UInt8)
    (clust : UInt32)
    (cma : Option (Fin 3 → UInt32))
    (size : UInt32) :
    (fillEntry name attr clust cma size).length = 32 := by
  simp [fillEntry, length_shortName, length_word16,
    length_word32]

theorem length_dirRecord
    (e : Entry) :
    e.dirRecord.length = 32 := by
  unfold Entry.dirRecord
  split
  · exact length_fillEntry _ _ _ _ _
  · exact length_fillEntry _ _ _ _ _

theorem length_recordAt
    {entries : List Entry}
    {i : Nat}
    (hInside : i < entries.length) :
    (recordAt entries i).length = 32 := by
  unfold recordAt
  rw [List.getElem?_eq_getElem hInside]
  exact length_dirRecord _

/- All records of a directory have 32 bytes. -/
theorem length_of_mem_dirRecords
    {i : Nat}
    {e : Entry}
    {r : List UInt8}
    (hMember : r ∈ dirRecords v i e) :
    r.length = 32 := by
  unfold dirRecords at hMember
  rcases List.mem_append.mp hMember with hHead | hChild
  · unfold headRecords at hHead
    split at hHead
    · rw [Option.getD_some, List.mem_singleton] at hHead
      rw [hHead]
      exact length_fillEntry _ _ _ _ _
    · next p _ =>
        cases hAbove : v.entries[p]? with
        | none =>
            rw [hAbove] at hHead
            cases hHead
        | some above =>
            rw [hAbove, Option.map_some, Option.getD_some,
              List.mem_cons, List.mem_singleton] at hHead
            rcases hHead with rfl | rfl
            · exact length_fillEntry _ _ _ _ _
            · exact length_fillEntry _ _ _ _ _
  · rcases List.mem_map.mp hChild with ⟨k, hK, rfl⟩
    exact length_recordAt (mem_childrenOf.mp hK).1

theorem length_recordSector
    {records : List (List UInt8)}
    (hSize : ∀ r ∈ records, r.length = 32)
    (k : Nat) :
    (recordSector records k).length = 512 := by
  have hFlat :
      (((records.drop (16 * k)).take 16).flatten).length =
        32 * ((records.drop (16 * k)).take 16).length := by
    apply ByteLayout.length_flatten
    intro r hMember
    exact
      hSize r
        (List.mem_of_mem_drop (List.mem_of_mem_take hMember))
  have hFew := List.length_take_le 16 (records.drop (16 * k))
  unfold recordSector
  dsimp only
  rw [List.length_append, List.length_replicate, hFlat]
  omega

theorem length_fatValuesFrom
    (entries : List Entry)
    (count : Nat)
    (curr : UInt32) :
    (fatValuesFrom entries count curr).length = count := by
  unfold fatValuesFrom
  rw [List.length_map, List.length_range]

theorem length_flatMap_word32
    (values : List UInt32) :
    (values.flatMap word32).length = 4 * values.length := by
  rw [List.flatMap_def, ByteLayout.length_flatten (m := 4),
    List.length_map]
  intro b hMember
  rcases List.mem_map.mp hMember with ⟨value, -, rfl⟩
  exact length_word32 value

theorem length_fatSector
    (entries : List Entry)
    (index : UInt32) :
    (fatSector entries index).length = 512 := by
  unfold fatSector
  dsimp only
  rw [length_flatMap_word32]
  split
  · rw [List.length_cons, List.length_cons,
      length_fatValuesFrom]
  · rw [length_fatValuesFrom]

theorem length_mbrSector
    (v : Volume) :
    (mbrSector v).length = 512 := by
  unfold mbrSector
  simp only [List.length_append, List.length_cons,
    List.length_nil, List.length_replicate, length_word32]

theorem length_bootSector
    (v : Volume) :
    (bootSector v).length = 512 := by
  have hSystem : (chars "MSDOS5.0").length = 8 := by decide
  have hType :
      (chars "NO NAME    FAT32   ").length = 19 := by
    decide
  unfold bootSector
  simp only [List.length_append, List.length_cons,
    List.length_nil, List.length_replicate, length_word32,
    hSystem, hType]

theorem length_fsinfoSector
    (v : Volume) :
    (fsinfoSector v).length = 512 := by
  unfold fsinfoSector
  simp only [List.length_append, List.length_cons,
    List.length_nil, List.length_replicate, length_word32]

theorem length_fillerSector :
    fillerSector.length = 512 := by
  unfold fillerSector
  rw [ByteLayout.length_flatten (m := 4)]
  · rw [List.length_replicate]
  · intro b hMember
    rw [List.eq_of_mem_replicate hMember]
    exact length_word32 _

theorem length_dataSector_le
    (v : Volume)
    (content : Nat → List UInt8)
    (relSect : UInt32) :
    (dataSector v content relSect).length ≤ 512 := by
  unfold dataSector
  dsimp only
  split
  · exact length_fillerSector.le
  · split
    · exact Nat.zero_le _
    · unfold entrySector
      split
      · exact
          (length_recordSector
            (fun _ => length_of_mem_dirRecords) _).le
      · split
        · rw [List.length_replicate]
        · unfold blockOf
          apply (List.length_take_le _ _).trans
          decide

/- A sector never stores more than a sector. -/
theorem length_sectorOf_le
    (v : Volume)
    (content : Nat → List UInt8)
    (sector : UInt32) :
    (sectorOf v content sector).length ≤ 512 := by
  unfold sectorOf
  split
  · exact length_dataSector_le v content _
  split
  · exact (length_mbrSector v).le
  split
  · exact (length_fsinfoSector v).le
  split
  · exact (length_bootSector v).le
  split
  · exact (length_fatSector _ _).le
  split
  · exact (length_fatSector _ _).le
  · rw [List.length_replicate]

------------------------------------------------------------
-- emfat_read
------------------------------------------------------------

/- Neighbouring sectors lie behind each other in the buffer. -/
theorem readSectors_eq
    (hReady : Ready v content)
    (n : Nat)
    (mem : HostMemory)
    (data : Nat)
    (sector : UInt32) :
    ∃ i mem', i < v.entries.length ∧
      readSectors n v mem data sector =
          some (mem', v.hinted i) ∧
        (∀ k, k < n →
          sectorOf v content (sector + UInt32.ofNat k) <+:
            ByteCopy.load (data + 512 * k) 512 mem') ∧
          ∀ a, a < data ∨ data + 512 * n ≤ a →
            mem' a = mem a := by
  induction n generalizing v mem data sector with
  | zero =>
      refine
        ⟨v.lastEntry, mem, hReady.formatted.hint, rfl, ?_, ?_⟩
      · intro k hK
        omega
      · intro a _
        rfl
  | succ n ih =>
      rcases readSector_eq hReady mem data sector with
        ⟨i, hInside, hRead⟩
      rcases ih (hReady.hinted hInside)
          (ByteCopy.store data (sectorOf v content sector) mem)
          (data + 512) (sector + 1)
        with ⟨j, mem', hLast, hRest, hBlocks, hFrame⟩
      have hLength := length_sectorOf_le v content sector
      refine ⟨j, mem', hLast, ?_, ?_, ?_⟩
      · unfold readSectors
        rw [hRead, Option.bind_some, hRest]
        rfl
      · intro k hK
        cases k with
        | zero =>
            have hKept :
                ByteCopy.load data 512 mem' =
                  ByteCopy.load data 512
                    (ByteCopy.store data
                      (sectorOf v content sector) mem) := by
              apply ByteCopy.load_congr
              intro a _ hBefore
              exact hFrame a (Or.inl hBefore)
            rw [Nat.mul_zero, Nat.add_zero, hKept]
            have hZero : sector + UInt32.ofNat 0 = sector :=
              UInt32.add_zero sector
            rw [hZero]
            exact ByteCopy.prefix_load_store data hLength mem
        | succ k =>
            have hNext := hBlocks k (by omega)
            have hSector :
                sector + 1 + UInt32.ofNat k =
                  sector + UInt32.ofNat (k + 1) := by
              rw [UInt32.ofNat_add,
                UInt32.add_comm (UInt32.ofNat k),
                ← UInt32.add_assoc]
              rfl
            rw [hSector, Nat.add_assoc] at hNext
            rw [Nat.mul_succ, Nat.add_comm (512 * k)]
            exact hNext
      · intro a hOutside
        rw [hFrame a (by omega),
          ByteCopy.store_outside mem (by omega)]

/-
  A read returns, changes the buffer of its sectors only, and
  delivers there the sectors of the disk.
-/
theorem emfatRead_eq
    (hReady : Ready v content)
    (mem : HostMemory)
    (data : Nat)
    (sector : UInt32)
    (count : Int32) :
    ∃ i mem', i < v.entries.length ∧
      emfatRead v mem data sector count =
          some (mem', v.hinted i) ∧
        (∀ k, k < count.toInt.toNat →
          sectorOf v content (sector + UInt32.ofNat k) <+:
            ByteCopy.load (data + 512 * k) 512 mem') ∧
          ∀ a, a < data ∨ data + 512 * count.toInt.toNat ≤ a →
            mem' a = mem a :=
  readSectors_eq hReady count.toInt.toNat mem data sector

end Emfat

end TemperatureSensor
