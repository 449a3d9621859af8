import TemperatureSensor.Usb.ChsAddress
import TemperatureSensor.Usb.Listing

/-
  The disk of the sensor: the table `entries` of `app.c` and
  its three files.

  Main declarations:
    * `sensorEntries`
    * `sensor_diskTable`
    * `sensorDisk_files`
-/

------------------------------------------------------------
-- Table
------------------------------------------------------------

namespace TemperatureSensor

namespace Emfat

open DepthSequence Fat32

/- `CMA`, as it is encoded in the image of the firmware. -/
def cma : Fin 3 → UInt32 :=
  fun _ => 0x51096800

/- The links of the table before `emfat_init`. -/
def noPriv : EntryPriv where
  firstClust := 0
  lastClust := 0
  lastReserved := 0
  numSubentry := 0
  top := none
  sub := none
  next := none

/- A file of level 1 that fills its reserved space. -/
def sensorFile
    (name : String)
    (size : UInt32)
    (readcb : ReadProc) : Entry where
  name := chars name
  dir := false
  level := 1
  offset := 0
  currSize := size
  maxSize := size
  cmaTime := cma
  readcb := some readcb
  priv := noPriv

def sensorRoot : Entry where
  name := chars ""
  dir := true
  level := 0
  offset := 0
  currSize := 0
  maxSize := 0
  cmaTime := cma
  readcb := none
  priv := noPriv

/- `entries`, without the null name at its end. -/
def sensorEntries (version : Nat) : List Entry := [
  sensorRoot,
  sensorFile "index.htm" indexSize indexReadProc,
  sensorFile "readme.txt" readmeSize (readmeReadProc version),
  sensorFile "test.zip" testSize testReadProc]

/- The label that `main` passes. -/
def sensorLabel : List UInt8 :=
  chars "Sensor"

/- What the callbacks of the table serve. -/
def sensorContent (version : Nat) : Nat → List UInt8
| 1 => indexContents
| 2 => readmeContents version
| 3 => testContents
| _ => []

variable (version : Nat)

theorem sensor_children :
    childrenOf (sensorEntries version) 0 = [1, 2, 3] := by
  rfl

theorem sensor_mapIdx
    {β : Type}
    (f : Nat → Entry → β) :
    (sensorEntries version).mapIdx f =
      [f 0 sensorRoot,
        f 1 (sensorFile "index.htm" indexSize indexReadProc),
        f 2
          (sensorFile "readme.txt" readmeSize
            (readmeReadProc version)),
        f 3 (sensorFile "test.zip" testSize testReadProc)] := by
  unfold sensorEntries
  rw [List.mapIdx_cons, List.mapIdx_cons, List.mapIdx_cons,
    List.mapIdx_cons, List.mapIdx_nil]

/- Every file of the table has room in one cluster. -/
theorem sensorFile_clusters
    (entries : List Entry)
    (i : Nat)
    (name : String)
    {size : UInt32}
    (readcb : ReadProc)
    (hSmall : size.toNat ≤ 4096) :
    entryClusters entries i (sensorFile name size readcb) =
      1 := by
  unfold entryClusters
  rw [if_neg (by exact Bool.false_ne_true)]
  unfold clustersFor
  change max 1 ((size.toNat + 4095) / 4096) = 1
  omega

theorem sensor_totalClusters :
    totalClusters (sensorEntries version) = 4 := by
  have hRoot :
      entryClusters (sensorEntries version) 0 sensorRoot =
        1 := by
    unfold entryClusters
    rw [sensor_children, if_pos (by rfl)]
    unfold clustersFor
    decide
  unfold totalClusters
  rw [sensor_mapIdx, hRoot,
    sensorFile_clusters _ _ _ _ (by decide),
    sensorFile_clusters _ _ _ _ (by decide),
    sensorFile_clusters _ _ _ _ (by decide)]
  rfl

theorem sensor_levelOrder :
    LevelOrder (sensorEntries version) := by
  constructor
  · exact ⟨_, rfl, rfl, rfl⟩
  · unfold sensorEntries sensorRoot sensorFile
    simp [Follows]

/- The entries of the table, one by one. -/
theorem sensor_cases
    {i : Nat}
    {e : Entry}
    (hEntry : (sensorEntries version)[i]? = some e) :
    (i = 0 ∧ e = sensorRoot) ∨
      (i = 1 ∧
        e = sensorFile "index.htm" indexSize indexReadProc) ∨
      (i = 2 ∧
        e =
          sensorFile "readme.txt" readmeSize
            (readmeReadProc version)) ∨
      (i = 3 ∧
        e = sensorFile "test.zip" testSize testReadProc) := by
  match i with
  | 0 => cases hEntry; exact Or.inl ⟨rfl, rfl⟩
  | 1 => cases hEntry; exact Or.inr (Or.inl ⟨rfl, rfl⟩)
  | 2 => cases hEntry; exact Or.inr (Or.inr (Or.inl ⟨rfl, rfl⟩))
  | 3 => cases hEntry; exact Or.inr (Or.inr (Or.inr ⟨rfl, rfl⟩))
  | i + 4 => cases hEntry

/- A callback that serves a file of its size. -/
structure ServesFile
    (readcb : ReadProc)
    (content : List UInt8)
    (size : UInt32) : Prop where
  serves : Serves readcb content
  length_eq : content.length = size.toNat
  small : size.toNat ≤ 4096

theorem sensor_serves
    {version : Nat}
    (hPositive : 0 < version)
    (hDigits : version < 10 ^ 7) :
    ServesFile indexReadProc indexContents indexSize ∧
      ServesFile (readmeReadProc version)
        (readmeContents version) readmeSize ∧
        ServesFile testReadProc testContents testSize := by
  have hReadme := readmeReadProc_serves hPositive hDigits
  refine ⟨?_, ?_, ?_⟩
  · exact
      ⟨indexReadProc_serves, length_indexContents, by decide⟩
  · exact ⟨hReadme.1, hReadme.2, by decide⟩
  · exact ⟨testReadProc_serves, length_testFile, by decide⟩

/- Every file of the table has its contents. -/
theorem sensor_file
    {version : Nat}
    (hPositive : 0 < version)
    (hDigits : version < 10 ^ 7)
    {i : Nat}
    {e : Entry}
    (hEntry : (sensorEntries version)[i]? = some e)
    (hFile : e.dir = false) :
    ∃ name size readcb,
      e = sensorFile name size readcb ∧
        ServesFile readcb (sensorContent version i) size := by
  rcases sensor_serves hPositive hDigits with
    ⟨hIndex, hReadme, hTest⟩
  rcases sensor_cases version hEntry with
    ⟨rfl, rfl⟩ | ⟨rfl, rfl⟩ | ⟨rfl, rfl⟩ | ⟨rfl, rfl⟩
  · cases hFile
  · exact ⟨_, _, _, rfl, hIndex⟩
  · exact ⟨_, _, _, rfl, hReadme⟩
  · exact ⟨_, _, _, rfl, hTest⟩

theorem sensor_table
    {version : Nat}
    (hPositive : 0 < version)
    (hDigits : version < 10 ^ 7) :
    Table (sensorEntries version) where
  order := sensor_levelOrder version
  length_lt := by
    change 4 * 32 + 4095 < 2 ^ 32
    decide
  sizes := by
    intro e hMember hFile
    rcases List.getElem?_of_mem hMember with ⟨i, hEntry⟩
    rcases sensor_file hPositive hDigits hEntry hFile with
      ⟨name, size, readcb, rfl, hServes⟩
    have hSmall := hServes.small
    unfold sensorFile
    dsimp only
    omega
  clusters := by
    rw [sensor_totalClusters]
    decide

theorem sensor_diskTable
    {version : Nat}
    (hPositive : 0 < version)
    (hDigits : version < 10 ^ 7) :
    DiskTable sensorLabel (sensorEntries version)
      (sensorContent version) where
  table := sensor_table hPositive hDigits
  covered := by
    rw [sensor_totalClusters]
    decide
  label := ⟨by decide, by decide⟩
  names := by
    intro e hMember
    rcases List.getElem?_of_mem hMember with ⟨i, hEntry⟩
    rcases sensor_cases version hEntry with
      ⟨rfl, rfl⟩ | ⟨rfl, rfl⟩ | ⟨rfl, rfl⟩ | ⟨rfl, rfl⟩
    · exact (⟨by decide, by decide⟩ : IsName (chars ""))
    · exact
        (⟨by decide, by decide⟩ : IsName (chars "index.htm"))
    · exact
        (⟨by decide, by decide⟩ : IsName (chars "readme.txt"))
    · exact
        (⟨by decide, by decide⟩ : IsName (chars "test.zip"))
  fits := by
    intro i e hEntry hDir
    rcases sensor_cases version hEntry with
      ⟨rfl, rfl⟩ | ⟨rfl, rfl⟩ | ⟨rfl, rfl⟩ | ⟨rfl, rfl⟩
    · have hHead : headCount (sensorEntries version) 0 = 1 := rfl
      rw [sensor_children, hHead]
      decide
    · cases hDir
    · cases hDir
    · cases hDir
  backed := by
    intro i e hEntry hFile p hCallback
    rcases sensor_file hPositive hDigits hEntry hFile with
      ⟨name, size, readcb, rfl, hServes⟩
    cases hCallback
    refine ⟨hServes.serves, ?_⟩
    have hSmall := hServes.small
    unfold sensorFile clustersFor
    change 0 + 4096 * max 1 ((size.toNat + 4095) / 4096) < _
    omega
  complete := by
    intro i e hEntry hFile hCallback
    rcases sensor_file hPositive hDigits hEntry hFile with
      ⟨name, size, readcb, rfl, hServes⟩
    rw [hServes.length_eq]
    change 0 + size.toNat ≤ size.toNat
    omega

------------------------------------------------------------
-- Clusters
------------------------------------------------------------

/-
  The clusters of a volume are parted among its entries, and
  the search finds the owner of a cluster from every entry.
-/
theorem findEntry_partition
    {entries : List Entry}
    (hTable : Table entries)
    (label : List UInt8) :
    ∃ v, emfatInit label entries = some (some v) ∧
      v.numClust.toNat = totalClusters entries ∧
        ∀ clust : UInt32,
          if 2 ≤ clust.toNat ∧
              clust.toNat < totalClusters entries + 2 then
            ∃! i, (∃ e, v.entries[i]? = some e ∧
                isClustOf clust e = true) ∧
              ∀ nearest, nearest < entries.length →
                findEntry v.entries clust nearest =
                  some (some i)
          else
            ∀ nearest, nearest < entries.length →
              findEntry v.entries clust nearest =
                some none := by
  rcases emfatInit_formatted hTable label with
    ⟨v, hInit, hFormatted, hSame, -, hClusters⟩
  have hTiles := hFormatted.tiles
  have hSearch :
      ∀ clust nearest, nearest < entries.length →
        findEntry v.entries clust nearest =
          some (ownerOf v.entries clust) := by
    intro clust nearest hHint
    apply findEntry_eq_owner hTiles
    rwa [hSame.length_eq]
  refine ⟨v, hInit, hClusters, ?_⟩
  intro clust
  rw [hClusters] at hTiles
  split
  · next hInside =>
      rcases hTiles.exists_holds hInside.1 hInside.2 with
        ⟨i, e, hEntry, hHolds⟩
      have hCluster := isClustOf_iff.mpr hHolds
      have hOwner :=
        (ownerOf_eq_some_iff hTiles).mpr ⟨e, hEntry, hCluster⟩
      refine ⟨i, ⟨⟨e, hEntry, hCluster⟩, ?_⟩, ?_⟩
      · intro nearest hHint
        rw [hSearch clust nearest hHint, hOwner]
      · rintro j ⟨⟨e', hOther, hAlso⟩, -⟩
        exact
          hTiles.eq_of_holds hOther hEntry
            (isClustOf_iff.mp hAlso) hHolds
  · next hOutside =>
      intro nearest hHint
      rw [hSearch clust nearest hHint]
      congr 1
      apply Segments.owner_eq_none_iff.mpr
      rintro e hMember ⟨hFrom, hTo⟩
      have hBounds := hTiles.bounds hMember
      exact hOutside ⟨by omega, by omega⟩

theorem findEntry_partition_sensor :
    ∃ v,
      emfatInit sensorLabel (sensorEntries 101) =
          some (some v) ∧
        v.numClust.toNat =
            totalClusters (sensorEntries 101) ∧
          ∀ clust : UInt32,
            if 2 ≤ clust.toNat ∧
                clust.toNat <
                  totalClusters (sensorEntries 101) + 2 then
              ∃! i, (∃ e, v.entries[i]? = some e ∧
                  isClustOf clust e = true) ∧
                ∀ nearest,
                  nearest < (sensorEntries 101).length →
                    findEntry v.entries clust nearest =
                      some (some i)
            else
              ∀ nearest,
                nearest < (sensorEntries 101).length →
                  findEntry v.entries clust nearest =
                    some none :=
  findEntry_partition
    (sensor_table (by decide) (by decide)) sensorLabel

------------------------------------------------------------
-- Partition
------------------------------------------------------------

/-
  The entry of the partition that a host reads: the first
  sector in both of its forms, a length that counts the 62
  sectors before the volume once more, and a last sector that
  has a cylinder unless the disk is too large for one.
-/
theorem partition_described
    {entries : List Entry}
    (hTable : Table entries)
    (label : List UInt8) :
    ∃ v, emfatInit label entries = some (some v) ∧
      v.numClust.toNat = totalClusters entries ∧
      (v.diskSectors.toNat ≤ 2 ^ 31 →
        ∀ content disk, Shows v content disk →
          ∃ g, mount disk = some g ∧
            chsAddress (startAddress (disk 0)) =
              ByteLayout.field 454 4 (disk 0) ∧
            ByteLayout.field 458 4 (disk 0) =
              g.totalSectors + 62 ∧
            if g.totalSectors + 62 ≤ chsLimit then
              chsAddress (endAddress (disk 0)) + 1 =
                g.totalSectors + 62
            else
              endAddress (disk 0) = (0xFF, 0xFF, 0xFF)) := by
  rcases emfatInit_formatted hTable label with
    ⟨v, hInit, hFormatted, -, -, hClusters⟩
  refine ⟨v, hInit, hClusters, ?_⟩
  intro hSmall content disk hShows
  have hTotal := hFormatted.diskSectors
  have hFirst : disk 0 = mbrSector v :=
    hShows.eq_of_length (by omega) (sectorOf_zero hFormatted)
      (length_mbrSector v)
  have hLength :
      (geometryOf v).totalSectors + 62 =
        v.diskSectors.toNat := by
    unfold geometryOf
    dsimp only
    omega
  refine ⟨geometryOf v, mount_eq hFormatted hShows, ?_⟩
  have hAddresses := partition_addresses hFormatted hSmall
  rw [← hLength] at hAddresses
  rw [hFirst]
  exact hAddresses

theorem partition_described_sensor :
    ∃ v,
      emfatInit sensorLabel (sensorEntries 101) =
          some (some v) ∧
        v.numClust.toNat =
            totalClusters (sensorEntries 101) ∧
        (v.diskSectors.toNat ≤ 2 ^ 31 →
          ∀ content disk, Shows v content disk →
            ∃ g, mount disk = some g ∧
              chsAddress (startAddress (disk 0)) =
                ByteLayout.field 454 4 (disk 0) ∧
              ByteLayout.field 458 4 (disk 0) =
                g.totalSectors + 62 ∧
              if g.totalSectors + 62 ≤ chsLimit then
                chsAddress (endAddress (disk 0)) + 1 =
                  g.totalSectors + 62
              else
                endAddress (disk 0) = (0xFF, 0xFF, 0xFF)) :=
  partition_described
    (sensor_table (by decide) (by decide)) sensorLabel

------------------------------------------------------------
-- Allocation
------------------------------------------------------------

/-
  What a host reads of the allocation table: both copies are
  the same, and as long as the table has room for all clusters
  each entry owns the chain of its clusters. The table lacks
  room for exactly two rests of the number of clusters.
-/
theorem allocation_chains
    {entries : List Entry}
    (hTable : Table entries)
    (label : List UInt8) :
    ∃ v, emfatInit label entries = some (some v) ∧
      v.numClust.toNat = totalClusters entries ∧
      ∀ content disk, Shows v content disk →
        ∃ g, mount disk = some g ∧
          (∀ c, c < 128 * g.fatSectors →
            fatEntry disk g 1 c = fatEntry disk g 0 c) ∧
          (totalClusters entries + 2 ≤ 128 * g.fatSectors ↔
            totalClusters entries % 128 ≠ 0 ∧
              totalClusters entries % 128 ≠ 127) ∧
          (totalClusters entries + 2 ≤ 128 * g.fatSectors →
            ∀ e ∈ v.entries,
              chain (fatEntry disk g 0) (128 * g.fatSectors)
                  (firstOf e) =
                some (List.range' (firstOf e) e.used)) := by
  rcases emfatInit_formatted hTable label with
    ⟨v, hInit, hFormatted, -, -, hClusters⟩
  refine ⟨v, hInit, hClusters, ?_⟩
  intro content disk hShows
  refine
    ⟨geometryOf v, mount_eq hFormatted hShows, ?_, ?_, ?_⟩
  · intro c hInside
    rw [fatEntry_eq hFormatted hShows (by omega) hInside,
      fatEntry_eq hFormatted hShows (by omega) hInside]
  · have hCovered := covered_iff hFormatted
    unfold Covered at hCovered
    rw [hClusters] at hCovered
    change
      totalClusters entries + 2 ≤
          128 * fatSectors v.numClust.toNat ↔ _
    rw [hClusters]
    exact hCovered
  · intro hRoom e hMember
    rcases List.getElem?_of_mem hMember with ⟨i, hEntry⟩
    apply chain_eq hFormatted hShows ?_ hEntry
    unfold Covered
    rw [← hClusters] at hRoom
    exact hRoom

theorem allocation_chains_sensor :
    ∃ v,
      emfatInit sensorLabel (sensorEntries 101) =
          some (some v) ∧
        v.numClust.toNat =
            totalClusters (sensorEntries 101) ∧
        ∀ content disk, Shows v content disk →
          ∃ g, mount disk = some g ∧
            (∀ c, c < 128 * g.fatSectors →
              fatEntry disk g 1 c = fatEntry disk g 0 c) ∧
            (totalClusters (sensorEntries 101) + 2 ≤
                128 * g.fatSectors ↔
              totalClusters (sensorEntries 101) % 128 ≠ 0 ∧
                totalClusters (sensorEntries 101) % 128 ≠
                  127) ∧
            (totalClusters (sensorEntries 101) + 2 ≤
                128 * g.fatSectors →
              ∀ e ∈ v.entries,
                chain (fatEntry disk g 0)
                    (128 * g.fatSectors) (firstOf e) =
                  some (List.range' (firstOf e) e.used)) :=
  allocation_chains
    (sensor_table (by decide) (by decide)) sensorLabel

------------------------------------------------------------
-- Listings
------------------------------------------------------------

/-
  A directory shows the first records of its listing, once for
  each of its clusters. These are the listing itself exactly
  when the label or the dots and the children have room
  together in one cluster of 128 records.
-/
theorem listing_faithful_iff
    {label : List UInt8}
    {entries : List Entry}
    (hTable : Table entries)
    (hRoom :
      totalClusters entries % 128 ≠ 0 ∧
        totalClusters entries % 128 ≠ 127)
    (hLabel : IsName label)
    (hNames : ∀ e ∈ entries, IsName e.name) :
    ∃ v, emfatInit label entries = some (some v) ∧
      ∀ content disk, Shows v content disk →
        ∃ g, mount disk = some g ∧
          ∀ i e, entries[i]? = some e → e.dir = true →
            directory disk g (firstCluster entries i) =
                some
                  (List.replicate (entryClusters entries i e)
                    ((listing label entries i).take
                      128)).flatten ∧
              (directory disk g (firstCluster entries i) =
                  some (listing label entries i) ↔
                headCount entries i +
                    (childrenOf entries i).length ≤ 128) := by
  rcases emfatInit_formatted hTable label with
    ⟨v, hInit, hFormatted, hSame, hVolLabel, hClusters⟩
  have hCovered : Covered v := by
    rw [covered_iff hFormatted, hClusters]
    exact hRoom
  have hNamed : Named v := by
    refine ⟨by rw [hVolLabel]; exact hLabel, ?_⟩
    exact hSame.names hNames
  refine ⟨v, hInit, ?_⟩
  intro content disk hShows
  refine ⟨geometryOf v, mount_eq hFormatted hShows, ?_⟩
  intro i e hEntry hDir
  rcases hSame.exists_entry hEntry with ⟨e', hHere, -⟩
  have hFields := hSame.sameFile hEntry hHere
  have hDir' : e'.dir = true := by rw [hFields.dir, hDir]
  have hUsed : e'.used = entryClusters entries i e := by
    rw [← reserved_stored hFormatted hSame hEntry hHere]
    unfold Entry.used Entry.reserved
    rw [if_pos hDir', if_pos hDir']
  have hListed := dirEntry_dirRecords hFormatted hSame hHere
  rw [hVolLabel] at hListed
  rw [← firstOf_eq hFormatted hSame hHere, ← hListed]
  constructor
  · rw [directory_eq hFormatted hNamed hShows hCovered hHere
        hDir',
      hUsed, List.map_take]
  · rw [directory_faithful_iff hFormatted hNamed hShows
        hCovered hHere hDir',
      hSame.childrenOf_eq, hSame.headCount_eq]

theorem listing_faithful_iff_sensor :
    ∃ v,
      emfatInit sensorLabel (sensorEntries 101) =
          some (some v) ∧
        ∀ content disk, Shows v content disk →
          ∃ g, mount disk = some g ∧
            ∀ i e, (sensorEntries 101)[i]? = some e →
              e.dir = true →
                directory disk g
                    (firstCluster (sensorEntries 101) i) =
                  some
                    (List.replicate
                      (entryClusters (sensorEntries 101) i e)
                      ((listing sensorLabel
                        (sensorEntries 101) i).take
                          128)).flatten ∧
                (directory disk g
                      (firstCluster (sensorEntries 101) i) =
                    some
                      (listing sensorLabel
                        (sensorEntries 101) i) ↔
                  headCount (sensorEntries 101) i +
                      (childrenOf
                        (sensorEntries 101) i).length ≤
                    128) :=
  have hDisk :
      DiskTable sensorLabel (sensorEntries 101)
        (sensorContent 101) :=
    sensor_diskTable (by decide) (by decide)
  listing_faithful_iff hDisk.table hDisk.covered hDisk.label
    hDisk.names

------------------------------------------------------------
-- Paths
------------------------------------------------------------

/-
  However a host reads the disk, whatever it tries to write
  and whatever happens to its buffers: the sectors that it has
  collected mount, and every path leads to the bytes of the
  file in the table, or to nothing.
-/
theorem hostRun_readPath
    {label : List UInt8}
    {entries : List Entry}
    {content : Nat → List UInt8}
    (hTable : DiskTable label entries content) :
    ∃ v, emfatInit label entries = some (some v) ∧
      ∀ mem actions, ∃ s events,
        EventSystem.run hostStep
            { volume := v, mem := mem } actions =
          some (s, events) ∧
          ∀ disk, Collected v events disk →
            ∃ g, mount disk = some g ∧
              ∀ path, readPath disk g path g.rootCluster =
                lookup entries content path 0 := by
  rcases hTable.readable with ⟨v, hInit, hReadable, -⟩
  refine ⟨v, hInit, ?_⟩
  intro mem actions
  rcases hostRun_faithful
      (s := { volume := v, mem := mem }) hReadable.ready
      actions
    with ⟨s, events, hRun, hFaithful⟩
  refine ⟨s, events, hRun, ?_⟩
  intro disk hCollected
  have hRead :=
    hReadable.readPath_eq (hCollected.shows hFaithful)
  exact ⟨geometryOf v, hRead.1, hRead.2⟩

theorem hostRun_readPath_sensor :
    ∃ v,
      emfatInit sensorLabel (sensorEntries 101) =
          some (some v) ∧
        ∀ mem actions, ∃ s events,
          EventSystem.run hostStep
              { volume := v, mem := mem } actions =
            some (s, events) ∧
            ∀ disk, Collected v events disk →
              ∃ g, mount disk = some g ∧
                ∀ path, readPath disk g path g.rootCluster =
                  lookup (sensorEntries 101)
                    (sensorContent 101) path 0 :=
  hostRun_readPath (sensor_diskTable (by decide) (by decide))

------------------------------------------------------------
-- Files
------------------------------------------------------------

/- The files that a host finds, by their short names. -/
def sensorFiles
    (version : Nat)
    (path : List (List UInt8)) : Option (List UInt8) :=
  if path = [chars "INDEX   HTM"] then
    some indexContents
  else if path = [chars "README  TXT"] then
    some (readmeContents version)
  else if path = [chars "TEST    ZIP"] then
    some testContents
  else
    none

theorem sensorFile_shown
    (name : String)
    (size : UInt32)
    (readcb : ReadProc) :
    (sensorFile name size readcb).shown =
      (shortName (chars name) (attrArchive ||| attrRead)).map
        upperCase := by
  rfl

theorem sensor_shown :
    shownAt (sensorEntries version) 1 = chars "INDEX   HTM" ∧
      shownAt (sensorEntries version) 2 =
        chars "README  TXT" ∧
      shownAt (sensorEntries version) 3 =
        chars "TEST    ZIP" := by
  refine ⟨?_, ?_, ?_⟩
  · rw [shownAt_eq (e := sensorFile _ _ _) rfl,
      sensorFile_shown]
    decide
  · rw [shownAt_eq (e := sensorFile _ _ _) rfl,
      sensorFile_shown]
    decide
  · rw [shownAt_eq (e := sensorFile _ _ _) rfl,
      sensorFile_shown]
    decide

theorem sensor_step
    (name : List UInt8) :
    step (sensorEntries version) 0 name =
      if name = chars "INDEX   HTM" then some 1
      else if name = chars "README  TXT" then some 2
      else if name = chars "TEST    ZIP" then some 3
      else none := by
  rcases sensor_shown version with ⟨hIndex, hReadme, hTest⟩
  have hRoot : parentOf (sensorEntries version) 0 = none := rfl
  unfold step childNamed
  rw [hRoot, sensor_children]
  simp only [List.find?_cons, List.find?_nil, hIndex, hReadme,
    hTest]
  split_ifs with hFirst hSecond hThird
  · rw [decide_eq_true hFirst.symm]
  · rw [decide_eq_false (Ne.symm hFirst),
      decide_eq_true hSecond.symm]
  · rw [decide_eq_false (Ne.symm hFirst),
      decide_eq_false (Ne.symm hSecond),
      decide_eq_true hThird.symm]
  · rw [decide_eq_false (Ne.symm hFirst),
      decide_eq_false (Ne.symm hSecond),
      decide_eq_false (Ne.symm hThird)]

/- A file that fills its contents is read as a whole. -/
theorem fileBytes_sensorFile
    (content : Nat → List UInt8)
    (i : Nat)
    (name : String)
    {size : UInt32}
    {readcb : ReadProc}
    (hServes : ServesFile readcb (content i) size) :
    fileBytes content i (sensorFile name size readcb) =
      content i := by
  change ((content i).drop 0).take size.toNat = content i
  rw [List.drop_zero, ← hServes.length_eq, List.take_length]

/- Only the three files can be reached from the root. -/
theorem sensor_lookup
    {version : Nat}
    (hPositive : 0 < version)
    (hDigits : version < 10 ^ 7)
    (path : List (List UInt8)) :
    lookup (sensorEntries version) (sensorContent version) path
        0 =
      sensorFiles version path := by
  rcases sensor_serves hPositive hDigits with
    ⟨hIndex, hReadme, hTest⟩
  cases path with
  | nil => rfl
  | cons name path =>
      cases path with
      | nil =>
          unfold lookup sensorFiles
          rw [sensor_step]
          simp only [List.cons.injEq, and_true]
          split_ifs with hFirst hSecond hThird
          · exact
              congrArg some
                (fileBytes_sensorFile (sensorContent version) 1
                  "index.htm" hIndex)
          · exact
              congrArg some
                (fileBytes_sensorFile (sensorContent version) 2
                  "readme.txt" hReadme)
          · exact
              congrArg some
                (fileBytes_sensorFile (sensorContent version) 3
                  "test.zip" hTest)
          · rfl
      | cons name' path =>
          unfold lookup sensorFiles
          rw [sensor_step]
          simp only [List.cons.injEq, reduceCtorEq, and_false,
            if_false]
          split_ifs <;> rfl

/-
  The disk of the sensor: in every run, and whatever the host
  writes, the collected sectors hold exactly the three files,
  and all of them lie within the size that the driver states.
-/
theorem sensorDisk_files
    {version : Nat}
    (hPositive : 0 < version)
    (hDigits : version < 10 ^ 7) :
    ∃ v,
      emfatInit sensorLabel (sensorEntries version) =
          some (some v) ∧
        v.diskSectors.toNat ≤ emfatdiskSectors.toNat ∧
        ∀ mem actions, ∃ s events,
          EventSystem.run hostStep
              { volume := v, mem := mem } actions =
            some (s, events) ∧
            ∀ disk, Collected v events disk →
              ∃ g, mount disk = some g ∧
                ∀ path, readPath disk g path g.rootCluster =
                  sensorFiles version path := by
  have hTable := sensor_diskTable hPositive hDigits
  rcases hTable.readable with
    ⟨v, hInit, hReadable, hClusters⟩
  refine ⟨v, hInit, ?_, ?_⟩
  · rw [hReadable.ready.formatted.diskSectors, hClusters,
      sensor_totalClusters]
    decide
  intro mem actions
  rcases hostRun_faithful
      (s := { volume := v, mem := mem }) hReadable.ready
      actions
    with ⟨s, events, hRun, hFaithful⟩
  refine ⟨s, events, hRun, ?_⟩
  intro disk hCollected
  rcases hReadable.readPath_eq (hCollected.shows hFaithful)
    with ⟨hMount, hRead⟩
  refine ⟨geometryOf v, hMount, ?_⟩
  intro path
  rw [← sensor_lookup hPositive hDigits path]
  exact hRead path

/- The version of this firmware, 1.01. -/
theorem sensorDisk_files_101 :
    ∃ v,
      emfatInit sensorLabel (sensorEntries 101) =
          some (some v) ∧
        v.diskSectors.toNat ≤ emfatdiskSectors.toNat ∧
        ∀ mem actions, ∃ s events,
          EventSystem.run hostStep
              { volume := v, mem := mem } actions =
            some (s, events) ∧
            ∀ disk, Collected v events disk →
              ∃ g, mount disk = some g ∧
                ∀ path, readPath disk g path g.rootCluster =
                  sensorFiles 101 path :=
  sensorDisk_files (by decide) (by decide)

end Emfat

end TemperatureSensor
