import TemperatureSensor.Foundations.Fat32
import TemperatureSensor.Usb.DiskImage

/-
  The volume as a host reads it. From any sectors that were
  served, however often and in whatever order they were read,
  a reader of FAT32 finds the tree of the table, and in it the
  contents of the files.

  Main declarations:
    * `Shows`
    * `mount_eq`
    * `fatEntry_eq`
    * `stream_eq`
    * `directory_eq`
    * `readPath_eq_lookup`
-/

------------------------------------------------------------
-- Served Disks
------------------------------------------------------------

namespace TemperatureSensor

namespace Emfat

open ByteLayout DepthSequence Fat32 Segments

/-
  Sectors as they were served; what a file does not fill of
  its last sector is not determined.
-/
def Shows
    (v : Volume)
    (content : Nat → List UInt8)
    (disk : Disk) : Prop :=
  ∀ s, s < v.diskSectors.toNat →
    sectorOf v content (UInt32.ofNat s) <+: disk s ∧
      (disk s).length = 512

variable {v : Volume}
variable {content : Nat → List UInt8}
variable {disk : Disk}

/- A sector that is filled is the one on the disk. -/
theorem Shows.eq_of_length
    (hShows : Shows v content disk)
    {s : Nat}
    (hInside : s < v.diskSectors.toNat)
    {sector : List UInt8}
    (hSector :
      sectorOf v content (UInt32.ofNat s) = sector)
    (hFull : sector.length = 512) :
    disk s = sector := by
  rcases hShows s hInside with ⟨hPrefix, hLength⟩
  rw [hSector] at hPrefix
  exact
    (hPrefix.eq_of_length (by rw [hFull, hLength])).symm

theorem toNat_ofNat_sector
    {s : Nat}
    (hInside : s < v.diskSectors.toNat) :
    (UInt32.ofNat s).toNat = s := by
  rw [UInt32.toNat_ofNat']
  have hSmall := v.diskSectors.toNat_lt
  exact Nat.mod_eq_of_lt (by omega)

------------------------------------------------------------
-- System Sectors
------------------------------------------------------------

/- The boot sector as the volume states it. -/
def geometryOf (v : Volume) : Geometry where
  boot := 62
  reserved := 2
  fatCount := 2
  fatSectors := fatSectors v.numClust.toNat
  clusterSectors := 8
  rootCluster := 2
  totalSectors := v.diskSectors.toNat - 62

theorem signature_of_suffix
    {sector : List UInt8}
    (hLength : sector.length = 512)
    (hSuffix : [0x55, 0xAA] <:+ sector) :
    signature sector = 0xAA55 := by
  rcases hSuffix with ⟨before, rfl⟩
  rw [List.length_append] at hLength
  have hBefore : before.length = 510 := by
    simpa using hLength
  unfold signature
  rw [field_append_right (by omega), hBefore]
  rfl

theorem signature_mbrSector
    (v : Volume) :
    signature (mbrSector v) = 0xAA55 := by
  apply signature_of_suffix (length_mbrSector v)
  unfold mbrSector
  dsimp only
  iterate 5 apply List.suffix_append_of_suffix
  exact List.suffix_rfl

theorem signature_bootSector
    (v : Volume) :
    signature (bootSector v) = 0xAA55 := by
  apply signature_of_suffix (length_bootSector v)
  unfold bootSector
  iterate 8 apply List.suffix_append_of_suffix
  exact List.suffix_rfl

/- The entry of the partition. -/
theorem mbrSector_fields
    (hFormatted : Formatted v) :
    field 454 4 (mbrSector v) = 62 ∧
      field 450 1 (mbrSector v) = 0x0C := by
  have hBoot : word32 v.bootLba = littleEndian 4 62 := by
    unfold word32
    rw [hFormatted.bootLba]
    rfl
  have hZeros : (List.replicate 446 (0 : UInt8)).length = 446 :=
    List.length_replicate
  unfold mbrSector
  dsimp only
  refine ⟨?_, ?_⟩
  · rw [← List.append_assoc, hBoot]
    apply field_append
    · rw [List.length_append, hZeros]
      rfl
    · decide
  · rw [field_append_right (by rw [hZeros]; omega), hZeros]
    exact field_append_left (Nat.le_add_left 5 3) _

/- The part of the boot sector before the sizes. -/
def bootHead : List UInt8 :=
  [0xEB, 0x58, 0x90] ++ chars "MSDOS5.0" ++
    [0x00, 0x02, 8, 2, 0, 2, 0, 0, 0, 0, 0xF8, 0, 0, 63, 0,
      0xFF, 0, 62, 0, 0, 0]

theorem length_bootHead :
    bootHead.length = 32 := by
  decide

theorem ofBootSector_eq
    (hFormatted : Formatted v) :
    Geometry.ofBootSector 62 (bootSector v) = geometryOf v ∧
      field 11 2 (bootSector v) = 512 := by
  have hHead := length_bootHead
  have hRoot := hFormatted.rootLba
  have hFat := hFormatted.fat2Lba
  have hTotal := hFormatted.diskSectors
  have hFirst : v.fat1Lba.toNat = 64 := by
    rw [hFormatted.fat1Lba]
    rfl
  have hBoot : v.bootLba.toNat = 62 := by
    rw [hFormatted.bootLba]
    rfl
  have hDiskSectors :
      (v.diskSectors - v.bootLba).toNat =
        v.diskSectors.toNat - 62 := by
    rw [UInt32.toNat_sub_of_le _ _
        (by rw [UInt32.le_iff_toNat_le, hTotal, hBoot]; omega),
      hBoot]
  have hFatSectors :
      (v.fat2Lba - v.fat1Lba).toNat =
        fatSectors v.numClust.toNat := by
    rw [UInt32.toNat_sub_of_le _ _
        (by rw [UInt32.le_iff_toNat_le, hFat, hFirst]; omega),
      hFat, hFirst]
    omega
  have hWide := v.diskSectors.toNat_lt
  have hParts :
      ∃ rest, bootSector v =
        bootHead ++
          (littleEndian 4 (v.diskSectors.toNat - 62) ++
            (littleEndian 4 (fatSectors v.numClust.toNat) ++
              ([0, 0, 0, 0, 2, 0, 0, 0, 1, 0, 0, 0] ++
                rest))) := by
    rw [← hDiskSectors, ← hFatSectors]
    exact ⟨_, rfl⟩
  rcases hParts with ⟨rest, hParts⟩
  have hSectors :
      field 32 4 (bootSector v) = v.diskSectors.toNat - 62 := by
    rw [hParts]
    exact field_append hHead (by omega) _
  have hTable :
      field 36 4 (bootSector v) =
        fatSectors v.numClust.toNat := by
    rw [hParts, ← List.append_assoc]
    apply field_append
    · rw [List.length_append, hHead, length_littleEndian]
    · unfold fatSectors
      have hSmall := hFormatted.bounded
      omega
  have hCluster : field 44 4 (bootSector v) = 2 := by
    rw [hParts, field_append_right (by omega), hHead,
      field_append_right (by rw [length_littleEndian]; omega),
      length_littleEndian,
      field_append_right (by rw [length_littleEndian]; omega),
      length_littleEndian]
    exact field_append_left (by decide) rest
  have hClosed :
      ∀ offset n, offset + n ≤ 32 →
        field offset n (bootSector v) =
          field offset n bootHead := by
    intro offset n hInside
    rw [hParts]
    exact field_append_left (by rw [hHead]; exact hInside) _
  refine ⟨?_, ?_⟩
  · unfold Geometry.ofBootSector geometryOf
    rw [hSectors, hTable, hCluster, hClosed 14 2 (by omega),
      hClosed 16 1 (by omega), hClosed 13 1 (by omega)]
    rfl
  · rw [hClosed 11 2 (by omega)]
    rfl

/- Where the sectors of the volume lie. -/
theorem sectorOf_zero
    (hFormatted : Formatted v) :
    sectorOf v content 0 = mbrSector v := by
  have hRoot : ¬ (0 : UInt32) ≥ v.rootLba := by
    rw [ge_iff_le, UInt32.le_iff_toNat_le, hFormatted.rootLba]
    change ¬ _ ≤ 0
    omega
  unfold sectorOf
  rw [if_neg hRoot, if_pos rfl]

theorem sectorOf_boot
    (hFormatted : Formatted v) :
    sectorOf v content 62 = bootSector v := by
  have hRoot : ¬ (62 : UInt32) ≥ v.rootLba := by
    rw [ge_iff_le, UInt32.le_iff_toNat_le, hFormatted.rootLba]
    change ¬ _ ≤ 62
    omega
  have hFsinfo : ¬ (62 : UInt32) = v.fsinfoLba := by
    rw [hFormatted.fsinfoLba]
    decide
  unfold sectorOf
  rw [if_neg hRoot, if_neg (by decide), if_neg hFsinfo,
    if_pos hFormatted.bootLba.symm]

theorem mount_eq
    (hFormatted : Formatted v)
    (hShows : Shows v content disk) :
    mount disk = some (geometryOf v) := by
  have hTotal := hFormatted.diskSectors
  have hMbr : disk 0 = mbrSector v :=
    hShows.eq_of_length (by omega) (sectorOf_zero hFormatted)
      (length_mbrSector v)
  have hBoot : disk 62 = bootSector v :=
    hShows.eq_of_length (by omega) (sectorOf_boot hFormatted)
      (length_bootSector v)
  rcases mbrSector_fields hFormatted with ⟨hStart, hType⟩
  rcases ofBootSector_eq hFormatted with ⟨hGeometry, hSize⟩
  unfold mount
  dsimp only
  rw [hMbr, hStart, hBoot, hType, hSize,
    signature_mbrSector, signature_bootSector, hGeometry]
  exact if_pos ⟨rfl, rfl, rfl, rfl⟩

------------------------------------------------------------
-- Allocation Table
------------------------------------------------------------

/- The table with its two reserved values. -/
def tableValue (entries : List Entry) (c : Nat) : UInt32 :=
  if c = 0 then
    clustRootEnd
  else if c = 1 then
    0xFFFFFFFF
  else
    fatValueAt entries (UInt32.ofNat c)

theorem fatValuesFrom_getElem?
    (entries : List Entry)
    {count k : Nat}
    (hInside : k < count)
    (curr : UInt32) :
    (fatValuesFrom entries count curr)[k]? =
      some (fatValueAt entries (curr + UInt32.ofNat k)) := by
  unfold fatValuesFrom
  rw [List.getElem?_map, List.getElem?_range hInside,
    Option.map_some]

theorem field_flatMap_word32
    {values : List UInt32}
    {i : Nat}
    {value : UInt32}
    (hHere : values[i]? = some value) :
    field (4 * i) 4 (values.flatMap word32) = value.toNat := by
  have hBlock :
      (values.map word32)[i]? = some (word32 value) := by
    rw [List.getElem?_map, hHere, Option.map_some]
  have hSize :
      ∀ b ∈ values.map word32, b.length = 4 := by
    intro b hMember
    rcases List.mem_map.mp hMember with ⟨value, -, rfl⟩
    exact length_word32 value
  rw [List.flatMap_def, field_flatten hSize hBlock]
  exact value_littleEndian value.toNat_lt

/- The values of the table, by the number of the cluster. -/
theorem field_fatSector
    (entries : List Entry)
    {c : Nat}
    (hSmall : c < 2 ^ 32) :
    field (4 * (c % 128)) 4
        (fatSector entries (UInt32.ofNat (c / 128))) =
      (tableValue entries c).toNat := by
  have hIndex : (UInt32.ofNat (c / 128)).toNat = c / 128 := by
    rw [UInt32.toNat_ofNat']
    omega
  have hCurr :
      (UInt32.ofNat (c / 128) * 128).toNat =
        c / 128 * 128 := by
    rw [UInt32.toNat_mul, hIndex]
    change c / 128 * 128 % 2 ^ 32 = _
    omega
  unfold fatSector tableValue
  dsimp only
  split
  · next hFirst =>
      have hBlock : c / 128 * 128 = 0 := by
        rw [← hCurr, hFirst]
        rfl
      apply field_flatMap_word32
      rw [hFirst]
      split
      · next hZero =>
          rw [hZero]
          rfl
      split
      · next hOne =>
          rw [hOne]
          rfl
      · next hZero hOne =>
          obtain ⟨k, hK⟩ : ∃ k, c % 128 = k + 2 :=
            ⟨c % 128 - 2, by omega⟩
          have hCluster :
              (0 : UInt32) + 2 + UInt32.ofNat k =
                UInt32.ofNat c := by
            rw [← UInt32.toNat_inj, UInt32.toNat_add,
              UInt32.toNat_ofNat', UInt32.toNat_ofNat']
            change (2 + k % 2 ^ 32) % 2 ^ 32 = _
            omega
          rw [hK, List.getElem?_cons_succ,
            List.getElem?_cons_succ,
            fatValuesFrom_getElem? entries (by omega),
            hCluster]
  · next hLater =>
      have hBlock : c / 128 * 128 ≠ 0 := by
        intro hZero
        rw [← hCurr] at hZero
        exact hLater (UInt32.toNat_inj.mp hZero)
      have hCluster :
          UInt32.ofNat (c / 128) * 128 +
              UInt32.ofNat (c % 128) =
            UInt32.ofNat c := by
        rw [← UInt32.toNat_inj, UInt32.toNat_add, hCurr,
          UInt32.toNat_ofNat', UInt32.toNat_ofNat']
        omega
      apply field_flatMap_word32
      rw [fatValuesFrom_getElem? entries (by omega), hCluster,
        if_neg (by omega), if_neg (by omega)]

/- The sectors of the two copies of the table. -/
theorem sectorOf_fat
    (hFormatted : Formatted v)
    {copy index : Nat}
    (hCopy : copy < 2)
    (hIndex : index < fatSectors v.numClust.toNat) :
    sectorOf v content
        (UInt32.ofNat
          (64 + copy * fatSectors v.numClust.toNat + index)) =
      fatSector v.entries (UInt32.ofNat index) := by
  have hRoot := hFormatted.rootLba
  have hSecond := hFormatted.fat2Lba
  have hWide := v.rootLba.toNat_lt
  have hFirst : v.fat1Lba.toNat = 64 := by
    rw [hFormatted.fat1Lba]
    rfl
  generalize hSectors : fatSectors v.numClust.toNat = n at *
  have hCopies : copy = 0 ∨ copy = 1 := by omega
  have hBound : 64 + copy * n + index < 64 + 2 * n := by
    rcases hCopies with rfl | rfl <;> omega
  have hSector :
      (UInt32.ofNat (64 + copy * n + index)).toNat =
        64 + copy * n + index := by
    rw [UInt32.toNat_ofNat']
    apply Nat.mod_eq_of_lt
    omega
  generalize hS : UInt32.ofNat (64 + copy * n + index) = s at *
  have hSystem : ∀ k : UInt32, k.toNat < 64 → ¬ s = k := by
    rintro k hK rfl
    omega
  unfold sectorOf
  rw [if_neg
      (by rw [ge_iff_le, UInt32.le_iff_toNat_le]; omega),
    if_neg (hSystem 0 (by decide)),
    if_neg
      (hSystem _ (by rw [hFormatted.fsinfoLba]; decide)),
    if_neg (hSystem _ (by rw [hFormatted.bootLba]; decide))]
  simp only [UInt32.le_iff_toNat_le, UInt32.lt_iff_toNat_lt]
  rcases hCopies with rfl | rfl
  · rw [if_pos (by omega)]
    congr 1
    rw [← UInt32.toNat_inj, UInt32.toNat_sub_of_le _ _
        (by rw [UInt32.le_iff_toNat_le]; omega),
      UInt32.toNat_ofNat']
    omega
  · rw [if_neg (by omega), if_pos (by omega)]
    congr 1
    rw [← UInt32.toNat_inj, UInt32.toNat_sub_of_le _ _
        (by rw [UInt32.le_iff_toNat_le]; omega),
      UInt32.toNat_ofNat']
    omega

/- Both copies hold the values of the clusters. -/
theorem fatEntry_eq
    (hFormatted : Formatted v)
    (hShows : Shows v content disk)
    {copy c : Nat}
    (hCopy : copy < 2)
    (hInside : c < 128 * fatSectors v.numClust.toNat) :
    fatEntry disk (geometryOf v) copy c =
      (tableValue v.entries c).toNat % 2 ^ 28 := by
  have hIndex : c / 128 < fatSectors v.numClust.toNat :=
    Nat.div_lt_of_lt_mul hInside
  have hTotal := hFormatted.diskSectors
  have hSmall := hFormatted.bounded
  have hStart :
      (geometryOf v).fatStart copy + c / 128 =
        64 + copy * fatSectors v.numClust.toNat + c / 128 :=
    rfl
  have hBound :
      64 + copy * fatSectors v.numClust.toNat + c / 128 <
        v.diskSectors.toNat := by
    have hCopies : copy = 0 ∨ copy = 1 := by omega
    rcases hCopies with rfl | rfl <;> omega
  have hSector :=
    hShows.eq_of_length hBound
      (sectorOf_fat hFormatted hCopy hIndex)
      (length_fatSector _ _)
  unfold fatEntry
  rw [hStart, hSector, field_fatSector]
  unfold fatSectors at hInside
  omega

------------------------------------------------------------
-- Chains
------------------------------------------------------------

/- The table has room for every cluster. -/
def Covered (v : Volume) : Prop :=
  v.numClust.toNat + 2 ≤ 128 * fatSectors v.numClust.toNat

/- Only two rests in a table sector leave clusters out. -/
theorem covered_iff
    (hFormatted : Formatted v) :
    Covered v ↔
      v.numClust.toNat % 128 ≠ 0 ∧
        v.numClust.toNat % 128 ≠ 127 := by
  have hPositive : 0 < v.numClust.toNat := by
    rcases hFormatted.order.root with ⟨e, hHead, -⟩
    have hBounds :=
      hFormatted.tiles.bounds (List.mem_of_mem_head? hHead)
    omega
  unfold Covered fatSectors
  omega

theorem toNat_ofNat_cluster
    (hFormatted : Formatted v)
    {c : Nat}
    (hInside : c < v.numClust.toNat + 2) :
    (UInt32.ofNat c).toNat = c := by
  have hSmall := hFormatted.bounded
  rw [UInt32.toNat_ofNat']
  omega

section Entries

variable {i : Nat}
variable {e : Entry}

/- The clusters in use belong to the volume. -/
theorem Formatted.cluster_bounds
    (hFormatted : Formatted v)
    (hEntry : v.entries[i]? = some e)
    {k : Nat}
    (hUsed : k < e.used) :
    2 ≤ firstOf e ∧ firstOf e + k ≤ e.priv.lastClust.toNat ∧
      e.priv.lastClust.toNat ≤ lastOf e ∧
        lastOf e < v.numClust.toNat + 2 := by
  have hMember := List.mem_of_getElem? hEntry
  have hBounds := hFormatted.tiles.bounds hMember
  have hFilled := hFormatted.filled e hMember
  have hLast := hFilled.last
  have hInside := hFilled.inside
  omega

theorem isClustOf_used
    (hFormatted : Formatted v)
    (hEntry : v.entries[i]? = some e)
    {k : Nat}
    (hUsed : k < e.used) :
    isClustOf (UInt32.ofNat (firstOf e + k)) e = true := by
  have hBounds := hFormatted.cluster_bounds hEntry hUsed
  have hCluster :=
    toNat_ofNat_cluster hFormatted
      (c := firstOf e + k) (by omega)
  rw [isClustOf_iff, hCluster]
  refine ⟨by omega, by omega⟩

/- The values of the clusters in use form a chain. -/
theorem tableValue_used
    (hFormatted : Formatted v)
    (hEntry : v.entries[i]? = some e)
    {k : Nat}
    (hUsed : k < e.used) :
    tableValue v.entries (firstOf e + k) =
      if k + 1 = e.used then
        clustEof
      else
        UInt32.ofNat (firstOf e + k + 1) := by
  have hBounds := hFormatted.cluster_bounds hEntry hUsed
  have hLast :=
    (hFormatted.filled e (List.mem_of_getElem? hEntry)).last
  have hCluster :=
    toNat_ofNat_cluster hFormatted
      (c := firstOf e + k) (by omega)
  have hOwner :=
    (ownerOf_eq_some_iff hFormatted.tiles).mpr
      ⟨e, hEntry, isClustOf_used hFormatted hEntry hUsed⟩
  have hIsLast :
      UInt32.ofNat (firstOf e + k) = e.priv.lastClust ↔
        k + 1 = e.used := by
    rw [← UInt32.toNat_inj, hCluster]
    omega
  have hNotAfter :
      ¬ UInt32.ofNat (firstOf e + k) > e.priv.lastClust := by
    rw [gt_iff_lt, UInt32.lt_iff_toNat_lt, hCluster]
    omega
  have hNext :
      UInt32.ofNat (firstOf e + k) + 1 =
        UInt32.ofNat (firstOf e + k + 1) :=
    (UInt32.ofNat_add _ _).symm
  unfold tableValue fatValueAt
  rw [if_neg (by omega), if_neg (by omega),
    entryOf_of_owner hOwner, hEntry]
  dsimp only
  unfold Entry.fatValue
  simp only [hIsLast, hNext, if_neg hNotAfter, ite_self]

/- The links from the first cluster to the last one. -/
theorem fatEntry_links
    (hFormatted : Formatted v)
    (hShows : Shows v content disk)
    (hCovered : Covered v)
    (hEntry : v.entries[i]? = some e) :
    (∀ k, k < e.used - 1 →
        fatEntry disk (geometryOf v) 0 (firstOf e + k) =
          firstOf e + k + 1) ∧
      0x0FFFFFF8 ≤
        fatEntry disk (geometryOf v) 0
          (firstOf e + (e.used - 1)) := by
  have hPositive := e.used_pos
  have hSmall := hFormatted.bounded
  have hTable :
      ∀ k, k < e.used →
        fatEntry disk (geometryOf v) 0 (firstOf e + k) =
          (tableValue v.entries (firstOf e + k)).toNat %
            2 ^ 28 := by
    intro k hUsed
    have hInside := hFormatted.cluster_bounds hEntry hUsed
    unfold Covered at hCovered
    exact fatEntry_eq hFormatted hShows (by omega) (by omega)
  refine ⟨?_, ?_⟩
  · intro k hBefore
    have hInside :=
      hFormatted.cluster_bounds hEntry (k := k + 1) (by omega)
    rw [hTable k (by omega),
      tableValue_used hFormatted hEntry (by omega),
      if_neg (by omega),
      toNat_ofNat_cluster hFormatted (by omega)]
    omega
  · rw [hTable (e.used - 1) (by omega),
      tableValue_used hFormatted hEntry (by omega),
      if_pos (by omega)]
    decide

/- The host finds the clusters of an entry in order. -/
theorem chain_eq
    (hFormatted : Formatted v)
    (hShows : Shows v content disk)
    (hCovered : Covered v)
    (hEntry : v.entries[i]? = some e) :
    chain (fatEntry disk (geometryOf v) 0)
        (128 * (geometryOf v).fatSectors) (firstOf e) =
      some (List.range' (firstOf e) e.used) := by
  have hPositive := e.used_pos
  have hSmall := hFormatted.bounded
  have hBounds :=
    hFormatted.cluster_bounds hEntry
      (k := e.used - 1) (by omega)
  rcases fatEntry_links hFormatted hShows hCovered hEntry with
    ⟨hLinks, hEnd⟩
  have hLength : e.used = e.used - 1 + 1 := by omega
  rw [hLength]
  apply chain_consecutive (by omega) hLinks hEnd (by omega)
  unfold Covered at hCovered
  change e.used - 1 < 128 * fatSectors v.numClust.toNat
  omega

theorem stream_eq
    (hFormatted : Formatted v)
    (hShows : Shows v content disk)
    (hCovered : Covered v)
    (hEntry : v.entries[i]? = some e) :
    stream disk (geometryOf v) (firstOf e) =
      some
        ((List.range (8 * e.used)).map fun k =>
          disk
            ((geometryOf v).clusterStart (firstOf e) +
              k)).flatten := by
  have hBounds := hFormatted.cluster_bounds hEntry e.used_pos
  unfold stream
  rw [chain_eq hFormatted hShows hCovered hEntry,
    Option.map_some, flatten_clusterBytes _ _ hBounds.1]
  rfl

/- The sectors of the clusters of an entry. -/
theorem sectorOf_cluster
    (content : Nat → List UInt8)
    (hFormatted : Formatted v)
    (hEntry : v.entries[i]? = some e)
    {k : Nat}
    (hInside : k < 8 * e.used) :
    (geometryOf v).clusterStart (firstOf e) + k <
        v.diskSectors.toNat ∧
      sectorOf v content
          (UInt32.ofNat
            ((geometryOf v).clusterStart (firstOf e) + k)) =
        entrySector v content i e
          (UInt32.ofNat (firstOf e + k / 8))
          (UInt32.ofNat (k % 8)) := by
  have hUsed : k / 8 < e.used :=
    Nat.div_lt_of_lt_mul hInside
  have hBounds := hFormatted.cluster_bounds hEntry hUsed
  have hRoot := hFormatted.rootLba
  have hTotal := hFormatted.diskSectors
  have hWide := v.diskSectors.toNat_lt
  have hStart :
      (geometryOf v).clusterStart (firstOf e) + k =
        v.rootLba.toNat + ((firstOf e - 2) * 8 + k) := by
    rw [hRoot]
    unfold Geometry.clusterStart Geometry.fatStart geometryOf
    dsimp only
    omega
  have hDisk :
      v.rootLba.toNat + ((firstOf e - 2) * 8 + k) <
        v.diskSectors.toNat := by
    omega
  refine ⟨by rw [hStart]; exact hDisk, ?_⟩
  have hSector :
      (UInt32.ofNat
          (v.rootLba.toNat + ((firstOf e - 2) * 8 + k))).toNat =
        v.rootLba.toNat + ((firstOf e - 2) * 8 + k) :=
    toNat_ofNat_sector hDisk
  have hRel :
      UInt32.ofNat
            (v.rootLba.toNat + ((firstOf e - 2) * 8 + k)) -
          v.rootLba =
        UInt32.ofNat ((firstOf e - 2) * 8 + k) := by
    rw [← UInt32.toNat_inj, UInt32.toNat_sub_of_le _ _
        (by rw [UInt32.le_iff_toNat_le, hSector]; omega),
      hSector, UInt32.toNat_ofNat']
    omega
  have hRelSmall :
      (UInt32.ofNat ((firstOf e - 2) * 8 + k)).toNat =
        (firstOf e - 2) * 8 + k := by
    rw [UInt32.toNat_ofNat']
    omega
  have hCluster :
      UInt32.ofNat ((firstOf e - 2) * 8 + k) / 8 + 2 =
        UInt32.ofNat (firstOf e + k / 8) := by
    rw [← UInt32.toNat_inj, UInt32.toNat_add,
      UInt32.toNat_div, hRelSmall, UInt32.toNat_ofNat']
    change (((firstOf e - 2) * 8 + k) / 8 + 2) % 2 ^ 32 = _
    omega
  have hOffset :
      UInt32.ofNat ((firstOf e - 2) * 8 + k) % 8 =
        UInt32.ofNat (k % 8) := by
    rw [← UInt32.toNat_inj, UInt32.toNat_mod, hRelSmall,
      UInt32.toNat_ofNat']
    change ((firstOf e - 2) * 8 + k) % 8 = _
    omega
  have hOwner :=
    (ownerOf_eq_some_iff hFormatted.tiles).mpr
      ⟨e, hEntry, isClustOf_used hFormatted hEntry hUsed⟩
  unfold sectorOf
  rw [hStart, if_pos
      (by rw [ge_iff_le, UInt32.le_iff_toNat_le, hSector];
          omega),
    hRel]
  unfold dataSector
  dsimp only
  rw [hCluster, hOffset, hOwner]
  dsimp only
  rw [hEntry]

end Entries

------------------------------------------------------------
-- Files
------------------------------------------------------------

/- The bytes of a file of the table. -/
def fileBytes
    (content : Nat → List UInt8)
    (i : Nat)
    (e : Entry) : List UInt8 :=
  match e.readcb with
  | none => List.replicate e.currSize.toNat 0
  | some _ =>
      ((content i).drop e.offset.toNat).take e.currSize.toNat

/- The contents reach up to the ends of the files. -/
def Complete
    (entries : List Entry)
    (content : Nat → List UInt8) : Prop :=
  ∀ i e, entries[i]? = some e → e.dir = false →
    e.readcb.isSome = true →
      e.offset.toNat + e.currSize.toNat ≤ (content i).length

/- The part of a file in one of its sectors. -/
theorem entrySector_file
    (hReady : Ready v content)
    {i : Nat}
    {e : Entry}
    (hEntry : v.entries[i]? = some e)
    (hFile : e.dir = false)
    {p : ReadProc}
    (hCallback : e.readcb = some p)
    {k : Nat}
    (hInside : k < 8 * e.used) :
    entrySector v content i e
        (UInt32.ofNat (firstOf e + k / 8))
        (UInt32.ofNat (k % 8)) =
      (((content i).drop e.offset.toNat).drop (512 * k)).take
        512 := by
  have hUsed : k / 8 < e.used :=
    Nat.div_lt_of_lt_mul hInside
  have hRoom := (hReady.backed i e hEntry hFile p hCallback).2
  have hFilled :=
    hReady.formatted.filled e (List.mem_of_getElem? hEntry)
  have hBounds :=
    hReady.formatted.cluster_bounds hEntry hUsed
  have hCluster :=
    isClustOf_used hReady.formatted hEntry hUsed
  have hClusterNat :=
    toNat_ofNat_cluster hReady.formatted
      (c := firstOf e + k / 8) (by omega)
  have hRel : (UInt32.ofNat (k % 8)).toNat = k % 8 := by
    rw [UInt32.toNat_ofNat']
    omega
  have hSector : (UInt32.ofNat (k % 8)).toNat < 8 := by
    rw [hRel]
    omega
  have hOffset :=
    (toNat_fileOffset hFilled hFile hRoom hCluster hSector).1
  rw [hClusterNat, hRel] at hOffset
  have hPlace :
      (firstOf e + k / 8 - firstOf e) * 4096 + k % 8 * 512 +
          e.offset.toNat =
        e.offset.toNat + 512 * k := by
    omega
  have hSize : (512 : Int32).toInt.toNat = 512 := by decide
  unfold entrySector
  rw [if_neg (by rw [hFile]; exact Bool.false_ne_true),
    hCallback]
  dsimp only
  unfold blockOf
  rw [hOffset, hPlace, hSize, List.drop_drop]

/- What the host finds in the clusters of a file. -/
theorem stream_file
    (hReady : Ready v content)
    (hComplete : Complete v.entries content)
    (hShows : Shows v content disk)
    (hCovered : Covered v)
    {i : Nat}
    {e : Entry}
    (hEntry : v.entries[i]? = some e)
    (hFile : e.dir = false) :
    ∃ bytes,
      stream disk (geometryOf v) (firstOf e) = some bytes ∧
        bytes.take e.currSize.toNat = fileBytes content i e := by
  refine
    ⟨_, stream_eq hReady.formatted hShows hCovered hEntry, ?_⟩
  have hSector :
      ∀ k, k < 8 * e.used →
        entrySector v content i e
              (UInt32.ofNat (firstOf e + k / 8))
              (UInt32.ofNat (k % 8)) <+:
            disk
              ((geometryOf v).clusterStart (firstOf e) + k) ∧
          (disk
            ((geometryOf v).clusterStart (firstOf e) +
              k)).length = 512 := by
    intro k hInside
    rcases sectorOf_cluster content hReady.formatted hEntry
      hInside with ⟨hDisk, hEq⟩
    rw [← hEq]
    exact hShows _ hDisk
  have hSize : e.currSize.toNat ≤ 512 * (8 * e.used) := by
    unfold Entry.used
    rw [if_neg (by rw [hFile]; exact Bool.false_ne_true)]
    unfold clustersFor
    omega
  unfold fileBytes
  cases hCallback : e.readcb with
  | none =>
      dsimp only
      have hZeros :
          (List.replicate (512 * (8 * e.used)) (0 : UInt8)).take
              e.currSize.toNat =
            List.replicate e.currSize.toNat 0 := by
        rw [List.take_replicate, Nat.min_eq_left hSize]
      rw [← hZeros]
      apply take_flatten_of_prefix
      · intro k hInside
        have hHere := (hSector k hInside).1
        unfold entrySector at hHere
        rw [if_neg (by rw [hFile]; exact Bool.false_ne_true),
          hCallback] at hHere
        have hWhole : 512 ≤ 512 * (8 * e.used) - 512 * k := by
          omega
        rw [List.drop_replicate, List.take_replicate,
          Nat.min_eq_left hWhole]
        exact hHere
      · intro k hInside
        exact (hSector k hInside).2
      · rw [List.length_replicate]
        exact hSize
      · exact hSize
  | some p =>
      dsimp only
      have hEnd :=
        hComplete i e hEntry hFile (by rw [hCallback]; rfl)
      apply take_flatten_of_prefix
      · intro k hInside
        have hHere := (hSector k hInside).1
        rwa [entrySector_file hReady hEntry hFile hCallback
          hInside] at hHere
      · intro k hInside
        exact (hSector k hInside).2
      · rw [List.length_drop]
        omega
      · exact hSize

end Emfat

end TemperatureSensor
