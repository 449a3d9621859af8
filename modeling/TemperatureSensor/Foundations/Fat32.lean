import TemperatureSensor.Foundations.ByteLayout

/-
  A FAT32 volume as a reader of the disk sees it: the
  partition table, the boot sector, the allocation table, the
  chains of clusters, the directories and the files.

  Main declarations:
    * `mount` and `Geometry`
    * `fatEntry` and `chain`
    * `stream`
    * `directory`
    * `readPath`
    * `chain_consecutive`
    * `records_flatten`
-/

------------------------------------------------------------
-- Mounting
------------------------------------------------------------

namespace Fat32

open ByteLayout

/- The sectors of a disk. -/
abbrev Disk := Nat → List UInt8

/- What the boot sector of a partition says. -/
structure Geometry where
  boot : Nat
  reserved : Nat
  fatCount : Nat
  fatSectors : Nat
  clusterSectors : Nat
  rootCluster : Nat
  totalSectors : Nat
deriving DecidableEq, Repr

/- The geometry that the boot sector at an address states. -/
def Geometry.ofBootSector
    (boot : Nat)
    (sector : List UInt8) : Geometry where
  boot := boot
  reserved := field 14 2 sector
  fatCount := field 16 1 sector
  fatSectors := field 36 4 sector
  clusterSectors := field 13 1 sector
  rootCluster := field 44 4 sector
  totalSectors := field 32 4 sector

/- The boot signature of a sector. -/
def signature (sector : List UInt8) : Nat :=
  field 510 2 sector

/-
  The first partition, when it is one of type FAT32 and its
  boot sector counts in sectors of 512 bytes.
-/
def mount (disk : Disk) : Option Geometry :=
  let boot := field 454 4 (disk 0)
  if signature (disk 0) = 0xAA55 ∧
      field 450 1 (disk 0) = 0x0C ∧
        signature (disk boot) = 0xAA55 ∧
          field 11 2 (disk boot) = 512 then
    some (Geometry.ofBootSector boot (disk boot))
  else
    none

------------------------------------------------------------
-- Clusters
------------------------------------------------------------

/- The first sector of a copy of the allocation table. -/
def Geometry.fatStart (g : Geometry) (copy : Nat) : Nat :=
  g.boot + g.reserved + copy * g.fatSectors

/- The first sector of a cluster; the first cluster is 2. -/
def Geometry.clusterStart (g : Geometry) (c : Nat) : Nat :=
  g.fatStart g.fatCount + (c - 2) * g.clusterSectors

/- The lower 28 bits of an entry of the allocation table. -/
def fatEntry
    (disk : Disk)
    (g : Geometry)
    (copy c : Nat) : Nat :=
  field (4 * (c % 128)) 4
    (disk (g.fatStart copy + c / 128)) % 2 ^ 28

/-
  The clusters from one to the end of its chain; a free or
  reserved entry breaks the chain.
-/
def chain (next : Nat → Nat) : Nat → Nat → Option (List Nat)
| 0, _ => none
| fuel + 1, c =>
    if 0x0FFFFFF8 ≤ next c then
      some [c]
    else if next c < 2 then
      none
    else
      (chain next fuel (next c)).map (c :: ·)

def clusterBytes
    (disk : Disk)
    (g : Geometry)
    (c : Nat) : List UInt8 :=
  ((List.range g.clusterSectors).map fun k =>
    disk (g.clusterStart c + k)).flatten

/- The bytes of all clusters of a chain. -/
def stream
    (disk : Disk)
    (g : Geometry)
    (c : Nat) : Option (List UInt8) :=
  (chain (fatEntry disk g 0) (128 * g.fatSectors) c).map
    fun cs => (cs.map (clusterBytes disk g)).flatten

------------------------------------------------------------
-- Directories
------------------------------------------------------------

structure DirEntry where
  name : List UInt8
  attr : Nat
  cluster : Nat
  size : Nat
deriving DecidableEq, Repr

def dirEntry (record : List UInt8) : DirEntry where
  name := record.take 11
  attr := field 11 1 record
  cluster := field 20 2 record * 65536 + field 26 2 record
  size := field 28 4 record

/- A volume label is no file. -/
def DirEntry.IsLabel (e : DirEntry) : Prop :=
  e.attr.testBit 3 = true

def DirEntry.IsDir (e : DirEntry) : Prop :=
  e.attr.testBit 4 = true

instance (e : DirEntry) : Decidable e.IsLabel :=
  inferInstanceAs (Decidable (_ = _))

instance (e : DirEntry) : Decidable e.IsDir :=
  inferInstanceAs (Decidable (_ = _))

/-
  The entries up to the first record that begins with a zero,
  without the deleted ones.
-/
def records (bytes : List UInt8) : List DirEntry :=
  (((blocks 32 (bytes.length / 32) bytes).takeWhile
    fun r => r.head? != some 0).filter
      fun r => r.head? != some 0xE5).map dirEntry

def directory
    (disk : Disk)
    (g : Geometry)
    (c : Nat) : Option (List DirEntry) :=
  (stream disk g c).map records

def find
    (name : List UInt8)
    (entries : List DirEntry) : Option DirEntry :=
  entries.find? fun e => e.name = name ∧ ¬ e.IsLabel

/- The content of the file that a path leads to. -/
def readPath
    (disk : Disk)
    (g : Geometry) :
    List (List UInt8) → Nat → Option (List UInt8)
| [], _ => none
| [name], c =>
    (directory disk g c).bind fun entries =>
      (find name entries).bind fun e =>
        if e.IsDir then
          none
        else
          (stream disk g e.cluster).map (List.take e.size)
| name :: path, c =>
    (directory disk g c).bind fun entries =>
      (find name entries).bind fun e =>
        if e.IsDir then
          readPath disk g path e.cluster
        else
          none

------------------------------------------------------------
-- Consecutive Clusters
------------------------------------------------------------

/- Entries that point to their successor form one chain. -/
theorem chain_consecutive
    {next : Nat → Nat}
    {c n fuel : Nat}
    (hFirst : 1 ≤ c)
    (hLinks : ∀ i, i < n → next (c + i) = c + i + 1)
    (hEnd : 0x0FFFFFF8 ≤ next (c + n))
    (hBound : c + n < 0x0FFFFFF8)
    (hFuel : n < fuel) :
    chain next fuel c = some (List.range' c (n + 1)) := by
  induction fuel generalizing c n with
  | zero => omega
  | succ fuel ih =>
      cases n with
      | zero => exact if_pos hEnd
      | succ n =>
          have hNext : next c = c + 1 := hLinks 0 (by omega)
          have hRest :
              chain next fuel (c + 1) =
                some (List.range' (c + 1) (n + 1)) := by
            apply ih (by omega)
            · intro i hIndex
              have hLink := hLinks (i + 1) (by omega)
              rwa [Nat.add_comm i 1, ← Nat.add_assoc] at hLink
            · rwa [Nat.add_assoc, Nat.add_comm 1 n]
            · omega
            · omega
          unfold chain
          rw [if_neg (by omega), if_neg (by omega), hNext,
            hRest]
          rfl

/- Neighbouring clusters are neighbouring sectors. -/
theorem flatten_clusterBytes
    (disk : Disk)
    (g : Geometry)
    {c : Nat}
    (hFirst : 2 ≤ c)
    (n : Nat) :
    ((List.range' c n).map (clusterBytes disk g)).flatten =
      ((List.range (g.clusterSectors * n)).map fun k =>
        disk (g.clusterStart c + k)).flatten := by
  induction n with
  | zero => simp
  | succ n ih =>
      rw [List.range'_concat, List.map_append,
        List.flatten_append, ih, Nat.mul_succ, List.range_add,
        List.map_append, List.flatten_append]
      congr 1
      rw [List.map_cons, List.map_nil, List.flatten_cons,
        List.flatten_nil, List.append_nil, List.map_map]
      unfold clusterBytes Geometry.clusterStart
      have hCluster : c + 1 * n - 2 = c - 2 + n := by omega
      congr 2
      funext k
      rw [hCluster, Nat.add_mul, Function.comp_apply,
        Nat.mul_comm n, Nat.add_assoc, Nat.add_assoc,
        Nat.add_assoc]

------------------------------------------------------------
-- Records
------------------------------------------------------------

/- A record that is neither the end nor deleted. -/
structure IsRecord (record : List UInt8) : Prop where
  length_eq : record.length = 32
  used : record.head? ≠ some 0
  kept : record.head? ≠ some 0xE5

/- Records with zeros behind them are all listed. -/
theorem records_flatten
    {rs : List (List UInt8)}
    (hRecords : ∀ r ∈ rs, IsRecord r)
    (k : Nat) :
    records
        ((rs ++ List.replicate k
          (List.replicate 32 0)).flatten) =
      rs.map dirEntry := by
  have hSize :
      ∀ r ∈ rs ++ List.replicate k (List.replicate 32 0),
        r.length = 32 := by
    intro r hMember
    rcases List.mem_append.mp hMember with hRecord | hZeros
    · exact (hRecords r hRecord).length_eq
    · rw [List.eq_of_mem_replicate hZeros,
        List.length_replicate]
  have hUsed :
      ∀ r ∈ rs, (r.head? != some 0) = true := by
    intro r hMember
    simpa using (hRecords r hMember).used
  have hKept :
      ∀ r ∈ rs, (r.head? != some 0xE5) = true := by
    intro r hMember
    simpa using (hRecords r hMember).kept
  unfold records
  rw [length_flatten hSize, Nat.mul_div_cancel_left _ (by omega),
    blocks_flatten hSize, List.takeWhile_append_of_pos hUsed]
  have hEnd :
      (List.replicate k (List.replicate 32 0)).takeWhile
        (fun r : List UInt8 => r.head? != some 0) = [] := by
    cases k with
    | zero => rfl
    | succ k => rfl
  rw [hEnd, List.append_nil, List.filter_eq_self.mpr hKept]

end Fat32
