import TemperatureSensor.Foundations.ByteLayout
import TemperatureSensor.Usb.ReadProc

/-
  The emulated FAT volume of `emfat.c`, as it is compiled into
  the firmware. No sector is stored: every read computes its
  sectors from the table of entries. A pointer to an entry is
  its index, and a result `none` is an access through a null
  pointer or outside of the table.

  Main declarations:
    * `EmfatEntry` and `Emfat`
    * `emfatInitEntries` and `emfatInit`
    * `findEntry`
    * `readFatSector` and `readDataSector`
    * `emfatRead`
-/

------------------------------------------------------------
-- Structures
------------------------------------------------------------

namespace TemperatureSensor

namespace Emfat

open ByteLayout

/- The links of `emfat_entry_t.priv`. -/
structure EntryPriv where
  firstClust : UInt32
  lastClust : UInt32
  lastReserved : UInt32
  numSubentry : UInt32
  top : Option Nat
  sub : Option Nat
  next : Option Nat
deriving DecidableEq, Repr

/-
  `emfat_entry_t`; the table ends at the first null name. The
  callbacks do not use `user_data`, and nothing is written.
-/
structure Entry where
  name : List UInt8
  dir : Bool
  level : Int
  offset : UInt32
  currSize : UInt32
  maxSize : UInt32
  cmaTime : Fin 3 → UInt32
  readcb : Option ReadProc
  priv : EntryPriv

/- `emfat_t`, as far as a read depends on it. -/
structure Volume where
  diskSectors : UInt32
  volLabel : List UInt8
  bootLba : UInt32
  fsinfoLba : UInt32
  fat1Lba : UInt32
  fat2Lba : UInt32
  rootLba : UInt32
  numClust : UInt32
  entries : List Entry
  lastEntry : Nat

------------------------------------------------------------
-- emfat_init_entries
------------------------------------------------------------

def Entry.unlink (e : Entry) : Entry :=
  { e with
    priv :=
      { e.priv with
        top := none, next := none, sub := none,
        numSubentry := 0 } }

def Entry.setTop (top : Option Nat) (e : Entry) : Entry :=
  { e with priv := { e.priv with top := top } }

def Entry.setSub (i : Nat) (e : Entry) : Entry :=
  { e with priv := { e.priv with sub := some i } }

def Entry.setNext (i : Nat) (e : Entry) : Entry :=
  { e with priv := { e.priv with next := some i } }

def Entry.countSub (e : Entry) : Entry :=
  { e with
    priv :=
      { e.priv with numSubentry := e.priv.numSubentry + 1 } }

/- The locals `entries`, `n` and `e` of the loop. -/
structure InitState where
  entries : List Entry
  n : Int
  e : Nat

/-
  The part of a round behind the step up: the entry is the
  first below `e`, or a neighbour of it. `false` is the
  `return false` of the source.
-/
def linkEntry
    (s : InitState)
    (i : Nat)
    (level : Int) : Option (Bool × InitState) :=
  if level = s.n + 1 then
    (s.entries[s.e]?).bind fun above =>
      if above.dir then
        some
          (true,
            { entries :=
                (s.entries.modify s.e (Entry.setSub i)).modify i
                  (Entry.setTop (some s.e)),
              n := s.n + 1,
              e := i })
      else
        some (false, s)
  else if level = s.n then
    if s.n = 0 then
      some (false, s)
    else
      (s.entries[s.e]?).bind fun before =>
        before.priv.top.bind fun top =>
          some
            (true,
              { entries :=
                  ((s.entries.modify top Entry.countSub).modify
                    i (Entry.setTop before.priv.top)).modify
                      s.e (Entry.setNext i),
                n := s.n,
                e := i })
  else
    some (false, s)

/- A round of the loop over the entries. -/
def initEntry
    (s : InitState)
    (i : Nat) : Option (Bool × InitState) :=
  let s :=
    { s with entries := s.entries.modify i Entry.unlink }
  (s.entries[i]?).bind fun entry =>
    if entry.level = s.n - 1 then
      if s.n = 0 then
        some (false, s)
      else
        (s.entries[s.e]?).bind fun e =>
          e.priv.top.bind fun top =>
            linkEntry { s with n := s.n - 1, e := top } i
              entry.level
    else
      linkEntry s i entry.level

def initLoop :
    List Nat → InitState → Option (Bool × List Entry)
| [], s => some (true, s.entries)
| i :: rest, s =>
    (initEntry s i).bind fun r =>
      if r.1 then
        initLoop rest r.2
      else
        some (false, r.2.entries)

def emfatInitEntries
    (entries : List Entry) : Option (Bool × List Entry) :=
  match entries with
  | [] => some (false, entries)
  | root :: _ =>
      if root.level ≠ 0 ∨ root.dir = false then
        some (false, entries)
      else
        initLoop (List.range' 1 (entries.length - 1))
          { entries := entries.modify 0 Entry.unlink,
            n := 0,
            e := 0 }

------------------------------------------------------------
-- emfat_init
------------------------------------------------------------

/- `SIZE_TO_NCLUST`, clusters of 4096 bytes. -/
def sizeToNclust (s : UInt32) : UInt32 :=
  if s = 0 then 1 else (s + 4095) / 4096

/- `SIZE_TO_NSECT`, sectors of 512 bytes. -/
def sizeToNsect (s : UInt64) : UInt64 :=
  if s = 0 then 1 else (s + 511) / 512

/- The clusters of an entry from `clust` on. -/
def Entry.place (clust : UInt32) (e : Entry) : Entry :=
  if e.dir then
    let last :=
      clust + sizeToNclust (e.priv.numSubentry * 32) - 1
    { e with
      currSize := 0,
      maxSize := 0,
      priv :=
        { e.priv with
          firstClust := clust,
          lastClust := last,
          lastReserved := last } }
  else
    { e with
      priv :=
        { e.priv with
          firstClust := clust,
          lastClust := clust + sizeToNclust e.currSize - 1,
          lastReserved := clust + sizeToNclust e.maxSize - 1 } }

/- The loop over the entries, with the next free cluster. -/
def placeAll : UInt32 → List Entry → List Entry × UInt32
| clust, [] => ([], clust)
| clust, e :: rest =>
    let e := e.place clust
    let r := placeAll (e.priv.lastReserved + 1) rest
    (e :: r.1, r.2)

/-
  `emfat_init`; a result `some none` is `false`, and leaves
  the volume as it was.
-/
def emfatInit
    (label : List UInt8)
    (entries : List Entry) : Option (Option Volume) :=
  (emfatInitEntries entries).map fun r =>
    if r.1 then
      let placed := placeAll 2 r.2
      let clust := placed.2 - 2
      let bootLba : UInt32 := 62
      let fsinfoLba := bootLba + 1
      let fat1Lba := fsinfoLba + 1
      let sectPerFat :=
        (sizeToNsect (clust.toUInt64 * 4)).toUInt32
      let fat2Lba := fat1Lba + sectPerFat
      let rootLba := fat2Lba + sectPerFat
      some
        { diskSectors := clust * 8 + rootLba,
          volLabel := label,
          bootLba := bootLba,
          fsinfoLba := fsinfoLba,
          fat1Lba := fat1Lba,
          fat2Lba := fat2Lba,
          rootLba := rootLba,
          numClust := clust,
          entries := placed.1,
          lastEntry := 0 }
    else
      none

------------------------------------------------------------
-- find_entry
------------------------------------------------------------

/- `IS_CLUST_OF`. -/
def isClustOf (clust : UInt32) (e : Entry) : Bool :=
  e.priv.firstClust ≤ clust && clust ≤ e.priv.lastReserved

/- The search from an entry back to the first one. -/
def findBackward
    (entries : List Entry)
    (clust : UInt32) : Nat → Option (Option Nat)
| 0 =>
    (entries[0]?).map fun e =>
      if isClustOf clust e then some 0 else none
| i + 1 =>
    (entries[i + 1]?).bind fun e =>
      if isClustOf clust e then
        some (some (i + 1))
      else
        findBackward entries clust i

/- The search up to the null name behind the last entry. -/
def findForward
    (clust : UInt32) : List Entry → Nat → Option Nat
| [], _ => none
| e :: rest, i =>
    if isClustOf clust e then
      some i
    else
      findForward clust rest (i + 1)

/- `find_entry`; a result `some none` is the null pointer. -/
def findEntry
    (entries : List Entry)
    (clust : UInt32)
    (nearest : Nat) : Option (Option Nat) :=
  (entries[nearest]?).bind fun e =>
    if e.priv.firstClust > clust then
      findBackward entries clust nearest
    else
      some (findForward clust (entries.drop nearest) nearest)

------------------------------------------------------------
-- System Sectors
------------------------------------------------------------

/- The low byte of an `int`. -/
def lowByte (v : Int32) : UInt8 :=
  v.toUInt32.toUInt8

/- `lba_to_chs`: the bytes `cl`, `ch` and `dh`. -/
def lbaToChs (lba : Int32) : UInt8 × UInt8 × UInt8 :=
  let sector := lba % 63 + 1
  let head := (lba / 63) % 255
  let cylinder := lba / (63 * 255)
  if cylinder ≥ 1024 then
    (0xff, 0xff, 0xff)
  else
    (lowByte (sector ||| ((cylinder &&& 0x300) >>> 2)),
      lowByte (cylinder &&& 0xFF), lowByte head)

def word32 (v : UInt32) : List UInt8 :=
  littleEndian 4 v.toNat

/- `read_mbr_sector`, field by field. -/
def mbrSector (v : Volume) : List UInt8 :=
  let start := lbaToChs v.bootLba.toInt32
  let last := lbaToChs (v.diskSectors - 1).toInt32
  List.replicate 446 0 ++
    ([0x80, start.2.2, start.1, start.2.1,
        0x0C, last.2.2, last.1, last.2.1] ++
      (word32 v.bootLba ++
        (word32 v.diskSectors ++
          (List.replicate 48 0 ++ [0x55, 0xAA]))))

/-
  `read_boot_sector`. The copy of the volume label is one
  byte too long; the file system type is written over it.
-/
def bootSector (v : Volume) : List UInt8 :=
  [0xEB, 0x58, 0x90] ++ chars "MSDOS5.0" ++
    [0x00, 0x02, 8, 2, 0, 2, 0, 0, 0, 0, 0xF8, 0, 0, 63, 0,
      0xFF, 0, 62, 0, 0, 0] ++
      (word32 (v.diskSectors - v.bootLba) ++
        (word32 (v.fat2Lba - v.fat1Lba) ++
          ([0, 0, 0, 0, 2, 0, 0, 0, 1, 0, 0, 0] ++
            (List.replicate 12 0 ++
              ([128, 0, 0x29, 148, 14, 13, 8] ++
                (chars "NO NAME    FAT32   " ++
                  (List.replicate 420 0 ++ [0x55, 0xAA])))))))

/- `read_fsinfo_sector`. -/
def fsinfoSector (v : Volume) : List UInt8 :=
  [0x52, 0x52, 0x61, 0x41] ++
    (List.replicate 480 0 ++
      ([0x72, 0x72, 0x41, 0x61] ++
        (word32 0 ++
          (word32 (v.numClust + 2) ++
            (List.replicate 14 0 ++ [0x55, 0xAA])))))

------------------------------------------------------------
-- Allocation Table
------------------------------------------------------------

def clustRootEnd : UInt32 := 0x0FFFFFF8

def clustEof : UInt32 := 0x0FFFFFFF

def clustFree : UInt32 := 0

def clustReserved : UInt32 := 1

/- The table value of a cluster of an entry. -/
def Entry.fatValue (e : Entry) (curr : UInt32) : UInt32 :=
  if e.dir then
    if curr = e.priv.lastClust then clustEof else curr + 1
  else if curr = e.priv.lastClust then
    clustEof
  else if curr > e.priv.lastClust then
    clustFree
  else
    curr + 1

/-
  The loop of `read_fat_sector` over `count` values, with the
  entry `le` of the last value.
-/
def fatValues
    (v : Volume) :
    Nat → UInt32 → Nat → Option (List UInt32 × Nat)
| 0, _, le => some ([], le)
| count + 1, curr, le =>
    (v.entries[le]?).bind fun e =>
      if isClustOf curr e then
        (fatValues v count (curr + 1) le).map fun r =>
          (e.fatValue curr :: r.1, r.2)
      else
        (findEntry v.entries curr le).bind fun found =>
          match found with
          | none =>
              (fatValues v count (curr + 1) v.lastEntry).map
                fun r => (clustReserved :: r.1, r.2)
          | some le =>
              (v.entries[le]?).bind fun e =>
                (fatValues v count (curr + 1) le).map fun r =>
                  (e.fatValue curr :: r.1, r.2)

/- `read_fat_sector`. -/
def readFatSector
    (v : Volume)
    (index : UInt32) : Option (List UInt8 × Volume) :=
  let curr := index * 128
  let values :=
    if curr = 0 then
      (fatValues v 126 (curr + 2) v.lastEntry).map fun r =>
        (clustRootEnd :: 0xFFFFFFFF :: r.1, r.2)
    else
      fatValues v 128 curr v.lastEntry
  values.map fun r =>
    (r.1.flatMap word32, { v with lastEntry := r.2 })

------------------------------------------------------------
-- Directories
------------------------------------------------------------

def attrVolLabel : UInt8 := 0x08

def attrDir : UInt8 := 0x10

def attrArchive : UInt8 := 0x20

def attrRead : UInt8 := 0x01

/- The last dot among the first characters of a name. -/
def lastDot (name : List UInt8) : Nat → Option Nat
| 0 => none
| i + 1 =>
    if name[i]? = some 0x2E then some i else lastDot name i

/- A part of a name, filled up with blanks. -/
def blankFilled (n : Nat) (part : List UInt8) : List UInt8 :=
  part ++ List.replicate (n - part.length) 0x20

/- The fields `name` and `extn` before the conversion. -/
def shortName (name : List UInt8) (attr : UInt8) :
    List UInt8 :=
  let dotPos :=
    if attr &&& attrDir = 0 then
      lastDot name name.length
    else
      none
  match dotPos with
  | none => blankFilled 8 (name.take 8) ++ blankFilled 3 []
  | some dot =>
      blankFilled 8 (name.take (min dot 8)) ++
        blankFilled 3 ((name.drop (dot + 1)).take 3)

def upperCase (c : UInt8) : UInt8 :=
  if 0x61 ≤ c && c ≤ 0x7A then c - 0x20 else c

def word16 (v : UInt16) : List UInt8 :=
  littleEndian 2 v.toNat

/- The two halves of a time stamp. -/
def highHalf (v : UInt32) : UInt16 :=
  (v >>> 16).toUInt16

def lowHalf (v : UInt32) : UInt16 :=
  v.toUInt16

/- `fill_entry`, field by field. -/
def fillEntry
    (name : List UInt8)
    (attr : UInt8)
    (clust : UInt32)
    (cma : Option (Fin 3 → UInt32))
    (size : UInt32) : List UInt8 :=
  let stamp (k : Fin 3) := (cma.map fun t => t k).getD 0
  (shortName name attr).map upperCase ++
    ([attr, 24, 0] ++
      (word16 (lowHalf (stamp 0)) ++
        (word16 (highHalf (stamp 0)) ++
          (word16 (highHalf (stamp 2)) ++
            (word16 (highHalf clust) ++
              (word16 (lowHalf (stamp 1)) ++
                (word16 (highHalf (stamp 1)) ++
                  (word16 (lowHalf clust) ++
                    word32 size))))))))

/- The record of an entry in the directory above it. -/
def Entry.dirRecord (e : Entry) : List UInt8 :=
  if e.dir then
    fillEntry e.name (attrDir ||| attrRead) e.priv.firstClust
      (some e.cmaTime) 0
  else
    fillEntry e.name (attrArchive ||| attrRead)
      e.priv.firstClust (some e.cmaTime) e.currSize

/- The records of neighbours while there is room for one. -/
def listEntries
    (entries : List Entry) :
    Nat → Option Nat → Option (List (List UInt8))
| 0, _ => some []
| _ + 1, none => some []
| avail + 1, some i =>
    (entries[i]?).bind fun e =>
      (listEntries entries avail e.priv.next).map
        (e.dirRecord :: ·)

/- Skip up to `n` neighbours. -/
def skipEntries
    (entries : List Entry) :
    Nat → Option Nat → Option (Option Nat)
| 0, entry => some entry
| _ + 1, none => some none
| n + 1, some i =>
    (entries[i]?).bind fun e =>
      skipEntries entries n e.priv.next

/- The records before the first neighbour. -/
def headRecords
    (v : Volume)
    (entry : Entry) : Option (List (List UInt8)) :=
  match entry.priv.top with
  | none =>
      some [fillEntry v.volLabel attrVolLabel 0 none 0]
  | some top =>
      (v.entries[top]?).map fun above =>
        [fillEntry (chars ".") (attrDir ||| attrRead)
            entry.priv.firstClust none 0,
          fillEntry (chars "..") (attrDir ||| attrRead)
            above.priv.firstClust none 0]

/- `fill_dir_sector`. -/
def fillDirSector
    (v : Volume)
    (entry : Entry)
    (relSect : Nat) : Option (List UInt8) :=
  let records :=
    if relSect = 0 then
      (headRecords v entry).bind fun head =>
        (listEntries v.entries (16 - head.length)
          entry.priv.sub).map (head ++ ·)
    else
      let n :=
        relSect * 16 - if entry.priv.top = none then 1 else 2
      (skipEntries v.entries n entry.priv.sub).bind
        (listEntries v.entries 16)
  records.map fun rs =>
    rs.flatten ++ List.replicate (512 - rs.flatten.length) 0

------------------------------------------------------------
-- emfat_read
------------------------------------------------------------

/- What is read behind the last entry. -/
def fillerSector : List UInt8 :=
  (List.replicate 128 (word32 0xEFBEADDE)).flatten

/- The sector of an entry in its cluster. -/
def readEntrySector
    (v : Volume)
    (mem : HostMemory)
    (data : Nat)
    (le : Entry)
    (cluster relSect : UInt32) : Option HostMemory :=
  if le.dir then
    (fillDirSector v le relSect.toNat).map fun sector =>
      ByteCopy.store data sector mem
  else
    match le.readcb with
    | none =>
        some (ByteCopy.store data (List.replicate 512 0) mem)
    | some readcb =>
        let offset := cluster - le.priv.firstClust
        let offset := offset * 4096 + relSect * 512
        readcb mem data 512 (offset + le.offset)

/- `read_data_sector`. -/
def readDataSector
    (v : Volume)
    (mem : HostMemory)
    (data : Nat)
    (relSect : UInt32) : Option (HostMemory × Volume) :=
  let cluster := relSect / 8 + 2
  let relSect := relSect % 8
  (v.entries[v.lastEntry]?).bind fun le =>
    if isClustOf cluster le then
      (readEntrySector v mem data le cluster relSect).map
        fun mem => (mem, v)
    else
      (findEntry v.entries cluster v.lastEntry).bind fun found =>
        match found with
        | none =>
            some (ByteCopy.store data fillerSector mem, v)
        | some i =>
            let v := { v with lastEntry := i }
            (v.entries[i]?).bind fun le =>
              (readEntrySector v mem data le cluster
                relSect).map fun mem => (mem, v)

/- The body of the loop of `emfat_read`. -/
def readSector
    (v : Volume)
    (mem : HostMemory)
    (data : Nat)
    (sector : UInt32) : Option (HostMemory × Volume) :=
  if sector ≥ v.rootLba then
    readDataSector v mem data (sector - v.rootLba)
  else if sector = 0 then
    some (ByteCopy.store data (mbrSector v) mem, v)
  else if sector = v.fsinfoLba then
    some (ByteCopy.store data (fsinfoSector v) mem, v)
  else if sector = v.bootLba then
    some (ByteCopy.store data (bootSector v) mem, v)
  else if v.fat1Lba ≤ sector ∧ sector < v.fat2Lba then
    (readFatSector v (sector - v.fat1Lba)).map fun r =>
      (ByteCopy.store data r.1 mem, r.2)
  else if v.fat2Lba ≤ sector ∧ sector < v.rootLba then
    (readFatSector v (sector - v.fat2Lba)).map fun r =>
      (ByteCopy.store data r.1 mem, r.2)
  else
    some (ByteCopy.store data (List.replicate 512 0) mem, v)

def readSectors :
    Nat → Volume → HostMemory → Nat → UInt32 →
      Option (HostMemory × Volume)
| 0, v, mem, _, _ => some (mem, v)
| n + 1, v, mem, data, sector =>
    (readSector v mem data sector).bind fun r =>
      readSectors n r.2 r.1 (data + 512) (sector + 1)

/- `emfat_read`; nothing is read for a count below one. -/
def emfatRead
    (v : Volume)
    (mem : HostMemory)
    (data : Nat)
    (sector : UInt32)
    (numSectors : Int32) : Option (HostMemory × Volume) :=
  readSectors numSectors.toInt.toNat v mem data sector

end Emfat

end TemperatureSensor
