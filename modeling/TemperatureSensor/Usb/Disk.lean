import TemperatureSensor.Foundations.EventSystem
import TemperatureSensor.Usb.HostDirectory

/-
  The disk driver over the volume and its use by a host. The
  host reads sectors in any order and as often as it likes,
  and what it tries to write is dropped; whatever it has read
  of the disk shows the files of the table.

  Main declarations:
    * `hostStep`
    * `DiskTable`
    * `hostRun_faithful`
    * `Readable.readPath_eq`
-/

------------------------------------------------------------
-- Disk Driver
------------------------------------------------------------

namespace TemperatureSensor

namespace Emfat

open DepthSequence Fat32

def diskEmfatAccessRead
    (v : Volume)
    (mem : HostMemory)
    (buff : Nat)
    (sector count : UInt32) : Option (HostMemory × Volume) :=
  emfatRead v mem buff sector count.toInt32

/- `EMFATDISK_VOLUME_SIZE / EMFATDISK_SECTOR_SIZE`. -/
def emfatdiskSectors : UInt32 := 2048

/- The result is 0, or `-EINVAL` for an unknown command. -/
def diskEmfatAccessIoctl
    (mem : HostMemory)
    (cmd : UInt8)
    (buff : Nat) : HostMemory × Int :=
  if cmd = 1 then
    (ByteCopy.store buff (word32 emfatdiskSectors) mem, 0)
  else if cmd = 2 then
    (ByteCopy.store buff (word32 512) mem, 0)
  else if cmd = 4 then
    (ByteCopy.store buff (word32 1) mem, 0)
  else if cmd = 5 then
    (mem, 0)
  else
    (mem, -22)

------------------------------------------------------------
-- Hosts
------------------------------------------------------------

structure DiskState where
  volume : Volume
  mem : HostMemory

/-
  What reaches the disk: the three operations, and changes of
  the buffers by the rest of the program.
-/
inductive HostAction where
  | read (buff : Nat) (sector count : UInt32)
  | write (buff : Nat) (sector count : UInt32)
  | ioctl (cmd : UInt8) (buff : Nat)
  | change (mem : HostMemory)

/- The sectors in a buffer, with their numbers. -/
def deliveredSectors
    (mem : HostMemory)
    (buff : Nat)
    (sector count : UInt32) : List (UInt32 × List UInt8) :=
  (List.range count.toInt32.toInt.toNat).map fun k =>
    (sector + UInt32.ofNat k,
      ByteCopy.load (buff + 512 * k) 512 mem)

/- `disk_emfat_access_write` returns 0 and does nothing. -/
def hostStep (s : DiskState) :
    HostAction →
      Option (DiskState × Option (List (UInt32 × List UInt8)))
| .read buff sector count =>
    (diskEmfatAccessRead s.volume s.mem buff sector count).map
      fun r =>
        ({ volume := r.2, mem := r.1 },
          some (deliveredSectors r.1 buff sector count))
| .write _ _ _ => some (s, none)
| .ioctl cmd buff =>
    some
      ({ s with mem := (diskEmfatAccessIoctl s.mem cmd buff).1 },
        none)
| .change mem => some ({ s with mem := mem }, none)

/- The sectors that were delivered are those of the volume. -/
def Faithful
    (v : Volume)
    (content : Nat → List UInt8)
    (sectors : List (UInt32 × List UInt8)) : Prop :=
  ∀ p ∈ sectors,
    sectorOf v content p.1 <+: p.2 ∧ p.2.length = 512

variable {content : Nat → List UInt8}

theorem hostStep_faithful
    {s : DiskState}
    (hReady : Ready s.volume content)
    (a : HostAction) :
    ∃ s' event, hostStep s a = some (s', event) ∧
      (∃ i, i < s.volume.entries.length ∧
        s'.volume = s.volume.hinted i) ∧
        ∀ sectors, event = some sectors →
          Faithful s.volume content sectors := by
  have hHint := hReady.formatted.hint
  cases a with
  | read buff sector count =>
      rcases emfatRead_eq hReady s.mem buff sector
          count.toInt32 with
        ⟨i, mem', hInside, hRead, hBlocks, -⟩
      have hStep :
          hostStep s (.read buff sector count) =
            some
              ({ volume := s.volume.hinted i, mem := mem' },
                some
                  (deliveredSectors mem' buff sector count)) := by
        unfold hostStep diskEmfatAccessRead
        dsimp only
        rw [hRead]
        rfl
      refine ⟨_, _, hStep, ⟨i, hInside, rfl⟩, ?_⟩
      rintro sectors hEvent
      cases hEvent
      intro p hMember
      rcases List.mem_map.mp hMember with ⟨k, hK, rfl⟩
      dsimp only
      refine ⟨hBlocks k (List.mem_range.mp hK), ?_⟩
      rw [ByteCopy.length_load]
  | write buff sector count =>
      refine ⟨_, _, rfl, ⟨s.volume.lastEntry, hHint, rfl⟩, ?_⟩
      intro sectors hEvent
      cases hEvent
  | ioctl cmd buff =>
      refine ⟨_, _, rfl, ⟨s.volume.lastEntry, hHint, rfl⟩, ?_⟩
      intro sectors hEvent
      cases hEvent
  | change mem =>
      refine ⟨_, _, rfl, ⟨s.volume.lastEntry, hHint, rfl⟩, ?_⟩
      intro sectors hEvent
      cases hEvent

/- Every run goes through, and delivers what is there. -/
theorem hostRun_faithful
    {s : DiskState}
    (hReady : Ready s.volume content)
    (actions : List HostAction) :
    ∃ s' events,
      EventSystem.run hostStep s actions = some (s', events) ∧
        ∀ sectors ∈ events,
          Faithful s.volume content sectors := by
  induction actions generalizing s with
  | nil =>
      refine ⟨s, [], rfl, ?_⟩
      intro sectors hMember
      cases hMember
  | cons a actions ih =>
      rcases hostStep_faithful hReady a with
        ⟨t, event, hStep, ⟨i, hInside, hVolume⟩, hFirst⟩
      have hNext : Ready t.volume content := by
        rw [hVolume]
        exact hReady.hinted hInside
      rcases ih hNext with ⟨s', events, hRun, hRest⟩
      refine
        ⟨s', event.toList ++ events,
          EventSystem.run_cons_eq_some.mpr
            ⟨t, event, events, hStep, hRun, rfl⟩, ?_⟩
      intro sectors hMember
      rcases List.mem_append.mp hMember with hHere | hLater
      · exact hFirst sectors (Option.mem_toList.mp hHere)
      · -- The hint does not show in the sectors.
        have hFaithful := hRest sectors hLater
        rw [hVolume] at hFaithful
        exact hFaithful

/- The sectors of a run, put together to a disk. -/
def Collected
    (v : Volume)
    (events : List (List (UInt32 × List UInt8)))
    (disk : Disk) : Prop :=
  ∀ s, s < v.diskSectors.toNat →
    ∃ sectors ∈ events, (UInt32.ofNat s, disk s) ∈ sectors

theorem Collected.shows
    {v : Volume}
    {events : List (List (UInt32 × List UInt8))}
    {disk : Disk}
    (hCollected : Collected v events disk)
    (hFaithful :
      ∀ sectors ∈ events, Faithful v content sectors) :
    Shows v content disk := by
  intro s hInside
  rcases hCollected s hInside with ⟨sectors, hMember, hSector⟩
  exact hFaithful sectors hMember _ hSector

------------------------------------------------------------
-- Tables of Files
------------------------------------------------------------

/-
  What a table has to fulfil for its files to be read: room in
  the allocation table and in each directory, usable names,
  and callbacks that serve the contents of the files.
-/
structure DiskTable
    (label : List UInt8)
    (entries : List Entry)
    (content : Nat → List UInt8) : Prop where
  table : Table entries
  covered :
    totalClusters entries % 128 ≠ 0 ∧
      totalClusters entries % 128 ≠ 127
  label : IsName label
  names : ∀ e ∈ entries, IsName e.name
  fits :
    ∀ i e, entries[i]? = some e → e.dir = true →
      headCount entries i +
        (childrenOf entries i).length ≤ 128
  backed : Backed entries content
  complete : Complete entries content

variable {entries entries' : List Entry}

theorem SameStored.exists_source
    (hSame : SameStored entries entries')
    {i : Nat}
    {e' : Entry}
    (hEntry : entries'[i]? = some e') :
    ∃ e, entries[i]? = some e ∧ e'.stored = e.stored := by
  have hOther : SameStored entries' entries := Eq.symm hSame
  rcases hOther.exists_entry hEntry with ⟨e, hHere, hStored⟩
  exact ⟨e, hHere, hStored.symm⟩

/- The fields of a file in a volume are those of the table. -/
structure SameFile (e e' : Entry) : Prop where
  name : e'.name = e.name
  dir : e'.dir = e.dir
  offset : e'.offset = e.offset
  readcb : e'.readcb = e.readcb
  sizes :
    e.dir = false →
      e'.currSize = e.currSize ∧ e'.maxSize = e.maxSize

theorem sameFile_of_stored
    {e e' : Entry}
    (hStored : e'.stored = e.stored) :
    SameFile e e' := by
  have hDir : e'.dir = e.dir := by
    rw [← e'.stored_dir, hStored, Entry.stored_dir]
  unfold Entry.stored at hStored
  rw [hDir] at hStored
  cases hKind : e.dir with
  | true =>
      rw [hKind, if_pos rfl, if_pos rfl] at hStored
      unfold Entry.bare at hStored
      rw [Entry.mk.injEq] at hStored
      rcases hStored with
        ⟨hName, -, -, hOffset, -, -, -, hCallback, -⟩
      refine ⟨hName, hDir, hOffset, hCallback, ?_⟩
      rw [hKind]
      intro hFalse
      cases hFalse
  | false =>
      rw [hKind, if_neg Bool.false_ne_true,
        if_neg Bool.false_ne_true] at hStored
      unfold Entry.bare at hStored
      rw [Entry.mk.injEq] at hStored
      rcases hStored with
        ⟨hName, -, -, hOffset, hCurr, hMax, -, hCallback, -⟩
      exact
        ⟨hName, hDir, hOffset, hCallback, fun _ => ⟨hCurr, hMax⟩⟩

theorem SameStored.sameFile
    (hSame : SameStored entries entries')
    {i : Nat}
    {e e' : Entry}
    (hEntry : entries[i]? = some e)
    (hHere : entries'[i]? = some e') :
    SameFile e e' := by
  rcases hSame.exists_entry hEntry with ⟨e'', hThere, hStored⟩
  rw [hHere] at hThere
  cases hThere
  exact sameFile_of_stored hStored

theorem Backed.stored
    (hBacked : Backed entries content)
    (hSame : SameStored entries entries') :
    Backed entries' content := by
  intro i e' hEntry hFile p hCallback
  rcases hSame.exists_source hEntry with ⟨e, hHere, hStored⟩
  have hFields := sameFile_of_stored hStored
  rw [hFields.dir] at hFile
  rw [hFields.readcb] at hCallback
  rw [hFields.offset, (hFields.sizes hFile).2]
  exact hBacked i e hHere hFile p hCallback

theorem Complete.stored
    (hComplete : Complete entries content)
    (hSame : SameStored entries entries') :
    Complete entries' content := by
  intro i e' hEntry hFile hCallback
  rcases hSame.exists_source hEntry with ⟨e, hHere, hStored⟩
  have hFields := sameFile_of_stored hStored
  rw [hFields.dir] at hFile
  rw [hFields.readcb] at hCallback
  rw [hFields.offset, (hFields.sizes hFile).1]
  exact hComplete i e hHere hFile hCallback

theorem SameStored.getElem?_eq_none
    (hSame : SameStored entries entries')
    {k : Nat}
    (hNone : entries[k]? = none) :
    entries'[k]? = none := by
  rwa [List.getElem?_eq_none_iff, hSame.length_eq,
    ← List.getElem?_eq_none_iff]

theorem SameStored.parentOf_eq
    (hSame : SameStored entries entries')
    (i : Nat) :
    parentOf entries' i = parentOf entries i := by
  unfold parentOf
  rw [hSame.levelAt_eq]

theorem SameStored.headCount_eq
    (hSame : SameStored entries entries')
    (i : Nat) :
    headCount entries' i = headCount entries i := by
  unfold headCount
  rw [hSame.parentOf_eq]

theorem SameStored.names
    (hSame : SameStored entries entries')
    (hNames : ∀ e ∈ entries, IsName e.name) :
    ∀ e ∈ entries', IsName e.name := by
  intro e' hMember
  rcases List.getElem?_of_mem hMember with ⟨i, hEntry⟩
  rcases hSame.exists_source hEntry with ⟨e, hHere, hStored⟩
  rw [(sameFile_of_stored hStored).name]
  exact hNames e (List.mem_of_getElem? hHere)

theorem SameStored.shownAt_eq
    (hSame : SameStored entries entries')
    (k : Nat) :
    shownAt entries' k = shownAt entries k := by
  cases hEntry : entries[k]? with
  | none =>
      unfold shownAt
      rw [hEntry, hSame.getElem?_eq_none hEntry]
  | some e =>
      rcases hSame.exists_entry hEntry with
        ⟨e', hHere, hStored⟩
      have hFields := sameFile_of_stored hStored
      rw [Emfat.shownAt_eq hEntry, Emfat.shownAt_eq hHere]
      unfold Entry.shown Entry.attr
      rw [hFields.name, hFields.dir]

theorem SameStored.step_eq
    (hSame : SameStored entries entries')
    (i : Nat)
    (name : List UInt8) :
    step entries' i name = step entries i name := by
  unfold step childNamed
  rw [hSame.parentOf_eq, hSame.childrenOf_eq]
  simp only [hSame.shownAt_eq]

/- The paths of the volume are the paths of the table. -/
theorem SameStored.lookup_eq
    (hSame : SameStored entries entries')
    (path : List (List UInt8))
    (i : Nat) :
    lookup entries' content path i =
      lookup entries content path i := by
  induction path generalizing i with
  | nil => rfl
  | cons name path ih =>
      cases path with
      | nil =>
          unfold lookup
          rw [hSame.step_eq]
          congr 1
          funext k
          cases hEntry : entries[k]? with
          | none =>
              rw [hSame.getElem?_eq_none hEntry]
          | some e =>
              rcases hSame.exists_entry hEntry with
                ⟨e', hHere, hStored⟩
              have hFields := sameFile_of_stored hStored
              rw [hHere, Option.bind_some, Option.bind_some,
                hFields.dir]
              split
              · rfl
              · next hFile =>
                  have hSizes :=
                    hFields.sizes (Bool.eq_false_iff.mpr hFile)
                  unfold fileBytes
                  rw [hFields.readcb, hFields.offset, hSizes.1]
      | cons name' path =>
          unfold lookup
          rw [hSame.step_eq]
          congr 1
          funext k
          cases hEntry : entries[k]? with
          | none =>
              rw [hSame.getElem?_eq_none hEntry]
              rfl
          | some e =>
              rcases hSame.exists_entry hEntry with
                ⟨e', hHere, hStored⟩
              have hFields := sameFile_of_stored hStored
              rw [hHere, Option.bind_some, Option.bind_some,
                hFields.dir, ih k]

/- A volume on which a host finds the files of a table. -/
structure Readable
    (entries : List Entry)
    (content : Nat → List UInt8)
    (v : Volume) : Prop where
  ready : Ready v content
  complete : Complete v.entries content
  named : Named v
  covered : Covered v
  same : SameStored entries v.entries
  fits :
    ∀ i e, v.entries[i]? = some e → e.dir = true →
      (dirRecords v i e).length ≤ 128

theorem DiskTable.readable
    {label : List UInt8}
    (hTable : DiskTable label entries content) :
    ∃ v, emfatInit label entries = some (some v) ∧
      Readable entries content v ∧
        v.numClust.toNat = totalClusters entries := by
  rcases emfatInit_formatted hTable.table label with
    ⟨v, hInit, hFormatted, hSame, hLabel, hClusters⟩
  refine ⟨v, hInit, ?_, hClusters⟩
  constructor
  case ready =>
    exact ⟨hFormatted, hTable.backed.stored hSame⟩
  case complete => exact hTable.complete.stored hSame
  case named =>
    refine ⟨by rw [hLabel]; exact hTable.label, ?_⟩
    exact hSame.names hTable.names
  case covered =>
    rw [covered_iff hFormatted, hClusters]
    exact hTable.covered
  case same => exact hSame
  case fits =>
    intro i e' hEntry hDir
    rcases hSame.exists_source hEntry with ⟨e, hHere, hStored⟩
    rw [(sameFile_of_stored hStored).dir] at hDir
    rw [length_dirRecords hFormatted.linked hEntry,
      hSame.childrenOf_eq, hSame.headCount_eq]
    exact hTable.fits i e hHere hDir

/- The root directory begins with the first cluster. -/
theorem Formatted.exists_root
    {v : Volume}
    (hFormatted : Formatted v) :
    ∃ e, v.entries[0]? = some e ∧ e.dir = true ∧
      firstOf e = 2 := by
  rcases hFormatted.order.root with ⟨e, hHead, -, hDir⟩
  have hTiles := hFormatted.tiles
  refine ⟨e, by rw [← List.head?_eq_getElem?]; exact hHead,
    hDir, ?_⟩
  cases hEntries : v.entries with
  | nil =>
      rw [hEntries] at hHead
      cases hHead
  | cons root rest =>
      rw [hEntries] at hHead hTiles
      cases hHead
      exact hTiles.1

/- Every path from the root leads where the table says. -/
theorem Readable.readPath_eq
    {v : Volume}
    (hReadable : Readable entries content v)
    {disk : Disk}
    (hShows : Shows v content disk) :
    mount disk = some (geometryOf v) ∧
      ∀ path, readPath disk (geometryOf v) path 2 =
        lookup entries content path 0 := by
  have hFormatted := hReadable.ready.formatted
  rcases hFormatted.exists_root with
    ⟨root, hRoot, hDir, hFirst⟩
  refine ⟨mount_eq hFormatted hShows, ?_⟩
  intro path
  rw [← hFirst,
    readPath_eq_lookup hReadable.ready hReadable.complete
      hReadable.named hShows hReadable.covered hReadable.fits
      path hRoot hDir,
    hReadable.same.lookup_eq]

end Emfat

end TemperatureSensor
