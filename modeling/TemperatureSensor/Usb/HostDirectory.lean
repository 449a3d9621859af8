import TemperatureSensor.Usb.HostView
import Mathlib.Data.List.Find

/-
  Directories and paths as a host reads them: what a record
  says about its entry, what a directory lists, and where the
  paths from the root lead.

  Main declarations:
    * `dirEntry_fillEntry`
    * `directory_eq`
    * `lookup`
    * `readPath_eq_lookup`
-/

------------------------------------------------------------
-- Records
------------------------------------------------------------

namespace TemperatureSensor

namespace Emfat

open ByteLayout DepthSequence Fat32

theorem toNat_halves
    (v : UInt32) :
    (highHalf v).toNat * 65536 + (lowHalf v).toNat = v.toNat := by
  have hWide := v.toNat_lt
  unfold highHalf lowHalf
  rw [UInt32.toNat_toUInt16, UInt32.toNat_toUInt16,
    UInt32.toNat_shiftRight, Nat.shiftRight_eq_div_pow]
  change v.toNat / 65536 % 65536 * 65536 + v.toNat % 65536 = _
  omega

theorem field_skip
    {before : List UInt8}
    {m : Nat}
    (hBefore : before.length = m)
    (offset n : Nat)
    (after : List UInt8) :
    field (offset + m) n (before ++ after) =
      field offset n after := by
  rw [field_append_right (by omega), hBefore,
    Nat.add_sub_cancel]

theorem field_word16
    (v : UInt16)
    (after : List UInt8) :
    field 0 2 (word16 v ++ after) = v.toNat :=
  field_append List.length_nil v.toNat_lt after

theorem field_word32
    (v : UInt32)
    (after : List UInt8) :
    field 0 4 (word32 v ++ after) = v.toNat :=
  field_append List.length_nil v.toNat_lt after

/- A reader finds in a record what was filled in. -/
theorem dirEntry_fillEntry
    (name : List UInt8)
    (attr : UInt8)
    (clust : UInt32)
    (cma : Option (Fin 3 → UInt32))
    (size : UInt32) :
    dirEntry (fillEntry name attr clust cma size) =
      { name := (shortName name attr).map upperCase,
        attr := attr.toNat,
        cluster := clust.toNat,
        size := size.toNat } := by
  have hName :
      ((shortName name attr).map upperCase).length = 11 := by
    rw [List.length_map, length_shortName]
  have hThree : [attr, 24, 0].length = 3 := rfl
  have hTwo := length_word16
  unfold dirEntry fillEntry
  dsimp only
  congr 1
  · exact List.take_left' hName
  · rw [field_skip hName 0]
    rfl
  · rw [field_skip hName 9, field_skip hThree 6,
      field_skip (hTwo _) 4, field_skip (hTwo _) 2,
      field_skip (hTwo _) 0, field_word16,
      field_skip hName 15, field_skip hThree 12,
      field_skip (hTwo _) 10, field_skip (hTwo _) 8,
      field_skip (hTwo _) 6, field_skip (hTwo _) 4,
      field_skip (hTwo _) 2, field_skip (hTwo _) 0,
      field_word16, toNat_halves]
  · rw [field_skip hName 17, field_skip hThree 14,
      field_skip (hTwo _) 12, field_skip (hTwo _) 10,
      field_skip (hTwo _) 8, field_skip (hTwo _) 6,
      field_skip (hTwo _) 4, field_skip (hTwo _) 2,
      field_skip (hTwo _) 0,
      ← List.append_nil (word32 size), field_word32]

/- A name that does not look like a free or deleted record. -/
def IsName (name : List UInt8) : Prop :=
  name.head? ≠ some 0 ∧ name.head? ≠ some 0xE5

/- Only letters are changed, and they become letters. -/
theorem eq_of_upperCase
    {c d : UInt8}
    (hSame : upperCase c = d)
    (hOther : d.toNat < 0x41 ∨ 0x5A < d.toNat) :
    c = d := by
  unfold upperCase at hSame
  split at hSame
  · next hLetter =>
      rw [Bool.and_eq_true, decide_eq_true_iff,
        decide_eq_true_iff, UInt8.le_iff_toNat_le,
        UInt8.le_iff_toNat_le] at hLetter
      rcases hLetter with ⟨hFrom, hTo⟩
      have hDifference : (c - 0x20).toNat = c.toNat - 0x20 :=
        UInt8.toNat_sub_of_le _ _
          (UInt8.le_iff_toNat_le.mpr
            (le_trans (by decide) hFrom))
      rw [hSame] at hDifference
      change 0x61 ≤ c.toNat at hFrom
      change c.toNat ≤ 0x7A at hTo
      omega
  · exact hSame

theorem head?_blankFilled
    (n : Nat)
    (part after : List UInt8) :
    (blankFilled (n + 1) part ++ after).head? =
      some (part.head?.getD 0x20) := by
  cases part with
  | nil => rfl
  | cons c rest => rfl

/- A short name begins like the name, or with a blank. -/
theorem head?_shortName
    (name : List UInt8)
    (attr : UInt8) :
    (shortName name attr).head? =
        some (name.head?.getD 0x20) ∨
      (shortName name attr).head? = some 0x20 := by
  unfold shortName
  dsimp only
  split
  · left
    rw [head?_blankFilled 7, List.head?_take]
    rfl
  · next dot _ =>
      rw [head?_blankFilled 7, List.head?_take]
      cases dot with
      | zero => exact Or.inr rfl
      | succ dot =>
          left
          rw [if_neg (by omega)]

/- Records of named entries are used and not deleted. -/
theorem isRecord_fillEntry
    {name : List UInt8}
    (hName : IsName name)
    (attr : UInt8)
    (clust : UInt32)
    (cma : Option (Fin 3 → UInt32))
    (size : UInt32) :
    IsRecord (fillEntry name attr clust cma size) := by
  have hFirst :
      ∃ c, (fillEntry name attr clust cma size).head? =
          some (upperCase c) ∧ c ≠ 0 ∧ c ≠ 0xE5 := by
    have hHead :
        (fillEntry name attr clust cma size).head? =
          (shortName name attr).head?.map upperCase := by
      unfold fillEntry
      dsimp only
      rw [List.head?_append_of_ne_nil, List.head?_map]
      intro hNil
      have hLength := congrArg List.length hNil
      rw [List.length_map, length_shortName] at hLength
      cases hLength
    rw [hHead]
    rcases head?_shortName name attr with hSame | hBlank
    · refine ⟨_, by rw [hSame]; rfl, ?_⟩
      rcases hName with ⟨hUsed, hKept⟩
      cases hFirst : name.head? with
      | none => exact ⟨by decide, by decide⟩
      | some c =>
          rw [hFirst] at hUsed hKept
          exact
            ⟨fun hZero => hUsed (congrArg some hZero),
              fun hDeleted => hKept (congrArg some hDeleted)⟩
    · exact ⟨_, by rw [hBlank]; rfl, by decide, by decide⟩
  rcases hFirst with ⟨c, hHead, hZero, hDeleted⟩
  constructor
  case length_eq => exact length_fillEntry _ _ _ _ _
  case used =>
    rw [hHead]
    intro hSame
    exact
      hZero
        (eq_of_upperCase (Option.some_inj.mp hSame)
          (Or.inl (by decide)))
  case kept =>
    rw [hHead]
    intro hSame
    exact
      hDeleted
        (eq_of_upperCase (Option.some_inj.mp hSame)
          (Or.inr (by decide)))

------------------------------------------------------------
-- Directories
------------------------------------------------------------

/- The names of a volume can stand in its directories. -/
structure Named (v : Volume) : Prop where
  label : IsName v.volLabel
  names : ∀ e ∈ v.entries, IsName e.name

variable {v : Volume}
variable {content : Nat → List UInt8}
variable {disk : Disk}

theorem dirRecord_isRecord
    {e : Entry}
    (hName : IsName e.name) :
    IsRecord e.dirRecord := by
  unfold Entry.dirRecord
  split
  · exact isRecord_fillEntry hName _ _ _ _
  · exact isRecord_fillEntry hName _ _ _ _

theorem dirRecords_isRecord
    (hNamed : Named v)
    {i : Nat}
    {e : Entry}
    {r : List UInt8}
    (hMember : r ∈ dirRecords v i e) :
    IsRecord r := by
  have hDot : IsName (chars ".") := ⟨by decide, by decide⟩
  have hDots : IsName (chars "..") := ⟨by decide, by decide⟩
  unfold dirRecords at hMember
  rcases List.mem_append.mp hMember with hHead | hChild
  · unfold headRecords at hHead
    split at hHead
    · rw [Option.getD_some, List.mem_singleton] at hHead
      rw [hHead]
      exact isRecord_fillEntry hNamed.label _ _ _ _
    · next p _ =>
        cases hAbove : v.entries[p]? with
        | none =>
            rw [hAbove] at hHead
            cases hHead
        | some above =>
            rw [hAbove, Option.map_some, Option.getD_some,
              List.mem_cons, List.mem_singleton] at hHead
            rcases hHead with rfl | rfl
            · exact isRecord_fillEntry hDot _ _ _ _
            · exact isRecord_fillEntry hDots _ _ _ _
  · rcases List.mem_map.mp hChild with ⟨k, hK, rfl⟩
    have hInside := (mem_childrenOf.mp hK).1
    unfold recordAt
    rw [List.getElem?_eq_getElem hInside]
    exact
      dirRecord_isRecord
        (hNamed.names _ (List.getElem_mem hInside))

/- The records in the sectors of a cluster, and zeros. -/
def clusterRecords
    (records : List (List UInt8)) : List (List UInt8) :=
  records.take 128 ++
    List.replicate (128 - records.length)
      (List.replicate 32 0)

theorem length_clusterRecords
    (records : List (List UInt8)) :
    (clusterRecords records).length = 16 * 8 := by
  unfold clusterRecords
  rw [List.length_append, List.length_take,
    List.length_replicate]
  omega

/- A sector of records is a piece of its cluster. -/
theorem recordSector_eq
    {records : List (List UInt8)}
    (hSize : ∀ r ∈ records, r.length = 32)
    {k : Nat}
    (hInside : k < 8) :
    recordSector records k =
      (((clusterRecords records).drop (16 * k)).take
        16).flatten := by
  have hHere :
      ((records.drop (16 * k)).take 16).length =
        min 16 (records.length - 16 * k) := by
    rw [List.length_take, List.length_drop]
  have hBytes :
      (((records.drop (16 * k)).take 16).flatten).length =
        32 * min 16 (records.length - 16 * k) := by
    rw [length_flatten (m := 32), hHere]
    intro r hMember
    exact
      hSize r
        (List.mem_of_mem_drop (List.mem_of_mem_take hMember))
  have hTaken :
      ((records.take 128).drop (16 * k)).take 16 =
        (records.drop (16 * k)).take 16 := by
    rw [List.drop_take, List.take_take]
    congr 1
    omega
  have hLengthTaken :
      ((records.take 128).drop (16 * k)).length =
        min 128 records.length - 16 * k := by
    rw [List.length_drop, List.length_take]
  unfold recordSector clusterRecords
  dsimp only
  rw [hBytes, List.drop_append, List.take_append, hTaken,
    hLengthTaken, List.length_take, List.drop_replicate,
    List.take_replicate, List.flatten_append,
    List.flatten_replicate_replicate]
  congr 2
  omega

theorem flatten_recordSectors
    {records : List (List UInt8)}
    (hSize : ∀ r ∈ records, r.length = 32) :
    ((List.range 8).map (recordSector records)).flatten =
      (clusterRecords records).flatten := by
  have hSectors :
      (List.range 8).map (recordSector records) =
        (blocks 16 8 (clusterRecords records)).map
          List.flatten := by
    unfold blocks
    rw [List.map_map]
    apply List.map_congr_left
    intro k hMember
    exact recordSector_eq hSize (List.mem_range.mp hMember)
  rw [hSectors, ← List.flatten_flatten,
    flatten_blocks (length_clusterRecords records)]

/- The sectors of every cluster are the same. -/
theorem flatten_clusters
    (sector : Nat → List UInt8)
    (n : Nat) :
    ((List.range (8 * n)).map fun k =>
        sector (k % 8)).flatten =
      (List.replicate n
        ((List.range 8).map sector).flatten).flatten := by
  induction n with
  | zero => rfl
  | succ n ih =>
      have hLast :
          ((List.range 8).map (8 * n + ·)).map
              (fun k => sector (k % 8)) =
            (List.range 8).map sector := by
        rw [List.map_map]
        apply List.map_congr_left
        intro k hMember
        rw [List.mem_range] at hMember
        rw [Function.comp_apply]
        congr 1
        omega
      rw [Nat.mul_succ, List.range_add, List.map_append,
        List.flatten_append, ih, hLast,
        List.replicate_succ', List.flatten_append,
        List.flatten_singleton]

/- The sectors of a directory, as they lie on the disk. -/
theorem stream_dir
    (hFormatted : Formatted v)
    (hShows : Shows v content disk)
    (hCovered : Covered v)
    {i : Nat}
    {e : Entry}
    (hEntry : v.entries[i]? = some e)
    (hDir : e.dir = true) :
    stream disk (geometryOf v) (firstOf e) =
      some
        (List.replicate e.used
          (clusterRecords
            (dirRecords v i e)).flatten).flatten := by
  rw [stream_eq hFormatted hShows hCovered hEntry,
    ← flatten_recordSectors fun _ => length_of_mem_dirRecords,
    ← flatten_clusters]
  congr 2
  apply List.map_congr_left
  intro k hMember
  rw [List.mem_range] at hMember
  rcases sectorOf_cluster content hFormatted hEntry hMember
    with ⟨hDisk, hSector⟩
  unfold entrySector at hSector
  rw [if_pos hDir] at hSector
  have hRel : (UInt32.ofNat (k % 8)).toNat = k % 8 := by
    rw [UInt32.toNat_ofNat']
    omega
  rw [hRel] at hSector
  exact
    hShows.eq_of_length hDisk hSector
      (length_recordSector (fun _ => length_of_mem_dirRecords) _)

------------------------------------------------------------
-- Listings
------------------------------------------------------------

/- The entry above another in the table. -/
def parentOf (entries : List Entry) (i : Nat) : Option Nat :=
  parent (levelAt entries) i

/- The records before the children: the label or the dots. -/
def headCount (entries : List Entry) (i : Nat) : Nat :=
  if parentOf entries i = none then 1 else 2

section Entries

variable {i : Nat}
variable {e : Entry}

theorem Linked.top_eq
    {entries : List Entry}
    (hLinked : Linked entries)
    (hEntry : entries[i]? = some e) :
    e.priv.top = parentOf entries i := by
  have hInside : i < entries.length :=
    (List.getElem?_eq_some_iff.mp hEntry).1
  have hTop := hLinked.represents.top i hInside
  rw [top_eq_of_linksOf hEntry] at hTop
  unfold parentOf
  apply Option.ext
  intro p
  exact (hTop p).trans parent_eq_some_iff.symm

theorem length_dirRecords
    (hLinked : Linked v.entries)
    (hEntry : v.entries[i]? = some e) :
    (dirRecords v i e).length =
      headCount v.entries i +
        (childrenOf v.entries i).length := by
  rcases headRecords_eq hLinked hEntry with
    ⟨head, hHead, hLength⟩
  unfold dirRecords headCount
  rw [hHead, Option.getD_some, List.length_append,
    List.length_map, hLength, hLinked.top_eq hEntry]

/- The clusters of a directory leave its head out. -/
theorem used_dir
    (hFormatted : Formatted v)
    (hEntry : v.entries[i]? = some e)
    (hDir : e.dir = true) :
    e.used =
      clustersFor
        (((childrenOf v.entries i).length - 1) * 32) := by
  have hInside : i < v.entries.length :=
    (List.getElem?_eq_some_iff.mp hEntry).1
  have hSmall := hFormatted.length_lt
  have hFew :
      (childrenOf v.entries i).length ≤ v.entries.length := by
    unfold childrenOf children
    apply (List.length_filter_le _ _).trans
    rw [List.length_range]
  have hCounted := hFormatted.linked.counted i hInside
  rw [privAt_eq hEntry] at hCounted
  unfold Entry.used
  rw [if_pos hDir, hCounted, UInt32.toNat_ofNat',
    Nat.mod_eq_of_lt]
  · rfl
  · change (childrenOf v.entries i).length - 1 < 2 ^ 32
    omega

/-
  What a host lists: the first records of the directory, once
  for each of its clusters.
-/
theorem directory_eq
    (hFormatted : Formatted v)
    (hNamed : Named v)
    (hShows : Shows v content disk)
    (hCovered : Covered v)
    (hEntry : v.entries[i]? = some e)
    (hDir : e.dir = true) :
    directory disk (geometryOf v) (firstOf e) =
      some
        (List.replicate e.used
          (((dirRecords v i e).take 128).map
            dirEntry)).flatten := by
  have hLength := length_dirRecords hFormatted.linked hEntry
  have hUsed := used_dir hFormatted hEntry hDir
  unfold directory
  rw [stream_dir hFormatted hShows hCovered hEntry hDir,
    Option.map_some, Option.some_inj]
  by_cases hFits : (dirRecords v i e).length ≤ 128
  · have hOne : e.used = 1 := by
      have hHead : 1 ≤ headCount v.entries i := by
        unfold headCount
        split <;> omega
      rw [hUsed]
      unfold clustersFor
      omega
    unfold clusterRecords
    rw [hOne, List.replicate_one, List.replicate_one,
      List.flatten_singleton, List.flatten_singleton,
      List.take_of_length_le hFits]
    exact
      records_flatten (fun _ => dirRecords_isRecord hNamed) _
  · have hFull :
        clusterRecords (dirRecords v i e) =
          (dirRecords v i e).take 128 := by
      unfold clusterRecords
      rw [Nat.sub_eq_zero_of_le (by omega),
        List.replicate_zero, List.append_nil]
    have hMembers :
        ∀ r ∈
          (List.replicate e.used
            ((dirRecords v i e).take 128)).flatten,
          IsRecord r := by
      intro r hMember
      rcases List.mem_flatten.mp hMember with
        ⟨rs, hBlock, hIn⟩
      rw [List.eq_of_mem_replicate hBlock] at hIn
      exact dirRecords_isRecord hNamed (List.mem_of_mem_take hIn)
    have hList := records_flatten hMembers 0
    rw [List.replicate_zero, List.append_nil,
      List.flatten_flatten, List.map_replicate,
      List.map_flatten, List.map_replicate] at hList
    rw [hFull, hList]

/- A listing of the whole directory needs one cluster. -/
theorem directory_of_fits
    (hFormatted : Formatted v)
    (hNamed : Named v)
    (hShows : Shows v content disk)
    (hCovered : Covered v)
    (hEntry : v.entries[i]? = some e)
    (hDir : e.dir = true)
    (hFits : (dirRecords v i e).length ≤ 128) :
    directory disk (geometryOf v) (firstOf e) =
      some ((dirRecords v i e).map dirEntry) := by
  have hLength := length_dirRecords hFormatted.linked hEntry
  have hHead : 1 ≤ headCount v.entries i := by
    unfold headCount
    split <;> omega
  have hOne : e.used = 1 := by
    rw [used_dir hFormatted hEntry hDir]
    unfold clustersFor
    omega
  rw [directory_eq hFormatted hNamed hShows hCovered hEntry
      hDir,
    hOne, List.replicate_one, List.flatten_singleton,
    List.take_of_length_le hFits]

------------------------------------------------------------
-- Entries in Listings
------------------------------------------------------------

/- The attributes that an entry is shown with. -/
def Entry.attr (e : Entry) : UInt8 :=
  if e.dir then attrDir ||| attrRead
  else attrArchive ||| attrRead

/- The name that an entry is shown with. -/
def Entry.shown (e : Entry) : List UInt8 :=
  (shortName e.name e.attr).map upperCase

/- A listed entry that leads to an entry of the table. -/
structure Leads (e : Entry) (d : DirEntry) : Prop where
  cluster : d.cluster = firstOf e
  file : ¬ d.IsLabel
  isDir : d.IsDir ↔ e.dir = true
  size : e.dir = false → d.size = e.currSize.toNat

theorem testBit_attr
    (dir : Bool) :
    (if dir then attrDir ||| attrRead
      else attrArchive ||| attrRead).toNat.testBit 3 = false ∧
    (if dir then attrDir ||| attrRead
      else attrArchive ||| attrRead).toNat.testBit 4 = dir := by
  cases dir <;> decide

/- A record leads to what its cluster and size belong to. -/
theorem leads_fillEntry
    {name : List UInt8}
    {cma : Option (Fin 3 → UInt32)}
    {size : UInt32}
    (hSize : e.dir = false → size = e.currSize) :
    Leads e
      (dirEntry
        (fillEntry name e.attr e.priv.firstClust cma size)) := by
  have hBits := testBit_attr e.dir
  rw [dirEntry_fillEntry]
  constructor
  case cluster => rfl
  case file =>
    intro hLabel
    have hBit : e.attr.toNat.testBit 3 = true := hLabel
    unfold Entry.attr at hBit
    rw [hBits.1] at hBit
    cases hBit
  case isDir =>
    change e.attr.toNat.testBit 4 = true ↔ e.dir = true
    unfold Entry.attr
    rw [hBits.2]
  case size =>
    intro hFile
    exact congrArg UInt32.toNat (hSize hFile)

theorem dirRecord_eq
    (e : Entry) :
    e.dirRecord =
      fillEntry e.name e.attr e.priv.firstClust
        (some e.cmaTime) (if e.dir then 0 else e.currSize) := by
  unfold Entry.dirRecord Entry.attr
  cases e.dir <;> rfl

theorem leads_dirRecord
    (e : Entry) :
    Leads e (dirEntry e.dirRecord) := by
  rw [dirRecord_eq]
  apply leads_fillEntry
  intro hFile
  rw [hFile]
  rfl

/- The record of a dot leads to a directory. -/
theorem leads_dot
    (hDir : e.dir = true)
    (name : List UInt8) :
    Leads e
      (dirEntry
        (fillEntry name (attrDir ||| attrRead)
          e.priv.firstClust none 0)) := by
  have hAttr : attrDir ||| attrRead = e.attr := by
    unfold Entry.attr
    rw [hDir]
    rfl
  rw [hAttr]
  apply leads_fillEntry
  intro hFile
  rw [hDir] at hFile
  cases hFile

end Entries

------------------------------------------------------------
-- Paths
------------------------------------------------------------

def dotName : List UInt8 :=
  (shortName (chars ".") (attrDir ||| attrRead)).map upperCase

def dotsName : List UInt8 :=
  (shortName (chars "..") (attrDir ||| attrRead)).map upperCase

/- The name of an entry of the table in its directory. -/
def shownAt (entries : List Entry) (i : Nat) : List UInt8 :=
  ((entries[i]?).map Entry.shown).getD []

/- The first child with a name. -/
def childNamed
    (entries : List Entry)
    (i : Nat)
    (name : List UInt8) : Option Nat :=
  (childrenOf entries i).find? fun k =>
    shownAt entries k = name

/- Where a name leads from a directory of the table. -/
def step
    (entries : List Entry)
    (i : Nat)
    (name : List UInt8) : Option Nat :=
  match parentOf entries i with
  | none => childNamed entries i name
  | some above =>
      if name = dotName then
        some i
      else if name = dotsName then
        some above
      else
        childNamed entries i name

/- The bytes of the file that a path leads to. -/
def lookup
    (entries : List Entry)
    (content : Nat → List UInt8) :
    List (List UInt8) → Nat → Option (List UInt8)
| [], _ => none
| [name], i =>
    (step entries i name).bind fun k =>
      (entries[k]?).bind fun e =>
        if e.dir then none else some (fileBytes content k e)
| name :: path, i =>
    (step entries i name).bind fun k =>
      (entries[k]?).bind fun e =>
        if e.dir then lookup entries content path k else none

theorem recordAt_eq
    {entries : List Entry}
    {k : Nat}
    {e : Entry}
    (hEntry : entries[k]? = some e) :
    recordAt entries k = e.dirRecord := by
  unfold recordAt
  rw [hEntry]
  rfl

theorem shownAt_eq
    {entries : List Entry}
    {k : Nat}
    {e : Entry}
    (hEntry : entries[k]? = some e) :
    shownAt entries k = e.shown := by
  unfold shownAt
  rw [hEntry]
  rfl

theorem name_dirRecord
    (e : Entry) :
    (dirEntry e.dirRecord).name = e.shown := by
  rw [dirRecord_eq, dirEntry_fillEntry]
  rfl

/- The search among the records of children. -/
theorem find_children
    {entries : List Entry}
    {is : List Nat}
    (hInside : ∀ i ∈ is, i < entries.length)
    (name : List UInt8) :
    find name
        ((is.map (recordAt entries)).map dirEntry) =
      (is.find? fun k => shownAt entries k = name).map fun k =>
        dirEntry (recordAt entries k) := by
  unfold find
  rw [List.map_map, List.find?_map]
  congr 1
  apply List.find?_congr
  intro k hMember
  have hK := hInside k hMember
  have hHere := List.getElem?_eq_getElem hK
  have hFile := (leads_dirRecord entries[k]).file
  rw [Function.comp_apply, Function.comp_apply,
    recordAt_eq hHere, name_dirRecord, shownAt_eq hHere]
  simp [hFile]

/- The parent of an entry is a directory. -/
theorem dir_of_isParent
    {entries : List Entry}
    (hOrder : LevelOrder entries)
    {p i : Nat}
    (hParent : IsParent (levelAt entries) p i)
    (hInside : i < entries.length)
    {above : Entry}
    (hAbove : entries[p]? = some above) :
    above.dir = true := by
  rcases hParent with ⟨hBefore, hLevel, hBetween⟩
  have hNext : p + 1 < entries.length := by omega
  have hBehind := List.getElem?_eq_getElem hNext
  have hFollows :=
    List.isChain_iff_getElem.mp hOrder.follows p hNext
  rcases List.getElem?_eq_some_iff.mp hAbove with
    ⟨hInsideAbove, rfl⟩
  have hDeeper :
      levelAt entries p < levelAt entries (p + 1) := by
    rcases Nat.lt_or_eq_of_le (Nat.succ_le_of_lt hBefore) with
      hLess | hChild
    · have hBelow := hBetween (p + 1) hLess (by omega)
      omega
    · rw [Nat.succ_eq_add_one] at hChild
      rw [hChild]
      omega
  rw [levelAt_eq hAbove, levelAt_eq hBehind] at hDeeper
  rcases hFollows.2.2 with hFlat | hDir
  · omega
  · exact hDir.2

section Entries

variable {i : Nat}
variable {e : Entry}

/- A step of a table and the entry that a host finds. -/
def Finds
    (entries : List Entry)
    (step : Option Nat)
    (found : Option DirEntry) : Prop :=
  Option.Rel
    (fun k d => ∃ e, entries[k]? = some e ∧ Leads e d)
    step found

theorem finds_child
    (name : List UInt8) :
    Finds v.entries (childNamed v.entries i name)
      (find name
        (((childrenOf v.entries i).map
          (recordAt v.entries)).map dirEntry)) := by
  have hInside :
      ∀ k ∈ childrenOf v.entries i, k < v.entries.length := by
    intro k hMember
    exact (mem_childrenOf.mp hMember).1
  rw [find_children hInside]
  unfold childNamed
  cases hFound :
      (childrenOf v.entries i).find? fun k =>
        shownAt v.entries k = name with
  | none => exact Option.Rel.none
  | some k =>
      have hHere :=
        List.getElem?_eq_getElem
          (hInside k (List.mem_of_find?_eq_some hFound))
      refine Option.Rel.some ⟨_, hHere, ?_⟩
      dsimp only
      rw [recordAt_eq hHere]
      exact leads_dirRecord _

theorem find_cons
    (name : List UInt8)
    (d : DirEntry)
    (ds : List DirEntry) :
    find name (d :: ds) =
      if d.name = name ∧ ¬ d.IsLabel then
        some d
      else
        find name ds := by
  unfold find
  rw [List.find?_cons]
  by_cases hHere : d.name = name ∧ ¬ d.IsLabel
  · rw [if_pos hHere, decide_eq_true hHere]
  · rw [if_neg hHere, decide_eq_false hHere]

/- A name leads a host where it leads in the table. -/
theorem finds_step
    (hFormatted : Formatted v)
    (hEntry : v.entries[i]? = some e)
    (hDir : e.dir = true)
    (name : List UInt8) :
    Finds v.entries (step v.entries i name)
      (find name ((dirRecords v i e).map dirEntry)) := by
  have hInside : i < v.entries.length :=
    (List.getElem?_eq_some_iff.mp hEntry).1
  unfold dirRecords headRecords step
  rw [List.map_append]
  cases hTop : e.priv.top with
  | none =>
      rw [← hFormatted.linked.top_eq hEntry, hTop]
      dsimp only
      rw [Option.getD_some, List.map_cons, List.map_nil,
        List.singleton_append, find_cons, if_neg]
      · exact finds_child name
      · rw [dirEntry_fillEntry]
        rintro ⟨-, hFile⟩
        apply hFile
        change attrVolLabel.toNat.testBit 3 = true
        decide
  | some p =>
      have hLink := hFormatted.linked.top_eq hEntry
      rw [hTop] at hLink
      have hParent : IsParent (levelAt v.entries) p i :=
        parent_eq_some_iff.mp hLink.symm
      have hAboveInside : p < v.entries.length :=
        hParent.1.trans hInside
      have hAbove := List.getElem?_eq_getElem hAboveInside
      have hAboveDir :=
        dir_of_isParent hFormatted.order hParent hInside hAbove
      have hDot := leads_dot hDir (chars ".")
      have hDots := leads_dot hAboveDir (chars "..")
      rw [← hLink]
      dsimp only
      rw [hAbove, Option.map_some, Option.getD_some,
        List.map_cons, List.map_cons, List.map_nil,
        List.cons_append, List.singleton_append, find_cons,
        find_cons]
      have hDotName :
          (dirEntry
            (fillEntry (chars ".") (attrDir ||| attrRead)
              e.priv.firstClust none 0)).name = dotName := by
        rw [dirEntry_fillEntry]
        rfl
      have hDotsName :
          (dirEntry
            (fillEntry (chars "..") (attrDir ||| attrRead)
              v.entries[p].priv.firstClust none 0)).name =
            dotsName := by
        rw [dirEntry_fillEntry]
        rfl
      simp only [hDotName, hDotsName, hDot.file, hDots.file,
        not_false_eq_true, and_true, eq_comm (b := name)]
      split
      · exact Option.Rel.some ⟨e, hEntry, hDot⟩
      split
      · exact Option.Rel.some ⟨_, hAbove, hDots⟩
      · exact finds_child name

/- The label or the first dot is listed like no child. -/
theorem dirEntry_head_ne
    (hFormatted : Formatted v)
    (hEntry : v.entries[i]? = some e)
    (hDir : e.dir = true)
    {n : Nat}
    {first child : List UInt8}
    (hFirst : (dirRecords v i e)[0]? = some first)
    (hBehind : headCount v.entries i ≤ n)
    (hChild : (dirRecords v i e)[n]? = some child) :
    dirEntry first ≠ dirEntry child := by
  rcases headRecords_eq hFormatted.linked hEntry with
    ⟨head, hHead, hLength⟩
  rw [hFormatted.linked.top_eq hEntry] at hLength
  change head.length = headCount v.entries i at hLength
  unfold dirRecords at hFirst hChild
  rw [hHead, Option.getD_some] at hFirst hChild
  rw [List.getElem?_append_right (by omega),
    List.getElem?_map, Option.map_eq_some_iff] at hChild
  rcases hChild with ⟨k, hK, rfl⟩
  have hMember := mem_childrenOf.mp (List.mem_of_getElem? hK)
  have hAfter : i < k := hMember.2.1
  have hHere := List.getElem?_eq_getElem hMember.1
  have hLeads := leads_dirRecord v.entries[k]
  rw [recordAt_eq hHere]
  unfold headRecords at hHead
  cases hTop : e.priv.top with
  | none =>
      rw [hTop] at hHead
      dsimp only at hHead
      rw [Option.some_inj] at hHead
      rw [← hHead] at hFirst
      cases hFirst
      intro hSame
      apply hLeads.file
      rw [← hSame, dirEntry_fillEntry]
      change attrVolLabel.toNat.testBit 3 = true
      decide
  | some p =>
      rw [hTop] at hHead
      dsimp only at hHead
      rw [Option.map_eq_some_iff] at hHead
      rcases hHead with ⟨above, -, hRecords⟩
      rw [← hRecords] at hFirst
      cases hFirst
      intro hSame
      have hCluster := (leads_dot hDir (chars ".")).cluster
      rw [hSame, hLeads.cluster] at hCluster
      have hApart :=
        hFormatted.tiles.last_lt_first hAfter hEntry hHere
      have hBounds :=
        hFormatted.tiles.bounds (List.mem_of_getElem? hEntry)
      omega

/-
  A host lists a directory as it is exactly when its records
  have room in one cluster; behind that, the first cluster is
  listed again and again.
-/
theorem directory_faithful_iff
    (hFormatted : Formatted v)
    (hNamed : Named v)
    (hShows : Shows v content disk)
    (hCovered : Covered v)
    (hEntry : v.entries[i]? = some e)
    (hDir : e.dir = true) :
    directory disk (geometryOf v) (firstOf e) =
        some ((dirRecords v i e).map dirEntry) ↔
      headCount v.entries i +
          (childrenOf v.entries i).length ≤ 128 := by
  have hLength := length_dirRecords hFormatted.linked hEntry
  rw [← hLength]
  constructor
  · intro hFaithful
    rw [directory_eq hFormatted hNamed hShows hCovered hEntry
        hDir, Option.some_inj] at hFaithful
    by_contra hLong
    rw [not_le] at hLong
    have hPart :
        (((dirRecords v i e).take 128).map
          dirEntry).length = 128 := by
      rw [List.length_map, List.length_take]
      omega
    have hSize :
        ∀ b ∈ List.replicate e.used
            (((dirRecords v i e).take 128).map dirEntry),
          b.length = 128 := by
      intro b hMember
      rw [List.eq_of_mem_replicate hMember, hPart]
    have hTotal := congrArg List.length hFaithful
    rw [length_flatten hSize, List.length_replicate,
      List.length_map] at hTotal
    -- The second cluster begins like the first one.
    have hAgain :=
      getElem?_flatten hSize 1 (j := 0) (by omega)
    rw [hFaithful,
      List.getElem?_replicate_of_lt (by omega),
      Option.bind_some, List.getElem?_map, List.getElem?_map,
      List.getElem?_take_of_lt (by omega)] at hAgain
    have hLater : 128 < (dirRecords v i e).length := hLong
    have hFirst :=
      List.getElem?_eq_getElem
        (by omega : 0 < (dirRecords v i e).length)
    have hChild := List.getElem?_eq_getElem hLater
    rw [Nat.mul_one, Nat.add_zero, hChild, hFirst,
      Option.map_some, Option.map_some,
      Option.some_inj] at hAgain
    apply
      dirEntry_head_ne hFormatted hEntry hDir hFirst ?_ hChild
    · exact hAgain.symm
    · unfold headCount
      split <;> omega
  · exact
      directory_of_fits hFormatted hNamed hShows hCovered
        hEntry hDir

/-
  Every path leads a host to the bytes that it leads to in the
  table; the induction is over the path, and the step into a
  directory uses its listing.
-/
theorem readPath_eq_lookup
    (hReady : Ready v content)
    (hComplete : Complete v.entries content)
    (hNamed : Named v)
    (hShows : Shows v content disk)
    (hCovered : Covered v)
    (hFits :
      ∀ i e, v.entries[i]? = some e → e.dir = true →
        (dirRecords v i e).length ≤ 128)
    (path : List (List UInt8))
    (hEntry : v.entries[i]? = some e)
    (hDir : e.dir = true) :
    readPath disk (geometryOf v) path (firstOf e) =
      lookup v.entries content path i := by
  induction path generalizing i e with
  | nil => rfl
  | cons name path ih =>
      have hList :=
        directory_of_fits hReady.formatted hNamed hShows
          hCovered hEntry hDir (hFits i e hEntry hDir)
      have hStep := finds_step hReady.formatted hEntry hDir name
      unfold Finds at hStep
      cases path with
      | nil =>
          unfold readPath lookup
          rw [hList, Option.bind_some]
          generalize step v.entries i name = stepped at *
          generalize
            find name ((dirRecords v i e).map dirEntry) =
              found at *
          cases hStep with
          | none => rfl
          | some hLeads =>
              rcases hLeads with ⟨e', hHere, hLeads⟩
              rw [Option.bind_some, Option.bind_some, hHere,
                Option.bind_some]
              by_cases hSub : e'.dir = true
              · rw [if_pos (hLeads.isDir.mpr hSub), if_pos hSub]
              · have hFile := Bool.eq_false_iff.mpr hSub
                rw [if_neg fun h => hSub (hLeads.isDir.mp h),
                  if_neg hSub, hLeads.cluster,
                  hLeads.size hFile]
                rcases stream_file hReady hComplete hShows
                    hCovered hHere hFile with
                  ⟨bytes, hStream, hBytes⟩
                rw [hStream, Option.map_some, hBytes]
      | cons name' path =>
          unfold readPath lookup
          rw [hList, Option.bind_some]
          generalize step v.entries i name = stepped at *
          generalize
            find name ((dirRecords v i e).map dirEntry) =
              found at *
          cases hStep with
          | none => rfl
          | some hLeads =>
              rcases hLeads with ⟨e', hHere, hLeads⟩
              rw [Option.bind_some, Option.bind_some, hHere,
                Option.bind_some]
              by_cases hSub : e'.dir = true
              · rw [if_pos (hLeads.isDir.mpr hSub), if_pos hSub,
                  hLeads.cluster]
                exact ih hHere hSub
              · rw [if_neg fun h => hSub (hLeads.isDir.mp h),
                  if_neg hSub]

end Entries

end Emfat

end TemperatureSensor
