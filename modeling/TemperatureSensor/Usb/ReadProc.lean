import TemperatureSensor.Foundations.ByteCopy
import TemperatureSensor.Foundations.FixedWidth
import TemperatureSensor.Usb.FileContents
import Mathlib.Data.Nat.Digits.Lemmas

/-
  The callbacks of `app.c` through which the host reads the
  three files of the USB disk. Each call clamps the requested
  block at the end of the file and fills it byte by byte; the
  bytes are those of one fixed byte string, however the host
  cuts the file into calls.

  Main declarations:
    * `testReadProc`, `readmeReadProc` and `indexReadProc`
    * `testContents`, `readmeContents` and `indexContents`
    * `FixedContents`
    * `readProcs_fixedContents`
-/

------------------------------------------------------------
-- Library Calls
------------------------------------------------------------

namespace TemperatureSensor

/- The memory of the host's buffers, by address. -/
abbrev HostMemory := Nat → UInt8

/- An access to a character array; `none` is outside of it. -/
def charAt (s : List UInt8) (i : Int32) : Option UInt8 :=
  if 0 ≤ i.toInt then s[i.toInt.toNat]? else none

/- `strlen`; `none` when no terminator is found. -/
def strlen (s : List UInt8) : Option Nat :=
  s.findIdx? (· == 0)

/- `memcpy` from `&source[start]`. -/
def memcpy
    (mem : HostMemory)
    (dest : Nat)
    (source : List UInt8)
    (start len : Nat) : Option HostMemory :=
  if start + len ≤ source.length then
    some
      (ByteCopy.store dest ((source.drop start).take len) mem)
  else
    none

/- The decimal characters of a number. -/
def decimal (value : Nat) : List UInt8 :=
  if value = 0 then [0x30]
  else
    (Nat.digits 10 value).reverse.map
      fun digit => UInt8.ofNat (0x30 + digit)

/- `__itoa` with radix 10 into an array of `size` bytes. -/
def itoa (value size : Nat) : Option (List UInt8) :=
  let s := decimal value ++ [0]
  if s.length ≤ size then some s else none

------------------------------------------------------------
-- Read Procedures
------------------------------------------------------------

/-
  A call with a buffer, a size and an offset in the file. The
  procedures do not use their `userdata`.
-/
abbrev ReadProc :=
  HostMemory → Nat → Int32 → UInt32 → Option HostMemory

/- The clamping the three procedures have in common. -/
def clampedRead
    (fileSize : UInt32)
    (copy : ReadProc) : ReadProc :=
  fun mem dest size offset =>
    if offset > fileSize then
      some mem
    else
      -- An `int` operand is converted to `uint32_t`.
      let len :=
        if offset + size.toUInt32 > fileSize then
          (fileSize - offset).toInt32
        else
          size
      copy mem dest len offset

/- The loop over `i < len` that sets `dest[i]`. -/
def copyLoop (byteAt : UInt32 → Option UInt8) : ReadProc :=
  fun mem dest len offset =>
    CheckedLoop.forEach
      (fun mem i =>
        (byteAt (offset + UInt32.ofNat i)).map
          (Function.update mem (dest + i)))
      (List.range len.toUInt32.toNat)
      mem

def testReadProc : ReadProc :=
  clampedRead testSize fun mem dest len offset =>
    memcpy mem dest testFile offset.toNat len.toUInt32.toNat

/-
  `readme_file[offset+i]`, or a character of the version with
  a dot behind its first digit, or a blank.
-/
def readmeByte
    (verS : List UInt8)
    (endS lenString : Int32)
    (pos : UInt32) : Option UInt8 :=
  if pos < lenString.toUInt32 then
    readmeFile[pos.toNat]?
  else
    let cur := (pos - lenString.toUInt32).toInt32
    if cur < 1 + endS then
      if cur = 1 then some 0x2E
      else if cur > 1 then charAt verS (cur - 1)
      else charAt verS cur
    else
      some 0x20

def readmeReadProc (version : Nat) : ReadProc :=
  clampedRead readmeSize fun mem dest len offset => do
    let verS ← itoa version 8
    let endS ← strlen verS
    let lenString ← strlen readmeFile
    copyLoop
      (readmeByte verS (Int32.ofNat endS)
        (Int32.ofNat lenString))
      mem dest len offset

def indexByte
    (lenString : Int32)
    (pos : UInt32) : Option UInt8 :=
  if pos < lenString.toUInt32 then
    indexFile[pos.toNat]?
  else
    some 0x20

def indexReadProc : ReadProc :=
  clampedRead indexSize fun mem dest len offset => do
    let lenString ← strlen indexFile
    copyLoop (indexByte (Int32.ofNat lenString))
      mem dest len offset

------------------------------------------------------------
-- Contents
------------------------------------------------------------

/- A text padded with blanks to the size of a file. -/
def padded (fileSize : UInt32) (text : List UInt8) :
    List UInt8 :=
  text ++ List.replicate (fileSize.toNat - text.length) 0x20

/- The first digit, a dot and the remaining digits. -/
def dotted (digits : List UInt8) : List UInt8 :=
  digits.take 1 ++ 0x2E :: digits.drop 1

def readmeContents (version : Nat) : List UInt8 :=
  padded readmeSize
    (readmeText ++ dotted (decimal version))

def indexContents : List UInt8 :=
  padded indexSize indexText

def testContents : List UInt8 :=
  testFile

/-
  The host reads with one call after the other, each at the
  offset where the one before ended, and collects what it
  finds in its buffers.
-/
def readFile (readProc : ReadProc) :
    List (Nat × Int32) → UInt32 → HostMemory →
      Option (HostMemory × List UInt8)
| [], _, mem => some (mem, [])
| (dest, size) :: calls, offset, mem => do
    let next ← readProc mem dest size offset
    let rest ←
      readFile readProc calls (offset + size.toUInt32) next
    some
      (rest.1,
        ByteCopy.load dest size.toInt.toNat next ++ rest.2)

/- How much of a file a call delivers. -/
def delivered
    (contents : List UInt8)
    (size : Int32)
    (offset : UInt32) : Nat :=
  min size.toInt.toNat (contents.length - offset.toNat)

/-
  A procedure serves a fixed byte string: a call writes its
  block and nothing else, without a fault, and consecutive
  calls over the whole file give the whole string.
-/
structure FixedContents
    (fileSize : UInt32)
    (readProc : ReadProc)
    (contents : List UInt8) : Prop where
  length_eq : contents.length = fileSize.toNat
  call :
    ∀ (mem : HostMemory) (dest : Nat) (size : Int32)
      (offset : UInt32),
      0 ≤ size.toInt →
      (offset.toNat : Int) + size.toInt < 2 ^ 32 →
        ∃ mem', readProc mem dest size offset = some mem' ∧
          (∀ i, i < delivered contents size offset →
            some (mem' (dest + i)) =
              contents[offset.toNat + i]?) ∧
          ∀ a,
            a < dest ∨
              dest + delivered contents size offset ≤ a →
            mem' a = mem a
  partition :
    ∀ (mem : HostMemory) (calls : List (Nat × Int32)),
      (∀ c ∈ calls, 0 ≤ c.2.toInt) →
      (calls.map fun c => c.2.toInt.toNat).sum =
        contents.length →
        ∃ mem', readFile readProc calls 0 mem =
          some (mem', contents)

------------------------------------------------------------
-- Clamped Calls
------------------------------------------------------------

/- The position of the next byte, where it does not wrap. -/
theorem toNat_add_ofNat
    {offset : UInt32}
    {i : Nat}
    (hInside : offset.toNat + i < 2 ^ 32) :
    (offset + UInt32.ofNat i).toNat = offset.toNat + i := by
  rw [UInt32.toNat_add,
    UInt32.toNat_ofNat_of_lt' (by simp [UInt32.size]; omega)]
  omega

/- The block that a call stores. -/
def blockOf
    (contents : List UInt8)
    (size : Int32)
    (offset : UInt32) : List UInt8 :=
  (contents.drop offset.toNat).take size.toInt.toNat

theorem length_blockOf
    (contents : List UInt8)
    (size : Int32)
    (offset : UInt32) :
    (blockOf contents size offset).length =
      delivered contents size offset := by
  unfold blockOf delivered
  rw [List.length_take, List.length_drop]

theorem blockOf_getElem?
    {contents : List UInt8}
    {size : Int32}
    {offset : UInt32}
    {i : Nat}
    (hInside : i < delivered contents size offset) :
    (blockOf contents size offset)[i]? =
      contents[offset.toNat + i]? := by
  have hTaken : i < size.toInt.toNat :=
    hInside.trans_le (Nat.min_le_left _ _)
  unfold blockOf
  rw [List.getElem?_take_of_lt hTaken, List.getElem?_drop]

/- What a procedure has to do on every call. -/
def Serves
    (readProc : ReadProc)
    (contents : List UInt8) : Prop :=
  ∀ (mem : HostMemory) (dest : Nat) (size : Int32)
    (offset : UInt32),
    0 ≤ size.toInt →
    (offset.toNat : Int) + size.toInt < 2 ^ 32 →
      readProc mem dest size offset =
        some
          (ByteCopy.store dest
            (blockOf contents size offset) mem)

/- The clamped length ends with the file, without a wrap. -/
theorem toInt_clamped
    {fileSize : UInt32}
    (hSmall : fileSize.toNat < 2 ^ 31)
    {size : Int32}
    {offset : UInt32}
    (hSign : 0 ≤ size.toInt)
    (hNoWrap : (offset.toNat : Int) + size.toInt < 2 ^ 32)
    (hInside : offset.toNat ≤ fileSize.toNat) :
    (if offset + size.toUInt32 > fileSize then
        (fileSize - offset).toInt32
      else
        size).toInt =
      min size.toInt (fileSize.toNat - offset.toNat) := by
  have hSize := Int32.toNat_toUInt32_of_nonneg hSign
  have hEnd :
      (offset + size.toUInt32).toNat =
        offset.toNat + size.toUInt32.toNat := by
    rw [UInt32.toNat_add]
    omega
  split
  · next hCut =>
      have hRest :
          (fileSize - offset).toNat =
            fileSize.toNat - offset.toNat :=
        UInt32.toNat_sub_of_le _ _
          (UInt32.le_iff_toNat_le.mpr hInside)
      rw [gt_iff_lt, UInt32.lt_iff_toNat_lt, hEnd] at hCut
      rw [UInt32.toInt_toInt32_of_lt (by omega), hRest]
      omega
  · next hWhole =>
      rw [gt_iff_lt, UInt32.lt_iff_toNat_lt, hEnd,
        not_lt] at hWhole
      omega

/- Cutting a call at the end of the file keeps its block. -/
theorem blockOf_eq_of_min
    {contents : List UInt8}
    {size len : Int32}
    {offset : UInt32}
    (hSign : 0 ≤ size.toInt)
    (hInside : offset.toNat ≤ contents.length)
    (hLen :
      len.toInt =
        min size.toInt (contents.length - offset.toNat)) :
    blockOf contents len offset =
      blockOf contents size offset := by
  unfold blockOf
  rw [List.take_eq_take_iff, List.length_drop]
  omega

/-
  The clamping hands on the calls that end inside of the file,
  and a call that begins behind it has nothing to store.
-/
theorem clampedRead_serves
    {fileSize : UInt32}
    {copy : ReadProc}
    {contents : List UInt8}
    (hLength : contents.length = fileSize.toNat)
    (hSmall : fileSize.toNat < 2 ^ 31)
    (hCopy :
      ∀ (mem : HostMemory) (dest : Nat) (len : Int32)
        (offset : UInt32),
        0 ≤ len.toInt →
        (offset.toNat : Int) + len.toInt ≤ contents.length →
          copy mem dest len offset =
            some
              (ByteCopy.store dest
                (blockOf contents len offset) mem)) :
    Serves (clampedRead fileSize copy) contents := by
  intro mem dest size offset hSign hNoWrap
  unfold clampedRead
  split
  · next hBehind =>
      rw [gt_iff_lt, UInt32.lt_iff_toNat_lt] at hBehind
      have hNothing : blockOf contents size offset = [] := by
        unfold blockOf
        rw [List.drop_eq_nil_of_le (by omega), List.take_nil]
      rw [hNothing, ByteCopy.store_nil]
  · next hInside =>
      rw [gt_iff_lt, UInt32.lt_iff_toNat_lt, not_lt] at hInside
      have hLen :=
        toInt_clamped hSmall hSign hNoWrap hInside
      rw [← hLength] at hInside hLen
      dsimp only
      rw [hCopy mem dest _ offset (by omega) (by omega),
        blockOf_eq_of_min hSign hInside hLen]

/- A loop that computes the bytes of the file copies them. -/
theorem copyLoop_eq
    {byteAt : UInt32 → Option UInt8}
    {contents : List UInt8}
    (hSmall : contents.length < 2 ^ 31)
    (hByte :
      ∀ pos : UInt32, pos.toNat < contents.length →
        byteAt pos = contents[pos.toNat]?)
    (mem : HostMemory)
    (dest : Nat)
    {len : Int32}
    {offset : UInt32}
    (hSign : 0 ≤ len.toInt)
    (hInside :
      (offset.toNat : Int) + len.toInt ≤ contents.length) :
    copyLoop byteAt mem dest len offset =
      some
        (ByteCopy.store dest
          (blockOf contents len offset) mem) := by
  have hLen := Int32.toNat_toUInt32_of_nonneg hSign
  have hLength :
      (blockOf contents len offset).length =
        len.toUInt32.toNat := by
    rw [length_blockOf]
    unfold delivered
    omega
  unfold copyLoop
  rw [← hLength]
  apply ByteCopy.forEach_store
  intro i hIndex
  rw [length_blockOf] at hIndex
  have hPosition :
      (offset + UInt32.ofNat i).toNat = offset.toNat + i := by
    apply toNat_add_ofNat
    unfold delivered at hIndex
    omega
  rw [blockOf_getElem? hIndex, hByte, hPosition]
  rw [hPosition]
  unfold delivered at hIndex
  omega

------------------------------------------------------------
-- Consecutive Calls
------------------------------------------------------------

/-
  The calls from an offset to the end of the file collect what
  is left of it; the induction is over the calls.
-/
theorem readFile_of_serves
    {readProc : ReadProc}
    {contents : List UInt8}
    (hServes : Serves readProc contents)
    (hSmall : contents.length < 2 ^ 31)
    {calls : List (Nat × Int32)}
    (hSigns : ∀ c ∈ calls, 0 ≤ c.2.toInt)
    (offset : UInt32)
    (hWhole :
      offset.toNat +
          (calls.map fun c => c.2.toInt.toNat).sum =
        contents.length)
    (mem : HostMemory) :
    ∃ mem', readFile readProc calls offset mem =
      some (mem', contents.drop offset.toNat) := by
  induction calls generalizing offset mem with
  | nil =>
      refine ⟨mem, ?_⟩
      rw [List.drop_eq_nil_of_le (by simpa using hWhole.ge)]
      rfl
  | cons c calls ih =>
      rcases c with ⟨dest, size⟩
      rw [List.map_cons, List.sum_cons] at hWhole
      have hSign : 0 ≤ size.toInt :=
        hSigns (dest, size) (by simp)
      have hSize := Int32.toNat_toUInt32_of_nonneg hSign
      have hNext :
          (offset + size.toUInt32).toNat =
            offset.toNat + size.toInt.toNat := by
        rw [UInt32.toNat_add]
        dsimp only at hWhole
        omega
      have hLength :
          (blockOf contents size offset).length =
            size.toInt.toNat := by
        rw [length_blockOf]
        unfold delivered
        dsimp only at hWhole
        omega
      rcases ih
          (fun c hMember => hSigns c (by simp [hMember]))
          (offset + size.toUInt32)
          (by rw [hNext]; dsimp only at hWhole; omega)
          (ByteCopy.store dest
            (blockOf contents size offset) mem)
        with ⟨mem', hRest⟩
      have hCall :=
        hServes mem dest size offset hSign
          (by dsimp only at hWhole; omega)
      refine ⟨mem', ?_⟩
      rw [readFile, hCall]
      simp only [Option.bind_eq_bind, Option.bind_some, hRest]
      rw [← hLength, ByteCopy.load_store, hNext]
      unfold blockOf
      rw [← List.drop_drop, List.take_append_drop]

/- Serving every call is all that is needed. -/
theorem Serves.fixedContents
    {fileSize : UInt32}
    {readProc : ReadProc}
    {contents : List UInt8}
    (hServes : Serves readProc contents)
    (hLength : contents.length = fileSize.toNat)
    (hSmall : fileSize.toNat < 2 ^ 31) :
    FixedContents fileSize readProc contents := by
  refine ⟨hLength, ?_, ?_⟩
  · intro mem dest size offset hSign hNoWrap
    refine
      ⟨_, hServes mem dest size offset hSign hNoWrap, ?_, ?_⟩
    · intro i hIndex
      have hBlock := blockOf_getElem? hIndex
      rw [← length_blockOf] at hIndex
      rw [← hBlock, List.getElem?_eq_getElem hIndex]
      congr 1
      exact
        ByteCopy.store_inside dest mem
          (List.getElem?_eq_getElem hIndex)
    · intro a hOutside
      rw [← length_blockOf] at hOutside
      exact ByteCopy.store_outside mem hOutside
  · intro mem calls hSigns hSum
    exact
      readFile_of_serves hServes (by omega) hSigns 0
        (by simpa using hSum) mem

------------------------------------------------------------
-- The Three Files
------------------------------------------------------------

theorem length_padded
    {fileSize : UInt32}
    {text : List UInt8}
    (hFits : text.length ≤ fileSize.toNat) :
    (padded fileSize text).length = fileSize.toNat := by
  unfold padded
  rw [List.length_append, List.length_replicate]
  omega

/- The text, and blanks behind it. -/
theorem padded_getElem?
    {fileSize : UInt32}
    {text : List UInt8}
    {i : Nat}
    (hInside : i < fileSize.toNat) :
    (padded fileSize text)[i]? =
      some (text[i]?.getD 0x20) := by
  unfold padded
  by_cases hText : i < text.length
  · rw [List.getElem?_append_left hText,
      List.getElem?_eq_getElem hText, Option.getD_some]
  · rw [not_lt] at hText
    rw [List.getElem?_append_right hText,
      List.getElem?_replicate_of_lt (by omega),
      List.getElem?_eq_none hText, Option.getD_none]

/- `strlen` of a terminated string is its length. -/
theorem strlen_terminated
    {s : List UInt8}
    (hChars : ∀ c ∈ s, c ≠ 0) :
    strlen (s ++ [0]) = some s.length := by
  have hNone : s.findIdx? (· == 0) = none := by
    rw [List.findIdx?_eq_none_iff]
    simpa using hChars
  unfold strlen
  rw [List.findIdx?_append, hNone]
  simp

/- The comparison of a position with a string length. -/
theorem lt_toUInt32_ofNat_iff
    {n : Nat}
    (hSmall : n < 2 ^ 32)
    (pos : UInt32) :
    pos < (Int32.ofNat n).toUInt32 ↔ pos.toNat < n := by
  rw [Int32.toUInt32_ofNat', UInt32.lt_iff_toNat_lt,
    UInt32.toNat_ofNat_of_lt' (by simpa [UInt32.size])]

theorem testReadProc_serves :
    Serves testReadProc testContents := by
  apply clampedRead_serves
  · exact length_testFile
  · decide
  · intro mem dest len offset hSign hInside
    have hLen := Int32.toNat_toUInt32_of_nonneg hSign
    unfold testContents at hInside ⊢
    unfold memcpy blockOf
    rw [if_pos (by omega)]
    congr 4
    omega

theorem length_indexText :
    indexText.length = 160 := by
  decide +kernel

theorem indexText_ne_zero :
    ∀ c ∈ indexText, c ≠ 0 := by
  decide +kernel

theorem strlen_indexFile :
    strlen indexFile = some 160 := by
  rw [← length_indexText]
  exact strlen_terminated indexText_ne_zero

theorem indexByte_eq
    {pos : UInt32}
    (hInside : pos.toNat < indexSize.toNat) :
    indexByte (Int32.ofNat 160) pos =
      indexContents[pos.toNat]? := by
  unfold indexContents
  rw [padded_getElem? hInside]
  unfold indexByte
  split
  · next hText =>
      rw [lt_toUInt32_ofNat_iff (by omega),
        ← length_indexText] at hText
      unfold indexFile
      rw [List.getElem?_append_left hText,
        List.getElem?_eq_getElem hText, Option.getD_some]
  · next hBlank =>
      rw [lt_toUInt32_ofNat_iff (by omega),
        ← length_indexText] at hBlank
      rw [List.getElem?_eq_none (not_lt.mp hBlank),
        Option.getD_none]

theorem length_indexContents :
    indexContents.length = indexSize.toNat := by
  apply length_padded
  rw [length_indexText]
  decide

theorem indexReadProc_serves :
    Serves indexReadProc indexContents := by
  have hLength := length_indexContents
  have hSmall : indexSize.toNat < 2 ^ 31 := by decide
  apply clampedRead_serves hLength hSmall
  intro mem dest len offset hSign hInside
  rw [strlen_indexFile]
  refine copyLoop_eq ?_ ?_ mem dest hSign hInside
  · rw [hLength]
    exact hSmall
  · intro pos hPos
    rw [hLength] at hPos
    exact indexByte_eq hPos

------------------------------------------------------------
-- Version Text
------------------------------------------------------------

theorem dotted_cons
    (first : UInt8)
    (rest : List UInt8) :
    dotted (first :: rest) = first :: 0x2E :: rest := by
  rfl

/- A number of at most seven digits and its terminator. -/
theorem itoa_eq
    {version : Nat}
    (hPositive : 0 < version)
    (hDigits : version < 10 ^ 7) :
    ∃ first rest,
      decimal version = first :: rest ∧
        rest.length ≤ 6 ∧
        itoa version 8 = some (first :: rest ++ [0]) ∧
        strlen (first :: rest ++ [0]) =
          some (rest.length + 1) := by
  have hLength : (decimal version).length ≤ 7 := by
    unfold decimal
    rw [if_neg hPositive.ne', List.length_map,
      List.length_reverse]
    exact (Nat.digits_length_le_iff (by omega) _).mpr hDigits
  have hNonempty : decimal version ≠ [] := by
    unfold decimal
    rw [if_neg hPositive.ne']
    simpa [Nat.digits_eq_nil_iff_eq_zero] using hPositive.ne'
  have hChars : ∀ c ∈ decimal version, c ≠ 0 := by
    unfold decimal
    rw [if_neg hPositive.ne']
    intro c hMember
    rcases List.mem_map.mp hMember with ⟨digit, hDigit, rfl⟩
    have hSmall : digit < 10 :=
      Nat.digits_lt_base (by omega)
        (List.mem_reverse.mp hDigit)
    rw [ne_eq, ← UInt8.toNat_inj,
      UInt8.toNat_ofNat_of_lt' (by simp [UInt8.size]; omega)]
    change ¬ 0x30 + digit = 0
    omega
  rcases List.exists_cons_of_ne_nil hNonempty with
    ⟨first, rest, hParts⟩
  refine ⟨first, rest, hParts, ?_, ?_, ?_⟩
  · rw [hParts, List.length_cons] at hLength
    omega
  · unfold itoa
    rw [if_pos (by simp; omega), hParts]
  · rw [← hParts, strlen_terminated hChars, hParts,
      List.length_cons]

theorem length_readmeText :
    readmeText.length = 17 := by
  decide +kernel

theorem readmeText_ne_zero :
    ∀ c ∈ readmeText, c ≠ 0 := by
  decide +kernel

theorem strlen_readmeFile :
    strlen readmeFile = some 17 := by
  rw [← length_readmeText]
  exact strlen_terminated readmeText_ne_zero

theorem charAt_of_toInt_eq
    (s : List UInt8)
    {i : Int32}
    {n : Nat}
    (hIndex : i.toInt = n) :
    charAt s i = s[n]? := by
  unfold charAt
  rw [if_pos (by omega), hIndex, Int.toNat_natCast]

/-
  The bytes behind the text, by their distance from it: the
  first digit, the dot, a later digit, and the blanks.
-/
theorem versionByte_eq
    (first : UInt8)
    {rest : List UInt8}
    (hLength : rest.length ≤ 6)
    {cur : Int32}
    {n : Nat}
    (hCur : cur.toInt = n) :
    (if cur < 1 + Int32.ofNat (rest.length + 1) then
      if cur = 1 then some 0x2E
      else if cur > 1 then
        charAt (first :: rest ++ [0]) (cur - 1)
      else charAt (first :: rest ++ [0]) cur
    else
      some 0x20) =
      some ((first :: 0x2E :: rest)[n]?.getD 0x20) := by
  have hOne : (1 : Int32).toInt = 1 := by decide
  have hLast :
      (1 + Int32.ofNat (rest.length + 1)).toInt =
        ((rest.length + 2 : Nat) : Int) := by
    rw [Int32.toInt_add, hOne,
      Int32.toInt_ofNat_of_lt (by omega)]
    rw [Int.bmod_eq_of_le (by omega) (by omega)]
    omega
  have hBefore :
      cur < 1 + Int32.ofNat (rest.length + 1) ↔
        n < rest.length + 2 := by
    rw [Int32.lt_iff_toInt_lt, hLast, hCur]
    omega
  have hDot : cur = 1 ↔ n = 1 := by
    rw [← Int32.toInt_inj, hOne, hCur]
    omega
  have hLater : cur > 1 ↔ 1 < n := by
    rw [gt_iff_lt, Int32.lt_iff_toInt_lt, hOne, hCur]
    omega
  match n with
  | 0 =>
      rw [if_pos (hBefore.mpr (by omega)),
        if_neg (by rw [hDot]; omega),
        if_neg (by rw [hLater]; omega),
        charAt_of_toInt_eq _ hCur]
      rfl
  | 1 =>
      rw [if_pos (hBefore.mpr (by omega)),
        if_pos (hDot.mpr rfl)]
      rfl
  | n + 2 =>
      by_cases hDigit : n < rest.length
      · have hPred :
            (cur - 1).toInt = ((n + 1 : Nat) : Int) := by
          rw [Int32.toInt_sub, hCur, hOne,
            Int.bmod_eq_of_le (by omega) (by omega)]
          omega
        rw [if_pos (hBefore.mpr (by omega)),
          if_neg (by rw [hDot]; omega),
          if_pos (hLater.mpr (by omega)),
          charAt_of_toInt_eq _ hPred, List.cons_append,
          List.getElem?_cons_succ, List.getElem?_cons_succ,
          List.getElem?_cons_succ,
          List.getElem?_append_left hDigit,
          List.getElem?_eq_getElem hDigit, Option.getD_some]
      · rw [if_neg (by rw [hBefore]; omega)]
        simp [hDigit]

theorem readmeByte_eq
    {first : UInt8}
    {rest : List UInt8}
    (hLength : rest.length ≤ 6)
    {pos : UInt32}
    (hInside : pos.toNat < readmeSize.toNat) :
    readmeByte (first :: rest ++ [0])
        (Int32.ofNat (rest.length + 1)) (Int32.ofNat 17) pos =
      (padded readmeSize
        (readmeText ++
          dotted (first :: rest)))[pos.toNat]? := by
  rw [padded_getElem? hInside]
  unfold readmeByte
  split
  · next hText =>
      rw [lt_toUInt32_ofNat_iff (by omega),
        ← length_readmeText] at hText
      unfold readmeFile
      rw [List.getElem?_append_left hText,
        List.getElem?_append_left hText,
        List.getElem?_eq_getElem hText, Option.getD_some]
  · next hBehind =>
      rw [lt_toUInt32_ofNat_iff (by omega), not_lt] at hBehind
      have hCur :
          (pos - (Int32.ofNat 17).toUInt32).toInt32.toInt =
            ((pos.toNat - 17 : Nat) : Int) := by
        have hLengthText :
            (Int32.ofNat 17).toUInt32.toNat = 17 := by
          decide
        have hDifference :
            (pos - (Int32.ofNat 17).toUInt32).toNat =
              pos.toNat - 17 := by
          rw [UInt32.toNat_sub_of_le, hLengthText]
          rw [UInt32.le_iff_toNat_le, hLengthText]
          exact hBehind
        have hSmall : readmeSize.toNat = 256 := by decide
        rw [UInt32.toInt_toInt32_of_lt (by omega), hDifference]
      rw [List.getElem?_append_right
        (length_readmeText.trans_le hBehind),
        length_readmeText, dotted_cons]
      exact versionByte_eq first hLength hCur

theorem readmeReadProc_serves
    {version : Nat}
    (hPositive : 0 < version)
    (hDigits : version < 10 ^ 7) :
    Serves (readmeReadProc version)
        (readmeContents version) ∧
      (readmeContents version).length =
        readmeSize.toNat := by
  rcases itoa_eq hPositive hDigits with
    ⟨first, rest, hParts, hRest, hItoa, hStrlen⟩
  have hSmall : readmeSize.toNat = 256 := by decide
  have hLength :
      (readmeContents version).length =
        readmeSize.toNat := by
    apply length_padded
    rw [List.length_append, length_readmeText, hParts,
      dotted_cons, List.length_cons, List.length_cons]
    omega
  refine ⟨clampedRead_serves hLength (by omega) ?_, hLength⟩
  intro mem dest len offset hSign hInside
  rw [hItoa]
  simp only [Option.bind_eq_bind, Option.bind_some, hStrlen,
    strlen_readmeFile]
  refine copyLoop_eq (by omega) ?_ mem dest hSign hInside
  intro pos hPos
  rw [hLength] at hPos
  unfold readmeContents
  rw [hParts]
  exact readmeByte_eq hRest hPos

/-
  The three files are fixed byte strings of their declared
  sizes, for every version number of two to seven digits.
-/
theorem readProcs_fixedContents
    {version : Nat}
    (hLower : 10 ≤ version)
    (hUpper : version < 10 ^ 7) :
    FixedContents readmeSize (readmeReadProc version)
        (readmeContents version) ∧
      FixedContents indexSize indexReadProc indexContents ∧
      FixedContents testSize testReadProc testContents := by
  have hReadme :=
    readmeReadProc_serves (by omega) hUpper
  refine ⟨?_, ?_, ?_⟩
  · exact hReadme.1.fixedContents hReadme.2 (by decide)
  · exact
      indexReadProc_serves.fixedContents length_indexContents
        (by decide)
  · exact
      testReadProc_serves.fixedContents length_testFile
        (by decide)

/- The version of this firmware, 1.01. -/
theorem readProcs_fixedContents_101 :
    FixedContents readmeSize (readmeReadProc 101)
        (readmeContents 101) ∧
      FixedContents indexSize indexReadProc indexContents ∧
      FixedContents testSize testReadProc testContents :=
  readProcs_fixedContents (by decide) (by decide)

end TemperatureSensor
