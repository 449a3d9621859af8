import Mathlib.Data.List.GetD
import TemperatureSensor.Modbus.Reply

/-
  The register server that the firmware is meant to be, on
  lists of bytes: what it answers to a request and which
  registers it writes, and a host that writes registers and
  reads them back.

  Main declarations:
    * `Answer` and `serve`
    * `serveFrame`
    * `wordsOf_flatMap`
    * `registersFrom_writeValues`
    * `serve_readData` and `WriteRequest.registers`
-/

------------------------------------------------------------
-- Words
------------------------------------------------------------

namespace TemperatureSensor

/- A word on the line, the high byte first. -/
def wordBytes (w : UInt16) : List UInt8 :=
  [(w >>> 8).toUInt8, w.toUInt8]

/- The words of a list of bytes; an odd byte is left out. -/
def wordsOf : List UInt8 → List UInt16
| high :: low :: rest => word high low :: wordsOf rest
| _ => []

theorem wordBytes_word
    (high low : UInt8) :
    wordBytes (word high low) = [high, low] := by
  have hHigh : (word high low >>> 8).toUInt8 = high := by
    apply UInt8.toNat_inj.mp
    have hLow := low.toNat_lt
    rw [toNat_highByte, toNat_word]
    omega
  have hLow : (word high low).toUInt8 = low := by
    apply UInt8.toNat_inj.mp
    have hWidth := low.toNat_lt
    rw [UInt16.toNat_toUInt8, toNat_word]
    omega
  unfold wordBytes
  rw [hHigh, hLow]

theorem wordsOf_flatMap
    (values : List UInt16) :
    wordsOf (values.flatMap wordBytes) = values := by
  induction values with
  | nil => rfl
  | cons value values ih =>
      rw [List.flatMap_cons]
      change
        word (value >>> 8).toUInt8 value.toUInt8 ::
            wordsOf (values.flatMap wordBytes) = _
      rw [word_bytes, ih]

theorem length_flatMap_wordBytes
    (values : List UInt16) :
    (values.flatMap wordBytes).length = 2 * values.length := by
  induction values with
  | nil => rfl
  | cons value values ih =>
      rw [List.flatMap_cons, List.length_append, ih,
        List.length_cons]
      change 2 + _ = _
      omega

------------------------------------------------------------
-- Server
------------------------------------------------------------

/-
  What is answered to a request: values, the address and the
  count of what was written, or an exception.
-/
inductive Answer where
| values (data : List UInt16)
| written (echo : List UInt8)
| refused (exception : EMBExcep)

/- The exception of an answer. -/
def Answer.exception : Answer → EMBExcep
| .values _ => .mbeNone
| .written _ => .mbeNone
| .refused exception => exception

/- The bytes of an answer to a function. -/
def Answer.bytes (function : UInt8) : Answer → List UInt8
| .values data =>
    function :: UInt8.ofNat (2 * data.length) ::
      data.flatMap wordBytes
| .written echo => function :: echo
| .refused exception => [function ||| 0x80, exception.code]

/- A range of registers that exist. -/
def Fits (start count : Nat) : Prop :=
  start < numBuf ∧ start + count ≤ numBuf

instance (start count : Nat) : Decidable (Fits start count) := by
  unfold Fits
  infer_instance

/- The values of a range. -/
def registersFrom
    (mb : Registers)
    (start count : Nat) : List UInt16 :=
  ((List.ofFn mb).drop start).take count

/- Why a register does not admit a value. -/
def refusal (r : Fin numBuf) (value : UInt16) : EMBExcep :=
  if writeCheck r = .regErr then .mbeIllegalDataAddress
  else if limitCheck r value = .regErr then
    .mbeIllegalDataValue
  else .mbeNone

/- The refusal of the first register that has one. -/
def firstRefusal : Nat → List UInt16 → EMBExcep
| _, [] => .mbeNone
| start, value :: values =>
    if hBound : start < numBuf then
      if refusal ⟨start, hBound⟩ value = .mbeNone then
        firstRefusal (start + 1) values
      else
        refusal ⟨start, hBound⟩ value
    else
      .mbeIllegalDataAddress

/- The registers with the values from a register on. -/
def writeValues
    (mb : Registers)
    (start : Nat)
    (values : List UInt16) : Registers :=
  writeRange mb start values.length fun k => values.getD k 0

/- All of the values are written, or none of them. -/
def serveWrite
    (mb : Registers)
    (start : Nat)
    (values : List UInt16)
    (echo : List UInt8) : Answer × Registers :=
  if firstRefusal start values = .mbeNone then
    (.written echo, writeValues mb start values)
  else
    (.refused (firstRefusal start values), mb)

def serveRead
    (mb : Registers) : List UInt8 → Answer × Registers
| [startHigh, startLow, countHigh, countLow] =>
    let start := (word startHigh startLow).toNat
    let count := (word countHigh countLow).toNat
    if Fits start count then
      (.values (registersFrom mb start count), mb)
    else
      (.refused .mbeIllegalDataAddress, mb)
| _ => (.refused .mbeIllegalDataValue, mb)

def serveWriteMultiple
    (mb : Registers) : List UInt8 → Answer × Registers
| startHigh :: startLow :: countHigh :: countLow :: bytesN ::
    data =>
    let start := (word startHigh startLow).toNat
    let count := (word countHigh countLow).toNat
    if data.length < 2 then
      (.refused .mbeIllegalDataValue, mb)
    else if ¬ Fits start count then
      (.refused .mbeIllegalDataAddress, mb)
    else if bytesN.toNat = 2 * count ∧
        data.length = 2 * count then
      serveWrite mb start (wordsOf data)
        [startHigh, startLow, countHigh, countLow]
    else
      (.refused .mbeIllegalDataValue, mb)
| _ => (.refused .mbeIllegalDataValue, mb)

def serveWriteSingle
    (mb : Registers) : List UInt8 → Answer × Registers
| [startHigh, startLow, high, low] =>
    let start := (word startHigh startLow).toNat
    if Fits start 1 then
      serveWrite mb start [word high low]
        [startHigh, startLow, high, low]
    else
      (.refused .mbeIllegalDataAddress, mb)
| _ => (.refused .mbeIllegalDataValue, mb)

/- The answer to a function and the data of its request. -/
def serve
    (mb : Registers)
    (function : UInt8)
    (data : List UInt8) : Answer × Registers :=
  match function with
  | 3 => serveRead mb data
  | 16 => serveWriteMultiple mb data
  | 6 => serveWriteSingle mb data
  | _ => (.refused .mbeIllegalFunction, mb)

/-
  What is owed to a frame, but for its checksum: nothing if
  it is damaged or a broadcast. It is address, function, data
  and checksum.
-/
def serveFrame
    (mb : Registers)
    (bytes : List UInt8) : Option (List UInt8) × Registers :=
  if crc16 bytes ≠ 0 then
    (none, mb)
  else
    match bytes with
    | address :: function :: rest =>
        let (answer, mb') :=
          serve mb function (rest.take (rest.length - 2))
        if address = mbAddressBroadcast then
          (none, mb')
        else
          (some (address :: answer.bytes function), mb')
    | _ => (none, mb)

theorem serveFrame_of_valid
    (mb : Registers)
    {address function low high : UInt8}
    {data : List UInt8}
    (hValid :
      crc16 (address :: function :: data ++ [low, high]) = 0) :
    serveFrame mb
        (address :: function :: data ++ [low, high]) =
      if address = mbAddressBroadcast then
        (none, (serve mb function data).2)
      else
        (some
            (address ::
              (serve mb function data).1.bytes function),
          (serve mb function data).2) := by
  have hData :
      (data ++ [low, high]).take
          ((data ++ [low, high]).length - 2) =
        data := by
    rw [List.length_append]
    exact List.take_left
  unfold serveFrame
  rw [if_neg (not_not.mpr hValid)]
  simp only [List.cons_append, hData]

/- A frame has at least these four fields. -/
theorem exists_fields
    {bytes : List UInt8}
    (hLength : mbFrameMin ≤ bytes.length) :
    ∃ address function data low high,
      bytes = address :: function :: data ++ [low, high] := by
  change 4 ≤ bytes.length at hLength
  match bytes with
  | [] => simp at hLength
  | [address] => simp at hLength
  | address :: function :: rest =>
    simp only [List.length_cons] at hLength
    have hTail :
        (rest.drop (rest.length - 2)).length = 2 := by
      rw [List.length_drop]
      omega
    rcases List.length_eq_two.mp hTail with
      ⟨low, high, hLast⟩
    refine
      ⟨address, function, rest.take (rest.length - 2), low,
        high, ?_⟩
    rw [← hLast, List.cons_append, List.cons_append,
      List.take_append_drop]

------------------------------------------------------------
-- Host
------------------------------------------------------------

/- The data of a request to read. -/
def readData (start count : UInt16) : List UInt8 :=
  wordBytes start ++ wordBytes count

/- The data of a request to write several registers. -/
def writeData
    (start : UInt16)
    (values : List UInt16) : List UInt8 :=
  wordBytes start ++ wordBytes (UInt16.ofNat values.length) ++
    UInt8.ofNat (2 * values.length) ::
      values.flatMap wordBytes

/- The data of a request to write a single register. -/
def writeSingleData (start value : UInt16) : List UInt8 :=
  wordBytes start ++ wordBytes value

/- The requests by which a host writes values. -/
inductive WriteRequest (start : UInt16) :
    List UInt16 → UInt8 → List UInt8 → Prop where
| multiple
    {values : List UInt16}
    (hNonempty : values ≠ []) :
    WriteRequest start values 16 (writeData start values)
| single (value : UInt16) :
    WriteRequest start [value] 6 (writeSingleData start value)

theorem length_registersFrom
    (mb : Registers)
    {start count : Nat}
    (hFits : Fits start count) :
    (registersFrom mb start count).length = count := by
  rcases hFits with ⟨hStart, hEnd⟩
  unfold registersFrom
  rw [List.length_take, List.length_drop, List.length_ofFn]
  omega

/- The values of a range, one by one. -/
theorem getElem?_registersFrom
    (mb : Registers)
    {start count k : Nat}
    (hInside : k < count)
    (hBound : start + k < numBuf) :
    (registersFrom mb start count)[k]? =
      some (mb ⟨start + k, hBound⟩) := by
  unfold registersFrom
  rw [List.getElem?_take_of_lt hInside, List.getElem?_drop,
    List.getElem?_ofFn, dif_pos hBound]

/- What was written is read back. -/
theorem registersFrom_writeValues
    (mb : Registers)
    {start : Nat}
    {values : List UInt16}
    (hFits : Fits start values.length) :
    registersFrom (writeValues mb start values) start
        values.length =
      values := by
  apply List.ext_getElem?
  intro k
  by_cases hInside : k < values.length
  · have hBound : start + k < numBuf := by
      have hEnd := hFits.2
      omega
    have hWritten :
        writeValues mb start values ⟨start + k, hBound⟩ =
          values.getD k 0 := by
      unfold writeValues writeRange
      rw [if_pos]
      · rw [Nat.add_sub_cancel_left]
      · exact ⟨Nat.le_add_right _ _, by dsimp only; omega⟩
    rw [getElem?_registersFrom _ hInside hBound, hWritten,
      List.getElem?_eq_getElem hInside,
      List.getD_eq_getElem _ _ hInside]
  · rw [List.getElem?_eq_none (by
      rw [length_registersFrom _ hFits]
      omega), List.getElem?_eq_none (by omega)]

theorem serve_readData
    (mb : Registers)
    {start count : UInt16}
    (hFits : Fits start.toNat count.toNat) :
    serve mb 3 (readData start count) =
      (.values (registersFrom mb start.toNat count.toNat),
        mb) := by
  change
    serveRead mb
        [(start >>> 8).toUInt8, start.toUInt8,
          (count >>> 8).toUInt8, count.toUInt8] =
      _
  unfold serveRead
  dsimp only
  rw [word_bytes, word_bytes, if_pos hFits]

theorem serve_writeData
    (mb : Registers)
    {start : UInt16}
    {values : List UInt16}
    (hNonempty : values ≠ [])
    (hFits : Fits start.toNat values.length)
    (hAdmitted : firstRefusal start.toNat values = .mbeNone) :
    serve mb 16 (writeData start values) =
      (.written
          (wordBytes start ++
            wordBytes (UInt16.ofNat values.length)),
        writeValues mb start.toNat values) := by
  have hPositive := List.length_pos_iff.mpr hNonempty
  have hEnd := hFits.2
  change start.toNat + values.length ≤ 120 at hEnd
  have hCount :
      (UInt16.ofNat values.length).toNat = values.length := by
    rw [UInt16.toNat_ofNat']
    omega
  have hBytes :
      (UInt8.ofNat (2 * values.length)).toNat =
        2 * values.length := by
    rw [UInt8.toNat_ofNat']
    omega
  have hLength := length_flatMap_wordBytes values
  change
    serveWriteMultiple mb
        ((start >>> 8).toUInt8 :: start.toUInt8 ::
          (UInt16.ofNat values.length >>> 8).toUInt8 ::
          (UInt16.ofNat values.length).toUInt8 ::
          UInt8.ofNat (2 * values.length) ::
          values.flatMap wordBytes) =
      _
  unfold serveWriteMultiple
  dsimp only
  rw [word_bytes, word_bytes, hCount, hBytes, hLength,
    if_neg (by omega), if_neg (not_not.mpr hFits),
    if_pos ⟨rfl, rfl⟩, wordsOf_flatMap]
  unfold serveWrite
  rw [if_pos hAdmitted]
  rfl

theorem serve_writeSingleData
    (mb : Registers)
    {start value : UInt16}
    (hFits : Fits start.toNat 1)
    (hAdmitted : firstRefusal start.toNat [value] = .mbeNone) :
    serve mb 6 (writeSingleData start value) =
      (.written (writeSingleData start value),
        writeValues mb start.toNat [value]) := by
  change
    serveWriteSingle mb
        [(start >>> 8).toUInt8, start.toUInt8,
          (value >>> 8).toUInt8, value.toUInt8] =
      _
  unfold serveWriteSingle
  dsimp only
  rw [word_bytes, word_bytes, if_pos hFits]
  unfold serveWrite
  rw [if_pos hAdmitted]
  rfl

/- Whichever request is sent, the values are written. -/
theorem WriteRequest.registers
    {start : UInt16}
    {values : List UInt16}
    {function : UInt8}
    {data : List UInt8}
    (hRequest : WriteRequest start values function data)
    (mb : Registers)
    (hFits : Fits start.toNat values.length)
    (hAdmitted : firstRefusal start.toNat values = .mbeNone) :
    (serve mb function data).2 =
      writeValues mb start.toNat values := by
  cases hRequest with
  | multiple hNonempty =>
      rw [serve_writeData mb hNonempty hFits hAdmitted]
  | single value =>
      rw [serve_writeSingleData mb hFits hAdmitted]

end TemperatureSensor
