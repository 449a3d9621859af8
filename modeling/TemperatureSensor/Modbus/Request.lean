import TemperatureSensor.Modbus.Frame
import TemperatureSensor.Foundations.CheckedLoop

/-
  `FrameParse` and `MBparsing`: the three register requests,
  the exceptions, and the response in the frame buffer.

  Main declarations:
    * `word`
    * `eepromCheckInRequest` and `limitCheckInRequest`
    * `frameParse`
    * `mbParsing`
-/

------------------------------------------------------------
-- Words
------------------------------------------------------------

namespace TemperatureSensor

/- A word of two bytes, the high byte first. -/
def word (high low : UInt8) : UInt16 :=
  high.toUInt16 <<< 8 ||| low.toUInt16

theorem toNat_word
    (high low : UInt8) :
    (word high low).toNat = high.toNat * 256 + low.toNat := by
  have hHigh := high.toNat_lt
  have hLow := low.toNat_lt
  have hShift :
      high.toNat <<< 8 % 2 ^ 16 = high.toNat <<< 8 := by
    apply Nat.mod_eq_of_lt
    rw [Nat.shiftLeft_eq]
    omega
  unfold word
  rw [UInt16.toNat_or, UInt16.toNat_shiftLeft,
    UInt8.toNat_toUInt16, UInt8.toNat_toUInt16]
  change high.toNat <<< 8 % 2 ^ 16 ||| low.toNat = _
  rw [hShift, ← Nat.shiftLeft_add_eq_or_of_lt hLow,
    Nat.shiftLeft_eq]

theorem toNat_lowByte
    (x : UInt16) :
    (x &&& 0xFF).toUInt8.toNat = x.toNat % 256 := by
  have hMask : (0xFF : UInt16).toNat = 2 ^ 8 - 1 := by decide
  rw [UInt16.toNat_toUInt8, UInt16.toNat_and, hMask,
    Nat.and_two_pow_sub_one_eq_mod]
  omega

theorem toNat_highByte
    (x : UInt16) :
    (x >>> 8).toUInt8.toNat = x.toNat / 256 := by
  have hWidth := x.toNat_lt
  rw [UInt16.toNat_toUInt8, UInt16.toNat_shiftRight]
  change x.toNat >>> 8 % 256 = _
  rw [Nat.shiftRight_eq_div_pow]
  omega

/- The checksum is sent as its two bytes. -/
theorem lowByte_crc16
    (puchMsg : List UInt8) :
    (crc16 puchMsg &&& 0xFF).toUInt8 =
      (crcBytes puchMsg).uchCRCLo := by
  have hLow := (crcBytes puchMsg).uchCRCLo.toNat_lt
  apply UInt8.toNat_inj.mp
  rw [toNat_lowByte]
  change
    (word (crcBytes puchMsg).uchCRCHi
      (crcBytes puchMsg).uchCRCLo).toNat % 256 = _
  rw [toNat_word]
  omega

theorem highByte_crc16
    (puchMsg : List UInt8) :
    (crc16 puchMsg >>> 8).toUInt8 =
      (crcBytes puchMsg).uchCRCHi := by
  have hLow := (crcBytes puchMsg).uchCRCLo.toNat_lt
  apply UInt8.toNat_inj.mp
  rw [toNat_highByte]
  change
    (word (crcBytes puchMsg).uchCRCHi
      (crcBytes puchMsg).uchCRCLo).toNat / 256 = _
  rw [toNat_word]
  omega

/- The bytes of a register make up the register. -/
theorem word_bytes
    (x : UInt16) :
    word (x >>> 8).toUInt8 x.toUInt8 = x := by
  apply UInt16.toNat_inj.mp
  rw [toNat_word, toNat_highByte, UInt16.toNat_toUInt8]
  omega

------------------------------------------------------------
-- Request Checks
------------------------------------------------------------

/- The loop of `Eeprom_Check_in_Request`. -/
def eepromScan : List Nat → Option EMBEep
| [] => some .eepFree
| numberReg :: rest => do
    let r ← register? numberReg
    if eeSaveCheck r = .regOk then some .eepSave
    else eepromScan rest

/- `Eeprom_Check_in_Request`. -/
def eepromCheckInRequest
    (startReg count : UInt16) : Option EMBEep :=
  if count.toNat + startReg.toNat ≥ numBuf then
    some .eepFree
  else
    eepromScan (List.range' startReg.toNat count.toNat)

/- `Limit_Check_in_Request`. -/
def limitCheckInRequest
    (numberReg : Nat)
    (value : UInt16) : Option EMBExcep := do
  let r ← register? numberReg
  if writeCheck r = .regErr then
    some .mbeIllegalDataAddress
  else if limitCheck r value = .regErr then
    some .mbeIllegalDataValue
  else
    some .mbeNone

/-
  The validation loop of `FrameParse`: the registers in
  order, their values from buffer index `j` on.
-/
def limitCheckLoop
    (buff : MbBuff) :
    List Nat → Nat → Option EMBExcep
| [], _ => some .mbeNone
| numberReg :: rest, j => do
    let high ← buff.read j
    let low ← buff.read (j + 1)
    let exception ←
      limitCheckInRequest numberReg (word high low)
    if exception = .mbeNone then
      limitCheckLoop buff rest (j + 2)
    else
      some exception

------------------------------------------------------------
-- FrameParse
------------------------------------------------------------

/- What a function branch of `FrameParse` leaves. -/
structure Parsed where
  exception : EMBExcep
  mbb : MbStruct
  mbBufMain : Registers

/- The body of the write loop, over `MBbuf_main` and `i`. -/
def writeBody
    (buff : MbBuff)
    (s : Registers × Nat)
    (regIndx : Nat) : Option (Registers × Nat) := do
  let high ← buff.read s.2
  let low ← buff.read (s.2 + 1)
  let r ← register? regIndx
  some (Function.update s.1 r (word high low), s.2 + 2)

/- Record the save check and, for a save, its registers. -/
def recordSave
    (mbb : MbStruct)
    (eepState : EMBEep)
    (regIndx regNmb : UInt16) : MbStruct :=
  let mbb := { mbb with eepState := eepState }
  if eepState = .eepSave then
    { mbb with
      eepStartSave := regIndx
      eepIndx := regNmb.toUInt8 }
  else
    mbb

/-
  The common part of the two write functions: the save
  check, the validation pass and the write pass over
  `regNmb` registers, with values from buffer index `i` on.
-/
def writeRegisters
    (mbb : MbStruct)
    (mbBufMain : Registers)
    (regIndx regNmb : UInt16)
    (i : Nat) : Option Parsed := do
  let regLast := regIndx + regNmb
  let registers :=
    List.range' regIndx.toNat (regLast.toNat - regIndx.toNat)
  let eepState ← eepromCheckInRequest regIndx regNmb
  let mbb := recordSave mbb eepState regIndx regNmb
  let exception ← limitCheckLoop mbb.pMbBuff registers i
  if exception = .mbeNone then
    let written ←
      CheckedLoop.forEach (writeBody mbb.pMbBuff) registers
        (mbBufMain, i)
    some ⟨.mbeNone, { mbb with mbIndex := 6 }, written.1⟩
  else
    some ⟨exception, mbb, mbBufMain⟩

/- The range check of the two functions with a count. -/
def rangeRefused
    (lastReg regIndx regNmb : UInt16) : Bool :=
  regIndx > lastReg ||
    ((regIndx + regNmb).toNat : Int) - 1 > lastReg.toNat ||
      regNmb > 0x78

/- The body of the read loop, over buffer and `mb_index`. -/
def readBody
    (mbBufMain : Registers)
    (s : MbBuff × UInt8)
    (regIndx : Nat) : Option (MbBuff × UInt8) := do
  let r ← register? regIndx
  let buff ←
    s.1.write s.2.toNat (mbBufMain r >>> 8).toUInt8
  let buff ←
    buff.write (s.2 + 1).toNat (mbBufMain r).toUInt8
  some (buff, s.2 + 1 + 1)

/- Function 3: read holding registers. -/
def parseRead
    (mbb : MbStruct)
    (mbBufMain : Registers) : Option Parsed :=
  if mbb.mbIndex = 8 then do
    let regIndx :=
      word (← mbb.pMbBuff.read 2) (← mbb.pMbBuff.read 3)
    let regNmb :=
      word (← mbb.pMbBuff.read 4) (← mbb.pMbBuff.read 5)
    let regLast := regIndx + regNmb
    if rangeRefused mbb.regReadLast regIndx regNmb then
      some ⟨.mbeIllegalDataAddress, mbb, mbBufMain⟩
    else
      let buff ←
        mbb.pMbBuff.write 2 (regNmb <<< 1).toUInt8
      let (buff, mbIndex) ←
        CheckedLoop.forEach (readBody mbBufMain)
          (List.range' regIndx.toNat
            (regLast.toNat - regIndx.toNat)) (buff, 3)
      some
        ⟨.mbeNone,
          { mbb with pMbBuff := buff, mbIndex := mbIndex },
          mbBufMain⟩
  else
    some ⟨.mbeIllegalDataValue, mbb, mbBufMain⟩

/- Function 16: write multiple registers. -/
def parseWriteMultiple
    (mbb : MbStruct)
    (mbBufMain : Registers) : Option Parsed :=
  if mbb.mbIndex > 10 then do
    let regIndx :=
      word (← mbb.pMbBuff.read 2) (← mbb.pMbBuff.read 3)
    let regNmb :=
      word (← mbb.pMbBuff.read 4) (← mbb.pMbBuff.read 5)
    let bytesN ← mbb.pMbBuff.read 6
    if rangeRefused mbb.regWriteLast regIndx regNmb then
      some ⟨.mbeIllegalDataAddress, mbb, mbBufMain⟩
    else if bytesN.toNat ≠ regNmb.toNat <<< 1 ∨
        mbb.mbIndex.toNat ≠ 9 + bytesN.toNat then
      some ⟨.mbeIllegalDataValue, mbb, mbBufMain⟩
    else
      writeRegisters mbb mbBufMain regIndx regNmb 7
  else
    some ⟨.mbeIllegalDataValue, mbb, mbBufMain⟩

/- Function 6: write a single register. -/
def parseWriteSingle
    (mbb : MbStruct)
    (mbBufMain : Registers) : Option Parsed :=
  if mbb.mbIndex = 8 then do
    let regIndx :=
      word (← mbb.pMbBuff.read 2) (← mbb.pMbBuff.read 3)
    if regIndx > mbb.regWriteLast then
      some ⟨.mbeIllegalDataAddress, mbb, mbBufMain⟩
    else
      writeRegisters mbb mbBufMain regIndx 1 4
  else
    some ⟨.mbeIllegalDataValue, mbb, mbBufMain⟩

/- The `switch` of `FrameParse` over the function code. -/
def parseFunction
    (function : UInt8)
    (mbb : MbStruct)
    (mbBufMain : Registers) : Option Parsed :=
  match function with
  | 3 => parseRead mbb mbBufMain
  | 16 => parseWriteMultiple mbb mbBufMain
  | 6 => parseWriteSingle mbb mbBufMain
  | _ => some ⟨.mbeIllegalFunction, mbb, mbBufMain⟩

/- The exception response at the end of `FrameParse`. -/
def exceptionResponse
    (mbb : MbStruct)
    (exception : EMBExcep) : Option MbStruct :=
  if exception = .mbeNone then
    some mbb
  else do
    let function ← mbb.pMbBuff.read 1
    let buff ← mbb.pMbBuff.write 1 (function ||| 0x80)
    let buff ← buff.write 2 exception.code
    some
      { mbb with
        pMbBuff := buff
        mbIndex := 3
        eepState := .eepFree }

/- The checksum and the size of the response. -/
def closeResponse (mbb : MbStruct) : Option MbStruct := do
  let body ← mbb.pMbBuff.bytes mbb.mbIndex.toNat
  let i := crc16 body
  let buff ←
    mbb.pMbBuff.write mbb.mbIndex.toNat (i &&& 0xFF).toUInt8
  let mbIndex := mbb.mbIndex + 1
  let buff ← buff.write mbIndex.toNat (i >>> 8).toUInt8
  some
    { mbb with
      pMbBuff := buff
      mbIndex := mbIndex
      responseSize := mbIndex + 1 }

/- `FrameParse`; the flag tells if a response is needed. -/
def frameParse
    (mbb : MbStruct)
    (mbBufMain : Registers) :
    Option (Bool × MbStruct × Registers) := do
  let address ← mbb.pMbBuff.read 0
  let function ← mbb.pMbBuff.read 1
  let parsed ← parseFunction function mbb mbBufMain
  let mbb ← exceptionResponse parsed.mbb parsed.exception
  let mbb ← closeResponse mbb
  some
    (address ≠ mbAddressBroadcast, mbb, parsed.mbBufMain)

/-
  `MBparsing` up to its call of `f_save`, which follows a
  valid frame when `eep_state` is `EEP_SAVE`.
-/
def mbParsing
    (mbb : MbStruct)
    (mbBufMain : Registers) :
    Option (MbStruct × Registers) := do
  let invalid ← invalidFrame mbb
  if invalid then
    some ({ mbb with mbState := .stateIdle }, mbBufMain)
  else
    let (needResponse, mbb, mbBufMain) ←
      frameParse mbb mbBufMain
    if needResponse then
      some
        ({ mbb with mbState := .stateSend, mbIndex := 0 },
          mbBufMain)
    else
      some ({ mbb with mbState := .stateIdle }, mbBufMain)

end TemperatureSensor
