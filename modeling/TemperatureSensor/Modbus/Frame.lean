import TemperatureSensor.Modbus.Crc16
import TemperatureSensor.Registers.Table
import Mathlib.Data.List.GetD

/-
  The Modbus structure `mb_struct`, its frame buffer, and the
  checks of a received frame.

  Main declarations:
    * `MbBuff`
    * `MbStruct`
    * `Frame` and `MbStruct.handOver`
    * `invalidFrame` and `Accepts`
-/

------------------------------------------------------------
-- Frame Buffer
------------------------------------------------------------

namespace TemperatureSensor

/- `MB_FRAME_MAX` and `MB_FRAME_MIN`. -/
def mbFrameMax : Nat := 256

def mbFrameMin : Nat := 4

/- `USB_MB_Buf`. -/
abbrev MbBuff := Fin mbFrameMax → UInt8

namespace MbBuff

/- `buff[i]`, `none` outside the array. -/
def read (buff : MbBuff) (i : Nat) : Option UInt8 :=
  if hBound : i < mbFrameMax then some (buff ⟨i, hBound⟩)
  else none

/- `buff[i] = value`, `none` outside the array. -/
def write
    (buff : MbBuff)
    (i : Nat)
    (value : UInt8) : Option MbBuff :=
  if hBound : i < mbFrameMax then
    some (Function.update buff ⟨i, hBound⟩ value)
  else
    none

/- The first `n` bytes, `none` if they pass the array. -/
def bytes (buff : MbBuff) (n : Nat) : Option (List UInt8) :=
  if n ≤ mbFrameMax then some ((List.ofFn buff).take n)
  else none

/- The byte at an index of the array. -/
def get (buff : MbBuff) (i : Nat) : UInt8 :=
  (buff.read i).getD 0

theorem read_eq_some
    (buff : MbBuff)
    {i : Nat}
    (hBound : i < mbFrameMax) :
    buff.read i = some (buff.get i) := by
  unfold get read
  rw [dif_pos hBound, Option.getD_some]

theorem write_eq_some
    (buff : MbBuff)
    {i : Nat}
    (hBound : i < mbFrameMax)
    (value : UInt8) :
    ∃ buff',
      buff.write i value = some buff' ∧
        buff'.get i = value ∧
          ∀ j, j ≠ i → buff'.get j = buff.get j := by
  refine ⟨_, dif_pos hBound, ?_, ?_⟩
  · simp [get, read, hBound]
  · intro j hOther
    unfold get read
    split
    · next hInside =>
        have hDistinct :
            (⟨j, hInside⟩ : Fin mbFrameMax) ≠ ⟨i, hBound⟩ := by
          intro hSame
          exact hOther (congrArg Fin.val hSame)
        rw [Function.update_of_ne hDistinct]
    · rfl

theorem bytes_eq_some
    (buff : MbBuff)
    {n : Nat}
    (hBound : n ≤ mbFrameMax) :
    buff.bytes n = some ((List.ofFn buff).take n) :=
  if_pos hBound

/- The first bytes depend on the bytes at their indices. -/
theorem take_ofFn_congr
    {buff buff' : MbBuff}
    {n : Nat}
    (hSame : ∀ i < n, buff'.get i = buff.get i) :
    (List.ofFn buff').take n = (List.ofFn buff).take n := by
  apply List.ext_getElem
  · simp
  · intro i hLeft hRight
    have hBounds : i < n ∧ i < mbFrameMax := by
      simpa using hLeft
    have hByte := hSame i hBounds.1
    simpa [get, read, hBounds.2] using hByte

theorem take_ofFn_succ
    (buff : MbBuff)
    {n : Nat}
    (hBound : n < mbFrameMax) :
    (List.ofFn buff).take (n + 1) =
      (List.ofFn buff).take n ++ [buff.get n] := by
  have hByte : (List.ofFn buff)[n]? = some (buff.get n) := by
    simp [get, read, hBound]
  rw [List.take_add_one, hByte, Option.toList_some]

end MbBuff

------------------------------------------------------------
-- mb_struct
------------------------------------------------------------

/- The states of `mb_state` that the firmware uses. -/
inductive MbState where
| stateIdle
| statePars
| stateSend
deriving DecidableEq, Repr

/- `eMBEep`. -/
inductive EMBEep where
| eepFree
| eepSave
deriving DecidableEq, Repr

/- `EV_NOEVENT` and `EV_HAPPEND`. -/
inductive MbEvent where
| evNoevent
| evHappend
deriving DecidableEq, Repr

/- `eMBExcep`. -/
inductive EMBExcep where
| mbeNone
| mbeIllegalFunction
| mbeIllegalDataAddress
| mbeIllegalDataValue
deriving DecidableEq, Repr

/- The exception code on the line. -/
def EMBExcep.code : EMBExcep → UInt8
| .mbeNone => 0
| .mbeIllegalFunction => 1
| .mbeIllegalDataAddress => 2
| .mbeIllegalDataValue => 3

/-
  `mb_struct`; `p_read` and `p_write` both are `MBbuf_main`,
  which is passed beside it.
-/
structure MbStruct where
  regReadLast : UInt16
  regWriteLast : UInt16
  eepStartSave : UInt16
  eepIndx : UInt8
  eepState : EMBEep
  slaveAddress : UInt8
  mbIndex : UInt8
  mbState : MbState
  erFrameBad : MbEvent
  pMbBuff : MbBuff
  responseSize : UInt8

/- What `mh_usb_init` sets and nothing changes later. -/
structure MbStruct.Initialised (mbb : MbStruct) : Prop where
  readLast : mbb.regReadLast.toNat = numBuf - 1
  writeLast : mbb.regWriteLast.toNat = numBuf - 1

/- The structure that `mh_usb_init` leaves. -/
def mhUsbInit (mbb : MbStruct) : MbStruct :=
  { mbb with
    regReadLast := UInt16.ofNat (numBuf - 1)
    regWriteLast := UInt16.ofNat (numBuf - 1)
    eepState := .eepFree
    erFrameBad := .evNoevent
    slaveAddress := 0
    mbState := .stateIdle }

theorem mhUsbInit_initialised
    (mbb : MbStruct) :
    (mhUsbInit mbb).Initialised :=
  ⟨rfl, rfl⟩

/- `All_Idle_Check`. -/
def allIdleCheck (mbb : MbStruct) : RegErrorCode :=
  if mbb.eepState = .eepFree ∧ mbb.mbState = .stateIdle then
    .regOk
  else
    .regErr

------------------------------------------------------------
-- Received Frames
------------------------------------------------------------

/- A byte string that can be handed over as a frame. -/
structure Frame where
  bytes : List UInt8
  lower : mbFrameMin ≤ bytes.length
  upper : bytes.length ≤ 255

/-
  Hand a received frame over: `mb_index`, `mb_state` and the
  `memcpy` into the frame buffer.
-/
def MbStruct.handOver
    (mbb : MbStruct)
    (frame : Frame) : MbStruct :=
  { mbb with
    mbIndex := UInt8.ofNat frame.bytes.length
    mbState := .statePars
    pMbBuff := fun i =>
      frame.bytes.getD i.val (mbb.pMbBuff i) }

/- The first `mb_index` bytes of the frame buffer. -/
def MbStruct.message (mbb : MbStruct) : List UInt8 :=
  (List.ofFn mbb.pMbBuff).take mbb.mbIndex.toNat

theorem length_message
    (mbb : MbStruct) :
    mbb.message.length = mbb.mbIndex.toNat := by
  have hWidth : mbb.mbIndex.toNat ≤ mbFrameMax :=
    mbb.mbIndex.toNat_lt.le
  unfold MbStruct.message
  rw [List.length_take, List.length_ofFn]
  exact Nat.min_eq_left hWidth

/- A frame that is handed over is the message. -/
theorem message_handOver
    (mbb : MbStruct)
    (frame : Frame) :
    (mbb.handOver frame).message = frame.bytes := by
  have hUpper := frame.upper
  have hIndex :
      (UInt8.ofNat frame.bytes.length).toNat =
        frame.bytes.length := by
    rw [UInt8.toNat_ofNat']
    omega
  unfold MbStruct.message MbStruct.handOver
  rw [hIndex]
  apply List.ext_getElem
  · rw [List.length_take, List.length_ofFn]
    change min frame.bytes.length 256 = _
    omega
  · intro i hLeft hRight
    rw [List.getElem_take, List.getElem_ofFn]
    exact List.getD_eq_getElem _ _ hRight

/- `MB_ADDRESS_BROADCAST`. -/
def mbAddressBroadcast : UInt8 := 0

/- `InvalidFrame`. -/
def invalidFrame (mbb : MbStruct) : Option Bool :=
  if mbb.erFrameBad = .evHappend then
    some true
  else if mbb.mbIndex.toNat < mbFrameMin then
    some true
  else do
    let address ← mbb.pMbBuff.read 0
    if mbb.slaveAddress ≠ address ∧
        address ≠ mbAddressBroadcast ∧
          mbb.slaveAddress ≠ 0 then
      some true
    else if mbb.eepState ≠ .eepFree then
      some true
    else
      let pdu ← mbb.pMbBuff.bytes mbb.mbIndex.toNat
      some (crc16 pdu ≠ 0)

/- What `InvalidFrame` asks of a frame. -/
structure Accepts (mbb : MbStruct) : Prop where
  frameBad : mbb.erFrameBad ≠ .evHappend
  length : mbFrameMin ≤ mbb.mbIndex.toNat
  address :
    mbb.slaveAddress = mbb.pMbBuff.get 0 ∨
      mbb.pMbBuff.get 0 = mbAddressBroadcast ∨
        mbb.slaveAddress = 0
  free : mbb.eepState = .eepFree
  checksum : crc16 mbb.message = 0

/-
  The check reads inside the buffer, and exactly the frames
  that it asks for pass it.
-/
theorem invalidFrame_spec
    (mbb : MbStruct) :
    ∃ invalid,
      invalidFrame mbb = some invalid ∧
        (invalid = false ↔ Accepts mbb) := by
  have hBytes :
      mbb.pMbBuff.bytes mbb.mbIndex.toNat =
        some mbb.message :=
    mbb.pMbBuff.bytes_eq_some mbb.mbIndex.toNat_lt.le
  unfold invalidFrame
  rw [mbb.pMbBuff.read_eq_some (by decide), hBytes]
  simp only [Option.bind_eq_bind, Option.bind_some]
  by_cases hBad : mbb.erFrameBad = .evHappend
  · rw [if_pos hBad]
    refine ⟨true, rfl, iff_of_false (by decide) ?_⟩
    intro hAccepts
    exact hAccepts.frameBad hBad
  rw [if_neg hBad]
  by_cases hShort : mbb.mbIndex.toNat < mbFrameMin
  · rw [if_pos hShort]
    refine ⟨true, rfl, iff_of_false (by decide) ?_⟩
    intro hAccepts
    exact not_lt.mpr hAccepts.length hShort
  rw [if_neg hShort]
  by_cases hOther :
      mbb.slaveAddress ≠ mbb.pMbBuff.get 0 ∧
        mbb.pMbBuff.get 0 ≠ mbAddressBroadcast ∧
          mbb.slaveAddress ≠ 0
  · rw [if_pos hOther]
    refine ⟨true, rfl, iff_of_false (by decide) ?_⟩
    intro hAccepts
    rcases hAccepts.address with hSame | hAll | hUnset
    · exact hOther.1 hSame
    · exact hOther.2.1 hAll
    · exact hOther.2.2 hUnset
  rw [if_neg hOther]
  by_cases hPending : mbb.eepState ≠ .eepFree
  · rw [if_pos hPending]
    refine ⟨true, rfl, iff_of_false (by decide) ?_⟩
    intro hAccepts
    exact hPending hAccepts.free
  rw [if_neg hPending]
  have hAddress :
      mbb.slaveAddress = mbb.pMbBuff.get 0 ∨
        mbb.pMbBuff.get 0 = mbAddressBroadcast ∨
          mbb.slaveAddress = 0 := by
    by_contra hNone
    rw [not_or, not_or] at hNone
    exact hOther hNone
  refine ⟨_, rfl, ?_, ?_⟩
  · intro hPassed
    exact
      ⟨hBad, not_lt.mp hShort, hAddress, not_not.mp hPending,
        not_not.mp (of_decide_eq_false hPassed)⟩
  · intro hAccepts
    exact decide_eq_false (not_not.mpr hAccepts.checksum)

/- A frame passes the check exactly if it is accepted. -/
theorem invalidFrame_eq_false_iff
    {mbb : MbStruct} :
    invalidFrame mbb = some false ↔ Accepts mbb := by
  rcases invalidFrame_spec mbb with
    ⟨invalid, hInvalid, hAccepts⟩
  rw [hInvalid, Option.some.injEq, hAccepts]

theorem invalidFrame_eq_true_iff
    {mbb : MbStruct} :
    invalidFrame mbb = some true ↔ ¬ Accepts mbb := by
  rcases invalidFrame_spec mbb with
    ⟨invalid, hInvalid, hAccepts⟩
  rw [hInvalid, Option.some.injEq, ← hAccepts,
    Bool.not_eq_false]

end TemperatureSensor
