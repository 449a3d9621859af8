import Mathlib.Data.List.GetD
import TemperatureSensor.Foundations.SideBySide
import TemperatureSensor.Modbus.Exchange

/-
  What an answer depends on: the bytes that the frame has
  brought, the registers and the fields of the structure, and
  not the bytes that earlier frames have left in the buffer.

  Main declarations:
    * `SameBytes`
    * `Alike` and `AlikeAnswer`
    * `mbParsing_alike`
    * `exchanges_alike`
-/

------------------------------------------------------------
-- Buffers
------------------------------------------------------------

namespace TemperatureSensor

open SideBySide

/- Two buffers with the same first bytes. -/
def SameBytes (n : Nat) (buff buff' : MbBuff) : Prop :=
  ∀ i, i < n → buff'.get i = buff.get i

namespace SameBytes

variable {n : Nat}
variable {buff buff' : MbBuff}

theorem mono
    (hSame : SameBytes n buff buff')
    {m : Nat}
    (hFewer : m ≤ n) :
    SameBytes m buff buff' :=
  fun i hInside => hSame i (by omega)

theorem read_eq
    (hSame : SameBytes n buff buff')
    {i : Nat}
    (hInside : i < n) :
    buff'.read i = buff.read i := by
  have hByte := hSame i hInside
  unfold MbBuff.get at hByte
  by_cases hBound : i < mbFrameMax
  · rw [buff.read_eq_some hBound,
      buff'.read_eq_some hBound]
    exact congrArg some hByte
  · unfold MbBuff.read
    rw [dif_neg hBound, dif_neg hBound]

theorem bytes_eq
    (hSame : SameBytes n buff buff')
    {m : Nat}
    (hFewer : m ≤ n) :
    buff'.bytes m = buff.bytes m := by
  unfold MbBuff.bytes
  rw [MbBuff.take_ofFn_congr (hSame.mono hFewer)]

/-
  A write of the same byte: the bytes before it stay the same
  and the written one becomes the same.
-/
theorem write_rel
    (hSame : SameBytes n buff buff')
    {i m : Nat}
    (hCover : ∀ j, j < m → j < n ∨ j = i)
    (value : UInt8) :
    Option.Rel (SameBytes m) (buff.write i value)
      (buff'.write i value) := by
  by_cases hBound : i < mbFrameMax
  · rcases buff.write_eq_some hBound value with
      ⟨next, hWrite, hHere, hOther⟩
    rcases buff'.write_eq_some hBound value with
      ⟨next', hWrite', hHere', hOther'⟩
    rw [hWrite, hWrite']
    apply Option.Rel.some
    intro j hInside
    by_cases hWritten : j = i
    · rw [hWritten, hHere, hHere']
    · rw [hOther j hWritten, hOther' j hWritten]
      rcases hCover j hInside with hBefore | hSelf
      · exact hSame j hBefore
      · exact absurd hSelf hWritten
  · unfold MbBuff.write
    rw [dif_neg hBound, dif_neg hBound]
    exact Option.Rel.none

end SameBytes

------------------------------------------------------------
-- Structures
------------------------------------------------------------

/- The fields that outlast an exchange. -/
structure SameFields (mbb mbb' : MbStruct) : Prop where
  setup : SameSetup mbb mbb'
  eepState : mbb'.eepState = mbb.eepState
  eepStartSave : mbb'.eepStartSave = mbb.eepStartSave
  eepIndx : mbb'.eepIndx = mbb.eepIndx

theorem SameFields.with_frame
    {mbb mbb' : MbStruct}
    (hFields : SameFields mbb mbb')
    (mbIndex mbIndex' responseSize responseSize' : UInt8)
    (mbState mbState' : MbState)
    (buff buff' : MbBuff) :
    SameFields
      { mbb with
        mbIndex := mbIndex
        mbState := mbState
        pMbBuff := buff
        responseSize := responseSize }
      { mbb' with
        mbIndex := mbIndex'
        mbState := mbState'
        pMbBuff := buff'
        responseSize := responseSize' } :=
  ⟨⟨hFields.setup.readLast, hFields.setup.writeLast,
      hFields.setup.address, hFields.setup.frameBad⟩,
    hFields.eepState, hFields.eepStartSave, hFields.eepIndx⟩

/-
  Two structures that differ at most in the bytes from
  `mb_index` on, in the state and in the size of a response.
-/
structure Alike (mbb mbb' : MbStruct) : Prop
    extends SameFields mbb mbb' where
  index : mbb'.mbIndex = mbb.mbIndex
  bytes :
    SameBytes mbb.mbIndex.toNat mbb.pMbBuff mbb'.pMbBuff

/-
  Two answers: the same state and fields, and the same bytes
  to send if there are any.
-/
structure AlikeAnswer (answer answer' : MbStruct) : Prop
    extends SameFields answer answer' where
  state : answer'.mbState = answer.mbState
  response :
    answer.mbState = .stateSend →
      answer'.response = answer.response

/- Two results of a function branch. -/
structure AlikeParsed (parsed parsed' : Parsed) : Prop where
  exception : parsed'.exception = parsed.exception
  registers : parsed'.mbBufMain = parsed.mbBufMain
  mbb : Alike parsed.mbb parsed'.mbb
  refused :
    parsed.exception ≠ .mbeNone →
      SameBytes 2 parsed.mbb.pMbBuff parsed'.mbb.pMbBuff

/- A refused request leaves the structure as it is. -/
theorem alike_refused
    {mbb mbb' : MbStruct}
    (hAlike : Alike mbb mbb')
    (hLong : mbFrameMin ≤ mbb.mbIndex.toNat)
    (exception : EMBExcep)
    (mb : Registers) :
    Option.Rel AlikeParsed (some ⟨exception, mbb, mb⟩)
      (some ⟨exception, mbb', mb⟩) := by
  change 4 ≤ mbb.mbIndex.toNat at hLong
  exact
    Option.Rel.some
      ⟨rfl, rfl, hAlike,
        fun _ => hAlike.bytes.mono (by omega)⟩

------------------------------------------------------------
-- Loops
------------------------------------------------------------

theorem index_writeBody
    {buff : MbBuff}
    {s t : Registers × Nat}
    {r : Nat}
    (hBody : writeBody buff s r = some t) :
    t.2 = s.2 + 2 := by
  rcases Option.bind_eq_some_iff.mp hBody with
    ⟨high, -, hLow⟩
  rcases Option.bind_eq_some_iff.mp hLow with ⟨low, -, hLast⟩
  rcases Option.bind_eq_some_iff.mp hLast with ⟨q, -, hPair⟩
  cases hPair
  rfl

section Loops

variable {n : Nat}
variable {buff buff' : MbBuff}
variable (hSame : SameBytes n buff buff')

include hSame

/- The validation pass reads the values of the frame. -/
theorem limitCheckLoop_congr
    (registers : List Nat)
    {j : Nat}
    (hInside : j + 2 * registers.length ≤ n) :
    limitCheckLoop buff' registers j =
      limitCheckLoop buff registers j := by
  induction registers generalizing j with
  | nil => rfl
  | cons r registers ih =>
      rw [List.length_cons] at hInside
      unfold limitCheckLoop
      rw [hSame.read_eq (by omega), hSame.read_eq (by omega),
        ih (by omega)]

theorem writeBody_congr
    (registers : Registers)
    (r : Nat)
    {j : Nat}
    (hInside : j + 2 ≤ n) :
    writeBody buff' (registers, j) r =
      writeBody buff (registers, j) r := by
  unfold writeBody
  dsimp only
  rw [hSame.read_eq (by omega), hSame.read_eq (by omega)]

/- So does the write pass. -/
theorem writeLoop_congr
    (registers : List Nat)
    (mb : Registers)
    {j : Nat}
    (hInside : j + 2 * registers.length ≤ n) :
    CheckedLoop.forEach (writeBody buff') registers (mb, j) =
      CheckedLoop.forEach (writeBody buff) registers
        (mb, j) := by
  induction registers generalizing mb j with
  | nil => rfl
  | cons r registers ih =>
      rw [List.length_cons] at hInside
      rw [CheckedLoop.forEach, CheckedLoop.forEach,
        writeBody_congr hSame mb r (by omega)]
      cases hNext : writeBody buff (mb, j) r with
      | none => rfl
      | some next =>
          rcases next with ⟨mb', j'⟩
          have hIndex : j' = j + 2 := index_writeBody hNext
          subst hIndex
          exact ih mb' (by omega)

end Loops

/-
  The read pass writes what it has read; the bytes behind its
  index become the same as it goes on.
-/
theorem readLoop_rel
    {buff buff' : MbBuff}
    {mbIndex : UInt8}
    (hSame : SameBytes mbIndex.toNat buff buff')
    (mb : Registers)
    (registers : List Nat) :
    Option.Rel
      (fun s s' =>
        s'.2 = s.2 ∧ SameBytes s.2.toNat s.1 s'.1)
      (CheckedLoop.forEach (readBody mb) registers
        (buff, mbIndex))
      (CheckedLoop.forEach (readBody mb) registers
        (buff', mbIndex)) := by
  apply forEach_rel
  · rintro ⟨buff, i⟩ ⟨buff', i'⟩ r ⟨hIndex, hSame⟩
    dsimp only at hIndex hSame
    subst hIndex
    unfold readBody
    have hNext :
        ∀ k : UInt8, ∀ j, j < (k + 1).toNat →
          j < k.toNat ∨ j = k.toNat := by
      intro k j hInside
      rw [UInt8.toNat_add] at hInside
      change j < (k.toNat + 1) % 256 at hInside
      omega
    apply rel_bind_same
    intro q
    apply rel_bind (hSame.write_rel (hNext i') _)
    intro first first' hFirst
    apply rel_bind (hFirst.write_rel (hNext (i' + 1)) _)
    intro second second' hSecond
    exact Option.Rel.some ⟨rfl, hSecond⟩
  · exact ⟨rfl, hSame⟩

------------------------------------------------------------
-- Functions
------------------------------------------------------------

theorem toNat_regLast_sub_le
    (regIndx regNmb : UInt16) :
    (regIndx + regNmb).toNat - regIndx.toNat ≤
      regNmb.toNat := by
  rw [UInt16.toNat_add]
  omega

theorem pMbBuff_recordSave
    (mbb : MbStruct)
    (eepState : EMBEep)
    (regIndx regNmb : UInt16) :
    (recordSave mbb eepState regIndx regNmb).pMbBuff =
      mbb.pMbBuff := by
  unfold recordSave
  split <;> rfl

section Functions

variable {mbb mbb' : MbStruct}
variable (hAlike : Alike mbb mbb')
variable (mb : Registers)

include hAlike

/- A frame of `n` bytes has brought the first `n` bytes. -/
theorem Alike.bytes_of_index
    {n : UInt8}
    (hIndex : mbb.mbIndex = n) :
    SameBytes n.toNat mbb.pMbBuff mbb'.pMbBuff := by
  have hBytes := hAlike.bytes
  rwa [hIndex] at hBytes

theorem parseRead_alike
    (hLong : mbFrameMin ≤ mbb.mbIndex.toNat) :
    Option.Rel AlikeParsed (parseRead mbb mb)
      (parseRead mbb' mb) := by
  have hRange :
      rangeRefused mbb'.regReadLast =
        rangeRefused mbb.regReadLast := by
    rw [hAlike.setup.readLast]
  unfold parseRead
  rw [hAlike.index, hRange]
  apply rel_ite
  · intro hSize
    have hBytes := hAlike.bytes_of_index hSize
    rw [hBytes.read_eq (by decide), hBytes.read_eq (by decide),
      hBytes.read_eq (by decide), hBytes.read_eq (by decide)]
    apply rel_bind_same
    intro startHigh
    apply rel_bind_same
    intro startLow
    apply rel_bind_same
    intro countHigh
    apply rel_bind_same
    intro countLow
    apply rel_ite
    · intro _
      exact alike_refused hAlike hLong _ mb
    · intro _
      have hHeader :=
        (hBytes.mono (m := 3) (by decide)).write_rel (i := 2)
          (m := 3) (fun j hInside => Or.inl hInside)
      apply rel_bind (hHeader _)
      intro buff buff' hSame
      have hThree : SameBytes (3 : UInt8).toNat buff buff' :=
        hSame
      apply rel_bind (readLoop_rel hThree mb _)
      rintro ⟨last, i⟩ ⟨last', i'⟩ ⟨hIndex, hLast⟩
      dsimp only at hIndex hLast
      subst hIndex
      exact
        Option.Rel.some
          ⟨rfl, rfl,
            ⟨hAlike.with_frame _ _ _ _ _ _ _ _, rfl, hLast⟩,
            fun hRefused => absurd rfl hRefused⟩
  · intro _
    exact alike_refused hAlike hLong _ mb

/- The save check records the same save. -/
theorem recordSave_alike
    (eepState : EMBEep)
    (regIndx regNmb : UInt16) :
    Alike (recordSave mbb eepState regIndx regNmb)
      (recordSave mbb' eepState regIndx regNmb) := by
  have hSetup := hAlike.setup
  unfold recordSave
  dsimp only
  split
  · exact
      ⟨⟨⟨hSetup.readLast, hSetup.writeLast, hSetup.address,
            hSetup.frameBad⟩, rfl, rfl, rfl⟩,
        hAlike.index, hAlike.bytes⟩
  · exact
      ⟨⟨⟨hSetup.readLast, hSetup.writeLast, hSetup.address,
            hSetup.frameBad⟩, rfl, hAlike.eepStartSave,
          hAlike.eepIndx⟩,
        hAlike.index, hAlike.bytes⟩

/- Both passes read the values that the frame has brought. -/
theorem writeRegisters_alike
    (regIndx regNmb : UInt16)
    {i : Nat}
    (hLong : 6 ≤ mbb.mbIndex.toNat)
    (hInside :
      i + 2 * ((regIndx + regNmb).toNat - regIndx.toNat) ≤
        mbb.mbIndex.toNat) :
    Option.Rel AlikeParsed
      (writeRegisters mbb mb regIndx regNmb i)
      (writeRegisters mbb' mb regIndx regNmb i) := by
  unfold writeRegisters
  dsimp only
  apply rel_bind_same
  intro eepState
  have hRecord :=
    recordSave_alike hAlike eepState regIndx regNmb
  rw [pMbBuff_recordSave, pMbBuff_recordSave,
    limitCheckLoop_congr hAlike.bytes _
      (by rw [List.length_range']; exact hInside),
    writeLoop_congr hAlike.bytes _ mb
      (by rw [List.length_range']; exact hInside)]
  apply rel_bind_same
  intro exception
  apply rel_ite
  · intro _
    apply rel_bind_same
    intro written
    exact
      Option.Rel.some
        ⟨rfl, rfl,
          ⟨hRecord.with_frame _ _ _ _ _ _ _ _, rfl,
            hAlike.bytes.mono hLong⟩,
          fun hRefused => absurd rfl hRefused⟩
  · intro _
    refine Option.Rel.some ⟨rfl, rfl, hRecord, fun _ => ?_⟩
    rw [pMbBuff_recordSave, pMbBuff_recordSave]
    exact hAlike.bytes.mono (by omega)

theorem parseWriteMultiple_alike
    (hLong : mbFrameMin ≤ mbb.mbIndex.toNat) :
    Option.Rel AlikeParsed (parseWriteMultiple mbb mb)
      (parseWriteMultiple mbb' mb) := by
  have hRange :
      rangeRefused mbb'.regWriteLast =
        rangeRefused mbb.regWriteLast := by
    rw [hAlike.setup.writeLast]
  unfold parseWriteMultiple
  rw [hAlike.index, hRange]
  apply rel_ite
  · intro hSize
    have hTen : 10 < mbb.mbIndex.toNat :=
      UInt8.lt_iff_toNat_lt.mp hSize
    have hBytes := hAlike.bytes
    rw [hBytes.read_eq (by omega), hBytes.read_eq (by omega),
      hBytes.read_eq (by omega), hBytes.read_eq (by omega),
      hBytes.read_eq (by omega)]
    apply rel_bind_same
    intro startHigh
    apply rel_bind_same
    intro startLow
    apply rel_bind_same
    intro countHigh
    apply rel_bind_same
    intro countLow
    apply rel_bind_same
    intro bytesN
    apply rel_ite
    · intro _
      exact alike_refused hAlike hLong _ mb
    · intro _
      apply rel_ite
      · intro _
        exact alike_refused hAlike hLong _ mb
      · intro hWhole
        rw [not_or, not_not, not_not, Nat.shiftLeft_eq]
          at hWhole
        have hCount :=
          toNat_regLast_sub_le (word startHigh startLow)
            (word countHigh countLow)
        apply writeRegisters_alike hAlike mb _ _ (by omega)
        omega
  · intro _
    exact alike_refused hAlike hLong _ mb

theorem parseWriteSingle_alike
    (hLong : mbFrameMin ≤ mbb.mbIndex.toNat) :
    Option.Rel AlikeParsed (parseWriteSingle mbb mb)
      (parseWriteSingle mbb' mb) := by
  unfold parseWriteSingle
  rw [hAlike.index, hAlike.setup.writeLast]
  apply rel_ite
  · intro hSize
    have hBytes := hAlike.bytes_of_index hSize
    have hEight : mbb.mbIndex.toNat = 8 := by
      rw [hSize]
      rfl
    rw [hBytes.read_eq (by decide), hBytes.read_eq (by decide)]
    apply rel_bind_same
    intro startHigh
    apply rel_bind_same
    intro startLow
    apply rel_ite
    · intro _
      exact alike_refused hAlike hLong _ mb
    · intro _
      have hCount :=
        toNat_regLast_sub_le (word startHigh startLow) 1
      have hOne : (1 : UInt16).toNat = 1 := rfl
      apply writeRegisters_alike hAlike mb _ _ (by omega)
      omega
  · intro _
    exact alike_refused hAlike hLong _ mb

theorem parseFunction_alike
    (hLong : mbFrameMin ≤ mbb.mbIndex.toNat)
    (function : UInt8) :
    Option.Rel AlikeParsed (parseFunction function mbb mb)
      (parseFunction function mbb' mb) := by
  unfold parseFunction
  split
  · exact parseRead_alike hAlike mb hLong
  · exact parseWriteMultiple_alike hAlike mb hLong
  · exact parseWriteSingle_alike hAlike mb hLong
  · exact alike_refused hAlike hLong _ mb

end Functions

------------------------------------------------------------
-- Answers
------------------------------------------------------------

theorem exceptionResponse_alike
    {parsed parsed' : Parsed}
    (hParsed : AlikeParsed parsed parsed') :
    Option.Rel Alike
      (exceptionResponse parsed.mbb parsed.exception)
      (exceptionResponse parsed'.mbb parsed'.exception) := by
  unfold exceptionResponse
  rw [hParsed.exception]
  apply rel_ite
  · intro _
    exact Option.Rel.some hParsed.mbb
  · intro hRefused
    have hHeader := hParsed.refused hRefused
    rw [hHeader.read_eq (by decide)]
    apply rel_bind_same
    intro function
    apply rel_bind
      (hHeader.write_rel (m := 2)
        (fun j hInside => Or.inl hInside) _)
    intro first first' hFirst
    apply rel_bind
      (hFirst.write_rel (m := 3) (fun j hInside => by omega) _)
    intro second second' hSecond
    have hSetup := hParsed.mbb.setup
    exact
      Option.Rel.some
        ⟨⟨⟨hSetup.readLast, hSetup.writeLast, hSetup.address,
              hSetup.frameBad⟩, rfl,
            hParsed.mbb.eepStartSave, hParsed.mbb.eepIndx⟩,
          rfl, hSecond⟩

/- The checksum is that of the same bytes. -/
theorem closeResponse_alike
    {body body' : MbStruct}
    (hBody : Alike body body') :
    Option.Rel
      (fun answer answer' =>
        SameFields answer answer' ∧
          answer'.response = answer.response)
      (closeResponse body) (closeResponse body') := by
  have hNext :
      ∀ k : UInt8, ∀ j, j < (k + 1).toNat →
        j < k.toNat ∨ j = k.toNat := by
    intro k j hInside
    rw [UInt8.toNat_add] at hInside
    change j < (k.toNat + 1) % 256 at hInside
    omega
  unfold closeResponse
  rw [hBody.index, hBody.bytes.bytes_eq le_rfl]
  apply rel_bind_same
  intro bytes
  apply rel_bind (hBody.bytes.write_rel (hNext _) _)
  intro first first' hFirst
  apply rel_bind (hFirst.write_rel (hNext _) _)
  intro second second' hSecond
  exact
    Option.Rel.some
      ⟨hBody.with_frame _ _ _ _ _ _ _ _,
        MbBuff.take_ofFn_congr hSecond⟩

section Requests

variable {mbb mbb' : MbStruct}
variable (hAlike : Alike mbb mbb')
variable (mb : Registers)

include hAlike

theorem frameParse_alike
    (hLong : mbFrameMin ≤ mbb.mbIndex.toNat) :
    Option.Rel
      (fun answer answer' =>
        answer'.1 = answer.1 ∧ answer'.2.2 = answer.2.2 ∧
          SameFields answer.2.1 answer'.2.1 ∧
            answer'.2.1.response = answer.2.1.response)
      (frameParse mbb mb) (frameParse mbb' mb) := by
  change 4 ≤ mbb.mbIndex.toNat at hLong
  unfold frameParse
  rw [hAlike.bytes.read_eq (i := 0) (by omega),
    hAlike.bytes.read_eq (i := 1) (by omega)]
  apply rel_bind_same
  intro address
  apply rel_bind_same
  intro function
  apply rel_bind (parseFunction_alike hAlike mb hLong function)
  intro parsed parsed' hParsed
  apply rel_bind (exceptionResponse_alike hParsed)
  intro body body' hBody
  apply rel_bind (closeResponse_alike hBody)
  intro answer answer' hAnswer
  exact
    Option.Rel.some
      ⟨rfl, hParsed.registers, hAnswer.1, hAnswer.2⟩

theorem invalidFrame_alike :
    invalidFrame mbb' = invalidFrame mbb := by
  unfold invalidFrame
  rw [hAlike.setup.frameBad, hAlike.index, hAlike.eepState,
    hAlike.setup.address, hAlike.bytes.bytes_eq le_rfl]
  split
  · rfl
  · split
    · rfl
    · next hShort =>
        rw [hAlike.bytes.read_eq (i := 0)]
        change ¬ _ < 4 at hShort
        omega

/-
  The registers afterwards, the fields of the structure and
  the response depend on nothing that the frame, the registers
  and these fields do not determine.
-/
theorem mbParsing_alike :
    Option.Rel
      (fun next next' =>
        next'.2 = next.2 ∧ AlikeAnswer next.1 next'.1)
      (mbParsing mbb mb) (mbParsing mbb' mb) := by
  rcases invalidFrame_spec mbb with ⟨invalid, hInvalid, hValid⟩
  unfold mbParsing
  rw [invalidFrame_alike hAlike, hInvalid]
  simp only [Option.bind_eq_bind, Option.bind_some]
  apply rel_ite
  · intro _
    exact
      Option.Rel.some
        ⟨rfl, hAlike.with_frame _ _ _ _ _ _ _ _, rfl,
          fun hSend => by cases hSend⟩
  · intro hFrame
    have hLong :=
      (hValid.mp (Bool.eq_false_iff.mpr hFrame)).length
    apply rel_bind (frameParse_alike hAlike mb hLong)
    rintro ⟨needs, answer, mb'⟩ ⟨needs', answer', mb''⟩
      ⟨hNeeds, hRegisters, hFields, hResponse⟩
    dsimp only at hNeeds hRegisters hFields hResponse
    subst hNeeds hRegisters
    dsimp only
    apply rel_ite
    · intro _
      exact
        Option.Rel.some
          ⟨rfl, hFields.with_frame _ _ _ _ _ _ _ _, rfl,
            fun _ => hResponse⟩
    · intro _
      exact
        Option.Rel.some
          ⟨rfl, hFields.with_frame _ _ _ _ _ _ _ _, rfl,
            fun hSend => by cases hSend⟩

end Requests

------------------------------------------------------------
-- Runs of Frames
------------------------------------------------------------

/- The bytes of a frame that is handed over. -/
theorem get_handOver
    (mbb : MbStruct)
    {frame : Frame}
    {i : Nat}
    (hInside : i < frame.bytes.length) :
    (mbb.handOver frame).pMbBuff.get i =
      frame.bytes.getD i 0 := by
  have hUpper := frame.upper
  have hBound : i < mbFrameMax := by
    change i < 256
    omega
  unfold MbBuff.get MbBuff.read MbStruct.handOver
  rw [dif_pos hBound, Option.getD_some]
  dsimp only
  rw [List.getD_eq_getElem _ _ hInside,
    List.getD_eq_getElem _ _ hInside]

/- A frame takes the place of what was left before. -/
theorem handOver_alike
    {mbb mbb' : MbStruct}
    (hFields : SameFields mbb mbb')
    (frame : Frame) :
    Alike (mbb.handOver frame) (mbb'.handOver frame) := by
  refine
    ⟨hFields.with_frame _ _ _ _ _ _ _ _, rfl, ?_⟩
  intro i hInside
  have hUpper := frame.upper
  have hLength : i < frame.bytes.length := by
    change i < (UInt8.ofNat frame.bytes.length).toNat at hInside
    rw [UInt8.toNat_ofNat'] at hInside
    omega
  rw [get_handOver mbb hLength, get_handOver mbb' hLength]

/- A save that has finished frees the structure. -/
theorem SameFields.free
    {mbb mbb' : MbStruct}
    (hFields : SameFields mbb mbb') :
    SameFields { mbb with eepState := .eepFree }
      { mbb' with eepState := .eepFree } :=
  ⟨⟨hFields.setup.readLast, hFields.setup.writeLast,
      hFields.setup.address, hFields.setup.frameBad⟩,
    rfl, hFields.eepStartSave, hFields.eepIndx⟩

theorem exchange_alike
    {s s' : MbStruct × Registers}
    (hRegisters : s'.2 = s.2)
    (hFields : SameFields s.1 s'.1)
    (a : Bool × Frame) :
    Option.Rel
      (fun next next' =>
        next'.2 = next.2 ∧ AlikeAnswer next.1 next'.1)
      (exchange s a) (exchange s' a) := by
  have hReady :
      SameFields
        (if a.1 then { s.1 with eepState := .eepFree }
          else s.1)
        (if a.1 then { s'.1 with eepState := .eepFree }
          else s'.1) := by
    split
    · exact hFields.free
    · exact hFields
  unfold exchange
  dsimp only
  rw [hRegisters]
  exact mbParsing_alike (handOver_alike hReady a.2) s.2

/-
  Whatever earlier traffic has left in the frame buffer: the
  same frames write the same registers, and the next frame is
  answered with the same bytes.
-/
theorem exchanges_alike
    {mbb mbb' : MbStruct}
    (hFields : SameFields mbb mbb')
    (mb : Registers)
    (frames : List (Bool × Frame))
    (next : Bool × Frame) :
    Option.Rel
      (fun s s' => s'.2 = s.2 ∧ AlikeAnswer s.1 s'.1)
      ((CheckedLoop.forEach exchange frames (mbb, mb)).bind
        fun s => exchange s next)
      ((CheckedLoop.forEach exchange frames (mbb', mb)).bind
        fun s => exchange s next) := by
  have hFrames :
      Option.Rel
        (fun s s' : MbStruct × Registers =>
          s'.2 = s.2 ∧ SameFields s.1 s'.1)
        (CheckedLoop.forEach exchange frames (mbb, mb))
        (CheckedLoop.forEach exchange frames (mbb', mb)) := by
    apply forEach_rel
    · rintro s s' a ⟨hRegisters, hSame⟩
      exact
        rel_mono
          (fun next next' hNext =>
            ⟨hNext.1, hNext.2.toSameFields⟩)
          (exchange_alike hRegisters hSame a)
    · exact ⟨rfl, hFields⟩
  apply rel_bind hFrames
  rintro s s' ⟨hRegisters, hSame⟩
  exact exchange_alike hRegisters hSame next

/-
  A buffer full of ones beside one that is still empty: after
  a write that is saved, both answer with what was written.
-/
theorem exchanges_alike_ones :
    ∃ s s',
      (CheckedLoop.forEach exchange [(false, scaleFrame)]
          (mhUsbInit mbStructZero,
            fun r => (defaultState r).defaultValue)).bind
          (fun s => exchange s (true, scaleFrameQuery)) =
        some s ∧
      (CheckedLoop.forEach exchange [(false, scaleFrame)]
          ({ mhUsbInit mbStructZero with
             pMbBuff := fun _ => 0xFF },
            fun r => (defaultState r).defaultValue)).bind
          (fun s => exchange s (true, scaleFrameQuery)) =
        some s' ∧
      s.1.response =
        [1, 3, 4, 0xFF, 0xEC, 0, 2, 0x8A, 0x13] ∧
      s'.2 = s.2 ∧ AlikeAnswer s.1 s'.1 := by
  have hFields :
      SameFields (mhUsbInit mbStructZero)
        { mhUsbInit mbStructZero with
          pMbBuff := fun _ => 0xFF } :=
    ⟨⟨rfl, rfl, rfl, rfl⟩, rfl, rfl, rfl⟩
  have hAlike :=
    exchanges_alike hFields
      (fun r => (defaultState r).defaultValue)
      [(false, scaleFrame)] (true, scaleFrameQuery)
  have hAnswered :
      ((CheckedLoop.forEach exchange [(false, scaleFrame)]
          (mhUsbInit mbStructZero,
            fun r => (defaultState r).defaultValue)).bind
          (fun s => exchange s (true, scaleFrameQuery))).map
          (fun s => s.1.response) =
        some [1, 3, 4, 0xFF, 0xEC, 0, 2, 0x8A, 0x13] := by
    decide +kernel
  rcases Option.map_eq_some_iff.mp hAnswered with
    ⟨s, hFirst, hResponse⟩
  rcases exists_of_rel hAlike hFirst with
    ⟨s', hSecond, hSame⟩
  exact ⟨s, s', hFirst, hSecond, hResponse, hSame⟩

end TemperatureSensor
