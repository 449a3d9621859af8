import TemperatureSensor.Modbus.Server

/-
  `MBparsing` is the register server: the parser that works in
  place on the frame buffer answers what the server answers,
  and writes what it writes.

  Main declarations:
    * `Carries`
    * `BranchServes`
    * `parseFunction_serves`
    * `mbParsing_serves`
    * `mbParsing_owes`
-/

------------------------------------------------------------
-- Bytes of the Buffer
------------------------------------------------------------

namespace TemperatureSensor

/- The frame buffer begins with these `mb_index` bytes. -/
structure Carries
    (mbb : MbStruct)
    (bytes : List UInt8) : Prop where
  index : mbb.mbIndex.toNat = bytes.length
  take : (List.ofFn mbb.pMbBuff).take bytes.length = bytes

theorem carries_message
    (mbb : MbStruct) :
    Carries mbb mbb.message := by
  have hLength := length_message mbb
  refine ⟨hLength.symm, ?_⟩
  rw [hLength]
  rfl

theorem getElem?_ofFn_pMbBuff
    (buff : MbBuff)
    {i : Nat}
    (hBound : i < mbFrameMax) :
    (List.ofFn buff)[i]? = some (buff.get i) := by
  unfold MbBuff.get MbBuff.read
  rw [List.getElem?_ofFn, dif_pos hBound, Option.getD_some]

theorem Carries.get
    {mbb : MbStruct}
    {bytes : List UInt8}
    (hCarries : Carries mbb bytes)
    {i : Nat}
    (hInside : i < bytes.length) :
    mbb.pMbBuff.get i = bytes.getD i 0 := by
  have hWidth := mbb.mbIndex.toNat_lt
  have hIndex := hCarries.index
  have hBound : i < mbFrameMax := by
    change i < 256
    omega
  have hByte :
      ((List.ofFn mbb.pMbBuff).take bytes.length)[i]? =
        bytes[i]? := by
    rw [hCarries.take]
  rw [List.getElem?_take_of_lt hInside,
    getElem?_ofFn_pMbBuff _ hBound] at hByte
  rw [List.getD_eq_getElem?_getD, ← hByte, Option.getD_some]

/- The buffer begins with what the bytes begin with. -/
theorem Carries.take_head
    {mbb : MbStruct}
    {head rest : List UInt8}
    (hCarries : Carries mbb (head ++ rest)) :
    (List.ofFn mbb.pMbBuff).take head.length = head := by
  have hHead := congrArg (List.take head.length) hCarries.take
  rw [List.take_take, List.take_left] at hHead
  rw [Nat.min_eq_left (by simp)] at hHead
  exact hHead

/- The values of a request, from a buffer index on. -/
def valuesAt
    (buff : MbBuff)
    (offset count : Nat) : List UInt16 :=
  (List.range count).map (rangeValue buff offset)

theorem valuesAt_succ
    (buff : MbBuff)
    (offset count : Nat) :
    valuesAt buff offset (count + 1) =
      rangeValue buff offset 0 ::
        valuesAt buff (offset + 2) count := by
  have hRest :
      (List.range count).map
          (rangeValue buff offset ∘ Nat.succ) =
        (List.range count).map
          (rangeValue buff (offset + 2)) :=
    List.map_congr_left fun k _ =>
      rangeValue_succ buff offset k
  unfold valuesAt
  rw [List.range_succ_eq_map, List.map_cons, List.map_map,
    hRest]

theorem length_valuesAt
    (buff : MbBuff)
    (offset count : Nat) :
    (valuesAt buff offset count).length = count := by
  unfold valuesAt
  rw [List.length_map, List.length_range]

/- They are the words of the bytes that lie there. -/
theorem valuesAt_eq_wordsOf
    {buff : MbBuff}
    {data : List UInt8}
    {offset count : Nat}
    (hLength : data.length = 2 * count)
    (hBytes :
      ∀ i, i < data.length →
        buff.get (offset + i) = data.getD i 0) :
    valuesAt buff offset count = wordsOf data := by
  induction count generalizing data offset with
  | zero =>
      have hEmpty := List.length_eq_zero_iff.mp hLength
      rw [hEmpty]
      rfl
  | succ count ih =>
      match data with
      | [] => simp at hLength
      | [high] =>
          rw [List.length_singleton] at hLength
          omega
      | high :: low :: rest =>
          rw [List.length_cons, List.length_cons] at hLength
          have hHigh := hBytes 0 (by simp)
          have hLow := hBytes 1 (by simp)
          have hRest :
              valuesAt buff (offset + 2) count =
                wordsOf rest := by
            apply ih (by omega)
            intro i hInside
            have hLater :=
              hBytes (i + 2)
                (by
                  rw [List.length_cons, List.length_cons]
                  omega)
            rw [Nat.add_assoc, Nat.add_comm 2 i]
            exact hLater
          rw [valuesAt_succ, hRest]
          unfold rangeValue
          rw [Nat.mul_zero, hHigh, hLow]
          rfl

/- The bytes of a range of values in the buffer. -/
theorem take_values
    (buff : MbBuff)
    {offset : Nat}
    {values : List UInt16}
    (hBound : offset + 2 * values.length ≤ mbFrameMax)
    (hValues :
      ∀ k, k < values.length →
        rangeValue buff offset k = values.getD k 0) :
    (List.ofFn buff).take (offset + 2 * values.length) =
      (List.ofFn buff).take offset ++
        values.flatMap wordBytes := by
  induction values generalizing offset with
  | nil => simp
  | cons value values ih =>
      rw [List.length_cons] at hBound hValues ⊢
      have hFirst := hValues 0 (by omega)
      have hRest :
          (List.ofFn buff).take
              (offset + 2 + 2 * values.length) =
            (List.ofFn buff).take (offset + 2) ++
              values.flatMap wordBytes := by
        apply ih (by omega)
        intro k hInside
        rw [← rangeValue_succ]
        exact hValues (k + 1) (by omega)
      have hTotal :
          offset + 2 * (values.length + 1) =
            offset + 2 + 2 * values.length := by
        omega
      have hHead :
          [buff.get offset, buff.get (offset + 1)] =
            wordBytes value := by
        rw [← wordBytes_word]
        exact congrArg wordBytes hFirst
      rw [hTotal, hRest, buff.take_ofFn_succ (by omega),
        buff.take_ofFn_succ (by omega), List.flatMap_cons,
        ← hHead]
      simp

------------------------------------------------------------
-- Checks
------------------------------------------------------------

theorem limitCheckInRequest_eq
    {i : Nat}
    (hBound : i < numBuf)
    (value : UInt16) :
    limitCheckInRequest i value =
      some (refusal ⟨i, hBound⟩ value) := by
  unfold limitCheckInRequest refusal
  rw [register?_eq_some hBound]
  simp only [Option.bind_eq_bind, Option.bind_some]
  split
  · rfl
  · split <;> rfl

/- The validation pass finds the first refusal. -/
theorem limitCheckLoop_eq
    (buff : MbBuff)
    {start count offset : Nat}
    (hRange : start + count ≤ numBuf)
    (hBuffer : offset + 2 * count ≤ mbFrameMax) :
    limitCheckLoop buff (List.range' start count) offset =
      some (firstRefusal start (valuesAt buff offset count)) := by
  induction count generalizing start offset with
  | zero => rfl
  | succ count ih =>
      have hStart : start < numBuf := by omega
      have hValue :
          word (buff.get offset) (buff.get (offset + 1)) =
            rangeValue buff offset 0 := by
        rfl
      rw [valuesAt_succ, firstRefusal, dif_pos hStart,
        List.range'_succ, limitCheckLoop,
        buff.read_eq_some (by omega),
        buff.read_eq_some (by omega)]
      simp only [Option.bind_eq_bind, Option.bind_some,
        limitCheckInRequest_eq hStart, hValue]
      split
      · exact ih (by omega) (by omega)
      · rfl

theorem rangeRefused_iff
    {lastReg regIndx regNmb : UInt16}
    (hLast : lastReg.toNat = numBuf - 1) :
    rangeRefused lastReg regIndx regNmb = true ↔
      ¬ Fits regIndx.toNat regNmb.toNat := by
  change lastReg.toNat = 119 at hLast
  have hLimit : (0x78 : UInt16).toNat = 120 := rfl
  unfold rangeRefused Fits
  simp only [Bool.or_eq_true, decide_eq_true_eq, gt_iff_lt,
    UInt16.lt_iff_toNat_lt, hLast, UInt16.toNat_add, hLimit]
  change _ ↔ ¬ (_ < 120 ∧ _ ≤ 120)
  omega

/- The write pass writes the values of the request. -/
theorem writeRange_valuesAt
    (mb : Registers)
    (buff : MbBuff)
    (start offset count : Nat) :
    writeRange mb start count (rangeValue buff offset) =
      writeValues mb start (valuesAt buff offset count) := by
  funext r
  unfold writeValues writeRange
  rw [length_valuesAt]
  split
  · next hInside =>
      have hIndex : r.val - start < count := by
        have hEnd := hInside.2
        have hFrom := hInside.1
        omega
      unfold valuesAt
      dsimp only
      rw [List.getD_eq_getElem?_getD, List.getElem?_map,
        List.getElem?_range hIndex]
      rfl
  · rfl

------------------------------------------------------------
-- Functions
------------------------------------------------------------

/- A branch of `FrameParse` has done what the server does. -/
structure BranchServes
    (mbb : MbStruct)
    (address function : UInt8)
    (result : Answer × Registers)
    (parsed : Parsed) : Prop where
  registers : parsed.mbBufMain = result.2
  refused :
    parsed.exception ≠ .mbeNone →
      parsed.mbb.pMbBuff = mbb.pMbBuff ∧
        result.1 = .refused parsed.exception
  served :
    parsed.exception = .mbeNone →
      parsed.mbb.mbIndex.toNat ≤ 243 ∧
        Carries parsed.mbb
          (address :: result.1.bytes function)

theorem branchServes_refused
    (mbb : MbStruct)
    (address function : UInt8)
    (mb : Registers)
    {exception : EMBExcep}
    (hRefused : exception ≠ .mbeNone) :
    BranchServes mbb address function (.refused exception, mb)
      ⟨exception, mbb, mb⟩ :=
  ⟨rfl, fun _ => ⟨rfl, rfl⟩,
    fun hNone => absurd hNone hRefused⟩

section Functions

variable {mbb : MbStruct}
variable {address function low high : UInt8}
variable {data : List UInt8}

/- Checked writes, with the echo at the head of the request. -/
theorem writeRegisters_serves
    {echo rest : List UInt8}
    (hCarries : Carries mbb (address :: function :: echo ++ rest))
    (hEcho : echo.length = 4)
    (mb : Registers)
    {regIndx regNmb : UInt16}
    {offset : Nat}
    {values : List UInt16}
    (hRange : regIndx.toNat + regNmb.toNat ≤ numBuf)
    (hBuffer : offset + 2 * regNmb.toNat ≤ mbFrameMax)
    (hValues :
      valuesAt mbb.pMbBuff offset regNmb.toNat = values) :
    ∃ parsed,
      writeRegisters mbb mb regIndx regNmb offset =
          some parsed ∧
        BranchServes mbb address function
          (serveWrite mb regIndx.toNat values echo)
          parsed := by
  rcases eepromCheckInRequest_spec regIndx regNmb with
    ⟨eepState, hSave, -⟩
  have hLimits :=
    limitCheckLoop_eq mbb.pMbBuff hRange hBuffer
  have hWrite :=
    writeBody_forEach mbb.pMbBuff mb regIndx.toNat
      regNmb.toNat offset hRange hBuffer
  rcases recordSave_spec mbb eepState regIndx regNmb with
    ⟨-, hBuff, -, -⟩
  rw [hValues] at hLimits
  rw [writeRange_valuesAt, hValues] at hWrite
  unfold writeRegisters serveWrite
  simp only [toNat_regLast_sub hRange, hSave,
    Option.bind_eq_bind, Option.bind_some, hBuff, hLimits,
    hWrite]
  by_cases hNone : firstRefusal regIndx.toNat values = .mbeNone
  · rw [if_pos hNone, if_pos hNone]
    refine
      ⟨_, rfl, rfl, fun hRefused => absurd rfl hRefused, ?_⟩
    intro _
    refine ⟨by change (6 : UInt8).toNat ≤ 243; decide, ?_, ?_⟩
    · change 6 = (address :: function :: echo).length
      rw [List.length_cons, List.length_cons, hEcho]
    · exact hCarries.take_head
  · rw [if_neg hNone, if_neg hNone]
    refine
      ⟨_, rfl, rfl, fun _ => ⟨hBuff, rfl⟩,
        fun hServed => absurd hServed hNone⟩

/- A request that is not four bytes long reads nothing. -/
theorem serveRead_of_length_ne
    (mb : Registers)
    (hLength : data.length ≠ 4) :
    serveRead mb data = (.refused .mbeIllegalDataValue, mb) := by
  unfold serveRead
  split
  · exact absurd rfl hLength
  · rfl

theorem serveWriteSingle_of_length_ne
    (mb : Registers)
    (hLength : data.length ≠ 4) :
    serveWriteSingle mb data =
      (.refused .mbeIllegalDataValue, mb) := by
  unfold serveWriteSingle
  split
  · exact absurd rfl hLength
  · rfl

theorem serveWriteMultiple_of_length_lt
    (mb : Registers)
    (hLength : data.length < 7) :
    serveWriteMultiple mb data =
      (.refused .mbeIllegalDataValue, mb) := by
  unfold serveWriteMultiple
  split
  · simp only [List.length_cons] at hLength
    dsimp only
    rw [if_pos (by omega)]
  · rfl

/- `mb_index` counts the data, four bytes are around it. -/
theorem Carries.mbIndex_eq
    (hCarries :
      Carries mbb (address :: function :: data ++ [low, high])) :
    mbb.mbIndex.toNat = data.length + 4 := by
  rw [hCarries.index]
  simp

theorem Carries.mbIndex_eq_eight_iff
    (hCarries :
      Carries mbb (address :: function :: data ++ [low, high])) :
    mbb.mbIndex = 8 ↔ data.length = 4 := by
  rw [← UInt8.toNat_inj, hCarries.mbIndex_eq]
  change data.length + 4 = 8 ↔ _
  omega

/- The address, the function and the two words after them. -/
theorem Carries.header
    {startHigh startLow countHigh countLow : UInt8}
    {rest : List UInt8}
    (hCarries :
      Carries mbb
        (address :: function :: startHigh :: startLow ::
          countHigh :: countLow :: rest)) :
    mbb.pMbBuff.get 0 = address ∧
      mbb.pMbBuff.get 1 = function ∧
        mbb.pMbBuff.get 2 = startHigh ∧
          mbb.pMbBuff.get 3 = startLow ∧
            mbb.pMbBuff.get 4 = countHigh ∧
              mbb.pMbBuff.get 5 = countLow :=
  ⟨hCarries.get (i := 0) (by simp),
    hCarries.get (i := 1) (by simp),
    hCarries.get (i := 2) (by simp),
    hCarries.get (i := 3) (by simp),
    hCarries.get (i := 4) (by simp),
    hCarries.get (i := 5) (by simp)⟩

theorem take_three
    (buff : MbBuff) :
    (List.ofFn buff).take 3 =
      [buff.get 0, buff.get 1, buff.get 2] := by
  rw [buff.take_ofFn_succ (by decide),
    buff.take_ofFn_succ (by decide),
    buff.take_ofFn_succ (by decide), List.take_zero]
  rfl

/- A buffer with the bytes of an answer to a read. -/
theorem carries_values
    {values : List UInt16}
    (hAddress : mbb.pMbBuff.get 0 = address)
    (hFunction : mbb.pMbBuff.get 1 = function)
    (hBytes :
      mbb.pMbBuff.get 2 = UInt8.ofNat (2 * values.length))
    (hValues :
      ∀ k, k < values.length →
        rangeValue mbb.pMbBuff 3 k = values.getD k 0)
    (hIndex : mbb.mbIndex.toNat = 3 + 2 * values.length) :
    Carries mbb
      (address :: (Answer.values values).bytes function) := by
  have hWidth := mbb.mbIndex.toNat_lt
  have hLength :
      (address ::
          (Answer.values values).bytes function).length =
        3 + 2 * values.length := by
    unfold Answer.bytes
    rw [List.length_cons, List.length_cons, List.length_cons,
      length_flatMap_wordBytes]
    omega
  have hBytes3 :
      (List.ofFn mbb.pMbBuff).take 3 =
        [address, function,
          UInt8.ofNat (2 * values.length)] := by
    rw [take_three, hAddress, hFunction, hBytes]
  refine ⟨by rw [hLength, hIndex], ?_⟩
  rw [hLength,
    take_values mbb.pMbBuff
      (by change 3 + 2 * values.length ≤ 256; omega) hValues,
    hBytes3]
  rfl

theorem parseRead_serves
    (hInit : mbb.Initialised)
    (hCarries :
      Carries mbb (address :: function :: data ++ [low, high]))
    (mb : Registers) :
    ∃ parsed,
      parseRead mbb mb = some parsed ∧
        BranchServes mbb address function (serveRead mb data)
          parsed := by
  have hRead := read_header mbb.pMbBuff
  unfold parseRead
  by_cases hLength : data.length = 4
  · match data, hLength with
    | [startHigh, startLow, countHigh, countLow], _ =>
      rw [if_pos (hCarries.mbIndex_eq_eight_iff.mpr rfl),
        serveRead]
      rcases hCarries.header with
        ⟨hAddress, hFunction, hByte2, hByte3, hByte4, hByte5⟩
      simp only [hRead 2 (by decide), hRead 3 (by decide),
        hRead 4 (by decide), hRead 5 (by decide), hByte2,
        hByte3, hByte4, hByte5, Option.bind_eq_bind,
        Option.bind_some]
      generalize word startHigh startLow = regIndx
      generalize word countHigh countLow = regNmb
      by_cases hFits : Fits regIndx.toNat regNmb.toNat
      · have hAdmitted :
            ¬ rangeRefused mbb.regReadLast regIndx regNmb := by
          rw [rangeRefused_iff hInit.readLast]
          exact not_not.mpr hFits
        have hRange := hFits.2
        have hCount : regNmb.toNat ≤ 120 :=
          (Nat.le_add_left _ _).trans hRange
        have hLast := length_registersFrom mb hFits
        rcases mbb.pMbBuff.write_eq_some (i := 2) (by decide)
            (regNmb <<< 1).toUInt8 with
          ⟨buff, hWrite, hHere, hOther⟩
        rcases readBody_forEach mb buff regIndx.toNat
            regNmb.toNat 3 hRange
            (by change 3 + 2 * regNmb.toNat < 256; omega) with
          ⟨buff', mbIndex, hLoop, hIndex, hFrame, hValues⟩
        change
          ∀ i < 3, buff'.get i = buff.get i at hFrame
        rw [if_neg hAdmitted, if_pos hFits]
        simp only [toNat_regLast_sub hRange, hWrite,
          Option.bind_some, hLoop]
        refine
          ⟨_, rfl, rfl, fun hRefused => absurd rfl hRefused, ?_⟩
        intro _
        have hCarried :
            Carries
              { mbb with pMbBuff := buff', mbIndex := mbIndex }
              (address ::
                (Answer.values
                  (registersFrom mb regIndx.toNat
                    regNmb.toNat)).bytes function) := by
          apply carries_values
          · change buff'.get 0 = _
            rw [hFrame 0 (by decide), hOther 0 (by decide),
              hAddress]
          · change buff'.get 1 = _
            rw [hFrame 1 (by decide), hOther 1 (by decide),
              hFunction]
          · change buff'.get 2 = _
            rw [hFrame 2 (by decide), hHere, hLast]
            apply UInt8.toNat_inj.mp
            rw [UInt16.toNat_toUInt8, UInt16.toNat_shiftLeft,
              UInt8.toNat_ofNat']
            change regNmb.toNat <<< 1 % 2 ^ 16 % 2 ^ 8 = _
            rw [Nat.shiftLeft_eq]
            omega
          · intro k hInside
            rw [hLast] at hInside
            change rangeValue buff' 3 k = _
            have hBound : regIndx.toNat + k < numBuf := by
              omega
            have hValue :=
              hValues ⟨regIndx.toNat + k, hBound⟩
                ⟨Nat.le_add_right _ _,
                  Nat.add_lt_add_left hInside _⟩
            rw [Nat.add_sub_cancel_left] at hValue
            rw [List.getD_eq_getElem?_getD,
              getElem?_registersFrom mb hInside hBound,
              Option.getD_some]
            exact hValue
          · change mbIndex.toNat = _
            rw [hIndex, hLast]
            rfl
        refine ⟨?_, hCarried⟩
        change mbIndex.toNat ≤ 243
        rw [hIndex]
        change 3 + 2 * regNmb.toNat ≤ 243
        omega
      · rw [if_pos ((rangeRefused_iff hInit.readLast).mpr hFits),
          if_neg hFits]
        exact ⟨_, rfl, branchServes_refused _ _ _ _ (by decide)⟩
  · rw [if_neg (mt hCarries.mbIndex_eq_eight_iff.mp hLength),
      serveRead_of_length_ne mb hLength]
    exact ⟨_, rfl, branchServes_refused _ _ _ _ (by decide)⟩

theorem parseWriteMultiple_serves
    (hInit : mbb.Initialised)
    (hCarries :
      Carries mbb (address :: function :: data ++ [low, high]))
    (mb : Registers) :
    ∃ parsed,
      parseWriteMultiple mbb mb = some parsed ∧
        BranchServes mbb address function
          (serveWriteMultiple mb data) parsed := by
  have hRead := read_header mbb.pMbBuff
  have hIndex := hCarries.mbIndex_eq
  have hLong : mbb.mbIndex > 10 ↔ 7 ≤ data.length := by
    rw [gt_iff_lt, UInt8.lt_iff_toNat_lt, hIndex]
    change 10 < data.length + 4 ↔ _
    omega
  unfold parseWriteMultiple
  by_cases hLength : 7 ≤ data.length
  · match data, hLength with
    | startHigh :: startLow :: countHigh :: countLow ::
        bytesN :: rest, hLength =>
      rcases hCarries.header with
        ⟨hAddress, hFunction, hByte2, hByte3, hByte4, hByte5⟩
      have hHead :
          Carries mbb
            (address :: function ::
              [startHigh, startLow, countHigh, countLow] ++
                (bytesN :: rest ++ [low, high])) :=
        hCarries
      have hByte6 : mbb.pMbBuff.get 6 = bytesN :=
        hCarries.get (i := 6) (by simp)
      rw [if_pos (hLong.mpr hLength), serveWriteMultiple]
      simp only [List.length_cons] at hLength hIndex
      simp only [hRead 2 (by decide), hRead 3 (by decide),
        hRead 4 (by decide), hRead 5 (by decide),
        hRead 6 (by decide), hByte2, hByte3, hByte4, hByte5,
        hByte6, Option.bind_eq_bind, Option.bind_some]
      rw [if_neg (show ¬ rest.length < 2 by omega)]
      generalize hStart : word startHigh startLow = regIndx
      generalize hNmb : word countHigh countLow = regNmb
      by_cases hFits : Fits regIndx.toNat regNmb.toNat
      · have hAdmitted :
            ¬ rangeRefused mbb.regWriteLast regIndx regNmb := by
          rw [rangeRefused_iff hInit.writeLast]
          exact not_not.mpr hFits
        have hRange := hFits.2
        have hCount : regNmb.toNat ≤ 120 :=
          (Nat.le_add_left _ _).trans hRange
        have hTwice : regNmb.toNat <<< 1 = 2 * regNmb.toNat := by
          rw [Nat.shiftLeft_eq]
          omega
        rw [if_neg hAdmitted, if_neg (not_not.mpr hFits),
          hTwice]
        by_cases hSizes :
            bytesN.toNat = 2 * regNmb.toNat ∧
              rest.length = 2 * regNmb.toNat
        · have hValues :
              valuesAt mbb.pMbBuff 7 regNmb.toNat =
                wordsOf rest := by
            apply valuesAt_eq_wordsOf hSizes.2
            intro i hInside
            rw [hCarries.get
              (by simp only [List.length_append,
                List.length_cons]; omega),
              Nat.add_comm 7 i]
            change (rest ++ [low, high]).getD i 0 = _
            exact List.getD_append _ _ _ _ hInside
          rw [if_neg (by omega), if_pos hSizes]
          exact
            writeRegisters_serves hHead rfl mb hRange
              (by change 7 + 2 * regNmb.toNat ≤ 256; omega)
              hValues
        · rw [if_pos (by omega), if_neg hSizes]
          exact ⟨_, rfl, branchServes_refused _ _ _ _ (by decide)⟩
      · rw [if_pos ((rangeRefused_iff hInit.writeLast).mpr hFits),
          if_pos hFits]
        exact ⟨_, rfl, branchServes_refused _ _ _ _ (by decide)⟩
  · rw [if_neg (mt hLong.mp hLength),
      serveWriteMultiple_of_length_lt mb (by omega)]
    exact ⟨_, rfl, branchServes_refused _ _ _ _ (by decide)⟩

theorem parseWriteSingle_serves
    (hInit : mbb.Initialised)
    (hCarries :
      Carries mbb (address :: function :: data ++ [low, high]))
    (mb : Registers) :
    ∃ parsed,
      parseWriteSingle mbb mb = some parsed ∧
        BranchServes mbb address function
          (serveWriteSingle mb data) parsed := by
  have hRead := read_header mbb.pMbBuff
  have hWriteLast : mbb.regWriteLast.toNat = 119 :=
    hInit.writeLast
  unfold parseWriteSingle
  by_cases hLength : data.length = 4
  · match data, hLength with
    | [startHigh, startLow, valueHigh, valueLow], _ =>
      rw [if_pos (hCarries.mbIndex_eq_eight_iff.mpr rfl),
        serveWriteSingle]
      rcases hCarries.header with
        ⟨hAddress, hFunction, hByte2, hByte3, hByte4, hByte5⟩
      simp only [hRead 2 (by decide), hRead 3 (by decide),
        hByte2, hByte3, Option.bind_eq_bind, Option.bind_some]
      generalize word startHigh startLow = regIndx
      have hBeyond :
          regIndx > mbb.regWriteLast ↔
            ¬ Fits regIndx.toNat 1 := by
        rw [gt_iff_lt, UInt16.lt_iff_toNat_lt, hWriteLast]
        change 119 < _ ↔ ¬ (_ < 120 ∧ _ + 1 ≤ 120)
        omega
      have hValues :
          valuesAt mbb.pMbBuff 4 (1 : UInt16).toNat =
            [word valueHigh valueLow] := by
        change
          [word (mbb.pMbBuff.get 4) (mbb.pMbBuff.get 5)] = _
        rw [hByte4, hByte5]
      by_cases hFits : Fits regIndx.toNat 1
      · rw [if_neg (by rw [hBeyond]; exact not_not.mpr hFits),
          if_pos hFits]
        exact
          writeRegisters_serves hCarries rfl mb hFits.2
            (by decide) hValues
      · rw [if_pos (hBeyond.mpr hFits), if_neg hFits]
        exact ⟨_, rfl, branchServes_refused _ _ _ _ (by decide)⟩
  · rw [if_neg (mt hCarries.mbIndex_eq_eight_iff.mp hLength),
      serveWriteSingle_of_length_ne mb hLength]
    exact ⟨_, rfl, branchServes_refused _ _ _ _ (by decide)⟩

theorem serve_of_other
    (mb : Registers)
    (hRead : function ≠ 3)
    (hMultiple : function ≠ 16)
    (hSingle : function ≠ 6) :
    serve mb function data =
      (.refused .mbeIllegalFunction, mb) := by
  unfold serve
  split
  · exact absurd rfl hRead
  · exact absurd rfl hMultiple
  · exact absurd rfl hSingle
  · rfl

theorem parseFunction_serves
    (hInit : mbb.Initialised)
    (hCarries :
      Carries mbb (address :: function :: data ++ [low, high]))
    (mb : Registers) :
    ∃ parsed,
      parseFunction function mbb mb = some parsed ∧
        BranchServes mbb address function (serve mb function data)
          parsed := by
  unfold parseFunction
  split
  · exact parseRead_serves hInit hCarries mb
  · exact parseWriteMultiple_serves hInit hCarries mb
  · exact parseWriteSingle_serves hInit hCarries mb
  · next hRead hMultiple hSingle =>
      rw [serve_of_other mb hRead hMultiple hSingle]
      exact ⟨_, rfl, branchServes_refused _ _ _ _ (by decide)⟩

end Functions

------------------------------------------------------------
-- Responses
------------------------------------------------------------

/- A message on the line: a body and its checksum. -/
def Sealed (body bytes : List UInt8) : Prop :=
  ∃ low high,
    bytes = body ++ [low, high] ∧ crc16 bytes = 0

section Responses

variable {mbb : MbStruct}
variable {address function low high : UInt8}
variable {data : List UInt8}

theorem exceptionResponse_serves
    {result : Answer × Registers}
    {parsed : Parsed}
    (hCarries :
      Carries mbb (address :: function :: data ++ [low, high]))
    (hServes : BranchServes mbb address function result parsed) :
    ∃ body,
      exceptionResponse parsed.mbb parsed.exception =
          some body ∧
        body.mbIndex.toNat ≤ 243 ∧
          Carries body
            (address :: result.1.bytes function) := by
  by_cases hNone : parsed.exception = .mbeNone
  · rcases hServes.served hNone with ⟨hSize, hCarried⟩
    refine ⟨parsed.mbb, ?_, hSize, hCarried⟩
    unfold exceptionResponse
    rw [if_pos hNone]
  · rcases hServes.refused hNone with ⟨hBuff, hRefused⟩
    have hAddress : mbb.pMbBuff.get 0 = address :=
      hCarries.get (i := 0) (by simp)
    have hFunction : mbb.pMbBuff.get 1 = function :=
      hCarries.get (i := 1) (by simp)
    rcases mbb.pMbBuff.write_eq_some (i := 1) (by decide)
        (function ||| 0x80) with
      ⟨buff1, hWrite1, hHere1, hOther1⟩
    rcases buff1.write_eq_some (i := 2) (by decide)
        parsed.exception.code with
      ⟨buff2, hWrite2, hHere2, hOther2⟩
    have hBytes :
        (List.ofFn buff2).take 3 =
          [address, function ||| 0x80,
            parsed.exception.code] := by
      rw [take_three, hOther2 0 (by decide),
        hOther1 0 (by decide), hAddress,
        hOther2 1 (by decide), hHere1, hHere2]
    rw [hRefused]
    refine
      ⟨{ parsed.mbb with
         pMbBuff := buff2
         mbIndex := 3
         eepState := .eepFree }, ?_, ?_, rfl, hBytes⟩
    · unfold exceptionResponse
      rw [if_neg hNone, hBuff,
        read_header mbb.pMbBuff 1 (by decide), hFunction]
      simp only [Option.bind_eq_bind, Option.bind_some,
        hWrite1, hWrite2]
    · change (3 : UInt8).toNat ≤ 243
      decide

/- The response is what the buffer carries, and a checksum. -/
theorem sealed_of_closed
    {body mbb' : MbStruct}
    {bytes : List UInt8}
    (hCarries : Carries body bytes)
    (hSize : body.mbIndex.toNat ≤ 243)
    (hClosed : Closed body mbb') :
    Sealed bytes mbb'.response := by
  have hBounds :
      bytes.length < mbFrameMax ∧
        bytes.length + 1 < mbFrameMax := by
    rw [← hCarries.index]
    change
      body.mbIndex.toNat < 256 ∧ body.mbIndex.toNat + 1 < 256
    omega
  refine
    ⟨mbb'.pMbBuff.get bytes.length,
      mbb'.pMbBuff.get (bytes.length + 1), ?_,
      hClosed.checksum⟩
  have hSame := MbBuff.take_ofFn_congr hClosed.bytes
  rw [hCarries.index, hCarries.take] at hSame
  unfold MbStruct.response
  rw [hClosed.size, hCarries.index,
    mbb'.pMbBuff.take_ofFn_succ hBounds.2,
    mbb'.pMbBuff.take_ofFn_succ hBounds.1, hSame,
    List.append_assoc]
  rfl

theorem frameParse_serves
    (hInit : mbb.Initialised)
    (hCarries :
      Carries mbb (address :: function :: data ++ [low, high]))
    (mb : Registers) :
    ∃ mbb',
      frameParse mbb mb =
          some
            (decide (address ≠ mbAddressBroadcast), mbb',
              (serve mb function data).2) ∧
        Sealed
          (address ::
            (serve mb function data).1.bytes function)
          mbb'.response := by
  have hAddress : mbb.pMbBuff.get 0 = address :=
    hCarries.get (i := 0) (by simp)
  have hFunction : mbb.pMbBuff.get 1 = function :=
    hCarries.get (i := 1) (by simp)
  rcases parseFunction_serves hInit hCarries mb with
    ⟨parsed, hParsed, hServes⟩
  rcases exceptionResponse_serves hCarries hServes with
    ⟨body, hBody, hSize, hCarried⟩
  rcases closeResponse_spec body hSize with
    ⟨mbb', hClose, hClosed⟩
  refine
    ⟨mbb', ?_, sealed_of_closed hCarried hSize hClosed⟩
  unfold frameParse
  simp only [read_header mbb.pMbBuff 0 (by decide),
    read_header mbb.pMbBuff 1 (by decide), hAddress, hFunction,
    Option.bind_eq_bind, Option.bind_some, hParsed, hBody,
    hClose, hServes.registers]

/-
  What the parser leaves of a valid request: the registers of
  the server and, unless the request was a broadcast, its
  answer.
-/
structure Answered
    (address function : UInt8)
    (result : Answer × Registers)
    (mbb : MbStruct)
    (mb : Registers) : Prop where
  registers : mb = result.2
  broadcast :
    address = mbAddressBroadcast → mbb.mbState = .stateIdle
  answer :
    address ≠ mbAddressBroadcast →
      mbb.mbState = .stateSend ∧
        Sealed (address :: result.1.bytes function)
          mbb.response

theorem mbParsing_serves
    (hInit : mbb.Initialised)
    (hCarries :
      Carries mbb (address :: function :: data ++ [low, high]))
    (hValid : invalidFrame mbb = some false)
    (mb : Registers) :
    ∃ mbb' mb',
      mbParsing mbb mb = some (mbb', mb') ∧
        Answered address function (serve mb function data)
          mbb' mb' := by
  rcases frameParse_serves hInit hCarries mb with
    ⟨closed, hParse, hSealed⟩
  unfold mbParsing
  rw [hValid, hParse]
  simp only [Option.bind_eq_bind, Option.bind_some,
    Bool.false_eq_true, if_false, decide_eq_true_eq]
  by_cases hBroadcast : address = mbAddressBroadcast
  · rw [if_neg (not_not.mpr hBroadcast)]
    exact
      ⟨_, _, rfl, rfl, fun _ => rfl,
        fun hOther => absurd hBroadcast hOther⟩
  · rw [if_pos hBroadcast]
    exact
      ⟨_, _, rfl, rfl, fun hZero => absurd hZero hBroadcast,
        fun _ => ⟨rfl, hSealed⟩⟩

/- The parameters of `InvalidFrame` that `mh_usb_init` sets. -/
structure Listens (mbb : MbStruct) : Prop where
  frameBad : mbb.erFrameBad = .evNoevent
  everybody : mbb.slaveAddress = 0

theorem Listens.accepts_iff
    (hListens : Listens mbb)
    (hFree : mbb.eepState = .eepFree)
    (hLength : mbFrameMin ≤ mbb.message.length) :
    Accepts mbb ↔ crc16 mbb.message = 0 := by
  constructor
  · intro hAccepts
    exact hAccepts.checksum
  · intro hValid
    rw [length_message] at hLength
    refine
      ⟨?_, hLength, Or.inr (Or.inr hListens.everybody), hFree,
        hValid⟩
    rw [hListens.frameBad]
    decide

/- The answer that is owed waits to be sent. -/
def Owes (mbb : MbStruct) : Option (List UInt8) → Prop
| none => mbb.mbState = .stateIdle
| some body =>
    mbb.mbState = .stateSend ∧ Sealed body mbb.response

/- A frame that is not accepted changes nothing else. -/
theorem mbParsing_discards
    (hRefused : ¬ Accepts mbb)
    (mb : Registers) :
    mbParsing mbb mb =
      some ({ mbb with mbState := .stateIdle }, mb) := by
  unfold mbParsing
  rw [invalidFrame_eq_true_iff.mpr hRefused]
  rfl

/- `MBparsing` leaves what the server owes to a frame. -/
theorem mbParsing_owes
    (hInit : mbb.Initialised)
    (hAccepts : Accepts mbb)
    (mb : Registers) :
    ∃ mbb',
      mbParsing mbb mb =
          some (mbb', (serveFrame mb mbb.message).2) ∧
        Owes mbb' (serveFrame mb mbb.message).1 := by
  have hLength := hAccepts.length
  rw [← length_message] at hLength
  have hCarries := carries_message mbb
  have hValid := hAccepts.checksum
  generalize mbb.message = bytes at hLength hCarries hValid ⊢
  rcases exists_fields hLength with
    ⟨address, function, data, low, high, rfl⟩
  rcases mbParsing_serves hInit hCarries
      (invalidFrame_eq_false_iff.mpr hAccepts) mb with
    ⟨mbb', mb', hParse, hAnswered⟩
  rw [serveFrame_of_valid mb hValid]
  by_cases hBroadcast : address = mbAddressBroadcast
  · rw [if_pos hBroadcast]
    refine ⟨mbb', ?_, hAnswered.broadcast hBroadcast⟩
    rw [hParse, hAnswered.registers]
  · rw [if_neg hBroadcast]
    refine ⟨mbb', ?_, hAnswered.answer hBroadcast⟩
    rw [hParse, hAnswered.registers]

/- The server as well owes nothing to a damaged frame. -/
theorem mbParsing_serveFrame
    (hInit : mbb.Initialised)
    (hListens : Listens mbb)
    (hFree : mbb.eepState = .eepFree)
    (hLength : mbFrameMin ≤ mbb.message.length)
    (mb : Registers) :
    ∃ mbb',
      mbParsing mbb mb =
          some (mbb', (serveFrame mb mbb.message).2) ∧
        Owes mbb' (serveFrame mb mbb.message).1 := by
  have hAccepted := hListens.accepts_iff hFree hLength
  by_cases hValid : crc16 mbb.message = 0
  · exact mbParsing_owes hInit (hAccepted.mpr hValid) mb
  · have hOwed : serveFrame mb mbb.message = (none, mb) := by
      unfold serveFrame
      rw [if_pos hValid]
    rw [hOwed]
    exact
      ⟨_, mbParsing_discards (mt hAccepted.mp hValid) mb, rfl⟩

end Responses

end TemperatureSensor
