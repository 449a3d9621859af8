import TemperatureSensor.Modbus.Request

/-
  What `FrameParse` makes of a request: an exception, the
  registers that were read, or a complete write.

  Main declarations:
    * `RangeAccepted` and `writeRange`
    * `Reply`
    * `frameParse_spec`
    * `mbParsing_spec`
-/

------------------------------------------------------------
-- Register Ranges
------------------------------------------------------------

namespace TemperatureSensor

/- The register is writable and admits the value. -/
def RegAccepts (r : Fin numBuf) (value : UInt16) : Prop :=
  writeCheck r = .regOk ∧ limitCheck r value = .regOk

/- The register lies in a range. -/
def InRange (start count : Nat) (r : Fin numBuf) : Prop :=
  start ≤ r.val ∧ r.val < start + count

instance (start count : Nat) (r : Fin numBuf) :
    Decidable (InRange start count r) := by
  unfold InRange
  infer_instance

/- Every register of a range admits its value. -/
def RangeAccepted
    (start count : Nat)
    (value : Nat → UInt16) : Prop :=
  ∀ r, InRange start count r →
    RegAccepts r (value (r.val - start))

/- The registers after a whole range was written. -/
def writeRange
    (mb : Registers)
    (start count : Nat)
    (value : Nat → UInt16) : Registers :=
  fun r =>
    if InRange start count r then value (r.val - start)
    else mb r

/- The range contains a register that is saved. -/
def ContainsSaved (start count : Nat) : Prop :=
  ∃ r, InRange start count r ∧ eeSaveCheck r = .regOk

/- The `k`-th value of a request, from a buffer index on. -/
def rangeValue
    (buff : MbBuff)
    (offset k : Nat) : UInt16 :=
  word (buff.get (offset + 2 * k))
    (buff.get (offset + 2 * k + 1))

theorem rangeValue_succ
    (buff : MbBuff)
    (offset k : Nat) :
    rangeValue buff offset (k + 1) =
      rangeValue buff (offset + 2) k := by
  unfold rangeValue
  have hHigh : offset + 2 * (k + 1) = offset + 2 + 2 * k := by
    omega
  rw [hHigh]

/- A range is its first register and the rest. -/
theorem inRange_succ_iff
    {start count : Nat}
    {r : Fin numBuf} :
    InRange start (count + 1) r ↔
      r.val = start ∨ InRange (start + 1) count r := by
  unfold InRange
  omega

theorem rangeAccepted_succ_iff
    {start count : Nat}
    {value : Nat → UInt16}
    (hStart : start < numBuf) :
    RangeAccepted start (count + 1) value ↔
      RegAccepts ⟨start, hStart⟩ (value 0) ∧
        RangeAccepted (start + 1) count
          (fun k => value (k + 1)) := by
  constructor
  · intro hAll
    constructor
    · have hFirst :=
        hAll ⟨start, hStart⟩ (inRange_succ_iff.mpr (Or.inl rfl))
      simpa using hFirst
    · intro r hInside
      have hIndex :
          r.val - (start + 1) + 1 = r.val - start := by
        have hLower := hInside.1
        omega
      change RegAccepts r (value (r.val - (start + 1) + 1))
      rw [hIndex]
      exact hAll r (inRange_succ_iff.mpr (Or.inr hInside))
  · rintro ⟨hFirst, hRest⟩ r hInside
    rcases inRange_succ_iff.mp hInside with hHead | hTail
    · have hSame : r = ⟨start, hStart⟩ := Fin.ext hHead
      subst hSame
      simpa using hFirst
    · have hIndex :
          r.val - (start + 1) + 1 = r.val - start := by
        have hLower := hTail.1
        omega
      rw [← hIndex]
      exact hRest r hTail

theorem writeRange_succ
    {mb : Registers}
    {start count : Nat}
    {value : Nat → UInt16}
    (hStart : start < numBuf) :
    writeRange
        (Function.update mb ⟨start, hStart⟩ (value 0))
        (start + 1) count (fun k => value (k + 1)) =
      writeRange mb start (count + 1) value := by
  funext r
  unfold writeRange
  by_cases hTail : InRange (start + 1) count r
  · have hIndex :
        r.val - (start + 1) + 1 = r.val - start := by
      have hLower := hTail.1
      omega
    rw [if_pos hTail,
      if_pos (inRange_succ_iff.mpr (Or.inr hTail))]
    exact congrArg value hIndex
  · rw [if_neg hTail]
    by_cases hHead : r.val = start
    · have hSame : r = ⟨start, hStart⟩ := Fin.ext hHead
      subst hSame
      have hInside :
          InRange start (count + 1) ⟨start, hStart⟩ :=
        inRange_succ_iff.mpr (Or.inl rfl)
      simp [hInside]
    · have hOutside : ¬ InRange start (count + 1) r := by
        rw [inRange_succ_iff]
        exact not_or.mpr ⟨hHead, hTail⟩
      have hDistinct : r ≠ ⟨start, hStart⟩ := by
        intro hSame
        exact hHead (congrArg Fin.val hSame)
      rw [if_neg hOutside, Function.update_of_ne hDistinct]

theorem containsSaved_succ_iff
    {start count : Nat}
    (hStart : start < numBuf) :
    ContainsSaved start (count + 1) ↔
      eeSaveCheck ⟨start, hStart⟩ = .regOk ∨
        ContainsSaved (start + 1) count := by
  constructor
  · rintro ⟨r, hInside, hSaved⟩
    rcases inRange_succ_iff.mp hInside with hHead | hTail
    · have hSame : r = ⟨start, hStart⟩ := Fin.ext hHead
      rw [← hSame]
      exact Or.inl hSaved
    · exact Or.inr ⟨r, hTail, hSaved⟩
  · rintro (hFirst | ⟨r, hTail, hSaved⟩)
    · exact
        ⟨⟨start, hStart⟩, inRange_succ_iff.mpr (Or.inl rfl),
          hFirst⟩
    · exact ⟨r, inRange_succ_iff.mpr (Or.inr hTail), hSaved⟩

------------------------------------------------------------
-- Loops
------------------------------------------------------------

theorem register?_eq_some
    {i : Nat}
    (hBound : i < numBuf) :
    register? i = some ⟨i, hBound⟩ :=
  dif_pos hBound

theorem limitCheckInRequest_spec
    {i : Nat}
    (hBound : i < numBuf)
    (value : UInt16) :
    ∃ exception,
      limitCheckInRequest i value = some exception ∧
        (exception = .mbeNone ↔
          RegAccepts ⟨i, hBound⟩ value) := by
  unfold limitCheckInRequest RegAccepts
  rw [register?_eq_some hBound]
  simp only [Option.bind_eq_bind, Option.bind_some]
  cases writeCheck ⟨i, hBound⟩ with
  | regErr => exact ⟨_, rfl, by simp⟩
  | regOk =>
      cases limitCheck ⟨i, hBound⟩ value with
      | regErr => exact ⟨_, rfl, by simp⟩
      | regOk => exact ⟨_, rfl, by simp⟩

/-
  The validation pass finds no exception exactly when every
  register of the range admits its value.
-/
theorem limitCheckLoop_spec
    (buff : MbBuff)
    (start count offset : Nat)
    (hRange : start + count ≤ numBuf)
    (hBuffer : offset + 2 * count ≤ mbFrameMax) :
    ∃ exception,
      limitCheckLoop buff (List.range' start count) offset =
          some exception ∧
        (exception = .mbeNone ↔
          RangeAccepted start count
            (rangeValue buff offset)) := by
  induction count generalizing start offset with
  | zero =>
      refine ⟨.mbeNone, rfl, iff_of_true rfl ?_⟩
      intro r hInside
      unfold InRange at hInside
      omega
  | succ count ih =>
      have hStart : start < numBuf := by omega
      rcases limitCheckInRequest_spec hStart
          (rangeValue buff offset 0) with
        ⟨exception, hCheck, hAccepts⟩
      rw [rangeAccepted_succ_iff hStart]
      simp only [rangeValue_succ]
      change
        limitCheckInRequest start
          (word (buff.get offset) (buff.get (offset + 1))) = _
        at hCheck
      rw [List.range'_succ, limitCheckLoop,
        buff.read_eq_some (by omega),
        buff.read_eq_some (by omega)]
      simp only [Option.bind_eq_bind, Option.bind_some, hCheck]
      by_cases hNone : exception = .mbeNone
      · rcases ih (start + 1) (offset + 2) (by omega)
            (by omega) with
          ⟨later, hRest, hLater⟩
        rw [if_pos hNone]
        refine ⟨later, hRest, ?_⟩
        rw [hLater]
        exact (and_iff_right (hAccepts.mp hNone)).symm
      · rw [if_neg hNone]
        refine ⟨exception, rfl, iff_of_false hNone ?_⟩
        intro hAll
        exact hNone (hAccepts.mpr hAll.1)

/- The write pass writes the whole range. -/
theorem writeBody_forEach
    (buff : MbBuff)
    (mb : Registers)
    (start count offset : Nat)
    (hRange : start + count ≤ numBuf)
    (hBuffer : offset + 2 * count ≤ mbFrameMax) :
    CheckedLoop.forEach (writeBody buff)
        (List.range' start count) (mb, offset) =
      some
        (writeRange mb start count (rangeValue buff offset),
          offset + 2 * count) := by
  induction count generalizing start offset mb with
  | zero =>
      have hEmpty :
          writeRange mb start 0 (rangeValue buff offset) =
            mb := by
        funext r
        apply if_neg
        unfold InRange
        omega
      rw [hEmpty]
      rfl
  | succ count ih =>
      have hStart : start < numBuf := by omega
      have hBody :
          writeBody buff (mb, offset) start =
            some
              (Function.update mb ⟨start, hStart⟩
                (rangeValue buff offset 0), offset + 2) := by
        unfold writeBody
        rw [buff.read_eq_some (by omega),
          buff.read_eq_some (by omega),
          register?_eq_some hStart]
        rfl
      have hRest :=
        ih (Function.update mb ⟨start, hStart⟩
            (rangeValue buff offset 0))
          (start + 1) (offset + 2) (by omega) (by omega)
      have hShift :
          rangeValue buff (offset + 2) =
            fun k => rangeValue buff offset (k + 1) := by
        funext k
        exact (rangeValue_succ buff offset k).symm
      rw [hShift, writeRange_succ hStart] at hRest
      rw [List.range'_succ, CheckedLoop.forEach, hBody,
        Option.bind_some, hRest]
      congr 2
      omega

/-
  The read pass stores the registers of the range from the
  given index on, high byte first.
-/
theorem readBody_forEach
    (mb : Registers)
    (buff : MbBuff)
    (start count : Nat)
    (mbIndex : UInt8)
    (hRange : start + count ≤ numBuf)
    (hBuffer : mbIndex.toNat + 2 * count < 256) :
    ∃ buff' mbIndex',
      CheckedLoop.forEach (readBody mb)
            (List.range' start count) (buff, mbIndex) =
          some (buff', mbIndex') ∧
        mbIndex'.toNat = mbIndex.toNat + 2 * count ∧
          (∀ i < mbIndex.toNat, buff'.get i = buff.get i) ∧
            ∀ r, InRange start count r →
              rangeValue buff' mbIndex.toNat
                  (r.val - start) =
                mb r := by
  induction count generalizing start buff mbIndex with
  | zero =>
      refine ⟨buff, mbIndex, rfl, rfl, fun _ _ => rfl, ?_⟩
      intro r hInside
      unfold InRange at hInside
      omega
  | succ count ih =>
      have hStart : start < numBuf := by omega
      have hSecond :
          (mbIndex + 1).toNat = mbIndex.toNat + 1 := by
        rw [UInt8.toNat_add]
        change (mbIndex.toNat + 1) % 256 = _
        omega
      have hThird :
          (mbIndex + 1 + 1).toNat = mbIndex.toNat + 2 := by
        rw [UInt8.toNat_add, hSecond]
        change (mbIndex.toNat + 1 + 1) % 256 = _
        omega
      have hBounds :
          mbIndex.toNat < mbFrameMax ∧
            mbIndex.toNat + 1 < mbFrameMax := by
        unfold mbFrameMax
        omega
      rcases buff.write_eq_some hBounds.1
          (mb ⟨start, hStart⟩ >>> 8).toUInt8 with
        ⟨buff1, hWrite1, hHere1, hOther1⟩
      rcases buff1.write_eq_some hBounds.2
          (mb ⟨start, hStart⟩).toUInt8 with
        ⟨buff2, hWrite2, hHere2, hOther2⟩
      have hBody :
          readBody mb (buff, mbIndex) start =
            some (buff2, mbIndex + 1 + 1) := by
        unfold readBody
        simp only [register?_eq_some hStart, hSecond, hWrite1,
          hWrite2, Option.bind_eq_bind, Option.bind_some]
      rcases ih buff2 (start + 1) (mbIndex + 1 + 1)
          (by omega) (by omega) with
        ⟨buff', mbIndex', hLoop, hIndex, hFrame, hValues⟩
      refine ⟨buff', mbIndex', ?_, by omega, ?_, ?_⟩
      · rw [List.range'_succ, CheckedLoop.forEach, hBody,
          Option.bind_some, hLoop]
      · intro i hBelow
        rw [hFrame i (by omega), hOther2 i (by omega),
          hOther1 i (by omega)]
      · intro r hInside
        rcases inRange_succ_iff.mp hInside with hHead | hTail
        · have hSame : r = ⟨start, hStart⟩ := Fin.ext hHead
          subst hSame
          change
            rangeValue buff' mbIndex.toNat (start - start) = _
          rw [Nat.sub_self, rangeValue]
          change
            word (buff'.get mbIndex.toNat)
              (buff'.get (mbIndex.toNat + 1)) = _
          rw [hFrame _ (by omega), hFrame _ (by omega),
            hHere2, hOther2 _ (by omega), hHere1]
          exact word_bytes _
        · have hIndex' :
              r.val - (start + 1) + 1 = r.val - start := by
            have hLower := hTail.1
            omega
          rw [← hIndex', rangeValue_succ, ← hThird]
          exact hValues r hTail

/- The save check finds the saved registers of a range. -/
theorem eepromScan_spec
    (start count : Nat)
    (hRange : start + count ≤ numBuf) :
    ∃ eepState,
      eepromScan (List.range' start count) = some eepState ∧
        (eepState = .eepSave ↔ ContainsSaved start count) := by
  induction count generalizing start with
  | zero =>
      refine ⟨.eepFree, rfl, iff_of_false (by simp) ?_⟩
      rintro ⟨r, hInside, -⟩
      unfold InRange at hInside
      omega
  | succ count ih =>
      have hStart : start < numBuf := by omega
      rw [List.range'_succ, eepromScan,
        register?_eq_some hStart,
        containsSaved_succ_iff hStart]
      simp only [Option.bind_eq_bind, Option.bind_some]
      by_cases hSaved : eeSaveCheck ⟨start, hStart⟩ = .regOk
      · rw [if_pos hSaved]
        exact ⟨.eepSave, rfl, iff_of_true rfl (Or.inl hSaved)⟩
      · rw [if_neg hSaved]
        rcases ih (start + 1) (by omega) with
          ⟨eepState, hScan, hFound⟩
        refine ⟨eepState, hScan, ?_⟩
        rw [hFound, or_iff_right hSaved]

theorem eepromCheckInRequest_spec
    (startReg count : UInt16) :
    ∃ eepState,
      eepromCheckInRequest startReg count = some eepState ∧
        (eepState = .eepSave ↔
          startReg.toNat + count.toNat < numBuf ∧
            ContainsSaved startReg.toNat count.toNat) := by
  unfold eepromCheckInRequest
  by_cases hBound : count.toNat + startReg.toNat ≥ numBuf
  · rw [if_pos hBound]
    refine ⟨.eepFree, rfl, iff_of_false (by simp) ?_⟩
    rintro ⟨hInside, -⟩
    omega
  · rw [if_neg hBound]
    rcases eepromScan_spec startReg.toNat count.toNat
        (by omega) with
      ⟨eepState, hScan, hFound⟩
    refine ⟨eepState, hScan, ?_⟩
    rw [hFound]
    exact (and_iff_right (by omega)).symm

------------------------------------------------------------
-- Replies
------------------------------------------------------------

/- The fields that `FrameParse` never changes. -/
structure SameSetup (mbb mbb' : MbStruct) : Prop where
  readLast : mbb'.regReadLast = mbb.regReadLast
  writeLast : mbb'.regWriteLast = mbb.regWriteLast
  address : mbb'.slaveAddress = mbb.slaveAddress
  frameBad : mbb'.erFrameBad = mbb.erFrameBad

theorem SameSetup.initialised
    {mbb mbb' : MbStruct}
    (hSame : SameSetup mbb mbb')
    (hInit : mbb.Initialised) :
    mbb'.Initialised :=
  ⟨by rw [hSame.readLast, hInit.readLast],
    by rw [hSame.writeLast, hInit.writeLast]⟩

/- A word field of a request. -/
def MbStruct.field (mbb : MbStruct) (i : Nat) : Nat :=
  (word (mbb.pMbBuff.get i) (mbb.pMbBuff.get (i + 1))).toNat

/-
  What a request leads to: `body` is the structure with the
  response up to its checksum, of `mb_index` bytes, and the
  last argument are the registers afterwards.
-/
inductive Reply
    (mbb : MbStruct)
    (mb : Registers)
    (body : MbStruct) : Registers → Prop where
| exception
    (code : EMBExcep)
    (hCode : code ≠ .mbeNone)
    (hAddress : body.pMbBuff.get 0 = mbb.pMbBuff.get 0)
    (hFunction :
      body.pMbBuff.get 1 = mbb.pMbBuff.get 1 ||| 0x80)
    (hValue : body.pMbBuff.get 2 = code.code)
    (hSize : body.mbIndex.toNat = 3)
    (hState : body.eepState = .eepFree) :
    Reply mbb mb body mb
| read
    (start count : Nat)
    (hStart : start = mbb.field 2)
    (hCount : count = mbb.field 4)
    (hRange : start + count ≤ numBuf)
    (hAddress : body.pMbBuff.get 0 = mbb.pMbBuff.get 0)
    (hFunction :
      mbb.pMbBuff.get 1 = 3 ∧ body.pMbBuff.get 1 = 3)
    (hBytes : (body.pMbBuff.get 2).toNat = 2 * count)
    (hValues :
      ∀ r, InRange start count r →
        rangeValue body.pMbBuff 3 (r.val - start) = mb r)
    (hSize : body.mbIndex.toNat = 3 + 2 * count)
    (hState : body.eepState = mbb.eepState) :
    Reply mbb mb body mb
| write
    (start count offset : Nat)
    (hStart : start = mbb.field 2)
    (hFunction :
      mbb.pMbBuff.get 1 = 16 ∧ count = mbb.field 4 ∧
          offset = 7 ∨
        mbb.pMbBuff.get 1 = 6 ∧ count = 1 ∧ offset = 4)
    (hNonempty : 1 ≤ count)
    (hRange : start + count < numBuf)
    (hAccepted :
      RangeAccepted start count
        (rangeValue mbb.pMbBuff offset))
    (hEcho : body.pMbBuff = mbb.pMbBuff)
    (hSize : body.mbIndex.toNat = 6)
    (hState :
      body.eepState = .eepSave ↔ ContainsSaved start count)
    (hDescriptor :
      body.eepState = .eepSave →
        body.eepStartSave.toNat = start ∧
          body.eepIndx.toNat = count) :
    Reply mbb mb body
      (writeRange mb start count
        (rangeValue mbb.pMbBuff offset))

/- What a function branch guarantees. -/
structure BranchSpec
    (mbb : MbStruct)
    (mb : Registers)
    (parsed : Parsed) : Prop where
  setup : SameSetup mbb parsed.mbb
  refused :
    parsed.exception ≠ .mbeNone →
      parsed.mbBufMain = mb ∧
        parsed.mbb.pMbBuff = mbb.pMbBuff
  served :
    parsed.exception = .mbeNone →
      Reply mbb mb parsed.mbb parsed.mbBufMain

theorem branchSpec_refused
    (mbb : MbStruct)
    (mb : Registers)
    {exception : EMBExcep}
    (hException : exception ≠ .mbeNone) :
    BranchSpec mbb mb ⟨exception, mbb, mb⟩ :=
  ⟨⟨rfl, rfl, rfl, rfl⟩, fun _ => ⟨rfl, rfl⟩,
    fun hNone => absurd hNone hException⟩

/- The last register is not writable. -/
theorem not_rangeAccepted_last
    {start count : Nat}
    {value : Nat → UInt16}
    (hNonempty : 1 ≤ count)
    (hEnd : start + count = numBuf) :
    ¬ RangeAccepted start count value := by
  intro hAll
  have hInside :
      InRange start count (⟨119, by decide⟩ : Fin numBuf) := by
    change start ≤ 119 ∧ 119 < start + count
    change start + count = 120 at hEnd
    omega
  exact absurd (hAll _ hInside).1 (by decide)

/- The registers of a request, without a 16-bit overflow. -/
theorem toNat_regLast_sub
    {regIndx regNmb : UInt16}
    (hRange : regIndx.toNat + regNmb.toNat ≤ numBuf) :
    (regIndx + regNmb).toNat - regIndx.toNat =
      regNmb.toNat := by
  change regIndx.toNat + regNmb.toNat ≤ 120 at hRange
  rw [UInt16.toNat_add]
  omega

/- What recording the save check changes. -/
theorem recordSave_spec
    (mbb : MbStruct)
    (eepState : EMBEep)
    (regIndx regNmb : UInt16) :
    SameSetup mbb (recordSave mbb eepState regIndx regNmb) ∧
      (recordSave mbb eepState regIndx regNmb).pMbBuff =
          mbb.pMbBuff ∧
        (recordSave mbb eepState regIndx regNmb).eepState =
            eepState ∧
          (eepState = .eepSave →
            (recordSave mbb eepState regIndx
                  regNmb).eepStartSave = regIndx ∧
              (recordSave mbb eepState regIndx
                  regNmb).eepIndx = regNmb.toUInt8) := by
  unfold recordSave
  split
  · exact ⟨⟨rfl, rfl, rfl, rfl⟩, rfl, rfl, fun _ => ⟨rfl, rfl⟩⟩
  · next hOther =>
      exact
        ⟨⟨rfl, rfl, rfl, rfl⟩, rfl, rfl,
          fun hSave => absurd hSave hOther⟩

/-
  The checked write of a range writes all of it and records
  the save, or refuses and changes no register.
-/
theorem writeRegisters_spec
    (mbb : MbStruct)
    (mb : Registers)
    (regIndx regNmb : UInt16)
    (offset : Nat)
    (hStart : regIndx.toNat = mbb.field 2)
    (hFunction :
      mbb.pMbBuff.get 1 = 16 ∧
          regNmb.toNat = mbb.field 4 ∧ offset = 7 ∨
        mbb.pMbBuff.get 1 = 6 ∧ regNmb.toNat = 1 ∧
          offset = 4)
    (hNonempty : 1 ≤ regNmb.toNat)
    (hRange : regIndx.toNat + regNmb.toNat ≤ numBuf) :
    ∃ parsed,
      writeRegisters mbb mb regIndx regNmb offset =
          some parsed ∧
        BranchSpec mbb mb parsed := by
  have hBuffer :
      offset + 2 * regNmb.toNat ≤ mbFrameMax := by
    change regIndx.toNat + regNmb.toNat ≤ 120 at hRange
    change offset + 2 * regNmb.toNat ≤ 256
    omega
  rcases eepromCheckInRequest_spec regIndx regNmb with
    ⟨eepState, hSave, hSaved⟩
  rcases limitCheckLoop_spec mbb.pMbBuff regIndx.toNat
      regNmb.toNat offset hRange hBuffer with
    ⟨exception, hLimits, hAccepted⟩
  have hWrite :=
    writeBody_forEach mbb.pMbBuff mb regIndx.toNat
      regNmb.toNat offset hRange hBuffer
  rcases recordSave_spec mbb eepState regIndx regNmb with
    ⟨hSetup, hBuff, hState, hDescriptor⟩
  unfold writeRegisters
  simp only [toNat_regLast_sub hRange, hSave,
    Option.bind_eq_bind, Option.bind_some, hBuff, hLimits,
    hWrite]
  by_cases hNone : exception = .mbeNone
  · rw [if_pos hNone]
    have hAll := hAccepted.mp hNone
    have hEnd :
        regIndx.toNat + regNmb.toNat < numBuf := by
      rcases hRange.lt_or_eq with hLess | hEqual
      · exact hLess
      · exact absurd hAll
          (not_rangeAccepted_last hNonempty hEqual)
    refine
      ⟨_, rfl,
        ⟨hSetup.readLast, hSetup.writeLast, hSetup.address,
          hSetup.frameBad⟩, by simp, ?_⟩
    intro _
    refine
      Reply.write regIndx.toNat regNmb.toNat offset hStart
        hFunction hNonempty hEnd hAll rfl rfl ?_ ?_
    · change
        (recordSave mbb eepState regIndx
          regNmb).eepState = _ ↔ _
      rw [hState, hSaved]
      exact and_iff_right hEnd
    · intro hSaving
      change
        (recordSave mbb eepState regIndx
          regNmb).eepState = _ at hSaving
      have hFields := hDescriptor (hState.symm.trans hSaving)
      constructor
      · exact congrArg UInt16.toNat hFields.1
      · change
          (recordSave mbb eepState regIndx
            regNmb).eepIndx.toNat = _
        change regIndx.toNat + regNmb.toNat ≤ 120 at hRange
        rw [hFields.2, UInt16.toNat_toUInt8]
        omega
  · rw [if_neg hNone]
    exact
      ⟨_, rfl, hSetup, fun _ => ⟨rfl, hBuff⟩,
        fun hServed => absurd hServed hNone⟩

------------------------------------------------------------
-- Function Branches
------------------------------------------------------------

/- The range check admits ranges inside the registers only. -/
theorem range_of_not_rangeRefused
    {lastReg regIndx regNmb : UInt16}
    (hLast : lastReg.toNat = numBuf - 1)
    (hAdmitted : ¬ rangeRefused lastReg regIndx regNmb) :
    regIndx.toNat + regNmb.toNat ≤ numBuf := by
  change lastReg.toNat = 119 at hLast
  change regIndx.toNat + regNmb.toNat ≤ 120
  unfold rangeRefused at hAdmitted
  simp only [Bool.or_eq_true, decide_eq_true_eq, not_or,
    gt_iff_lt, UInt16.lt_iff_toNat_lt, not_lt, hLast]
    at hAdmitted
  rcases hAdmitted with ⟨⟨hFirst, hEnd⟩, hCount⟩
  change regNmb.toNat ≤ 120 at hCount
  rw [UInt16.toNat_add] at hEnd
  omega

theorem read_header
    (buff : MbBuff)
    (i : Nat)
    (hHeader : i < 8) :
    buff.read i = some (buff.get i) :=
  buff.read_eq_some (hHeader.trans (by decide))

theorem parseRead_spec
    (mbb : MbStruct)
    (mb : Registers)
    (hInit : mbb.Initialised)
    (hFunction : mbb.pMbBuff.get 1 = 3) :
    ∃ parsed,
      parseRead mbb mb = some parsed ∧
        BranchSpec mbb mb parsed := by
  have hRead := read_header mbb.pMbBuff
  unfold parseRead
  split
  · simp only [hRead 2 (by decide), hRead 3 (by decide),
      hRead 4 (by decide), hRead 5 (by decide),
      Option.bind_eq_bind, Option.bind_some]
    generalize hIndx :
      word (mbb.pMbBuff.get 2) (mbb.pMbBuff.get 3) = regIndx
    generalize hNmb :
      word (mbb.pMbBuff.get 4) (mbb.pMbBuff.get 5) = regNmb
    by_cases hRefused :
        rangeRefused mbb.regReadLast regIndx regNmb
    · rw [if_pos hRefused]
      exact ⟨_, rfl, branchSpec_refused mbb mb (by simp)⟩
    · rw [if_neg hRefused]
      have hRange :=
        range_of_not_rangeRefused hInit.readLast hRefused
      have hCount : regNmb.toNat ≤ 120 :=
        (Nat.le_add_left _ _).trans hRange
      rcases mbb.pMbBuff.write_eq_some (i := 2) (by decide)
          (regNmb <<< 1).toUInt8 with
        ⟨buff, hWrite, hHere, hOther⟩
      rcases readBody_forEach mb buff regIndx.toNat
          regNmb.toNat 3 hRange
          (by change 3 + 2 * regNmb.toNat < 256; omega) with
        ⟨buff', mbIndex, hLoop, hIndex, hFrame, hValues⟩
      change
        ∀ i < 3, buff'.get i = buff.get i at hFrame
      simp only [toNat_regLast_sub hRange, hWrite,
        Option.bind_some, hLoop]
      refine ⟨_, rfl, ⟨rfl, rfl, rfl, rfl⟩, by simp, ?_⟩
      intro _
      refine
        Reply.read regIndx.toNat regNmb.toNat
          (by rw [← hIndx]; rfl) (by rw [← hNmb]; rfl) hRange
          ?_ ⟨hFunction, ?_⟩ ?_ hValues hIndex rfl
      · change buff'.get 0 = _
        rw [hFrame 0 (by decide), hOther 0 (by decide)]
      · change buff'.get 1 = _
        rw [hFrame 1 (by decide), hOther 1 (by decide),
          hFunction]
      · change (buff'.get 2).toNat = _
        rw [hFrame 2 (by decide), hHere, UInt16.toNat_toUInt8,
          UInt16.toNat_shiftLeft]
        change regNmb.toNat <<< 1 % 2 ^ 16 % 2 ^ 8 = _
        rw [Nat.shiftLeft_eq]
        omega
  · exact ⟨_, rfl, branchSpec_refused mbb mb (by simp)⟩

theorem parseWriteMultiple_spec
    (mbb : MbStruct)
    (mb : Registers)
    (hInit : mbb.Initialised)
    (hFunction : mbb.pMbBuff.get 1 = 16) :
    ∃ parsed,
      parseWriteMultiple mbb mb = some parsed ∧
        BranchSpec mbb mb parsed := by
  have hRead := read_header mbb.pMbBuff
  unfold parseWriteMultiple
  split
  · next hLong =>
      simp only [hRead 2 (by decide), hRead 3 (by decide),
        hRead 4 (by decide), hRead 5 (by decide),
        hRead 6 (by decide), Option.bind_eq_bind,
        Option.bind_some]
      generalize hIndx :
        word (mbb.pMbBuff.get 2) (mbb.pMbBuff.get 3) = regIndx
      generalize hNmb :
        word (mbb.pMbBuff.get 4) (mbb.pMbBuff.get 5) = regNmb
      by_cases hRefused :
          rangeRefused mbb.regWriteLast regIndx regNmb
      · rw [if_pos hRefused]
        exact ⟨_, rfl, branchSpec_refused mbb mb (by simp)⟩
      · rw [if_neg hRefused]
        have hRange :=
          range_of_not_rangeRefused hInit.writeLast hRefused
        split
        · exact ⟨_, rfl, branchSpec_refused mbb mb (by simp)⟩
        · next hLengths =>
            rcases not_or.mp hLengths with ⟨hBytes, hTotal⟩
            rw [gt_iff_lt, UInt8.lt_iff_toNat_lt] at hLong
            change 10 < mbb.mbIndex.toNat at hLong
            rw [not_not, Nat.shiftLeft_eq] at hBytes
            apply writeRegisters_spec mbb mb regIndx regNmb 7
            · rw [← hIndx]
              rfl
            · left
              refine ⟨hFunction, ?_, rfl⟩
              rw [← hNmb]
              rfl
            · omega
            · exact hRange
  · exact ⟨_, rfl, branchSpec_refused mbb mb (by simp)⟩

theorem parseWriteSingle_spec
    (mbb : MbStruct)
    (mb : Registers)
    (hInit : mbb.Initialised)
    (hFunction : mbb.pMbBuff.get 1 = 6) :
    ∃ parsed,
      parseWriteSingle mbb mb = some parsed ∧
        BranchSpec mbb mb parsed := by
  have hRead := read_header mbb.pMbBuff
  unfold parseWriteSingle
  split
  · simp only [hRead 2 (by decide), hRead 3 (by decide),
      Option.bind_eq_bind, Option.bind_some]
    generalize hIndx :
      word (mbb.pMbBuff.get 2) (mbb.pMbBuff.get 3) = regIndx
    by_cases hRefused : regIndx > mbb.regWriteLast
    · rw [if_pos hRefused]
      exact ⟨_, rfl, branchSpec_refused mbb mb (by simp)⟩
    · rw [if_neg hRefused]
      have hRange : regIndx.toNat + 1 ≤ numBuf := by
        have hLast : mbb.regWriteLast.toNat = 119 :=
          hInit.writeLast
        rw [gt_iff_lt, UInt16.lt_iff_toNat_lt, hLast]
          at hRefused
        change regIndx.toNat + 1 ≤ 120
        omega
      apply writeRegisters_spec mbb mb regIndx 1 4
      · rw [← hIndx]
        rfl
      · exact Or.inr ⟨hFunction, rfl, rfl⟩
      · exact le_rfl
      · exact hRange
  · exact ⟨_, rfl, branchSpec_refused mbb mb (by simp)⟩

theorem parseFunction_spec
    (mbb : MbStruct)
    (mb : Registers)
    (hInit : mbb.Initialised) :
    ∃ parsed,
      parseFunction (mbb.pMbBuff.get 1) mbb mb =
          some parsed ∧
        BranchSpec mbb mb parsed := by
  unfold parseFunction
  split
  · next hFunction =>
      exact parseRead_spec mbb mb hInit hFunction
  · next hFunction =>
      exact parseWriteMultiple_spec mbb mb hInit hFunction
  · next hFunction =>
      exact parseWriteSingle_spec mbb mb hInit hFunction
  · exact ⟨_, rfl, branchSpec_refused mbb mb (by simp)⟩

------------------------------------------------------------
-- Responses
------------------------------------------------------------

/- The bytes that are handed to `uart_fifo_fill`. -/
def MbStruct.response (mbb : MbStruct) : List UInt8 :=
  (List.ofFn mbb.pMbBuff).take mbb.responseSize.toNat

theorem MbStruct.length_response
    (mbb : MbStruct) :
    mbb.response.length = mbb.responseSize.toNat := by
  have hSize : mbb.responseSize.toNat ≤ mbFrameMax :=
    mbb.responseSize.toNat_lt.le
  unfold MbStruct.response
  rw [List.length_take, List.length_ofFn]
  exact Nat.min_eq_left hSize

/- The response is a body followed by its checksum. -/
structure Closed (body mbb' : MbStruct) : Prop where
  setup : SameSetup body mbb'
  bytes :
    ∀ i < body.mbIndex.toNat,
      mbb'.pMbBuff.get i = body.pMbBuff.get i
  size : mbb'.responseSize.toNat = body.mbIndex.toNat + 2
  checksum : crc16 mbb'.response = 0
  eepState : mbb'.eepState = body.eepState
  eepStartSave : mbb'.eepStartSave = body.eepStartSave
  eepIndx : mbb'.eepIndx = body.eepIndx

/- `mb_state` and `mb_index` are not part of a response. -/
theorem Closed.with_state
    {body mbb' : MbStruct}
    (hClosed : Closed body mbb')
    (mbState : MbState)
    (mbIndex : UInt8) :
    Closed body
      { mbb' with mbState := mbState, mbIndex := mbIndex } :=
  ⟨⟨hClosed.setup.readLast, hClosed.setup.writeLast,
      hClosed.setup.address, hClosed.setup.frameBad⟩,
    hClosed.bytes, hClosed.size, hClosed.checksum,
    hClosed.eepState, hClosed.eepStartSave, hClosed.eepIndx⟩

theorem closeResponse_spec
    (body : MbStruct)
    (hSize : body.mbIndex.toNat ≤ 243) :
    ∃ mbb',
      closeResponse body = some mbb' ∧ Closed body mbb' := by
  have hSecond :
      (body.mbIndex + 1).toNat = body.mbIndex.toNat + 1 := by
    rw [UInt8.toNat_add]
    change (body.mbIndex.toNat + 1) % 256 = _
    omega
  have hThird :
      (body.mbIndex + 1 + 1).toNat =
        body.mbIndex.toNat + 2 := by
    rw [UInt8.toNat_add, hSecond]
    change (body.mbIndex.toNat + 1 + 1) % 256 = _
    omega
  have hBounds :
      body.mbIndex.toNat < mbFrameMax ∧
        body.mbIndex.toNat + 1 < mbFrameMax := by
    change
      body.mbIndex.toNat < 256 ∧ body.mbIndex.toNat + 1 < 256
    omega
  have hBody := body.pMbBuff.bytes_eq_some hBounds.1.le
  generalize hMessage :
    (List.ofFn body.pMbBuff).take body.mbIndex.toNat =
      message at hBody
  rcases body.pMbBuff.write_eq_some hBounds.1
      (crc16 message &&& 0xFF).toUInt8 with
    ⟨buff1, hWrite1, hHere1, hOther1⟩
  rcases buff1.write_eq_some hBounds.2
      (crc16 message >>> 8).toUInt8 with
    ⟨buff2, hWrite2, hHere2, hOther2⟩
  have hFrame :
      ∀ i < body.mbIndex.toNat,
        buff2.get i = body.pMbBuff.get i := by
    intro i hBelow
    rw [hOther2 i (by omega), hOther1 i (by omega)]
  refine
    ⟨{ body with
       pMbBuff := buff2
       mbIndex := body.mbIndex + 1
       responseSize := body.mbIndex + 1 + 1 }, ?_,
      ⟨rfl, rfl, rfl, rfl⟩, hFrame, hThird, ?_, rfl, rfl,
      rfl⟩
  · unfold closeResponse
    simp only [hBody, Option.bind_eq_bind, Option.bind_some,
      hWrite1, hSecond, hWrite2]
  · change
      crc16
        ((List.ofFn buff2).take
          (body.mbIndex + 1 + 1).toNat) = 0
    rw [hThird, buff2.take_ofFn_succ hBounds.2,
      buff2.take_ofFn_succ hBounds.1,
      MbBuff.take_ofFn_congr hFrame, hMessage, hHere2,
      hOther2 _ (by omega), hHere1, lowByte_crc16,
      highByte_crc16, List.append_assoc]
    exact crc16_append_crc16 message

/- A refused request gets the exception response. -/
theorem exceptionResponse_spec
    {mbb : MbStruct}
    {mb : Registers}
    {parsed : Parsed}
    (hBranch : BranchSpec mbb mb parsed) :
    ∃ body,
      exceptionResponse parsed.mbb parsed.exception =
          some body ∧
        SameSetup mbb body ∧
          Reply mbb mb body parsed.mbBufMain := by
  by_cases hServed : parsed.exception = .mbeNone
  · refine
      ⟨parsed.mbb, ?_, hBranch.setup,
        hBranch.served hServed⟩
    unfold exceptionResponse
    rw [if_pos hServed]
  · rcases hBranch.refused hServed with ⟨hSame, hBuff⟩
    rcases mbb.pMbBuff.write_eq_some (i := 1) (by decide)
        (mbb.pMbBuff.get 1 ||| 0x80) with
      ⟨buff1, hWrite1, hHere1, hOther1⟩
    rcases buff1.write_eq_some (i := 2) (by decide)
        parsed.exception.code with
      ⟨buff2, hWrite2, hHere2, hOther2⟩
    refine
      ⟨{ parsed.mbb with
         pMbBuff := buff2
         mbIndex := 3
         eepState := .eepFree }, ?_,
        ⟨hBranch.setup.readLast, hBranch.setup.writeLast,
          hBranch.setup.address, hBranch.setup.frameBad⟩, ?_⟩
    · unfold exceptionResponse
      rw [if_neg hServed, hBuff,
        read_header mbb.pMbBuff 1 (by decide)]
      simp only [Option.bind_eq_bind, Option.bind_some,
        hWrite1, hWrite2]
    · rw [hSame]
      apply Reply.exception parsed.exception hServed
      · change buff2.get 0 = _
        rw [hOther2 0 (by decide), hOther1 0 (by decide)]
      · change buff2.get 1 = _
        rw [hOther2 1 (by decide), hHere1]
      · exact hHere2
      · rfl
      · rfl

/- The body of a response leaves room for its checksum. -/
theorem Reply.mbIndex_le
    {mbb body : MbStruct}
    {mb mb' : Registers}
    (hReply : Reply mbb mb body mb') :
    body.mbIndex.toNat ≤ 243 := by
  cases hReply with
  | exception _ _ _ _ _ hSize _ => omega
  | read start count _ _ hRange _ _ _ _ hSize _ =>
      change start + count ≤ 120 at hRange
      omega
  | write _ _ _ _ _ _ _ _ _ hSize _ _ => omega

/-
  `FrameParse` accesses no array out of bounds. It answers
  with one of the replies, closed by its checksum.
-/
theorem frameParse_spec
    (mbb : MbStruct)
    (mb : Registers)
    (hInit : mbb.Initialised) :
    ∃ body mbb' mb',
      frameParse mbb mb =
          some
            (decide (mbb.pMbBuff.get 0 ≠ mbAddressBroadcast),
              mbb', mb') ∧
        SameSetup mbb body ∧
          Reply mbb mb body mb' ∧ Closed body mbb' := by
  rcases parseFunction_spec mbb mb hInit with
    ⟨parsed, hParsed, hSpec⟩
  rcases exceptionResponse_spec hSpec with
    ⟨body, hBody, hSetup, hReply⟩
  rcases closeResponse_spec body hReply.mbIndex_le with
    ⟨mbb', hClose, hClosed⟩
  refine
    ⟨body, mbb', parsed.mbBufMain, ?_, hSetup, hReply,
      hClosed⟩
  unfold frameParse
  simp only [read_header mbb.pMbBuff 0 (by decide),
    read_header mbb.pMbBuff 1 (by decide),
    Option.bind_eq_bind, Option.bind_some, hParsed, hBody,
    hClose]

------------------------------------------------------------
-- MBparsing
------------------------------------------------------------

/-
  What `MBparsing` makes of a frame: it is discarded, or it
  is answered while no save is pending.
-/
inductive ParsingOutcome
    (mbb : MbStruct)
    (mb : Registers)
    (mbb' : MbStruct) : Registers → Prop where
| discarded
    (hInvalid : invalidFrame mbb = some true)
    (hSame : mbb' = { mbb with mbState := .stateIdle }) :
    ParsingOutcome mbb mb mbb' mb
| answered
    {mb' : Registers}
    (body : MbStruct)
    (hValid : invalidFrame mbb = some false)
    (hLength : mbFrameMin ≤ mbb.mbIndex.toNat)
    (hFree : mbb.eepState = .eepFree)
    (hSetup : SameSetup mbb body)
    (hReply : Reply mbb mb body mb')
    (hClosed : Closed body mbb')
    (hState :
      mbb'.mbState =
        if mbb.pMbBuff.get 0 = mbAddressBroadcast then
          .stateIdle
        else
          .stateSend) :
    ParsingOutcome mbb mb mbb' mb'

theorem mbParsing_spec
    (mbb : MbStruct)
    (mb : Registers)
    (hInit : mbb.Initialised) :
    ∃ mbb' mb',
      mbParsing mbb mb = some (mbb', mb') ∧
        ParsingOutcome mbb mb mbb' mb' := by
  rcases invalidFrame_spec mbb with
    ⟨invalid, hInvalid, hValid⟩
  unfold mbParsing
  rw [hInvalid]
  simp only [Option.bind_eq_bind, Option.bind_some]
  cases invalid with
  | true =>
      exact
        ⟨_, mb, rfl, ParsingOutcome.discarded hInvalid rfl⟩
  | false =>
      have hAccepts := hValid.mp rfl
      rcases frameParse_spec mbb mb hInit with
        ⟨body, closed, mb', hParse, hSetup, hReply, hClosed⟩
      rw [hParse]
      simp only [Bool.false_eq_true, if_false,
        Option.bind_some, decide_eq_true_eq]
      by_cases hBroadcast :
          mbb.pMbBuff.get 0 = mbAddressBroadcast
      · rw [if_neg (not_not.mpr hBroadcast)]
        refine
          ⟨_, mb', rfl,
            ParsingOutcome.answered body hInvalid
              hAccepts.length hAccepts.free hSetup hReply
              (hClosed.with_state _ _) ?_⟩
        rw [if_pos hBroadcast]
      · rw [if_pos hBroadcast]
        refine
          ⟨_, mb', rfl,
            ParsingOutcome.answered body hInvalid
              hAccepts.length hAccepts.free hSetup hReply
              (hClosed.with_state _ _) ?_⟩
        rw [if_neg hBroadcast]

end TemperatureSensor
