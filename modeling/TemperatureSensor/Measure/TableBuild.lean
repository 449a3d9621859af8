import TemperatureSensor.Measure.Ntc
import TemperatureSensor.Registers.Store
import Mathlib.Algebra.Order.Floor.Semiring
import Mathlib.Tactic.NormNum
import Mathlib.Analysis.SpecialFunctions.Exp

/-
  The table that `calculate_table_NTC` builds from the NTC
  registers, in exact arithmetic.

  Main declarations:
    * `calculateTableNTC` and `ioAdcInitData`
    * `ConversionSafe`
    * `exists_calibration`
    * `mhBufInit_conversionSafe_iff`
-/

------------------------------------------------------------
-- calculate_table_NTC
------------------------------------------------------------

namespace TemperatureSensor

section Conversion

variable {K : Type} [Field K] [LinearOrder K]

/- A division that faults on a zero divisor. -/
def checkedDiv (a b : K) : Option K :=
  if b = 0 then none else some (a / b)

theorem checkedDiv_of_ne_zero
    {a b : K}
    (hDivisor : b ≠ 0) :
    checkedDiv a b = some (a / b) :=
  if_neg hDivisor

/- The conversion of an in-range real to `uint16_t`. -/
def toEntry
    [FloorSemiring K]
    (x : K) : Option UInt16 :=
  if -1 < x ∧ x < 65536 then
    some (UInt16.ofNat ⌊x⌋₊)
  else
    none

/- The value that the loop stores at index `i`. -/
def tableEntry
    [FloorSemiring K]
    (exp : K → K)
    (parametr : NtcCalculationData)
    (i : Nat) : Option UInt16 := do
  let tempT2 : K :=
    (parametr.ntcT2.toInt : K) + 27315 / 100
  let tempT1 : K :=
    ((parametr.ntcStartTemperature.toInt : K) +
      i * (parametr.ntcStepTemperature.toInt : K)) +
        27315 / 100
  let rate1 ← checkedDiv (parametr.ntcB.toInt : K) tempT1
  let rate2 ← checkedDiv (parametr.ntcB.toInt : K) tempT2
  let rValue : K :=
    parametr.ntcR2.toNat * exp (rate1 - rate2)
  let rDivider : K := parametr.ntcRDivider.toNat
  let quotient ←
    checkedDiv
      (rValue * parametr.ntcAdcMultipler.toNat *
        parametr.ntcAdcResolution.toNat * 2 + rValue +
          rDivider)
      (2 * (rValue + rDivider))
  toEntry quotient

/- `termo_table[i] = value`, `none` outside the array. -/
def tableWrite
    (termoTable : Fin sizeNtcTable → UInt16)
    (i : Nat)
    (value : UInt16) :
    Option (Fin sizeNtcTable → UInt16) :=
  if hBound : i < sizeNtcTable then
    some (Function.update termoTable ⟨i, hBound⟩ value)
  else
    none

/- The calculation data with the number of steps clamped. -/
def clampNumberStep
    (ntcData : NtcCalculationData) : NtcCalculationData :=
  if ntcData.ntcTemperNumberStep >
      UInt16.ofNat sizeNtcTable then
    { ntcData with
      ntcTemperNumberStep := UInt16.ofNat sizeNtcTable }
  else
    ntcData

/-
  `calculate_table_NTC` over a previous table; `none` is a
  division by zero, a conversion out of range or a write out
  of bounds.
-/
def calculateTableNTC
    [FloorSemiring K]
    (exp : K → K)
    (termoTable : Fin sizeNtcTable → UInt16)
    (ntcData : NtcCalculationData) : Option NtcState := do
  let parametr := clampNumberStep ntcData
  let table ←
    CheckedLoop.forEach
      (fun table i => do
        let value ← tableEntry exp parametr i
        tableWrite table i value)
      (List.range parametr.ntcTemperNumberStep.toNat)
      termoTable
  some ⟨parametr, table⟩

end Conversion

/- A double word of two registers, the low word first. -/
def doubleWord (w1 w2 : UInt16) : UInt32 :=
  w1.toUInt32 ||| (w2.toUInt32 <<< 16)

/- The calculation data that `io_adc_init` fills in. -/
def ioAdcInitData (mb : Registers) : NtcCalculationData where
  ntcR2 :=
    doubleWord (mb regNtcR2ValueW1) (mb regNtcR2ValueW2)
  ntcB := (mb regNtcBValue).toInt16
  ntcT2 := (mb regNtcT2Value).toInt16
  ntcRDivider :=
    doubleWord (mb regNtcRDividerW1) (mb regNtcRDividerW2)
  ntcStartTemperature := (mb regNtcStartTemperature).toInt16
  ntcStepTemperature := (mb regNtcStepTemperature).toInt16
  ntcTemperNumberStep := mb regNtcTemperNumberStep
  ntcAdcResolution := adcCounts
  ntcAdcMultipler := 1

------------------------------------------------------------
-- Register Limits
------------------------------------------------------------

/- The registers with a limit flag are within their limits. -/
def WithinLimits (mb : Registers) : Prop :=
  ∀ r, HasLimit r → limitCheck r (mb r) = .regOk

/- What the limits say about the calculation data. -/
theorem ioAdcInitData_bounds
    {mb : Registers}
    (hLimits : WithinLimits mb) :
    (-40 ≤ (ioAdcInitData mb).ntcStartTemperature.toInt ∧
        (ioAdcInitData mb).ntcStartTemperature.toInt ≤ 20) ∧
      (1 ≤ (ioAdcInitData mb).ntcStepTemperature.toInt ∧
        (ioAdcInitData mb).ntcStepTemperature.toInt ≤ 5) ∧
      (ioAdcInitData mb).ntcTemperNumberStep.toNat ≤
        sizeNtcTable := by
  have hStart :=
    (limitCheck_eq_regOk_iff_of_limSign (by decide) _).mp
      (hLimits regNtcStartTemperature (by decide))
  have hStep :=
    (limitCheck_eq_regOk_iff_of_limUnsign (by decide) _).mp
      (hLimits regNtcStepTemperature (by decide))
  have hNumber :=
    (limitCheck_eq_regOk_iff_of_limUnsign (by decide) _).mp
      (hLimits regNtcTemperNumberStep (by decide))
  refine ⟨⟨?_, ?_⟩, ?_, ?_⟩
  · exact Int16.toInt_monotone hStart.1
  · exact Int16.toInt_monotone hStart.2
  · have hLower := UInt16.le_iff_toNat_le.mp hStep.1
    have hUpper := UInt16.le_iff_toNat_le.mp hStep.2
    change 1 ≤ (mb regNtcStepTemperature).toNat at hLower
    change (mb regNtcStepTemperature).toNat ≤ 5 at hUpper
    have hValue :=
      (mb regNtcStepTemperature).toInt16.toInt_eq_toNat_toUInt16
    rw [UInt16.toUInt16_toInt16, Int.bmod_def] at hValue
    change
      1 ≤ (mb regNtcStepTemperature).toInt16.toInt ∧
        (mb regNtcStepTemperature).toInt16.toInt ≤ 5
    omega
  · exact UInt16.le_iff_toNat_le.mp hNumber.2

/- Within the limits the clamp changes nothing. -/
theorem clampNumberStep_of_le
    {ntcData : NtcCalculationData}
    (hNumber :
      ntcData.ntcTemperNumberStep.toNat ≤ sizeNtcTable) :
    clampNumberStep ntcData = ntcData := by
  apply if_neg
  rw [gt_iff_lt, UInt16.lt_iff_toNat_lt]
  exact not_lt.mpr hNumber

theorem doubleWord_eq_zero_iff
    (w1 w2 : UInt16) :
    (doubleWord w1 w2).toNat = 0 ↔ w1 = 0 ∧ w2 = 0 := by
  have hHigh := w2.toNat_lt
  have hShift :
      w2.toNat <<< 16 % 2 ^ 32 = w2.toNat * 2 ^ 16 := by
    rw [Nat.shiftLeft_eq]
    omega
  unfold doubleWord
  rw [UInt32.toNat_or, UInt32.toNat_shiftLeft,
    UInt16.toNat_toUInt32, UInt16.toNat_toUInt32]
  change w1.toNat ||| (w2.toNat <<< 16 % 2 ^ 32) = 0 ↔ _
  rw [hShift, Nat.or_eq_zero_iff, ← UInt16.toNat_inj,
    ← UInt16.toNat_inj]
  change
    w1.toNat = 0 ∧ w2.toNat * 2 ^ 16 = 0 ↔
      w1.toNat = 0 ∧ w2.toNat = 0
  omega

------------------------------------------------------------
-- Table Entries
------------------------------------------------------------

section Exact

variable {K : Type} [Field K] [LinearOrder K]
variable [IsStrictOrderedRing K]

/- No whole number of degrees Celsius is absolute zero. -/
theorem kelvin_ne_zero (n : Int) :
    (n : K) + 27315 / 100 ≠ 0 := by
  intro hZero
  have hScaled : ((100 * n + 27315 : Int) : K) = 0 := by
    push_cast
    linarith
  have hInteger : 100 * n + 27315 = 0 := by
    exact_mod_cast hScaled
  omega

variable [FloorSemiring K] {exp : K → K}

/-
  The stored quotient is a rounded share of the converter's
  range, so its conversion to `uint16_t` is in range.
-/
theorem toEntry_share_isSome
    {r d : K}
    (hResistance : 0 ≤ r)
    (hDivider : 0 ≤ d)
    (hTotal : 0 < r + d) :
    ∃ value,
      toEntry
          ((r * 1 * 4096 * 2 + r + d) / (2 * (r + d))) =
        some value := by
  have hWidth : 0 < 2 * (r + d) := by linarith
  refine ⟨_, if_pos ⟨?_, ?_⟩⟩
  · have hSign :
        0 ≤ (r * 1 * 4096 * 2 + r + d) / (2 * (r + d)) := by
      apply div_nonneg
      · linarith
      · exact hWidth.le
    linarith
  · rw [div_lt_iff₀ hWidth]
    linarith

/- The data that `io_adc_init` builds for any registers. -/
structure FromAdcInit (d : NtcCalculationData) : Prop where
  multipler : d.ntcAdcMultipler = 1
  resolution : d.ntcAdcResolution = adcCounts

theorem fromAdcInit_ioAdcInitData
    (mb : Registers) :
    FromAdcInit (ioAdcInitData mb) :=
  ⟨rfl, rfl⟩

/- The resistance of the sensor at a table index. -/
def sensorResistance
    (exp : K → K)
    (parametr : NtcCalculationData)
    (i : Nat) : K :=
  parametr.ntcR2.toNat *
    exp
      ((parametr.ntcB.toInt : K) /
          ((parametr.ntcStartTemperature.toInt : K) +
            i * (parametr.ntcStepTemperature.toInt : K) +
              27315 / 100) -
        (parametr.ntcB.toInt : K) /
          ((parametr.ntcT2.toInt : K) + 27315 / 100))

/- Both temperatures are divisors that are not zero. -/
theorem tableEntry_eq
    {parametr : NtcCalculationData}
    (hInit : FromAdcInit parametr)
    (i : Nat) :
    tableEntry exp parametr i =
      (checkedDiv
          (sensorResistance exp parametr i * 1 * 4096 * 2 +
            sensorResistance exp parametr i +
              parametr.ntcRDivider.toNat)
          (2 * (sensorResistance exp parametr i +
            parametr.ntcRDivider.toNat))).bind
        toEntry := by
  have hKelvin1 :
      ((parametr.ntcStartTemperature.toInt : K) +
          i * (parametr.ntcStepTemperature.toInt : K)) +
        27315 / 100 ≠ 0 := by
    have hInteger :=
      kelvin_ne_zero (K := K)
        (parametr.ntcStartTemperature.toInt +
          i * parametr.ntcStepTemperature.toInt)
    push_cast at hInteger
    exact hInteger
  have hKelvin2 :
      (parametr.ntcT2.toInt : K) + 27315 / 100 ≠ 0 :=
    kelvin_ne_zero _
  have hMultipler :
      (parametr.ntcAdcMultipler.toNat : K) = 1 := by
    rw [hInit.multipler]
    exact Nat.cast_one
  have hResolution :
      (parametr.ntcAdcResolution.toNat : K) = 4096 := by
    rw [hInit.resolution]
    change ((4096 : Nat) : K) = 4096
    norm_num
  simp only [tableEntry, Option.bind_eq_bind,
    checkedDiv_of_ne_zero hKelvin1,
    checkedDiv_of_ne_zero hKelvin2, Option.bind_some,
    hMultipler, hResolution, sensorResistance]

omit [FloorSemiring K] in
theorem sensorResistance_nonneg
    (hPositive : ∀ x, 0 < exp x)
    (parametr : NtcCalculationData)
    (i : Nat) :
    0 ≤ sensorResistance exp parametr i :=
  mul_nonneg (Nat.cast_nonneg _) (hPositive _).le

omit [FloorSemiring K] in
theorem sensorResistance_pos
    (hPositive : ∀ x, 0 < exp x)
    {parametr : NtcCalculationData}
    (hSensor : parametr.ntcR2.toNat ≠ 0)
    (i : Nat) :
    0 < sensorResistance exp parametr i :=
  mul_pos
    (Nat.cast_pos.mpr (Nat.pos_of_ne_zero hSensor))
    (hPositive _)

/-
  An entry is computed without a fault exactly when one of
  the two resistances is not zero.
-/
theorem tableEntry_isSome_iff
    (hPositive : ∀ x, 0 < exp x)
    {parametr : NtcCalculationData}
    (hInit : FromAdcInit parametr)
    (i : Nat) :
    (∃ value, tableEntry exp parametr i = some value) ↔
      parametr.ntcR2.toNat ≠ 0 ∨
        parametr.ntcRDivider.toNat ≠ 0 := by
  have hResistance :=
    sensorResistance_nonneg hPositive parametr i
  have hDivider : (0 : K) ≤ parametr.ntcRDivider.toNat :=
    Nat.cast_nonneg _
  rw [tableEntry_eq hInit]
  constructor
  · rintro ⟨value, hValue⟩
    by_contra hZero
    rcases not_or.mp hZero with ⟨hLeft, hRight⟩
    have hFault :
        2 * (sensorResistance exp parametr i +
          parametr.ntcRDivider.toNat) = 0 := by
      rw [sensorResistance, not_not.mp hLeft,
        not_not.mp hRight]
      simp
    simp [checkedDiv, hFault] at hValue
  · intro hNonzero
    have hTotal :
        0 < sensorResistance exp parametr i +
          parametr.ntcRDivider.toNat := by
      rcases hNonzero with hLeft | hRight
      · have hSensor := sensorResistance_pos hPositive hLeft i
        linarith
      · have hLower :
            (0 : K) < parametr.ntcRDivider.toNat := by
          exact_mod_cast Nat.pos_of_ne_zero hRight
        linarith
    rw [checkedDiv_of_ne_zero (by positivity),
      Option.bind_some]
    exact toEntry_share_isSome hResistance hDivider hTotal

/-
  The table is built without a fault exactly when there is
  no entry to compute or one of the resistances is not zero.
-/
theorem calculateTableNTC_isSome_iff
    (hPositive : ∀ x, 0 < exp x)
    (termoTable : Fin sizeNtcTable → UInt16)
    {ntcData : NtcCalculationData}
    (hInit : FromAdcInit ntcData)
    (hNumber :
      ntcData.ntcTemperNumberStep.toNat ≤ sizeNtcTable) :
    (∃ table,
        calculateTableNTC exp termoTable ntcData =
          some ⟨ntcData, table⟩) ↔
      ntcData.ntcTemperNumberStep.toNat = 0 ∨
        ntcData.ntcR2.toNat ≠ 0 ∨
          ntcData.ntcRDivider.toNat ≠ 0 := by
  unfold calculateTableNTC
  rw [clampNumberStep_of_le hNumber]
  constructor
  · rintro ⟨table, hBuild⟩
    rcases Option.bind_eq_some_iff.mp hBuild with
      ⟨table', hLoop, -⟩
    cases hSteps : ntcData.ntcTemperNumberStep.toNat with
    | zero => exact Or.inl rfl
    | succ steps =>
        right
        rw [hSteps, List.range_succ_eq_map] at hLoop
        rcases Option.bind_eq_some_iff.mp hLoop with
          ⟨first, hFirst, -⟩
        rcases Option.bind_eq_some_iff.mp hFirst with
          ⟨value, hValue, -⟩
        exact
          (tableEntry_isSome_iff hPositive hInit 0).mp
            ⟨value, hValue⟩
  · intro hCondition
    have hLoop :
        ∃ table,
          CheckedLoop.forEach
              (fun table i =>
                (tableEntry exp ntcData i).bind
                  (tableWrite table i))
              (List.range ntcData.ntcTemperNumberStep.toNat)
              termoTable =
            some table := by
      apply CheckedLoop.forEach_isSome
      intro table i hMember
      have hIndex := List.mem_range.mp hMember
      have hResistance :
          ntcData.ntcR2.toNat ≠ 0 ∨
            ntcData.ntcRDivider.toNat ≠ 0 := by
        rcases hCondition with hZero | hNonzero
        · omega
        · exact hNonzero
      rcases (tableEntry_isSome_iff hPositive hInit i).mpr
          hResistance with
        ⟨value, hValue⟩
      exact
        ⟨_, by
          rw [hValue, Option.bind_some, tableWrite,
            dif_pos (hIndex.trans_le hNumber)]⟩
    rcases hLoop with ⟨table, hLoop⟩
    exact ⟨table, by
      simp only [Option.bind_eq_bind, hLoop,
        Option.bind_some]⟩

------------------------------------------------------------
-- Safety of the Conversion
------------------------------------------------------------

/-
  The table is built without a fault, and every lookup reads
  entries below the number of steps only.
-/
def ConversionSafe
    (exp : K → K)
    (termoTable : Fin sizeNtcTable → UInt16)
    (mb : Registers) : Prop :=
  ∃ ntc,
    calculateTableNTC exp termoTable (ioAdcInitData mb) =
        some ntc ∧
      ∀ adcsum, ∃ t,
        calcTemperatureWith ntc.stepTableRead
          ntc.ntcParametr adcsum = some t

/- At least one table step, and one resistance not zero. -/
structure SensorConfigured (mb : Registers) : Prop where
  steps : mb regNtcTemperNumberStep ≠ 0
  resistance :
    mb regNtcR2ValueW1 ≠ 0 ∨ mb regNtcR2ValueW2 ≠ 0 ∨
      mb regNtcRDividerW1 ≠ 0 ∨ mb regNtcRDividerW2 ≠ 0

theorem resistance_iff
    (mb : Registers) :
    ((ioAdcInitData mb).ntcR2.toNat ≠ 0 ∨
        (ioAdcInitData mb).ntcRDivider.toNat ≠ 0) ↔
      (mb regNtcR2ValueW1 ≠ 0 ∨ mb regNtcR2ValueW2 ≠ 0 ∨
        mb regNtcRDividerW1 ≠ 0 ∨
          mb regNtcRDividerW2 ≠ 0) := by
  unfold ioAdcInitData
  simp only [ne_eq, doubleWord_eq_zero_iff]
  tauto

/-
  A configured sensor within the limits gets a calibration:
  the lookup results apply to it.
-/
theorem exists_calibration
    (hPositive : ∀ x, 0 < exp x)
    (termoTable : Fin sizeNtcTable → UInt16)
    {mb : Registers}
    (hLimits : WithinLimits mb)
    (hConfigured : SensorConfigured mb) :
    ∃ cal : Calibration,
      calculateTableNTC exp termoTable (ioAdcInitData mb) =
          some cal.toNtcState ∧
        cal.ntcParametr = ioAdcInitData mb := by
  rcases ioAdcInitData_bounds hLimits with
    ⟨hStart, hStep, hNumber⟩
  have hSteps :
      1 ≤ (ioAdcInitData mb).ntcTemperNumberStep.toNat := by
    apply Nat.one_le_iff_ne_zero.mpr
    intro hZero
    exact hConfigured.steps (UInt16.toNat_inj.mp hZero)
  rcases (calculateTableNTC_isSome_iff hPositive termoTable
      (fromAdcInit_ioAdcInitData mb) hNumber).mpr
      (Or.inr ((resistance_iff mb).mpr
        hConfigured.resistance)) with
    ⟨table, hBuild⟩
  exact
    ⟨{ ntcParametr := ioAdcInitData mb
       termoTable := table
       startLower := hStart.1
       startUpper := hStart.2
       stepLower := hStep.1
       stepUpper := hStep.2
       numberLower := hSteps
       numberUpper := hNumber },
      hBuild, rfl⟩

/- Without a table step every lookup reads out of bounds. -/
theorem calcTemperatureWith_of_no_steps
    {ntc : NtcState}
    (hSteps : ntc.ntcParametr.ntcTemperNumberStep = 0)
    (adcsum : UInt16) :
    calcTemperatureWith ntc.stepTableRead ntc.ntcParametr
      adcsum = none := by
  have hRefused : ∀ i, ntc.stepTableRead i = none := by
    intro i
    unfold NtcState.stepTableRead
    rw [hSteps]
    exact if_neg (Nat.not_lt_zero i)
  simp [calcTemperatureWith, hRefused]

theorem conversionSafe_iff
    (hPositive : ∀ x, 0 < exp x)
    (termoTable : Fin sizeNtcTable → UInt16)
    {mb : Registers}
    (hLimits : WithinLimits mb) :
    ConversionSafe exp termoTable mb ↔
      SensorConfigured mb := by
  have hNumber := (ioAdcInitData_bounds hLimits).2.2
  constructor
  · rintro ⟨ntc, hBuild, hLookups⟩
    have hParametr : ntc.ntcParametr = ioAdcInitData mb := by
      rcases Option.bind_eq_some_iff.mp hBuild with
        ⟨table, -, hState⟩
      rw [← Option.some.inj hState,
        clampNumberStep_of_le hNumber]
    have hSteps : mb regNtcTemperNumberStep ≠ 0 := by
      intro hZero
      rcases hLookups 0 with ⟨t, hResult⟩
      rw [calcTemperatureWith_of_no_steps
        (by rw [hParametr]; exact hZero)] at hResult
      cases hResult
    refine ⟨hSteps, ?_⟩
    rw [← resistance_iff]
    have hBuild' :
        ∃ table,
          calculateTableNTC exp termoTable
              (ioAdcInitData mb) =
            some ⟨ioAdcInitData mb, table⟩ := by
      refine ⟨ntc.termoTable, ?_⟩
      rw [hBuild, ← hParametr]
    rcases (calculateTableNTC_isSome_iff hPositive termoTable
        (fromAdcInit_ioAdcInitData mb) hNumber).mp hBuild' with
      hZero | hResistance
    · exact absurd (UInt16.toNat_inj.mp hZero) hSteps
    · exact hResistance
  · intro hConfigured
    rcases exists_calibration hPositive termoTable hLimits
        hConfigured with
      ⟨cal, hBuild, -⟩
    refine ⟨cal.toNtcState, hBuild, ?_⟩
    intro adcsum
    have hReads :=
      fun i hIndex => cal.stepTableRead_of_le (i := i) hIndex
    rcases calcTemperatureWith_spec cal hReads adcsum with
      ⟨t, hResult, -⟩
    exact ⟨t, hResult⟩

/-
  After a boot on any store content, the conversion is safe
  exactly when there is a table step and not all four words
  of the two resistances are zero.
-/
theorem mhBufInit_conversionSafe_iff
    (hPositive : ∀ x, 0 < exp x)
    (termoTable : Fin sizeNtcTable → UInt16)
    (m : Memory) :
    ConversionSafe exp termoTable (mhBufInit m).mbBufMain ↔
      SensorConfigured (mhBufInit m).mbBufMain :=
  conversionSafe_iff hPositive termoTable
    (mhBufInit_repaired m).limits

end Exact

/- The factory configuration is safe. -/
theorem emptyStore_conversionSafe :
    ConversionSafe Real.exp (fun _ => 0)
      (mhBufInit ⟨fun _ => 0, fun _ => none⟩).mbBufMain := by
  have hDefaults :=
    mhBufInit_rewritten ⟨fun _ => 0, fun _ => none⟩
  apply
    (mhBufInit_conversionSafe_iff Real.exp_pos
      (fun _ => 0) _).mpr
  constructor
  · rw [hDefaults.mbBufMain_eq (by decide)]
    decide
  · left
    rw [hDefaults.mbBufMain_eq (by decide)]
    decide

/-
  Boot admits a stored number of steps of zero, and stored
  resistances of zero.
-/
theorem zeroStore_not_conversionSafe :
    ¬ ConversionSafe Real.exp (fun _ => 0)
        (mhBufInit ⟨fun _ => 0, fun addrId =>
          if addrId = 98 then some 0 else none⟩).mbBufMain ∧
      ¬ ConversionSafe Real.exp (fun _ => 0)
        (mhBufInit ⟨fun _ => 0, fun addrId =>
          if 90 ≤ addrId ∧ addrId ≤ 93 then some 0
          else none⟩).mbBufMain := by
  constructor
  · have hStored :=
      mhBufInit_rewritten ⟨fun _ => 0, fun addrId =>
        if addrId = 98 then some 0 else none⟩
    rw [conversionSafe_iff Real.exp_pos (fun _ => 0)
      (mhBufInit_repaired _).limits]
    intro hConfigured
    apply hConfigured.steps
    rw [hStored.mbBufMain_eq (by decide)]
    decide
  · have hStored :=
      mhBufInit_rewritten ⟨fun _ => 0, fun addrId =>
        if 90 ≤ addrId ∧ addrId ≤ 93 then some 0 else none⟩
    rw [conversionSafe_iff Real.exp_pos (fun _ => 0)
      (mhBufInit_repaired _).limits]
    intro hConfigured
    rcases hConfigured.resistance with
      hWord | hWord | hWord | hWord
    all_goals
      apply hWord
      rw [hStored.mbBufMain_eq (by decide)]
      decide

end TemperatureSensor
