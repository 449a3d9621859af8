import TemperatureSensor.Measure.Reading

/-
  The attribute value that `com_task` makes of a measurement
  result, and when it decodes back.

  Main declarations:
    * `valueTemp`
    * `PublishedFaithfully`
    * `publishedFaithfully_iff`
    * `valueTemp_faithful_iff`
-/

------------------------------------------------------------
-- The Published Value
------------------------------------------------------------

namespace TemperatureSensor

/- `value_temp` of `com_task`. -/
def valueTemp (adcValueT : UInt16) : Int16 :=
  if adcValueT &&& temperatureErrorMask ≠
      temperatureErrorLabel then
    Int16.ofInt (adcValueT.toNat * 100)
  else
    adcValueT.toInt16

/-
  A temperature is published as its hundredfold, without an
  error label; a fault code is published unchanged.
-/
structure PublishedFaithfully (t : Int16) : Prop where
  ordinary :
    IsOrdinary t →
      (valueTemp t.toUInt16).toInt = 100 * t.toInt ∧
        ¬ HasErrorLabel (valueTemp t.toUInt16).toUInt16
  fault : ¬ IsOrdinary t → valueTemp t.toUInt16 = t

------------------------------------------------------------
-- Hundredfolds
------------------------------------------------------------

/- A temperature is published as its wrapped hundredfold. -/
theorem valueTemp_of_toInt_lt
    {t : Int16}
    (hUpper : t.toInt < 0x7000) :
    valueTemp t.toUInt16 = Int16.ofInt (100 * t.toInt) := by
  have hLabel :
      t.toUInt16 &&& temperatureErrorMask ≠
        temperatureErrorLabel := by
    change ¬ HasErrorLabel t.toUInt16
    rw [hasErrorLabel_toUInt16_iff]
    omega
  unfold valueTemp
  rw [if_pos hLabel]
  rcases lt_or_ge t.toInt 0 with hNegative | hNonneg
  · rw [Int16.toNat_toUInt16_of_neg hNegative]
    apply Int16.toInt_inj.mp
    rw [Int16.toInt_ofInt, Int16.toInt_ofInt]
    have hWrap :
        (t.toInt + 65536) * 100 =
          100 * t.toInt + 100 * 65536 := by
      ring
    rw [hWrap]
    rw [← Int.emod_bmod, ← Int.emod_bmod (100 * t.toInt)]
    congr 1
    change
      (100 * t.toInt + 100 * 65536) % 65536 =
        100 * t.toInt % 65536
    omega
  · rw [Int16.toNat_toUInt16_of_nonneg hNonneg, mul_comm]

/- The fault codes carry the label, so they pass through. -/
theorem valueTemp_of_not_isOrdinary
    {t : Int16}
    (hFault : ¬ IsOrdinary t) :
    valueTemp t.toUInt16 = t := by
  have hCode : t = temperatureUnder ∨ t = temperatureOver := by
    by_contra hOther
    exact hFault (not_or.mp hOther)
  rcases hCode with hUnder | hOver
  · rw [hUnder]
    decide
  · rw [hOver]
    decide

/-
  On the temperature scale, exactly the temperatures up to
  286 degrees decode back.
-/
theorem publishedFaithfully_iff
    {t : Int16}
    (hLower : -40 ≤ t.toInt)
    (hUpper : t.toInt ≤ 845) :
    PublishedFaithfully t ↔ t.toInt ≤ 286 := by
  have hOrdinary := isOrdinary_of_toInt_le hUpper
  have hValue := valueTemp_of_toInt_lt (t := t) (by omega)
  constructor
  · intro hFaithful
    rcases hFaithful.ordinary hOrdinary with
      ⟨hHundredfold, hLabel⟩
    rw [hasErrorLabel_toUInt16_iff, hHundredfold] at hLabel
    omega
  · intro hBound
    have hHundredfold :
        (valueTemp t.toUInt16).toInt = 100 * t.toInt := by
      rw [hValue]
      apply Int16.toInt_ofInt_of_mem
      · omega
      · omega
    refine ⟨fun _ => ⟨hHundredfold, ?_⟩, ?_⟩
    · rw [hasErrorLabel_toUInt16_iff, hHundredfold]
      omega
    · intro hFault
      exact absurd hOrdinary hFault

/- Faithfully published results are told apart. -/
theorem PublishedFaithfully.eq_of_valueTemp_eq
    {s t : Int16}
    (hLeft : PublishedFaithfully s)
    (hRight : PublishedFaithfully t)
    (hValue : valueTemp s.toUInt16 = valueTemp t.toUInt16) :
    s = t := by
  have hLabelled :
      ∀ u : Int16, ¬ IsOrdinary u →
        HasErrorLabel (valueTemp u.toUInt16).toUInt16 := by
    intro u hFault
    rw [valueTemp_of_not_isOrdinary hFault]
    by_contra hLabel
    apply hFault
    constructor
    · rintro rfl
      exact hLabel (by unfold HasErrorLabel; decide)
    · rintro rfl
      exact hLabel (by unfold HasErrorLabel; decide)
  by_cases hLeftKind : IsOrdinary s
  · have hLeftValue := hLeft.ordinary hLeftKind
    by_cases hRightKind : IsOrdinary t
    · have hRightValue := hRight.ordinary hRightKind
      rw [hValue] at hLeftValue
      apply Int16.toInt_inj.mp
      omega
    · rw [hValue] at hLeftValue
      exact absurd (hLabelled t hRightKind) hLeftValue.2
  · by_cases hRightKind : IsOrdinary t
    · have hRightValue := hRight.ordinary hRightKind
      rw [← hValue] at hRightValue
      exact absurd (hLabelled s hLeftKind) hRightValue.2
    · rw [← hLeft.fault hLeftKind, hValue,
        hRight.fault hRightKind]

------------------------------------------------------------
-- Configurations
------------------------------------------------------------

/- The last table temperature is the result of an input. -/
theorem exists_calcTemperature_last
    (cal : Calibration) :
    ∃ adc t,
      calcTemperature cal.toNtcState adc = some t ∧
        t.toInt = cal.start + cal.last * cal.step := by
  rcases cal.temperatureTableRead_eq_some cal.last_lt with
    ⟨adc, -, hEntry⟩
  rcases calcTemperatureWith_spec cal (fun _ _ => rfl) adc
    with ⟨t, hResult, hLookup⟩
  refine ⟨adc, t, hResult, ?_⟩
  rw [hEntry] at hLookup
  cases hLookup with
  | overRange hBelow => exact absurd hBelow (lt_irrefl _)
  | underRange hAboveLast _ =>
      exact absurd hAboveLast (lt_irrefl _)
  | last _ hValue => exact hValue
  | first hAboveLast _ _ =>
      exact absurd hAboveLast (lt_irrefl _)
  | segment l hAboveLast _ _ _ _ _ =>
      exact absurd hAboveLast (lt_irrefl _)

/-
  For every admitted configuration and every table: all
  results decode back, and different results stay different,
  exactly when the last table temperature is at most 286
  degrees.
-/
theorem valueTemp_faithful_iff
    (cal : Calibration) :
    (∀ adc t,
        calcTemperature cal.toNtcState adc = some t →
          PublishedFaithfully t) ∧
      (∀ adc adc' t t',
        calcTemperature cal.toNtcState adc = some t →
          calcTemperature cal.toNtcState adc' = some t' →
            t ≠ t' →
              valueTemp t.toUInt16 ≠ valueTemp t'.toUInt16) ↔
      cal.start + cal.last * cal.step ≤ 286 := by
  have hRange := cal.range_bounds
  constructor
  · rintro ⟨hFaithful, -⟩
    rcases exists_calcTemperature_last cal with
      ⟨adc, t, hResult, hLast⟩
    have hPublished := hFaithful adc t hResult
    have hLowest :=
      (cal.degrees_mem (i := cal.last) le_rfl).1
    unfold Calibration.degrees at hLowest
    rw [publishedFaithfully_iff (by omega) (by omega)]
      at hPublished
    omega
  · intro hBound
    have hAll :
        ∀ adc t,
          calcTemperature cal.toNtcState adc = some t →
            PublishedFaithfully t := by
      intro adc t hResult
      rcases calcTemperatureWith_spec cal (fun _ _ => rfl) adc
        with ⟨t', hResult', hLookup⟩
      have hSame : t = t' :=
        Option.some.inj (hResult.symm.trans hResult')
      subst hSame
      by_cases hKind : IsOrdinary t
      · rcases hLookup.toInt_mem_or_fault with
          hOver | hUnder | hScale
        · exact absurd hOver hKind.2
        · exact absurd hUnder hKind.1
        · rw [publishedFaithfully_iff (by omega) (by omega)]
          omega
      · exact
          ⟨fun hOrdinary => absurd hOrdinary hKind,
            fun _ => valueTemp_of_not_isOrdinary hKind⟩
    refine ⟨hAll, ?_⟩
    intro adc adc' t t' hResult hResult' hDifferent hValue
    exact hDifferent
      ((hAll adc t hResult).eq_of_valueTemp_eq
        (hAll adc' t' hResult') hValue)

/- The hottest configuration that the limits admit. -/
def hottestCalibration : Calibration where
  ntcParametr := {
    ntcR2 := 50000
    ntcB := 3950
    ntcT2 := 25
    ntcRDivider := 20000
    ntcStartTemperature := 20
    ntcStepTemperature := 5
    ntcTemperNumberStep := UInt16.ofNat sizeNtcTable
    ntcAdcResolution := adcCounts
    ntcAdcMultipler := 1 }
  termoTable := fun _ => 1000
  startLower := by decide
  startUpper := by decide
  stepLower := by decide
  stepUpper := by decide
  numberLower := by decide
  numberUpper := by decide

/- There 845 degrees are published as 189.64 degrees. -/
theorem hottest_not_publishedFaithfully :
    calcTemperature hottestCalibration.toNtcState 1000 =
        some 845 ∧
      valueTemp (845 : Int16).toUInt16 = 18964 ∧
        ¬ PublishedFaithfully 845 := by
  refine ⟨by decide +kernel, by decide, ?_⟩
  rw [publishedFaithfully_iff (by decide) (by decide)]
  decide

end TemperatureSensor
