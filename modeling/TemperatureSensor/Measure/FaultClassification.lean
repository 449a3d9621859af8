import TemperatureSensor.Measure.Reading
import TemperatureSensor.Measure.Adc

/-
  The sensor-fault codes against the signed filter value.
  The conversion to `uint16_t` at the call of
  `calc_temperature` moves negative values above the table.

  Main declarations:
    * `FaultClassified`
    * `Lookup.faultClassified_iff`
    * `ioAdcTask_faultClassified_iff`
-/

------------------------------------------------------------
-- Classification of a Signed Value
------------------------------------------------------------

namespace TemperatureSensor

/-
  A value below the table is reported as over temperature,
  one above it as under temperature, any other as a
  temperature.
-/
structure FaultClassified
    (cal : MonotoneCalibration)
    (v t : Int16) : Prop where
  below : v.toInt < cal.entry cal.last → t = temperatureOver
  above : cal.entry 0 < v.toInt → t = temperatureUnder
  inside :
    cal.entry cal.last ≤ v.toInt → v.toInt ≤ cal.entry 0 →
      IsOrdinary t

/-
  Only a negative value can be classified wrongly, and it is
  unless it still lies below the table after the wrap.
-/
theorem Lookup.faultClassified_iff
    {cal : MonotoneCalibration}
    {v t : Int16}
    (hLookup : Lookup cal.toCalibration v.toUInt16.toNat t) :
    FaultClassified cal v t ↔
      0 ≤ v.toInt ∨ v.toInt + 65536 < cal.entry cal.last := by
  have hOrder := cal.entry_last_le_entry_zero
  have hSign := cal.entry_nonneg cal.last
  by_cases hNonneg : 0 ≤ v.toInt
  · have hValue := Int16.toNat_toUInt16_of_nonneg hNonneg
    rw [hValue] at hLookup
    refine iff_of_true ⟨?_, ?_, ?_⟩ (Or.inl hNonneg)
    · exact hLookup.eq_over_of_lt
    · exact hLookup.eq_under_of_gt
    · exact hLookup.isOrdinary_of_mem
  · have hNegative : v.toInt < 0 := by omega
    have hValue := Int16.toNat_toUInt16_of_neg hNegative
    rw [hValue] at hLookup
    constructor
    · intro hClassified
      have hOver := hClassified.below (by omega)
      subst hOver
      by_contra hWrapped
      rcases lt_or_ge (cal.entry 0) (v.toInt + 65536) with
        hAbove | hInside
      · have hUnder := hLookup.eq_under_of_gt hAbove
        exact absurd hUnder (by decide)
      · have hOrdinary :=
          hLookup.isOrdinary_of_mem (by omega) hInside
        exact hOrdinary.2 rfl
    · intro hWrapped
      have hBelow : v.toInt + 65536 < cal.entry cal.last := by
        omega
      exact
        { below := fun _ => hLookup.eq_over_of_lt hBelow
          above := fun hAbove => by omega
          inside := fun hInside _ => by omega }

------------------------------------------------------------
-- Iterations of a Run
------------------------------------------------------------

variable {C : Nat}

/- The filter update of the iteration after `earlier`. -/
def nextUpdate :
    List (SampleBuffer C) → Int16 → Int16 → Int16
| [] => filterStart
| _ :: _ => filterStep

/-
  Four times the filter value of the iteration after
  `earlier`, before it is rounded down: the median itself
  in the first iteration, `F*3 + ADC_Val` in every later one.
-/
def nextSum :
    List (SampleBuffer C) → Int16 → Int16 → Int
| [], _, adcVal => 4 * adcVal.toInt
| _ :: _, f, adcVal => f.toInt * 3 + adcVal.toInt

theorem toInt_nextUpdate
    (earlier : List (SampleBuffer C))
    (f adcVal : Int16) :
    (nextUpdate earlier f adcVal).toInt =
      nextSum earlier f adcVal / 4 := by
  cases earlier with
  | nil =>
      simp [nextUpdate, nextSum, filterStart]
  | cons _ _ =>
      exact toInt_filterStep f adcVal

theorem sampleLoop_append
    {channelSeq : ChannelSeq C}
    {ntc : NtcState}
    (earlier later : List (SampleBuffer C))
    (s : AdcState C) :
    sampleLoop channelSeq ntc
        ((earlier ++ later).map some) s =
      (sampleLoop channelSeq ntc (earlier.map some) s).bind
        (sampleLoop channelSeq ntc (later.map some)) := by
  induction earlier generalizing s with
  | nil => rfl
  | cons sampleBuffer earlier ih =>
      simp only [List.cons_append, List.map_cons, sampleLoop,
        Option.bind_assoc]
      congr 1
      funext u
      exact ih u

/- A run ends with the pass of its last iteration. -/
theorem ioAdcTask_concat
    {channelSeq : ChannelSeq C}
    {ntc : NtcState}
    (earlier : List (SampleBuffer C))
    (sampleBuffer : SampleBuffer C)
    (s : AdcState C) :
    ioAdcTask channelSeq ntc
        ((earlier ++ [sampleBuffer]).map some) s =
      (ioAdcTask channelSeq ntc (earlier.map some) s).bind
        (channelPass (nextUpdate earlier) channelSeq ntc
          sampleBuffer) := by
  have hLast :
      sampleLoop channelSeq ntc ([sampleBuffer].map some) =
        channelPass filterStep channelSeq ntc
          sampleBuffer := by
    funext u
    simp [sampleLoop]
  cases earlier with
  | nil =>
      simp [ioAdcTask, sampleLoop, nextUpdate]
  | cons first earlier =>
      simp only [List.cons_append, List.map_cons, ioAdcTask,
        Option.bind_assoc]
      congr 1
      funext u
      rw [sampleLoop_append, hLast]
      rfl

/-
  Each iteration of each run classifies its filter value
  exactly when the sum it shifts is not negative, or so far
  below zero that it wraps to a value below the table.
-/
theorem ioAdcTask_faultClassified_iff
    (channelSeq : ChannelSeq C)
    (cal : MonotoneCalibration)
    (earlier : List (SampleBuffer C))
    (sampleBuffer : SampleBuffer C)
    {init s' : AdcState C}
    (hRun :
      ioAdcTask channelSeq cal.toNtcState
          ((earlier ++ [sampleBuffer]).map some) init =
        some s')
    (i : Fin C) :
    ∃ s adcVal,
      ioAdcTask channelSeq cal.toNtcState
          (earlier.map some) init = some s ∧
        ioGetADCval sampleBuffer (Int16.ofNat i) =
            some adcVal ∧
          (FaultClassified cal (s'.adcFilterValue i)
              (s'.adcValueT i).toInt16 ↔
            0 ≤ nextSum earlier (s.adcFilterValue i) adcVal ∨
              nextSum earlier (s.adcFilterValue i) adcVal <
                4 * (cal.entry cal.last - 65536)) := by
  rw [ioAdcTask_concat] at hRun
  rcases Option.bind_eq_some_iff.mp hRun with
    ⟨s, hEarlier, hPass⟩
  rcases channelPass_eq_some hPass i with
    ⟨adcVal, hMedian, hFilter, hTemperature⟩
  have hLookup :=
    lookup_of_calcTemperature cal.toCalibration hTemperature
  refine ⟨s, adcVal, hEarlier, hMedian, ?_⟩
  have hSum :
      (s'.adcFilterValue i).toInt =
        nextSum earlier (s.adcFilterValue i) adcVal / 4 := by
    rw [hFilter]
    exact toInt_nextUpdate earlier _ adcVal
  rw [hLookup.faultClassified_iff, hSum]
  omega

/- A later iteration of one channel, with a negative sum. -/
theorem twoStep_run_faultClassified_iff :
    ∃ s s' : AdcState 1, ∃ adcVal,
      ioAdcTask (fun _ => 0) twoStepCalibration.toNtcState
          [some fun _ => 2000] adcStateZero = some s ∧
        ioGetADCval (C := 1) (fun _ => -32768) 0 =
            some adcVal ∧
          (FaultClassified twoStepCalibration
              (s'.adcFilterValue 0)
              (s'.adcValueT 0).toInt16 ↔
            0 ≤ (s.adcFilterValue 0).toInt * 3 +
                adcVal.toInt ∨
              (s.adcFilterValue 0).toInt * 3 + adcVal.toInt <
                4 * (twoStepCalibration.entry
                  twoStepCalibration.last - 65536)) := by
  rcases ioAdcTask_isSome (fun _ : Fin 1 => 0)
      twoStepCalibration.toCalibration (by decide) (by decide)
      [some fun _ => 2000, some fun _ => -32768]
      adcStateZero with
    ⟨s', hRun⟩
  rcases ioAdcTask_faultClassified_iff (fun _ : Fin 1 => 0)
      twoStepCalibration [fun _ => 2000] (fun _ => -32768)
      hRun 0 with
    ⟨s, adcVal, hEarlier, hMedian, hIff⟩
  exact ⟨s, s', adcVal, hEarlier, hMedian, hIff⟩

/-
  Samples of -1 lie below the table but are stored as
  `TEMPERATURE_UNDER`.
-/
theorem negative_run_not_faultClassified :
    ∃ s' : AdcState 1,
      ioAdcTask (fun _ => 0) twoStepCalibration.toNtcState
          [some fun _ => -1] adcStateZero = some s' ∧
        s'.adcFilterValue 0 = -1 ∧
          s'.adcValueT 0 = temperatureUnder.toUInt16 ∧
            ¬ FaultClassified twoStepCalibration
              (s'.adcFilterValue 0)
              (s'.adcValueT 0).toInt16 := by
  have hValues :
      (ioAdcTask (fun _ : Fin 1 => 0)
          twoStepCalibration.toNtcState
          [some fun _ => -1] adcStateZero).map
          (fun s => (s.adcFilterValue 0, s.adcValueT 0)) =
        some (-1, temperatureUnder.toUInt16) := by
    decide +kernel
  rcases Option.map_eq_some_iff.mp hValues with
    ⟨s', hRun, hPair⟩
  have hFilter : s'.adcFilterValue 0 = -1 :=
    congrArg Prod.fst hPair
  have hResult :
      s'.adcValueT 0 = temperatureUnder.toUInt16 :=
    congrArg Prod.snd hPair
  refine ⟨s', hRun, hFilter, hResult, ?_⟩
  rw [hFilter, hResult]
  intro hClassified
  have hOver := hClassified.below (by decide)
  exact absurd hOver (by decide)

end TemperatureSensor
