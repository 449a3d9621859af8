import TemperatureSensor.Foundations.FloorAverage
import TemperatureSensor.Measure.FaultClassification
import TemperatureSensor.Measure.MedianOfNine

/-
  The filter of `io_adc_task` over whole runs: its value is
  the fold of the medians of its channel. It stays within
  their range, and a constant input settles it.

  Main declarations:
    * `ioAdcTask_filter`
    * `ioAdcTask_filterWithinMedians`
    * `sampleLoop_settles`
-/

------------------------------------------------------------
-- Runs as Folds
------------------------------------------------------------

namespace TemperatureSensor

variable {C : Nat}

/- A pass filters the median of every channel. -/
theorem channelPass_filter
    {update : Int16 → Int16 → Int16}
    {channelSeq : ChannelSeq C}
    {ntc : NtcState}
    {sampleBuffer : SampleBuffer C}
    {s s' : AdcState C}
    (hPass :
      channelPass update channelSeq ntc sampleBuffer s =
        some s')
    (i : Fin C) :
    ioGetADCval sampleBuffer (Int16.ofNat i) =
        some (channelMedian i sampleBuffer) ∧
      s'.adcFilterValue i =
        update (s.adcFilterValue i)
          (channelMedian i sampleBuffer) := by
  have hMedians :
      ∀ j : Fin C, ∃ adcVal,
        ioGetADCval sampleBuffer (Int16.ofNat j) =
          some adcVal := by
    intro j
    rcases channelPass_eq_some hPass j with
      ⟨adcVal, hMedian, -⟩
    exact ⟨adcVal, hMedian⟩
  have hMedian :
      ioGetADCval sampleBuffer (Int16.ofNat i) =
        some (channelMedian i sampleBuffer) :=
    ioGetADCval_eq sampleBuffer (channels_fit hMedians i)
  rcases channelPass_eq_some hPass i with
    ⟨adcVal, hValue, hFilter, -⟩
  rw [hMedian, Option.some.injEq] at hValue
  rw [← hValue] at hFilter
  exact ⟨hMedian, hFilter⟩

/- What the medians of a channel are in a run. -/
def MediansReturned
    (i : Fin C)
    (reads : List (SampleBuffer C)) : Prop :=
  ∀ sampleBuffer ∈ reads,
    ioGetADCval sampleBuffer (Int16.ofNat i) =
      some (channelMedian i sampleBuffer)

theorem sampleLoop_filter
    {channelSeq : ChannelSeq C}
    {ntc : NtcState}
    {reads : List (SampleBuffer C)}
    {s s' : AdcState C}
    (hRun :
      sampleLoop channelSeq ntc (reads.map some) s = some s')
    (i : Fin C) :
    MediansReturned i reads ∧
      s'.adcFilterValue i =
        (reads.map (channelMedian i)).foldl filterStep
          (s.adcFilterValue i) := by
  induction reads generalizing s with
  | nil =>
      cases hRun
      exact ⟨by simp [MediansReturned], rfl⟩
  | cons sampleBuffer reads ih =>
      rcases Option.bind_eq_some_iff.mp hRun with
        ⟨u, hPass, hRest⟩
      rcases channelPass_filter hPass i with
        ⟨hMedian, hFilter⟩
      rcases ih hRest with ⟨hMedians, hFold⟩
      constructor
      · exact List.forall_mem_cons.mpr ⟨hMedian, hMedians⟩
      · rw [List.map_cons, List.foldl_cons, ← hFilter]
        exact hFold

/- The first median starts the fold of a run. -/
theorem ioAdcTask_filter
    {channelSeq : ChannelSeq C}
    {ntc : NtcState}
    {first : SampleBuffer C}
    {reads : List (SampleBuffer C)}
    {init s' : AdcState C}
    (hRun :
      ioAdcTask channelSeq ntc ((first :: reads).map some)
        init = some s')
    (i : Fin C) :
    MediansReturned i (first :: reads) ∧
      s'.adcFilterValue i =
        (reads.map (channelMedian i)).foldl filterStep
          (channelMedian i first) := by
  rcases Option.bind_eq_some_iff.mp hRun with
    ⟨u, hPass, hRest⟩
  rcases channelPass_filter hPass i with ⟨hMedian, hFilter⟩
  rcases sampleLoop_filter hRest i with ⟨hMedians, hFold⟩
  constructor
  · exact List.forall_mem_cons.mpr ⟨hMedian, hMedians⟩
  · rw [hFold, hFilter, filterStart]

------------------------------------------------------------
-- Range of the Filter
------------------------------------------------------------

/- The filter step is the floor average of weight four. -/
theorem toInt_filterStep_eq_average
    (f adcVal : Int16) :
    (filterStep f adcVal).toInt =
      FloorAverage.average 4 f.toInt adcVal.toInt := by
  have hSum :
      f.toInt * 3 + adcVal.toInt =
        (4 - 1) * f.toInt + adcVal.toInt := by
    ring
  rw [toInt_filterStep, hSum]
  rfl

theorem le_filterStep
    {low f adcVal : Int16}
    (hFilter : low ≤ f)
    (hMedian : low ≤ adcVal) :
    low ≤ filterStep f adcVal := by
  rw [Int16.le_iff_toInt_le, toInt_filterStep_eq_average]
  exact
    FloorAverage.le_average (by omega)
      (Int16.toInt_monotone hFilter)
      (Int16.toInt_monotone hMedian)

theorem filterStep_le
    {high f adcVal : Int16}
    (hFilter : f ≤ high)
    (hMedian : adcVal ≤ high) :
    filterStep f adcVal ≤ high := by
  rw [Int16.le_iff_toInt_le, toInt_filterStep_eq_average]
  exact
    FloorAverage.average_le (by omega)
      (Int16.toInt_monotone hFilter)
      (Int16.toInt_monotone hMedian)

/-
  Every median lies between two samples of its channel, and
  the filter value between two of the medians.
-/
structure FilterWithinMedians
    (i : Fin C)
    (reads : List (SampleBuffer C))
    (f : Int16) : Prop where
  medians :
    ∀ sampleBuffer ∈ reads, ∃ adcVal,
      ioGetADCval sampleBuffer (Int16.ofNat i) =
          some adcVal ∧
        (∃ k, channelSamples sampleBuffer i k ≤ adcVal) ∧
          ∃ k, adcVal ≤ channelSamples sampleBuffer i k
  least :
    ∃ sampleBuffer ∈ reads, ∃ adcVal,
      ioGetADCval sampleBuffer (Int16.ofNat i) =
          some adcVal ∧
        adcVal ≤ f
  greatest :
    ∃ sampleBuffer ∈ reads, ∃ adcVal,
      ioGetADCval sampleBuffer (Int16.ofNat i) =
          some adcVal ∧
        f ≤ adcVal

theorem filterWithinMedians_of_foldl
    {i : Fin C}
    {first : SampleBuffer C}
    {reads : List (SampleBuffer C)}
    (hMedians : MediansReturned i (first :: reads)) :
    FilterWithinMedians i (first :: reads)
      ((reads.map (channelMedian i)).foldl filterStep
        (channelMedian i first)) := by
  constructor
  · intro sampleBuffer hMember
    rcases ComparatorNetwork.exists_run_eq medianNetwork
        (channelSamples sampleBuffer i) 4 with
      ⟨k, hSample⟩
    exact
      ⟨_, hMedians sampleBuffer hMember, ⟨k, hSample.ge⟩,
        ⟨k, hSample.le⟩⟩
  · rcases FloorAverage.exists_le_foldl
        (fun _ _ _ hFilter hMedian =>
          le_filterStep hFilter hMedian)
        (reads.map (channelMedian i))
        (channelMedian i first) with
      ⟨low, hMember, hLow⟩
    rw [← List.map_cons] at hMember
    rcases List.mem_map.mp hMember with
      ⟨sampleBuffer, hRead, rfl⟩
    exact
      ⟨sampleBuffer, hRead, _, hMedians sampleBuffer hRead,
        hLow⟩
  · rcases FloorAverage.exists_foldl_le
        (fun _ _ _ hFilter hMedian =>
          filterStep_le hFilter hMedian)
        (reads.map (channelMedian i))
        (channelMedian i first) with
      ⟨high, hMember, hHigh⟩
    rw [← List.map_cons] at hMember
    rcases List.mem_map.mp hMember with
      ⟨sampleBuffer, hRead, rfl⟩
    exact
      ⟨sampleBuffer, hRead, _, hMedians sampleBuffer hRead,
        hHigh⟩

/-
  In every run the filter value stays within the medians of
  its channel, no filter step loses anything in the narrowing
  store, and runs that agree on the samples of the channel
  agree on its filter value. The run exists as long as the
  sample indices fit `addr` and the channels have registers.
-/
theorem ioAdcTask_filterWithinMedians
    (channelSeq : ChannelSeq C)
    (ntc : NtcState)
    {reads : List (SampleBuffer C)}
    (hIterations : reads ≠ [])
    (init : AdcState C) :
    (∀ cal : Calibration, ntc = cal.toNtcState →
        C * numberAdcMeasurements ≤ 32768 →
          (∀ i, channelRegister channelSeq i < numBuf) →
            ∃ s',
              ioAdcTask channelSeq ntc (reads.map some) init =
                some s') ∧
      ∀ s',
        ioAdcTask channelSeq ntc (reads.map some) init =
            some s' →
        ∀ i,
          FilterWithinMedians i reads (s'.adcFilterValue i) ∧
            (∀ f adcVal : Int16,
              (filterStep f adcVal).toInt =
                (f.toInt * 3 + adcVal.toInt) >>> (2 : Nat)) ∧
              ∀ (channelSeq' : ChannelSeq C) (ntc' : NtcState)
                (reads' : List (SampleBuffer C))
                (init' t' : AdcState C),
                ioAdcTask channelSeq' ntc' (reads'.map some)
                      init' =
                    some t' →
                  reads'.map (channelSamples · i) =
                      reads.map (channelSamples · i) →
                    t'.adcFilterValue i =
                      s'.adcFilterValue i := by
  refine ⟨?_, ?_⟩
  · rintro cal rfl hChannels hRegisters
    exact
      ioAdcTask_isSome channelSeq cal hChannels hRegisters
        (reads.map some) init
  intro s' hRun i
  rcases List.exists_cons_of_ne_nil hIterations with
    ⟨first, rest, rfl⟩
  rcases ioAdcTask_filter hRun i with ⟨hMedians, hFold⟩
  refine ⟨?_, ?_, ?_⟩
  · rw [hFold]
    exact filterWithinMedians_of_foldl hMedians
  · intro f adcVal
    rw [toInt_filterStep, Int.shiftRight_eq_div_pow]
    norm_num only
  · intro channelSeq' ntc' reads' init' t' hRun' hSamples
    have hMedianOf :
        channelMedian i =
          (fun samples : Fin 9 → Int16 =>
              ComparatorNetwork.run medianNetwork samples 4) ∘
            (channelSamples · i) := by
      funext sampleBuffer
      rw [channelMedian, Function.comp_apply]
    cases reads' with
    | nil => cases hSamples
    | cons first' rest' =>
        rcases ioAdcTask_filter hRun' i with ⟨-, hFold'⟩
        rw [List.map_cons, List.map_cons, List.cons.injEq]
          at hSamples
        rw [hFold, hFold', hMedianOf, ← List.map_map,
          ← List.map_map, hSamples.2, Function.comp_apply,
          Function.comp_apply, hSamples.1]

theorem twoStep_run_filterWithinMedians :
    ∃ s' : AdcState 1,
      ioAdcTask (fun _ => 0) twoStepCalibration.toNtcState
          ([fun _ => 2000, fun _ => -32768].map some)
          adcStateZero = some s' ∧
        FilterWithinMedians (C := 1) 0
          [fun _ => 2000, fun _ => -32768]
          (s'.adcFilterValue 0) := by
  rcases ioAdcTask_filterWithinMedians (fun _ : Fin 1 => 0)
      twoStepCalibration.toNtcState
      (List.cons_ne_nil (fun _ => 2000) [fun _ => -32768])
      adcStateZero with
    ⟨hExists, hWithin⟩
  rcases hExists twoStepCalibration.toCalibration rfl
      (by decide) (by decide) with
    ⟨s', hRun⟩
  exact ⟨s', hRun, (hWithin s' hRun 0).1⟩

------------------------------------------------------------
-- Constant Inputs
------------------------------------------------------------

theorem toInt_iterate_filterStep
    (f c : Int16)
    (n : Nat) :
    ((fun x => filterStep x c)^[n] f).toInt =
      (fun x => FloorAverage.average 4 x c.toInt)^[n]
        f.toInt := by
  induction n generalizing f with
  | zero => rfl
  | succ n ih =>
      rw [Function.iterate_succ_apply,
        Function.iterate_succ_apply, ih,
        toInt_filterStep_eq_average]

/- Equal medians make the fold an iteration. -/
theorem foldl_filterStep_of_steady
    {medians : List Int16}
    {c : Int16}
    (hSteady : ∀ adcVal ∈ medians, adcVal = c)
    (f : Int16) :
    medians.foldl filterStep f =
      (fun x => filterStep x c)^[medians.length] f := by
  induction medians generalizing f with
  | nil => rfl
  | cons adcVal medians ih =>
      rw [List.foldl_cons,
        ih (fun x hMember => hSteady x (by simp [hMember])),
        hSteady adcVal (by simp)]
      rfl

/-
  Where a constant median leaves the filter: at the median
  exactly if the filter was not below it, and otherwise up to
  three counts short of it.
-/
structure FilterSettled (c f f' : Int16) : Prop where
  value :
    f'.toInt = FloorAverage.settled 4 f.toInt c.toInt
  reached : f' = c ↔ c ≤ f
  range : c.toInt - 3 ≤ f'.toInt ∧ f'.toInt ≤ c.toInt

theorem filterSettled_of_value
    {c f f' : Int16}
    (hValue :
      f'.toInt = FloorAverage.settled 4 f.toInt c.toInt) :
    FilterSettled c f f' := by
  refine ⟨hValue, ?_, ?_⟩
  · rw [← Int16.toInt_inj, hValue,
      FloorAverage.settled_eq_iff (by omega),
      Int16.le_iff_toInt_le]
  · have hRange :=
      FloorAverage.settled_mem (f := f.toInt) (c := c.toInt)
        (k := 4) (by omega)
    omega

theorem sampleLoop_filterSettled
    {channelSeq : ChannelSeq C}
    {ntc : NtcState}
    {i : Fin C}
    {c : Int16}
    {steady : List (SampleBuffer C)}
    (hSteady :
      ∀ sampleBuffer ∈ steady,
        ioGetADCval sampleBuffer (Int16.ofNat i) = some c)
    {s s' : AdcState C}
    (hLong :
      |(s.adcFilterValue i).toInt - c.toInt| ≤ steady.length)
    (hRun :
      sampleLoop channelSeq ntc (steady.map some) s =
        some s') :
    FilterSettled c (s.adcFilterValue i)
      (s'.adcFilterValue i) := by
  rcases sampleLoop_filter hRun i with ⟨hMedians, hFold⟩
  have hConstant :
      ∀ adcVal ∈ steady.map (channelMedian i), adcVal = c := by
    intro adcVal hMember
    rcases List.mem_map.mp hMember with
      ⟨sampleBuffer, hRead, rfl⟩
    exact
      Option.some.inj
        ((hMedians sampleBuffer hRead).symm.trans
          (hSteady sampleBuffer hRead))
  apply filterSettled_of_value
  rw [hFold, foldl_filterStep_of_steady hConstant,
    List.length_map, toInt_iterate_filterStep]
  apply FloorAverage.iterate_average (by omega)
  exact
    (FloorAverage.abs_sub_settled_le (by omega)).trans hLong

/- The last pass of a loop stores the lookup of the filter. -/
theorem sampleLoop_calcTemperature
    {channelSeq : ChannelSeq C}
    {ntc : NtcState}
    {reads : List (SampleBuffer C)}
    (hIterations : reads ≠ [])
    {s s' : AdcState C}
    (hRun :
      sampleLoop channelSeq ntc (reads.map some) s = some s')
    (i : Fin C) :
    calcTemperature ntc (s'.adcFilterValue i).toUInt16 =
      some (s'.adcValueT i).toInt16 := by
  rcases List.eq_nil_or_concat reads with
    hEmpty | ⟨earlier, sampleBuffer, rfl⟩
  · exact absurd hEmpty hIterations
  · rw [List.concat_eq_append, sampleLoop_append] at hRun
    rcases Option.bind_eq_some_iff.mp hRun with
      ⟨u, -, hLast⟩
    rw [List.map_singleton, sampleLoop] at hLast
    rcases Option.bind_eq_some_iff.mp hLast with
      ⟨v, hPass, hEnd⟩
    cases hEnd
    rcases channelPass_eq_some hPass i with
      ⟨-, -, -, hTemperature⟩
    exact hTemperature

/-
  Two runs that see the same constant median long enough: both
  filters settle, and if they settle at the same value the
  reported temperatures are the same.
-/
theorem sampleLoop_settles
    (channelSeq : ChannelSeq C)
    (ntc : NtcState)
    (i : Fin C)
    {c : Int16}
    {steady : List (SampleBuffer C)}
    (hSteady :
      ∀ sampleBuffer ∈ steady,
        ioGetADCval sampleBuffer (Int16.ofNat i) = some c)
    (hIterations : steady ≠ [])
    {s t s' t' : AdcState C}
    (hLong :
      |(s.adcFilterValue i).toInt - c.toInt| ≤ steady.length)
    (hLong' :
      |(t.adcFilterValue i).toInt - c.toInt| ≤ steady.length)
    (hLeft :
      sampleLoop channelSeq ntc (steady.map some) s = some s')
    (hRight :
      sampleLoop channelSeq ntc (steady.map some) t =
        some t') :
    FilterSettled c (s.adcFilterValue i)
        (s'.adcFilterValue i) ∧
      FilterSettled c (t.adcFilterValue i)
          (t'.adcFilterValue i) ∧
        (FloorAverage.settled 4 (s.adcFilterValue i).toInt
              c.toInt =
            FloorAverage.settled 4 (t.adcFilterValue i).toInt
              c.toInt →
          s'.adcFilterValue i = t'.adcFilterValue i ∧
            s'.adcValueT i = t'.adcValueT i) := by
  have hSettled :=
    sampleLoop_filterSettled hSteady hLong hLeft
  have hSettled' :=
    sampleLoop_filterSettled hSteady hLong' hRight
  refine ⟨hSettled, hSettled', ?_⟩
  intro hSame
  have hFilter :
      s'.adcFilterValue i = t'.adcFilterValue i := by
    rw [← Int16.toInt_inj, hSettled.value, hSettled'.value,
      hSame]
  have hTemperature :=
    sampleLoop_calcTemperature hIterations hLeft i
  have hTemperature' :=
    sampleLoop_calcTemperature hIterations hRight i
  rw [hFilter, hTemperature', Option.some.injEq]
    at hTemperature
  refine ⟨hFilter, ?_⟩
  have hBits := congrArg Int16.toUInt16 hTemperature
  exact hBits.symm

/- One steady iteration from 2001 and from 2000. -/
theorem steadyRuns_settle :
    ∃ s' t' : AdcState 1,
      FilterSettled 2000 2001 (s'.adcFilterValue 0) ∧
        FilterSettled 2000 2000 (t'.adcFilterValue 0) ∧
          s'.adcFilterValue 0 = t'.adcFilterValue 0 ∧
            s'.adcValueT 0 = t'.adcValueT 0 := by
  have hRun :
      ∀ f : Int16, ∃ s',
        sampleLoop (fun _ : Fin 1 => 0)
            twoStepCalibration.toNtcState
            ([fun _ => 2000].map some)
            { adcStateZero with adcFilterValue := fun _ => f } =
          some s' :=
    fun _ =>
      sampleLoop_isSome _ twoStepCalibration.toCalibration
        (by decide) (by decide) _ _
  have hSteady :
      ∀ sampleBuffer ∈
          ([fun _ => 2000] : List (SampleBuffer 1)),
        ioGetADCval sampleBuffer
            (Int16.ofNat ((0 : Fin 1) : Nat)) =
          some 2000 := by
    intro sampleBuffer hMember
    rw [List.mem_singleton.mp hMember]
    decide +kernel
  rcases hRun 2001 with ⟨s', hLeft⟩
  rcases hRun 2000 with ⟨t', hRight⟩
  rcases sampleLoop_settles (fun _ : Fin 1 => 0)
      twoStepCalibration.toNtcState 0 hSteady (by simp)
      (by decide) (by decide) hLeft hRight with
    ⟨hSettled, hSettled', hEqual⟩
  rcases hEqual (by decide) with ⟨hFilter, hTemperature⟩
  exact
    ⟨s', t', hSettled, hSettled', hFilter, hTemperature⟩

/- A steady input of 1 never lifts a filter value of 0. -/
theorem zeroFilter_not_reached :
    ¬ ∀ f c : Int16, 0 ≤ c.toInt → c.toInt ≤ 4095 →
        ∃ settledAt, ∀ n, settledAt ≤ n →
          (fun x => filterStep x c)^[n] f = c := by
  intro hClaim
  rcases hClaim 0 1 (by decide) (by decide) with
    ⟨settledAt, hReached⟩
  have hStuck : filterStep 0 1 = 0 := by decide
  have hNever := hReached settledAt le_rfl
  rw [Function.iterate_fixed hStuck] at hNever
  exact absurd hNever (by decide)

end TemperatureSensor
