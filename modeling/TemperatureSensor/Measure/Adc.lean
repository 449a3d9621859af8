import TemperatureSensor.Foundations.CheckedLoop
import TemperatureSensor.Foundations.ComparatorNetwork
import TemperatureSensor.Measure.Reading
import TemperatureSensor.Registers.Table

/-
  The sampling task of `io_adc.c`: the median of nine, the
  filter and the stored measurement result of each channel.

  Main declarations:
    * `ioGetADCval`
    * `channelPass` and `ioAdcTask`
    * `channelMedian`
    * `ioGetADCval_mono`
    * `channelPass_eq_some`
    * `ioAdcTask_isSome`
-/

------------------------------------------------------------
-- Sample Buffer and Median
------------------------------------------------------------

namespace TemperatureSensor

/- `sample_buffer` of a device with `C` channels. -/
abbrev SampleBuffer (C : Nat) :=
  Fin (C * numberAdcMeasurements) → Int16

/- The running index `addr`, an `int16_t` stepped by `C`. -/
def sampleAddr
    (C : Nat)
    (nch : Int16) : Nat → Int16
| 0 => nch
| k + 1 => Int16.ofInt ((sampleAddr C nch k).toInt + C)

/- `sample_buffer[addr]`, `none` outside the array. -/
def sampleRead
    {C : Nat}
    (sampleBuffer : SampleBuffer C)
    (addr : Int16) : Option Int16 :=
  if hBound :
      0 ≤ addr.toInt ∧
        addr.toInt.toNat < C * numberAdcMeasurements then
    some (sampleBuffer ⟨addr.toInt.toNat, hBound.2⟩)
  else
    none

/- The `PIX_SORT` calls of `io_getADCval`. -/
def medianNetwork : List (Fin 9 × Fin 9) := [
  (1, 2), (4, 5), (7, 8),
  (0, 1), (3, 4), (6, 7),
  (1, 2), (4, 5), (7, 8),
  (0, 3), (5, 8), (4, 7),
  (3, 6), (1, 4), (2, 5),
  (4, 7), (4, 2), (6, 4),
  (4, 2)]

/- `io_getADCval`. -/
def ioGetADCval
    {C : Nat}
    (sampleBuffer : SampleBuffer C)
    (nch : Int16) : Option Int16 := do
  let p ← CheckedLoop.readAll fun k : Fin 9 =>
    sampleRead sampleBuffer (sampleAddr C nch k)
  some (ComparatorNetwork.run medianNetwork p 4)

/- The sampled indices do not depend on the samples. -/
theorem sampleRead_mono
    {C : Nat}
    {xs ys : SampleBuffer C}
    (hLe : ∀ i, xs i ≤ ys i)
    {addr x y : Int16}
    (hLeft : sampleRead xs addr = some x)
    (hRight : sampleRead ys addr = some y) :
    x ≤ y := by
  unfold sampleRead at hLeft hRight
  split at hLeft
  · rename_i hBound
    rw [dif_pos hBound] at hRight
    cases hLeft
    cases hRight
    exact hLe _
  · cases hLeft

theorem le_of_sampleRead
    {C : Nat}
    {xs : SampleBuffer C}
    {c : Int16}
    (hLower : ∀ i, c ≤ xs i)
    {addr x : Int16}
    (hRead : sampleRead xs addr = some x) :
    c ≤ x := by
  unfold sampleRead at hRead
  split at hRead
  · cases hRead
    exact hLower _
  · cases hRead

/- A larger sample never gives a smaller median. -/
theorem ioGetADCval_mono
    {C : Nat}
    {xs ys : SampleBuffer C}
    (hLe : ∀ i, xs i ≤ ys i)
    {nch x y : Int16}
    (hLeft : ioGetADCval xs nch = some x)
    (hRight : ioGetADCval ys nch = some y) :
    x ≤ y := by
  rcases Option.bind_eq_some_iff.mp hLeft with
    ⟨p, hBlock, hMedian⟩
  rcases Option.bind_eq_some_iff.mp hRight with
    ⟨q, hBlock', hMedian'⟩
  rw [← Option.some.inj hMedian, ← Option.some.inj hMedian']
  have hCells : p ≤ q := by
    intro k
    exact
      sampleRead_mono hLe
        (CheckedLoop.readAll_eq_some_iff.mp hBlock k)
        (CheckedLoop.readAll_eq_some_iff.mp hBlock' k)
  exact ComparatorNetwork.run_mono medianNetwork hCells 4

/- A lower bound of the samples bounds the median. -/
theorem le_ioGetADCval
    {C : Nat}
    {xs : SampleBuffer C}
    {c : Int16}
    (hLower : ∀ i, c ≤ xs i)
    {nch x : Int16}
    (hMedian : ioGetADCval xs nch = some x) :
    c ≤ x := by
  rcases Option.bind_eq_some_iff.mp hMedian with
    ⟨p, hBlock, hValue⟩
  rw [← Option.some.inj hValue]
  apply ComparatorNetwork.le_run_of_forall_le
  intro k
  exact
    le_of_sampleRead hLower
      (CheckedLoop.readAll_eq_some_iff.mp hBlock k)

------------------------------------------------------------
-- Sampling Task
------------------------------------------------------------

/- The device-tree channel sequence, `channel_seq`. -/
abbrev ChannelSeq (C : Nat) := Fin C → UInt8

/- The variables that the sampling task writes. -/
structure AdcState (C : Nat) where
  adcFilterValue : Fin C → Int16
  adcValueT : Fin C → UInt16
  mbBufMain : Registers

/- The variables as they are linked, before `main`. -/
def adcStateZero {C : Nat} : AdcState C where
  adcFilterValue := fun _ => 0
  adcValueT := fun _ => 0
  mbBufMain := fun _ => 0

/- The register index of a channel's measurement. -/
def channelRegister
    {C : Nat}
    (channelSeq : ChannelSeq C)
    (i : Fin C) : Nat :=
  (channelSeq i).toNat + regT0Channel

/-
  The part of the channel loops after the filter: store the
  filter value, the result and its copy in `MBbuf_main`.
-/
def storeChannel
    {C : Nat}
    (channelSeq : ChannelSeq C)
    (ntc : NtcState)
    (s : AdcState C)
    (i : Fin C)
    (filter : Int16) : Option (AdcState C) := do
  let t ← calcTemperature ntc filter.toUInt16
  let r ← register? (channelRegister channelSeq i)
  some
    { adcFilterValue :=
        Function.update s.adcFilterValue i filter
      adcValueT :=
        Function.update s.adcValueT i t.toUInt16
      mbBufMain :=
        Function.update s.mbBufMain r t.toUInt16 }

/-
  One iteration of a channel loop; `update` is what the loop
  makes of the previous filter value and the new median.
-/
def channelBody
    {C : Nat}
    (update : Int16 → Int16 → Int16)
    (channelSeq : ChannelSeq C)
    (ntc : NtcState)
    (sampleBuffer : SampleBuffer C)
    (s : AdcState C)
    (i : Fin C) : Option (AdcState C) := do
  let adcVal ← ioGetADCval sampleBuffer (Int16.ofNat i)
  storeChannel channelSeq ntc s i
    (update (s.adcFilterValue i) adcVal)

/- One channel loop. -/
def channelPass
    {C : Nat}
    (update : Int16 → Int16 → Int16)
    (channelSeq : ChannelSeq C)
    (ntc : NtcState)
    (sampleBuffer : SampleBuffer C)
    (s : AdcState C) : Option (AdcState C) :=
  CheckedLoop.forEach
    (channelBody update channelSeq ntc sampleBuffer)
    (List.finRange C) s

/- The first loop starts the filter at the median. -/
def filterStart (_f adcVal : Int16) : Int16 :=
  adcVal

/- The filter step `(F*3 + ADC_Val) >> 2`, narrowed. -/
def filterStep (f adcVal : Int16) : Int16 :=
  Int16.ofInt ((f.toInt * 3 + adcVal.toInt) >>> (2 : Nat))

/-
  The `while (1)` loop on the outcomes of its `adc_read`
  calls; a failed call ends the task.
-/
def sampleLoop
    {C : Nat}
    (channelSeq : ChannelSeq C)
    (ntc : NtcState) :
    List (Option (SampleBuffer C)) → AdcState C →
      Option (AdcState C)
| [], s => some s
| none :: _, s => some s
| some sampleBuffer :: reads, s =>
    (channelPass filterStep channelSeq ntc sampleBuffer s).bind
      (sampleLoop channelSeq ntc reads)

/-
  `io_adc_task` on the outcomes of its `adc_read` calls. The
  result is `none` when an array access is out of bounds.
-/
def ioAdcTask
    {C : Nat}
    (channelSeq : ChannelSeq C)
    (ntc : NtcState) :
    List (Option (SampleBuffer C)) → AdcState C →
      Option (AdcState C)
| [], s => some s
| none :: _, s => some s
| some sampleBuffer :: reads, s =>
    (channelPass filterStart channelSeq ntc sampleBuffer s).bind
      (sampleLoop channelSeq ntc reads)

------------------------------------------------------------
-- Step Lemmas
------------------------------------------------------------

/- The filter step fits the narrowing store. -/
theorem toInt_filterStep
    (f adcVal : Int16) :
    (filterStep f adcVal).toInt =
      (f.toInt * 3 + adcVal.toInt) / 4 := by
  have hFilter := f.le_toInt
  have hFilter' := f.toInt_lt
  have hValue := adcVal.le_toInt
  have hValue' := adcVal.toInt_lt
  unfold filterStep
  rw [Int.shiftRight_eq_div_pow]
  norm_num only
  apply Int16.toInt_ofInt_of_mem
  · omega
  · omega

/- What one channel stores, in both places. -/
theorem storeChannel_eq_some
    {C : Nat}
    {channelSeq : ChannelSeq C}
    {ntc : NtcState}
    {s s' : AdcState C}
    {i : Fin C}
    {filter : Int16}
    (hStore : storeChannel channelSeq ntc s i filter = some s') :
    ∃ t r,
      calcTemperature ntc filter.toUInt16 = some t ∧
        register? (channelRegister channelSeq i) = some r ∧
        s' =
          { adcFilterValue :=
              Function.update s.adcFilterValue i filter
            adcValueT :=
              Function.update s.adcValueT i t.toUInt16
            mbBufMain :=
              Function.update s.mbBufMain r t.toUInt16 } := by
  rcases Option.bind_eq_some_iff.mp hStore with
    ⟨t, hTemperature, hRest⟩
  rcases Option.bind_eq_some_iff.mp hRest with
    ⟨r, hRegister, hState⟩
  exact ⟨t, r, hTemperature, hRegister,
    (Option.some.inj hState).symm⟩

/- What one channel's iteration stores. -/
theorem channelBody_eq_some
    {C : Nat}
    {update : Int16 → Int16 → Int16}
    {channelSeq : ChannelSeq C}
    {ntc : NtcState}
    {sampleBuffer : SampleBuffer C}
    {s s' : AdcState C}
    {i : Fin C}
    (hBody :
      channelBody update channelSeq ntc sampleBuffer s i =
        some s') :
    ∃ adcVal t,
      ioGetADCval sampleBuffer (Int16.ofNat i) =
          some adcVal ∧
        calcTemperature ntc
            (update (s.adcFilterValue i) adcVal).toUInt16 =
          some t ∧
          s'.adcFilterValue =
              Function.update s.adcFilterValue i
                (update (s.adcFilterValue i) adcVal) ∧
            s'.adcValueT =
              Function.update s.adcValueT i t.toUInt16 := by
  rcases Option.bind_eq_some_iff.mp hBody with
    ⟨adcVal, hMedian, hStore⟩
  rcases storeChannel_eq_some hStore with
    ⟨t, r, hTemperature, -, rfl⟩
  exact ⟨adcVal, t, hMedian, hTemperature, rfl, rfl⟩

/-
  What one pass stores for every channel. The channels do not
  disturb each other.
-/
theorem channelPass_eq_some
    {C : Nat}
    {update : Int16 → Int16 → Int16}
    {channelSeq : ChannelSeq C}
    {ntc : NtcState}
    {sampleBuffer : SampleBuffer C}
    {s s' : AdcState C}
    (hPass :
      channelPass update channelSeq ntc sampleBuffer s =
        some s')
    (i : Fin C) :
    ∃ adcVal,
      ioGetADCval sampleBuffer (Int16.ofNat i) =
          some adcVal ∧
        s'.adcFilterValue i =
          update (s.adcFilterValue i) adcVal ∧
        calcTemperature ntc (s'.adcFilterValue i).toUInt16 =
          some (s'.adcValueT i).toInt16 := by
  have hCells :=
    CheckedLoop.forEach_cells
      (fun (s : AdcState C) i =>
        (s.adcFilterValue i, s.adcValueT i))
      (R := fun i before after =>
        ∃ adcVal,
          ioGetADCval sampleBuffer (Int16.ofNat i) =
              some adcVal ∧
            after.1 = update before.1 adcVal ∧
            calcTemperature ntc after.1.toUInt16 =
              some after.2.toInt16)
      (by
        intro s i t hBody
        rcases channelBody_eq_some hBody with
          ⟨adcVal, x, hMedian, hTemperature, hFilter, hValue⟩
        exact
          ⟨adcVal, hMedian, by simp [hFilter],
            by simpa [hFilter, hValue]⟩)
      (by
        intro s i t j hBody hOther
        rcases channelBody_eq_some hBody with
          ⟨adcVal, x, hMedian, hTemperature, hFilter, hValue⟩
        simp [hFilter, hValue, hOther])
      (List.nodup_finRange C) hPass
  exact hCells.1 i (by simp)

------------------------------------------------------------
-- Absence of Faults
------------------------------------------------------------

/- The sampled addresses, while they fit an `int16_t`. -/
theorem toInt_sampleAddr
    {C k : Nat}
    {nch : Int16}
    (hStart : 0 ≤ nch.toInt)
    (hFits : nch.toInt + k * C ≤ 32767) :
    (sampleAddr C nch k).toInt = nch.toInt + k * C := by
  induction k with
  | zero => simp [sampleAddr]
  | succ k ih =>
      have hGrow :
          nch.toInt + ((k + 1 : Nat) : Int) * C =
            nch.toInt + k * C + C := by
        push_cast
        ring
      have hSign : 0 ≤ (k : Int) * C :=
        mul_nonneg (by omega) (by omega)
      rw [hGrow] at hFits ⊢
      rw [sampleAddr, ih (by omega)]
      apply Int16.toInt_ofInt_of_mem
      · omega
      · exact hFits

theorem channelIndex_lt
    {C : Nat}
    (i : Fin C)
    (k : Fin 9) :
    i.val + k.val * C < C * numberAdcMeasurements := by
  have hIndex := i.isLt
  have hLast : k.val * C ≤ 8 * C :=
    Nat.mul_le_mul_right C (by omega)
  unfold numberAdcMeasurements
  omega

/- The nine samples of a channel. -/
def channelSamples
    {C : Nat}
    (sampleBuffer : SampleBuffer C)
    (i : Fin C)
    (k : Fin 9) : Int16 :=
  sampleBuffer ⟨i.val + k.val * C, channelIndex_lt i k⟩

/- The median of the nine samples of a channel. -/
def channelMedian
    {C : Nat}
    (i : Fin C)
    (sampleBuffer : SampleBuffer C) : Int16 :=
  ComparatorNetwork.run medianNetwork
    (channelSamples sampleBuffer i) 4

/- A sampled address is exact while it fits an `int16_t`. -/
theorem toInt_channelAddr
    {C : Nat}
    {i : Fin C}
    {k : Nat}
    (hFits : i.val + k * C ≤ 32767) :
    (sampleAddr C (Int16.ofNat i) k).toInt =
      ((i.val + k * C : Nat) : Int) := by
  have hStart : (Int16.ofNat i).toInt = i.val :=
    Int16.toInt_ofNat_of_lt (by omega)
  have hValue :
      (sampleAddr C (Int16.ofNat i) k).toInt =
        (Int16.ofNat i).toInt + k * C := by
    apply toInt_sampleAddr
    · omega
    · rw [hStart]
      exact_mod_cast hFits
  rw [hValue, hStart]
  push_cast
  rfl

theorem sampleRead_channel
    {C : Nat}
    (sampleBuffer : SampleBuffer C)
    {i : Fin C}
    {k : Fin 9}
    (hFits : i.val + k.val * C ≤ 32767) :
    sampleRead sampleBuffer
        (sampleAddr C (Int16.ofNat i) k) =
      some (channelSamples sampleBuffer i k) := by
  have hAddr := toInt_channelAddr hFits
  have hBound := channelIndex_lt i k
  have hIndex :
      (sampleAddr C (Int16.ofNat i) k).toInt.toNat =
        i.val + k.val * C := by
    rw [hAddr, Int.toNat_natCast]
  unfold sampleRead
  rw [dif_pos ⟨by omega, by omega⟩]
  simp only [hIndex, channelSamples]

/- The median network runs on the channel's own samples. -/
theorem ioGetADCval_eq
    {C : Nat}
    (sampleBuffer : SampleBuffer C)
    {i : Fin C}
    (hFits : i.val + 8 * C ≤ 32767) :
    ioGetADCval sampleBuffer (Int16.ofNat i) =
      some (channelMedian i sampleBuffer) := by
  have hBlock :
      CheckedLoop.readAll
          (fun k : Fin 9 => sampleRead sampleBuffer
            (sampleAddr C (Int16.ofNat i) k)) =
        some (channelSamples sampleBuffer i) := by
    apply CheckedLoop.readAll_eq_some_iff.mpr
    intro k
    apply sampleRead_channel
    have hLast : k.val * C ≤ 8 * C :=
      Nat.mul_le_mul_right C (by omega)
    omega
  rw [ioGetADCval, hBlock]
  rfl

/- Up to 3640 channels every sampled address is in bounds. -/
theorem ioGetADCval_isSome
    {C : Nat}
    (hChannels : C * numberAdcMeasurements ≤ 32768)
    (sampleBuffer : SampleBuffer C)
    (i : Fin C) :
    ∃ adcVal,
      ioGetADCval sampleBuffer (Int16.ofNat i) =
        some adcVal := by
  have hIndex := i.isLt
  unfold numberAdcMeasurements at hChannels
  exact ⟨_, ioGetADCval_eq sampleBuffer (by omega)⟩

theorem channelPass_isSome
    {C : Nat}
    (update : Int16 → Int16 → Int16)
    (channelSeq : ChannelSeq C)
    (cal : Calibration)
    (hChannels : C * numberAdcMeasurements ≤ 32768)
    (hRegisters : ∀ i, channelRegister channelSeq i < numBuf)
    (sampleBuffer : SampleBuffer C)
    (s : AdcState C) :
    ∃ s',
      channelPass update channelSeq cal.toNtcState
        sampleBuffer s = some s' := by
  apply CheckedLoop.forEach_isSome
  intro s i _
  rcases ioGetADCval_isSome hChannels sampleBuffer i with
    ⟨adcVal, hMedian⟩
  rcases calcTemperatureWith_spec cal (fun _ _ => rfl)
      (update (s.adcFilterValue i) adcVal).toUInt16 with
    ⟨t, hTemperature, -⟩
  have hRegister :
      register? (channelRegister channelSeq i) =
        some ⟨channelRegister channelSeq i, hRegisters i⟩ := by
    simp [register?, hRegisters i]
  apply Option.isSome_iff_exists.mp
  simp [channelBody, hMedian, storeChannel, calcTemperature,
    hTemperature, hRegister]

theorem sampleLoop_isSome
    {C : Nat}
    (channelSeq : ChannelSeq C)
    (cal : Calibration)
    (hChannels : C * numberAdcMeasurements ≤ 32768)
    (hRegisters : ∀ i, channelRegister channelSeq i < numBuf)
    (reads : List (Option (SampleBuffer C)))
    (s : AdcState C) :
    ∃ s',
      sampleLoop channelSeq cal.toNtcState reads s =
        some s' := by
  induction reads generalizing s with
  | nil => exact ⟨s, rfl⟩
  | cons read reads ih =>
      cases read with
      | none => exact ⟨s, rfl⟩
      | some sampleBuffer =>
          rcases channelPass_isSome filterStep channelSeq cal
              hChannels hRegisters sampleBuffer s with
            ⟨u, hPass⟩
          rcases ih u with ⟨s', hRest⟩
          exact ⟨s', by simp [sampleLoop, hPass, hRest]⟩

/-
  The task accesses no array out of bounds, whatever it
  samples and whenever a read fails.
-/
theorem ioAdcTask_isSome
    {C : Nat}
    (channelSeq : ChannelSeq C)
    (cal : Calibration)
    (hChannels : C * numberAdcMeasurements ≤ 32768)
    (hRegisters : ∀ i, channelRegister channelSeq i < numBuf)
    (reads : List (Option (SampleBuffer C)))
    (s : AdcState C) :
    ∃ s',
      ioAdcTask channelSeq cal.toNtcState reads s =
        some s' := by
  cases reads with
  | nil => exact ⟨s, rfl⟩
  | cons read reads =>
      cases read with
      | none => exact ⟨s, rfl⟩
      | some sampleBuffer =>
          rcases channelPass_isSome filterStart channelSeq cal
              hChannels hRegisters sampleBuffer s with
            ⟨u, hPass⟩
          rcases sampleLoop_isSome channelSeq cal hChannels
              hRegisters reads u with
            ⟨s', hRest⟩
          exact ⟨s', by simp [ioAdcTask, hPass, hRest]⟩

end TemperatureSensor
