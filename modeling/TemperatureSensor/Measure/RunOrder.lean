import TemperatureSensor.Measure.Adc

/-
  Two runs of the sampling task side by side: pointwise
  larger samples never give a hotter stored result.

  Main declarations:
    * `RunOrder`
    * `storeChannel_runOrder`
    * `channelPass_runOrder`
    * `ioAdcTask_reading_antitone`
-/

------------------------------------------------------------
-- The Relation Between Two Runs
------------------------------------------------------------

namespace TemperatureSensor

variable {C : Nat}

/-
  The first run saw the smaller samples. On the channels
  visited so far its filters are smaller and its stored
  results no colder.
-/
structure RunOrder
    (channelSeq : ChannelSeq C)
    (visited : List (Fin C))
    (s t : AdcState C) : Prop where
  nonneg :
    ∀ i ∈ visited, 0 ≤ (s.adcFilterValue i).toInt
  filter :
    ∀ i ∈ visited,
      s.adcFilterValue i ≤ t.adcFilterValue i
  value :
    ∀ i ∈ visited,
      reading (t.adcValueT i).toInt16 ≤
        reading (s.adcValueT i).toInt16
  register :
    ∀ i ∈ visited, ∀ r,
      register? (channelRegister channelSeq i) = some r →
        reading (t.mbBufMain r).toInt16 ≤
          reading (s.mbBufMain r).toInt16

theorem RunOrder.of_subset
    {channelSeq : ChannelSeq C}
    {visited visited' : List (Fin C)}
    {s t : AdcState C}
    (hOrder : RunOrder channelSeq visited' s t)
    (hSubset : visited ⊆ visited') :
    RunOrder channelSeq visited s t := by
  constructor
  · exact fun i hMember => hOrder.nonneg i (hSubset hMember)
  · exact fun i hMember => hOrder.filter i (hSubset hMember)
  · exact fun i hMember => hOrder.value i (hSubset hMember)
  · exact fun i hMember =>
      hOrder.register i (hSubset hMember)

/- Storing ordered filter values of a channel keeps the order. -/
theorem storeChannel_runOrder
    {channelSeq : ChannelSeq C}
    {cal : MonotoneCalibration}
    {visited : List (Fin C)}
    {s t s' t' : AdcState C}
    {i : Fin C}
    {f g : Int16}
    (hOrder : RunOrder channelSeq visited s t)
    (hNonneg : 0 ≤ f.toInt)
    (hLe : f ≤ g)
    (hLeft :
      storeChannel channelSeq cal.toNtcState s i f = some s')
    (hRight :
      storeChannel channelSeq cal.toNtcState t i g =
        some t') :
    RunOrder channelSeq (i :: visited) s' t' := by
  rcases storeChannel_eq_some hLeft with
    ⟨x, r, hTemperature, hRegister, rfl⟩
  rcases storeChannel_eq_some hRight with
    ⟨y, r', hTemperature', hRegister', rfl⟩
  have hLookup :=
    lookup_of_calcTemperature cal.toCalibration hTemperature
  have hLookup' :=
    lookup_of_calcTemperature cal.toCalibration hTemperature'
  have hSame : r = r' :=
    Option.some.inj (hRegister.symm.trans hRegister')
  subst hSame
  have hInput : f.toInt ≤ g.toInt := Int16.toInt_monotone hLe
  rw [Int16.toNat_toUInt16_of_nonneg hNonneg] at hLookup
  rw [Int16.toNat_toUInt16_of_nonneg
    (hNonneg.trans hInput)] at hLookup'
  have hReading : reading y ≤ reading x :=
    hLookup.reading_antitone hLookup' hInput
  constructor
  · intro j hMember
    by_cases hHere : j = i
    · subst hHere
      simpa using hNonneg
    · simpa [hHere] using
        hOrder.nonneg j (List.mem_of_ne_of_mem hHere hMember)
  · intro j hMember
    by_cases hHere : j = i
    · subst hHere
      simpa using hLe
    · simpa [hHere] using
        hOrder.filter j (List.mem_of_ne_of_mem hHere hMember)
  · intro j hMember
    by_cases hHere : j = i
    · subst hHere
      simpa using hReading
    · simpa [hHere] using
        hOrder.value j (List.mem_of_ne_of_mem hHere hMember)
  · intro j hMember k hTarget
    by_cases hCell : k = r
    · subst hCell
      simpa using hReading
    · have hElsewhere : j ≠ i := by
        rintro rfl
        exact hCell
          (Option.some.inj (hTarget.symm.trans hRegister))
      simpa [hCell] using
        hOrder.register j
          (List.mem_of_ne_of_mem hElsewhere hMember) k hTarget

------------------------------------------------------------
-- Passes
------------------------------------------------------------

/- The filter step is monotone and keeps the sign. -/
theorem filterStep_mono
    {f g x y : Int16}
    (hFilter : f ≤ g)
    (hSample : x ≤ y) :
    filterStep f x ≤ filterStep g y := by
  rw [Int16.le_iff_toInt_le] at hFilter hSample ⊢
  rw [toInt_filterStep, toInt_filterStep]
  omega

theorem filterStep_nonneg
    {f x : Int16}
    (hFilter : 0 ≤ f.toInt)
    (hSample : 0 ≤ x.toInt) :
    0 ≤ (filterStep f x).toInt := by
  rw [toInt_filterStep]
  omega

/-
  A pass orders all channels when its update keeps the order
  of the filters that were ordered before.
-/
theorem channelPass_runOrder
    {channelSeq : ChannelSeq C}
    {cal : MonotoneCalibration}
    {update : Int16 → Int16 → Int16}
    {visited : List (Fin C)}
    {xs ys : SampleBuffer C}
    {s t s' t' : AdcState C}
    (hUpdate :
      ∀ i f g x y, (i ∈ visited → 0 ≤ f.toInt ∧ f ≤ g) →
        0 ≤ x.toInt → x ≤ y →
          0 ≤ (update f x).toInt ∧ update f x ≤ update g y)
    (hNonneg : ∀ i, 0 ≤ xs i)
    (hLe : ∀ i, xs i ≤ ys i)
    (hStart : RunOrder channelSeq visited s t)
    (hLeft :
      channelPass update channelSeq cal.toNtcState xs s =
        some s')
    (hRight :
      channelPass update channelSeq cal.toNtcState ys t =
        some t') :
    RunOrder channelSeq (List.finRange C) s' t' := by
  have hEnd :=
    CheckedLoop.forEach_simulation
      (R := fun seen s t =>
        RunOrder channelSeq (seen ++ visited) s t)
      (by
        intro seen s i s' t t' hOrder hBody hBody'
        rcases Option.bind_eq_some_iff.mp hBody with
          ⟨x, hMedian, hStore⟩
        rcases Option.bind_eq_some_iff.mp hBody' with
          ⟨y, hMedian', hStore'⟩
        have hSign : 0 ≤ x := le_ioGetADCval hNonneg hMedian
        have hFilters :
            i ∈ visited →
              0 ≤ (s.adcFilterValue i).toInt ∧
                s.adcFilterValue i ≤ t.adcFilterValue i := by
          intro hMember
          have hSeen : i ∈ seen ++ visited :=
            List.mem_append_right seen hMember
          exact
            ⟨hOrder.nonneg i hSeen, hOrder.filter i hSeen⟩
        have hNext :=
          hUpdate i _ _ x y hFilters
            (Int16.le_iff_toInt_le.mp hSign)
            (ioGetADCval_mono hLe hMedian hMedian')
        exact
          storeChannel_runOrder hOrder hNext.1 hNext.2 hStore
            hStore')
      [] hStart hLeft hRight
  exact hEnd.of_subset fun i _ => by simp

------------------------------------------------------------
-- Runs
------------------------------------------------------------

/- Two sample sequences of one length, ordered pointwise. -/
abbrev SamplesLe
    (xs ys : List (SampleBuffer C)) : Prop :=
  List.Forall₂ (fun x y => ∀ i, x i ≤ y i) xs ys

theorem sampleLoop_runOrder
    {channelSeq : ChannelSeq C}
    {cal : MonotoneCalibration}
    {xs ys : List (SampleBuffer C)}
    (hNonneg : ∀ x ∈ xs, ∀ i, 0 ≤ x i)
    (hLe : SamplesLe xs ys)
    {s t s' t' : AdcState C}
    (hStart : RunOrder channelSeq (List.finRange C) s t)
    (hLeft :
      sampleLoop channelSeq cal.toNtcState (xs.map some) s =
        some s')
    (hRight :
      sampleLoop channelSeq cal.toNtcState (ys.map some) t =
        some t') :
    RunOrder channelSeq (List.finRange C) s' t' := by
  induction hLe generalizing s t with
  | nil =>
      have hSame : s = s' := Option.some.inj hLeft
      have hSame' : t = t' := Option.some.inj hRight
      subst hSame hSame'
      exact hStart
  | cons hHead _ ih =>
      rcases Option.bind_eq_some_iff.mp hLeft with
        ⟨u, hPass, hRest⟩
      rcases Option.bind_eq_some_iff.mp hRight with
        ⟨v, hPass', hRest'⟩
      have hNext :=
        channelPass_runOrder
          (fun i f g x y hFilters hSample hOrder =>
            have hOrdered := hFilters (by simp)
            ⟨filterStep_nonneg hOrdered.1 hSample,
              filterStep_mono hOrdered.2 hOrder⟩)
          (hNonneg _ (by simp)) hHead hStart hPass hPass'
      exact
        ih (fun x hMember => hNonneg x (by simp [hMember]))
          hNext hRest hRest'

/-
  Hotter is never reported as colder: after any number of
  iterations, with any number of channels, pointwise smaller
  samples leave a reading at least as hot in `ADC_Value_T`
  and in `MBbuf_main`. The runs exist as long as the sample
  indices fit `addr` and the channels have their registers.
-/
theorem ioAdcTask_reading_antitone
    (channelSeq : ChannelSeq C)
    (cal : MonotoneCalibration)
    (xs ys : List (SampleBuffer C))
    (hSome : xs ≠ [])
    (hNonneg : ∀ x ∈ xs, ∀ i, 0 ≤ x i)
    (hLe : SamplesLe xs ys)
    (s t : AdcState C) :
    (C * numberAdcMeasurements ≤ 32768 →
        (∀ i, channelRegister channelSeq i < numBuf) →
          ∃ s' t',
            ioAdcTask channelSeq cal.toNtcState (xs.map some)
                s =
              some s' ∧
            ioAdcTask channelSeq cal.toNtcState (ys.map some)
                t =
              some t') ∧
      ∀ s' t',
        ioAdcTask channelSeq cal.toNtcState (xs.map some) s =
            some s' →
        ioAdcTask channelSeq cal.toNtcState (ys.map some) t =
            some t' →
        ∀ i,
          reading (t'.adcValueT i).toInt16 ≤
              reading (s'.adcValueT i).toInt16 ∧
            ∀ r,
              register? (channelRegister channelSeq i) =
                  some r →
                reading (t'.mbBufMain r).toInt16 ≤
                  reading (s'.mbBufMain r).toInt16 := by
  refine ⟨?_, ?_⟩
  · intro hChannels hRegisters
    have hRuns :=
      ioAdcTask_isSome channelSeq cal.toCalibration hChannels
        hRegisters
    rcases hRuns (xs.map some) s with ⟨s', hLeft⟩
    rcases hRuns (ys.map some) t with ⟨t', hRight⟩
    exact ⟨s', t', hLeft, hRight⟩
  intro s' t' hLeft hRight i
  have hOrder :
      RunOrder channelSeq (List.finRange C) s' t' := by
    cases hLe with
    | nil => exact absurd rfl hSome
    | cons hHead hTail =>
        rcases Option.bind_eq_some_iff.mp hLeft with
          ⟨u, hPass, hRest⟩
        rcases Option.bind_eq_some_iff.mp hRight with
          ⟨v, hPass', hRest'⟩
        have hEmpty : RunOrder channelSeq [] s t := by
          constructor <;> simp
        have hFirst :=
          channelPass_runOrder
            (fun _ _ _ _ _ _ hSample hOrder =>
              ⟨hSample, hOrder⟩)
            (hNonneg _ (by simp)) hHead hEmpty hPass hPass'
        exact
          sampleLoop_runOrder
            (fun x hMember => hNonneg x (by simp [hMember]))
            hTail hFirst hRest hRest'
  exact
    ⟨hOrder.value i (by simp),
      hOrder.register i (by simp)⟩

/- Two samples of one channel against two larger ones. -/
theorem twoStep_runs_reading_antitone :
    ∃ s' t' : AdcState 1,
      ioAdcTask (fun _ => 0) twoStepCalibration.toNtcState
          [some fun _ => 900, some fun _ => 1500]
          adcStateZero = some s' ∧
        ioAdcTask (fun _ => 0) twoStepCalibration.toNtcState
            [some fun _ => 2000, some fun _ => 32767]
            adcStateZero = some t' ∧
          reading (t'.adcValueT 0).toInt16 ≤
            reading (s'.adcValueT 0).toInt16 := by
  have hNonneg :
      ∀ x ∈ [(fun _ => 900 : SampleBuffer 1), fun _ => 1500],
        ∀ i, 0 ≤ x i := by
    intro x hMember i
    rcases List.mem_cons.mp hMember with rfl | hSecond
    · change (0 : Int16) ≤ 900
      decide
    · rw [List.mem_singleton.mp hSecond]
      change (0 : Int16) ≤ 1500
      decide
  rcases ioAdcTask_reading_antitone (fun _ : Fin 1 => 0)
      twoStepCalibration
      [fun _ => 900, fun _ => 1500]
      [fun _ => 2000, fun _ => 32767]
      (by simp) hNonneg
      (List.Forall₂.cons (by decide)
        (List.Forall₂.cons (by decide) List.Forall₂.nil))
      adcStateZero adcStateZero with
    ⟨hRuns, hOrder⟩
  rcases hRuns (by decide) (by decide) with
    ⟨s', t', hLeft, hRight⟩
  exact
    ⟨s', t', hLeft, hRight, (hOrder s' t' hLeft hRight 0).1⟩

end TemperatureSensor
