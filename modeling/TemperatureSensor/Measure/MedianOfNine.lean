import TemperatureSensor.Measure.Adc
import Mathlib.Data.Fintype.Pi

/-
  The value that `io_getADCval` returns: the median of the
  nine samples of its channel, as long as their addresses
  fit the `int16_t` index.

  Main declarations:
    * `medianNetwork_majority`
    * `ReturnsMedian`
    * `ioGetADCval_returnsMedian`
    * `channels_fit`
-/

------------------------------------------------------------
-- The Median Network
------------------------------------------------------------

namespace TemperatureSensor

variable {C : Nat}

/- On Boolean samples the network takes the majority. -/
theorem medianNetwork_majority :
    ∀ b : Fin 9 → Bool,
      ComparatorNetwork.run medianNetwork b 4 = true ↔
        Median.Majority b := by
  simp only [ComparatorNetwork.run_eq_runBool]
  decide +kernel

theorem isMedian_medianNetwork
    (p : Fin 9 → Int16) :
    Median.IsMedian p
      (ComparatorNetwork.run medianNetwork p 4) :=
  ComparatorNetwork.isMedian_run (by simp)
    medianNetwork_majority p

------------------------------------------------------------
-- Medians of a Channel
------------------------------------------------------------

/-
  The call reads the nine samples of the channel and nothing
  else, at least five of them are at most its result, at
  least five are at least its result, and their order does
  not matter.
-/
structure ReturnsMedian
    (sampleBuffer : SampleBuffer C)
    (i : Fin C) : Prop where
  addresses :
    ∀ k : Fin 9,
      (sampleAddr C (Int16.ofNat i) k).toInt =
          ((i.val + k.val * C : Nat) : Int) ∧
        i.val + k.val * C < C * numberAdcMeasurements
  ranks :
    ∃ adcVal,
      ioGetADCval sampleBuffer (Int16.ofNat i) =
          some adcVal ∧
        5 ≤ (Finset.univ.filter fun k =>
            channelSamples sampleBuffer i k ≤ adcVal).card ∧
          5 ≤ (Finset.univ.filter fun k =>
            adcVal ≤ channelSamples sampleBuffer i k).card
  permuted :
    ∀ (sampleBuffer' : SampleBuffer C)
      (σ : Equiv.Perm (Fin 9)),
      (∀ k,
        channelSamples sampleBuffer' i k =
          channelSamples sampleBuffer i (σ k)) →
        ioGetADCval sampleBuffer' (Int16.ofNat i) =
          ioGetADCval sampleBuffer (Int16.ofNat i)

theorem five_le_of_isMedian
    {p : Fin 9 → Int16}
    {v : Int16}
    (hMedian : Median.IsMedian p v) :
    5 ≤ (Finset.univ.filter fun k => p k ≤ v).card ∧
      5 ≤ (Finset.univ.filter fun k => v ≤ p k).card := by
  have hBelow := hMedian.below
  have hAbove := hMedian.above
  simp only [Median.Majority, Fintype.card_fin,
    decide_eq_true_eq] at hBelow hAbove
  omega

theorem isMedian_channelMedian
    (sampleBuffer : SampleBuffer C)
    (i : Fin C) :
    Median.IsMedian (channelSamples sampleBuffer i)
      (channelMedian i sampleBuffer) :=
  isMedian_medianNetwork _

/-
  The call returns the median of the channel whenever the
  address of its last sample fits the index.
-/
theorem ioGetADCval_returnsMedian
    (sampleBuffer : SampleBuffer C)
    {i : Fin C}
    (hFits : i.val + 8 * C ≤ 32767) :
    ReturnsMedian sampleBuffer i := by
  constructor
  · intro k
    have hLast : k.val * C ≤ 8 * C :=
      Nat.mul_le_mul_right C (by omega)
    exact
      ⟨toInt_channelAddr (by omega), channelIndex_lt i k⟩
  · exact
      ⟨_, ioGetADCval_eq sampleBuffer hFits,
        five_le_of_isMedian
          (isMedian_channelMedian sampleBuffer i)⟩
  · intro sampleBuffer' σ hPermuted
    have hMedian := isMedian_channelMedian sampleBuffer i
    have hMedian' := isMedian_channelMedian sampleBuffer' i
    rw [funext hPermuted] at hMedian'
    rw [ioGetADCval_eq sampleBuffer' hFits,
      ioGetADCval_eq sampleBuffer hFits,
      hMedian'.unique (hMedian.comp_equiv σ)]

theorem lastFitting_returnsMedian :
    ReturnsMedian (C := 3641) (fun _ => 7) 3639 :=
  ioGetADCval_returnsMedian _ (by decide)

/- The index of the very last sample wraps to -32768. -/
theorem wrapped_not_returnsMedian :
    ¬ ∀ (C : Nat) (sampleBuffer : SampleBuffer C)
        (i : Fin C), ReturnsMedian sampleBuffer i := by
  intro hClaim
  have hAddr :=
    ((hClaim 3641 (fun _ => 7) 3640).addresses 8).1
  have hWrapped :
      (sampleAddr 3641 (Int16.ofNat 3640) 8).toInt =
        -32768 := by
    decide
  exact absurd (hWrapped.symm.trans hAddr) (by decide)

------------------------------------------------------------
-- Channels That Fit
------------------------------------------------------------

/-
  Medians of all channels are only returned when all
  addresses fit: otherwise the address 32768 is reached,
  which wraps out of the buffer.
-/
theorem channels_fit
    {sampleBuffer : SampleBuffer C}
    (hMedians :
      ∀ i : Fin C, ∃ adcVal,
        ioGetADCval sampleBuffer (Int16.ofNat i) =
          some adcVal)
    (i : Fin C) :
    i.val + 8 * C ≤ 32767 := by
  have hIndex := i.isLt
  by_contra hLarge
  have hPositive : 0 < C := by omega
  have hChannel : 32768 % C < C := Nat.mod_lt _ hPositive
  have hTotal : 32768 % C + 32768 / C * C = 32768 := by
    rw [mul_comm]
    exact Nat.mod_add_div 32768 C
  have hRound : 32768 / C < 9 := by
    apply (Nat.div_lt_iff_lt_mul hPositive).mpr
    omega
  rcases hMedians ⟨32768 % C, hChannel⟩ with
    ⟨adcVal, hMedian⟩
  rcases Option.bind_eq_some_iff.mp hMedian with
    ⟨p, hBlock, -⟩
  have hRead :=
    CheckedLoop.readAll_eq_some_iff.mp hBlock
      ⟨32768 / C, hRound⟩
  have hWrapped :
      (sampleAddr C (Int16.ofNat (32768 % C))
        (32768 / C)).toInt = -32768 := by
    cases hCount : 32768 / C with
    | zero =>
        rw [hCount, zero_mul, add_zero] at hTotal
        rw [sampleAddr, hTotal]
        decide
    | succ k =>
        rw [hCount, Nat.succ_mul] at hTotal
        have hBefore :=
          toInt_channelAddr (i := ⟨32768 % C, hChannel⟩)
            (k := k) (by simp only; omega)
        have hSum :
            ((32768 % C + k * C : Nat) : Int) + C = 32768 := by
          exact_mod_cast (by omega :
            32768 % C + k * C + C = 32768)
        rw [sampleAddr, hBefore, hSum]
        decide
  unfold sampleRead at hRead
  rw [dif_neg (by simp only [hWrapped]; omega)] at hRead
  cases hRead

end TemperatureSensor
