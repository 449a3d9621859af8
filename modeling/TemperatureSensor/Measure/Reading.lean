import TemperatureSensor.Measure.Ntc
import Mathlib.Order.WithBot

/-
  What a stored measurement result says: a sensor fault on
  either side, or a temperature in degrees. Over a
  non-increasing table the lookup is antitone in this order.

  Main declarations:
    * `Reading` and `reading`
    * `HasErrorLabel`
    * `MonotoneCalibration` and `twoStepCalibration`
    * `Lookup.reading_antitone`
-/

------------------------------------------------------------
-- Readings
------------------------------------------------------------

namespace TemperatureSensor

/-
  Readings in the order `TEMPERATURE_UNDER`, temperatures,
  `TEMPERATURE_OVER`.
-/
abbrev Reading := WithBot (WithTop Int)

/- The reading that a stored 16-bit result stands for. -/
def reading (t : Int16) : Reading :=
  if t = temperatureUnder then
    ⊥
  else if t = temperatureOver then
    ((⊤ : WithTop Int) : Reading)
  else
    ((t.toInt : WithTop Int) : Reading)

/- A result other than the two sensor-fault codes. -/
def IsOrdinary (t : Int16) : Prop :=
  t ≠ temperatureUnder ∧ t ≠ temperatureOver

instance (t : Int16) : Decidable (IsOrdinary t) := by
  unfold IsOrdinary
  infer_instance

theorem isOrdinary_of_toInt_le
    {t : Int16}
    (hUpper : t.toInt ≤ 845) :
    IsOrdinary t := by
  constructor
  · rintro rfl
    exact absurd hUpper (by decide)
  · rintro rfl
    exact absurd hUpper (by decide)

@[simp] theorem reading_temperatureOver :
    reading temperatureOver = ((⊤ : WithTop Int) : Reading) :=
  rfl

@[simp] theorem reading_temperatureUnder :
    reading temperatureUnder = ⊥ :=
  rfl

theorem reading_of_isOrdinary
    {t : Int16}
    (hOrdinary : IsOrdinary t) :
    reading t = ((t.toInt : WithTop Int) : Reading) := by
  rw [reading, if_neg hOrdinary.1, if_neg hOrdinary.2]

/- Between temperatures the order is the order of degrees. -/
theorem reading_le_of_toInt_le
    {s t : Int16}
    (hLeft : IsOrdinary s)
    (hRight : IsOrdinary t)
    (hLe : s.toInt ≤ t.toInt) :
    reading s ≤ reading t := by
  rw [reading_of_isOrdinary hLeft,
    reading_of_isOrdinary hRight]
  exact_mod_cast hLe

------------------------------------------------------------
-- Error Labels
------------------------------------------------------------

/- The word carries `TEMPERATURE_ERROR_LABEL`. -/
def HasErrorLabel (v : UInt16) : Prop :=
  v &&& temperatureErrorMask = temperatureErrorLabel

theorem hasErrorLabel_iff
    (v : UInt16) :
    HasErrorLabel v ↔
      0x7000 ≤ v.toNat ∧ v.toNat < 0x8000 := by
  unfold HasErrorLabel
  rw [← UInt16.toNat_inj, temperatureErrorMask,
    UInt16.toNat_and_topNibble]
  change v.toNat / 4096 * 4096 = 0x7000 ↔ _
  omega

/- On signed values the label is a range of positive ones. -/
theorem hasErrorLabel_toUInt16_iff
    (t : Int16) :
    HasErrorLabel t.toUInt16 ↔ 0x7000 ≤ t.toInt := by
  rw [hasErrorLabel_iff]
  have hLower := t.le_toInt
  have hUpper := t.toInt_lt
  rcases lt_or_ge t.toInt 0 with hNegative | hNonneg
  · have hValue := Int16.toNat_toUInt16_of_neg hNegative
    omega
  · have hValue := Int16.toNat_toUInt16_of_nonneg hNonneg
    omega

------------------------------------------------------------
-- Classification of a Lookup
------------------------------------------------------------

namespace Lookup

variable {cal : Calibration}
variable {adcsum : Int} {t : Int16}

/- A lookup that is no fault lies on the temperature scale. -/
theorem toInt_mem_or_fault
    (hLookup : Lookup cal adcsum t) :
    t = temperatureOver ∨ t = temperatureUnder ∨
      (cal.start ≤ t.toInt ∧
        t.toInt ≤ cal.start + cal.last * cal.step) := by
  cases hLookup with
  | overRange => exact Or.inl rfl
  | underRange => exact Or.inr (Or.inl rfl)
  | last _ hValue =>
      rw [hValue]
      exact Or.inr (Or.inr (cal.degrees_mem le_rfl))
  | first _ _ hValue =>
      rw [hValue]
      exact Or.inr (Or.inr
        (cal.degrees_mem (Nat.zero_le _)))
  | segment l _ _ hIndex hLow hHigh hValue =>
      have hBounds := cal.interpolate_mem hLow hHigh
      have hLeft := cal.degrees_mem (i := l) (by omega)
      have hRight := cal.degrees_mem (i := l + 1) (by omega)
      rw [hValue]
      exact Or.inr (Or.inr ⟨by omega, by omega⟩)

end Lookup

------------------------------------------------------------
-- Monotone Calibrations
------------------------------------------------------------

/- A calibration whose table is non-increasing. -/
structure MonotoneCalibration extends Calibration where
  nonincreasing :
    ∀ j, j ≤ toCalibration.last → ∀ i, i ≤ j →
      toCalibration.entry j ≤ toCalibration.entry i

/- A two-step table from -10 degrees, for concrete runs. -/
def twoStepCalibration : MonotoneCalibration where
  ntcParametr := {
    ntcR2 := 50000
    ntcB := 3950
    ntcT2 := 25
    ntcRDivider := 20000
    ntcStartTemperature := -10
    ntcStepTemperature := 1
    ntcTemperNumberStep := 2
    ntcAdcResolution := adcCounts
    ntcAdcMultipler := 1 }
  termoTable := fun i => if i.val = 0 then 3000 else 1000
  startLower := by decide
  startUpper := by decide
  stepLower := by decide
  stepUpper := by decide
  numberLower := by decide
  numberUpper := by decide
  nonincreasing := by decide +kernel

namespace MonotoneCalibration

variable (cal : MonotoneCalibration)

theorem entry_last_le_entry_zero :
    cal.entry cal.last ≤ cal.entry 0 :=
  cal.nonincreasing cal.last le_rfl 0 (Nat.zero_le _)

/- Table temperatures grow with the index. -/
theorem degrees_mono
    {i j : Nat}
    (hIndex : i ≤ j) :
    cal.degrees i ≤ cal.degrees j := by
  have hStep : 0 ≤ cal.step := by
    have hRange := cal.range_bounds
    omega
  unfold Calibration.degrees
  have hScaled : (i : Int) * cal.step ≤ j * cal.step :=
    mul_le_mul_of_nonneg_right (by exact_mod_cast hIndex)
      hStep
  omega

/- On one segment a larger input gives a lower temperature. -/
theorem interpolate_antitone
    {l : Nat}
    {a b : Int}
    (hLow : b ≤ cal.entry l)
    (hHigh : cal.entry (l + 1) < a)
    (hLe : a ≤ b) :
    cal.interpolate l b ≤ cal.interpolate l a := by
  have hStep : 0 ≤ cal.step := by
    have hRange := cal.range_bounds
    omega
  have hRounded :
      RoundedDivision.roundDiv
          (cal.step * (a - cal.entry (l + 1)))
          (cal.entry l - cal.entry (l + 1)) ≤
        RoundedDivision.roundDiv
          (cal.step * (b - cal.entry (l + 1)))
          (cal.entry l - cal.entry (l + 1)) := by
    apply RoundedDivision.roundDiv_mono
    · omega
    · exact mul_le_mul_of_nonneg_left (by omega) hStep
  unfold Calibration.interpolate
  omega

/-
  Two inputs in segments: either they share the segment, or
  the larger input lies in an earlier one.
-/
theorem interpolate_le_interpolate
    {k l : Nat}
    {a b : Int}
    (hIndex : l < cal.last)
    (hLow : a ≤ cal.entry k)
    (hHigh : cal.entry (k + 1) < a)
    (hLow' : b ≤ cal.entry l)
    (hHigh' : cal.entry (l + 1) < b)
    (hLe : a ≤ b) :
    cal.interpolate l b ≤ cal.interpolate k a := by
  rcases lt_trichotomy l k with hEarlier | hSame | hLater
  · calc
      cal.interpolate l b
          ≤ cal.degrees (l + 1) :=
            (cal.interpolate_mem hLow' hHigh').2
      _ ≤ cal.degrees k := cal.degrees_mono hEarlier
      _ ≤ cal.interpolate k a :=
            (cal.interpolate_mem hLow hHigh).1
  · subst hSame
    exact cal.interpolate_antitone hLow' hHigh hLe
  · have hOrder :=
      cal.nonincreasing l hIndex.le (k + 1) hLater
    omega

end MonotoneCalibration

------------------------------------------------------------
-- Antitone Lookup
------------------------------------------------------------

namespace Lookup

variable {cal : MonotoneCalibration}
variable {a b : Int} {s t : Int16}

/- Below the last entry the result is `TEMPERATURE_OVER`. -/
theorem eq_over_of_lt
    (hLookup : Lookup cal.toCalibration a t)
    (hBelow : a < cal.entry cal.last) :
    t = temperatureOver := by
  have hEnds := cal.entry_last_le_entry_zero
  cases hLookup with
  | overRange => rfl
  | underRange hAboveLast => omega
  | last hEntry => omega
  | first hAboveLast => omega
  | segment l hAboveLast => omega

/- Above the first entry the result is `TEMPERATURE_UNDER`. -/
theorem eq_under_of_gt
    (hLookup : Lookup cal.toCalibration a t)
    (hAbove : cal.entry 0 < a) :
    t = temperatureUnder := by
  have hEnds := cal.entry_last_le_entry_zero
  cases hLookup with
  | overRange hBelow => omega
  | underRange => rfl
  | last hEntry => omega
  | first _ hEntry => omega
  | segment l _ hBelowFirst => omega

/- Within the table the result is a temperature. -/
theorem isOrdinary_of_mem
    (hLookup : Lookup cal.toCalibration a t)
    (hLower : cal.entry cal.last ≤ a)
    (hUpper : a ≤ cal.entry 0) :
    IsOrdinary t := by
  have hRange := cal.range_bounds
  cases hLookup with
  | overRange hBelow => omega
  | underRange _ hAbove => omega
  | last _ hValue =>
      have hEnds := cal.degrees_mem (le_refl cal.last)
      apply isOrdinary_of_toInt_le
      omega
  | first _ _ hValue =>
      have hEnds := cal.degrees_mem (Nat.zero_le cal.last)
      apply isOrdinary_of_toInt_le
      omega
  | segment l _ _ hIndex hLow hHigh hValue =>
      have hBounds := cal.interpolate_mem hLow hHigh
      have hEnds := cal.degrees_mem (i := l + 1) (by omega)
      apply isOrdinary_of_toInt_le
      omega

/- Within the table temperatures fall as the input grows. -/
theorem toInt_antitone
    (hLeft : Lookup cal.toCalibration a s)
    (hRight : Lookup cal.toCalibration b t)
    (hLower : cal.entry cal.last ≤ a)
    (hUpper : b ≤ cal.entry 0)
    (hLe : a ≤ b) :
    t.toInt ≤ s.toInt := by
  have hEnds := cal.entry_last_le_entry_zero
  have hOrdinary :=
    hRight.isOrdinary_of_mem (hLower.trans hLe) hUpper
  have hScale :
      cal.start ≤ t.toInt ∧
        t.toInt ≤ cal.start + cal.last * cal.step := by
    rcases hRight.toInt_mem_or_fault with
      hOver | hUnder | hMem
    · exact absurd hOver hOrdinary.2
    · exact absurd hUnder hOrdinary.1
    · exact hMem
  cases hLeft with
  | overRange hBelow => omega
  | underRange _ hAbove => omega
  | last _ hValue =>
      rw [hValue]
      exact hScale.2
  | first hAboveLast hEntry hValue =>
      cases hRight with
      | overRange hBelow => omega
      | underRange _ hAbove => omega
      | last hEntry' => omega
      | first _ _ hValue' => omega
      | segment l _ hBelowFirst => omega
  | segment k hAboveLast _ hIndex hLow hHigh hValue =>
      cases hRight with
      | overRange hBelow => omega
      | underRange _ hAbove => omega
      | last hEntry' => omega
      | first _ _ hValue' =>
          rw [hValue, hValue']
          exact
            (cal.degrees_mono (Nat.zero_le k)).trans
              (cal.interpolate_mem hLow hHigh).1
      | segment l _ _ hIndex' hLow' hHigh' hValue' =>
          rw [hValue, hValue']
          exact
            cal.interpolate_le_interpolate hIndex' hLow
              hHigh hLow' hHigh' hLe

/- A larger input never gives a hotter reading. -/
theorem reading_antitone
    (hLeft : Lookup cal.toCalibration a s)
    (hRight : Lookup cal.toCalibration b t)
    (hLe : a ≤ b) :
    reading t ≤ reading s := by
  by_cases hBelow : a < cal.entry cal.last
  · rw [hLeft.eq_over_of_lt hBelow, reading_temperatureOver]
    exact le_top
  by_cases hAbove : cal.entry 0 < b
  · rw [hRight.eq_under_of_gt hAbove,
      reading_temperatureUnder]
    exact bot_le
  have hLower : cal.entry cal.last ≤ a := not_lt.mp hBelow
  have hUpper : b ≤ cal.entry 0 := not_lt.mp hAbove
  exact
    reading_le_of_toInt_le
      (hRight.isOrdinary_of_mem (hLower.trans hLe) hUpper)
      (hLeft.isOrdinary_of_mem hLower (hLe.trans hUpper))
      (hLeft.toInt_antitone hRight hLower hUpper hLe)

end Lookup

end TemperatureSensor
