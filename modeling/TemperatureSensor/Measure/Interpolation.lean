import TemperatureSensor.Measure.Reading
import Mathlib.Order.Bounds.Defs

/-
  The lookup of a non-increasing table against the straight
  lines through its entries.

  Main declarations:
    * `Calibration.segmentLine`
    * `NearestDegree`
    * `calcTemperature_nearestDegree`
-/

------------------------------------------------------------
-- Segment Lines
------------------------------------------------------------

namespace TemperatureSensor

namespace Calibration

variable (cal : Calibration)

/-
  The straight line through the entries `l` and `l + 1`, with
  their temperatures, at an exact input.
-/
def segmentLine (l : Nat) (adcsum : ℚ) : ℚ :=
  cal.degrees l +
    (cal.degrees (l + 1) - cal.degrees l) *
      (adcsum - cal.entry l) /
        (cal.entry (l + 1) - cal.entry l)

/- The line, measured from its lower right end point. -/
theorem segmentLine_eq
    {l : Nat}
    (hDrop : cal.entry (l + 1) < cal.entry l)
    (adcsum : Int) :
    cal.segmentLine l adcsum =
      cal.degrees (l + 1) -
        ((cal.step * (adcsum - cal.entry (l + 1)) : Int) : ℚ) /
          ((cal.entry l - cal.entry (l + 1) : Int) : ℚ) := by
  have hStep :
      (cal.degrees (l + 1) : ℚ) =
        cal.degrees l + cal.step := by
    unfold degrees
    push_cast
    ring
  have hWidth :
      (cal.entry l : ℚ) - cal.entry (l + 1) ≠ 0 := by
    rw [sub_ne_zero]
    exact_mod_cast hDrop.ne'
  have hWidth' :
      (cal.entry (l + 1) : ℚ) - cal.entry l ≠ 0 := by
    rw [sub_ne_zero]
    exact_mod_cast hDrop.ne
  unfold segmentLine
  rw [hStep]
  push_cast
  field_simp
  ring

/- Interpolation is off the line by at most half a degree. -/
theorem abs_interpolate_sub_segmentLine_le
    {l : Nat}
    (hDrop : cal.entry (l + 1) < cal.entry l)
    (adcsum : Int) :
    |(cal.interpolate l adcsum : ℚ) -
        cal.segmentLine l adcsum| ≤ 1 / 2 := by
  have hRounded :=
    RoundedDivision.abs_sub_roundDiv_le
      (cal.step * (adcsum - cal.entry (l + 1)))
      (d := cal.entry l - cal.entry (l + 1)) (by omega)
  rw [cal.segmentLine_eq hDrop]
  unfold interpolate
  push_cast at hRounded ⊢
  rw [sub_sub_sub_cancel_left]
  exact hRounded

end Calibration

------------------------------------------------------------
-- Nearest Degrees
------------------------------------------------------------

/-
  Strictly inside the table the result is within half a
  degree of the line of the segment, which starts at the last
  entry that is not below the input. At both ends it is
  exact, and on a strictly decreasing table at every entry.
-/
structure NearestDegree
    (cal : MonotoneCalibration)
    (adcsum : Int)
    (t : Int16) : Prop where
  inside :
    cal.entry cal.last < adcsum → adcsum < cal.entry 0 →
      ∀ l,
        IsGreatest
            {i | i ≤ cal.last ∧ adcsum ≤ cal.entry i} l →
          |(t.toInt : ℚ) - cal.segmentLine l adcsum| ≤ 1 / 2
  last :
    adcsum = cal.entry cal.last →
      t.toInt = cal.degrees cal.last
  first :
    adcsum = cal.entry 0 →
      cal.entry cal.last < cal.entry 0 →
        t.toInt = cal.start
  entries :
    (∀ j, j ≤ cal.last → ∀ i, i < j →
        cal.entry j < cal.entry i) →
      ∀ i, i ≤ cal.last → adcsum = cal.entry i →
        t.toInt = cal.degrees i

namespace Lookup

variable {cal : MonotoneCalibration}
variable {adcsum : Int} {t : Int16}

/- In a non-increasing table the bracket is the only one. -/
theorem eq_of_isGreatest
    {k l : Nat}
    (hIndex : k < cal.last)
    (hLow : adcsum ≤ cal.entry k)
    (hHigh : cal.entry (k + 1) < adcsum)
    (hGreatest :
      IsGreatest
        {i | i ≤ cal.last ∧ adcsum ≤ cal.entry i} l) :
    l = k := by
  rcases hGreatest with ⟨⟨hInside, hAtMost⟩, hUpper⟩
  have hFrom : k ≤ l := hUpper ⟨hIndex.le, hLow⟩
  by_contra hOther
  have hBeyond : k + 1 ≤ l := by omega
  have hOrder := cal.nonincreasing l hInside (k + 1) hBeyond
  omega

/- Strictly inside the table only a segment is left. -/
theorem segment_of_inside
    (hLookup : Lookup cal.toCalibration adcsum t)
    (hAboveLast : cal.entry cal.last < adcsum)
    (hBelowFirst : adcsum < cal.entry 0) :
    ∃ k, k < cal.last ∧ adcsum ≤ cal.entry k ∧
      cal.entry (k + 1) < adcsum ∧
        t.toInt = cal.interpolate k adcsum := by
  cases hLookup with
  | overRange hBelow => omega
  | underRange _ hAbove => omega
  | last hEntry => omega
  | first _ hEntry => omega
  | segment k _ _ hIndex hLow hHigh hValue =>
      exact ⟨k, hIndex, hLow, hHigh, hValue⟩

/- At the last entry the result is its temperature. -/
theorem toInt_of_eq_last
    (hLookup : Lookup cal.toCalibration adcsum t)
    (hEntry : adcsum = cal.entry cal.last) :
    t.toInt = cal.degrees cal.last := by
  cases hLookup with
  | overRange hBelow => omega
  | underRange hAboveLast => omega
  | last _ hValue => exact hValue
  | first hAboveLast => omega
  | segment k hAboveLast => omega

/- At a first entry above the last one it is the start. -/
theorem toInt_of_eq_first
    (hLookup : Lookup cal.toCalibration adcsum t)
    (hEntry : adcsum = cal.entry 0)
    (hDrop : cal.entry cal.last < cal.entry 0) :
    t.toInt = cal.degrees 0 := by
  cases hLookup with
  | overRange hBelow => omega
  | underRange _ hAbove => omega
  | last hLast => omega
  | first _ _ hValue => exact hValue
  | segment k _ hBelowFirst => omega

/- On a strictly decreasing table every entry is exact. -/
theorem toInt_of_eq_entry
    (hLookup : Lookup cal.toCalibration adcsum t)
    (hDecreasing :
      ∀ j, j ≤ cal.last → ∀ i, i < j →
        cal.entry j < cal.entry i)
    {i : Nat}
    (hIndex : i ≤ cal.last)
    (hEntry : adcsum = cal.entry i) :
    t.toInt = cal.degrees i := by
  rcases Nat.eq_or_lt_of_le hIndex with hLast | hInside
  · subst hLast
    exact hLookup.toInt_of_eq_last hEntry
  · have hAboveLast := hDecreasing cal.last le_rfl i hInside
    rcases Nat.eq_zero_or_pos i with hFirst | hPositive
    · subst hFirst
      exact hLookup.toInt_of_eq_first hEntry hAboveLast
    · have hBelowFirst := hDecreasing i hIndex 0 hPositive
      rcases hLookup.segment_of_inside (by omega) (by omega)
        with ⟨k, hSegment, hLow, hHigh, hValue⟩
      have hGreatest :
          IsGreatest
            {j | j ≤ cal.last ∧ adcsum ≤ cal.entry j} i := by
        refine ⟨⟨hIndex, hEntry.le⟩, ?_⟩
        rintro j ⟨hBound, hAtMost⟩
        by_contra hLater
        have hOrder := hDecreasing j hBound i (by omega)
        omega
      have hSame :=
        eq_of_isGreatest hSegment hLow hHigh hGreatest
      subst hSame
      rw [hValue, hEntry]
      exact
        cal.interpolate_entry
          (hDecreasing (i + 1) hSegment i (by omega))

theorem nearestDegree
    (hLookup : Lookup cal.toCalibration adcsum t) :
    NearestDegree cal adcsum t := by
  constructor
  · intro hAboveLast hBelowFirst l hGreatest
    rcases hLookup.segment_of_inside hAboveLast hBelowFirst
      with ⟨k, hIndex, hLow, hHigh, hValue⟩
    have hSame := eq_of_isGreatest hIndex hLow hHigh hGreatest
    subst hSame
    rw [hValue]
    exact
      cal.abs_interpolate_sub_segmentLine_le (by omega) adcsum
  · exact hLookup.toInt_of_eq_last
  · intro hEntry hDrop
    rw [hLookup.toInt_of_eq_first hEntry hDrop]
    simp [Calibration.degrees]
  · intro hDecreasing i hIndex hEntry
    exact hLookup.toInt_of_eq_entry hDecreasing hIndex hEntry

end Lookup

/-
  For every non-increasing table and every input the lookup
  returns the nearest degree of linear interpolation.
-/
theorem calcTemperature_nearestDegree
    (cal : MonotoneCalibration)
    (adcsum : UInt16) :
    ∃ t,
      calcTemperature cal.toNtcState adcsum = some t ∧
        NearestDegree cal adcsum.toNat t := by
  rcases calcTemperatureWith_spec cal.toCalibration
      (fun _ _ => rfl) adcsum with
    ⟨t, hTemperature, hLookup⟩
  exact ⟨t, hTemperature, hLookup.nearestDegree⟩

end TemperatureSensor
