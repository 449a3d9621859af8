import TemperatureSensor.Constants
import TemperatureSensor.Foundations.Bisection
import TemperatureSensor.Foundations.FixedWidth
import TemperatureSensor.Foundations.RoundedDivision

/-
  The temperature lookup of `measure_NTC.c`.

  Main declarations:
    * `NtcCalculationData` and `NtcState`
    * `calcTemperatureWith` and `calcTemperature`
    * `Calibration`
    * `Lookup`
    * `calcTemperatureWith_spec`
    * `lookup_of_calcTemperature`
-/

------------------------------------------------------------
-- Calculation Data and Table
------------------------------------------------------------

namespace TemperatureSensor

/- `NTC_Calculation_Data_t`. -/
structure NtcCalculationData where
  ntcR2 : UInt32
  ntcB : Int16
  ntcT2 : Int16
  ntcRDivider : UInt32
  ntcStartTemperature : Int16
  ntcStepTemperature : Int16
  ntcTemperNumberStep : UInt16
  ntcAdcResolution : UInt16
  ntcAdcMultipler : UInt16
deriving DecidableEq, Repr

/- The two static variables of `measure_NTC.c`. -/
structure NtcState where
  ntcParametr : NtcCalculationData
  termoTable : Fin sizeNtcTable → UInt16

namespace NtcState

/-
  `TEMPERATURE_TABLE_READ(i)`: an access past the array is
  `none`.
-/
def temperatureTableRead
    (ntc : NtcState)
    (i : Nat) : Option UInt16 :=
  if hBound : i < sizeNtcTable then
    some (ntc.termoTable ⟨i, hBound⟩)
  else
    none

/- The same access, refused from `NTC_temper_number_step` on. -/
def stepTableRead
    (ntc : NtcState)
    (i : Nat) : Option UInt16 :=
  if i < ntc.ntcParametr.ntcTemperNumberStep.toNat then
    ntc.temperatureTableRead i
  else
    none

/- The table entry at an index, as a number. -/
def entry
    (ntc : NtcState)
    (i : Nat) : Int :=
  match ntc.temperatureTableRead i with
  | some value => value.toNat
  | none => 0

theorem temperatureTableRead_eq_some
    (ntc : NtcState)
    {i : Nat}
    (hBound : i < sizeNtcTable) :
    ∃ value,
      ntc.temperatureTableRead i = some value ∧
        (value.toNat : Int) = ntc.entry i := by
  refine ⟨ntc.termoTable ⟨i, hBound⟩, ?_, ?_⟩
  · simp [temperatureTableRead, hBound]
  · simp [entry, temperatureTableRead, hBound]

/- Table entries are 16-bit values. -/
theorem entry_nonneg
    (ntc : NtcState)
    (i : Nat) :
    0 ≤ ntc.entry i := by
  unfold entry
  split <;> omega

end NtcState

------------------------------------------------------------
-- calc_temperature
------------------------------------------------------------

/-
  `calc_temperature` over an arbitrary table access; `none`
  is an access the table refuses. The locals keep the widths
  of the source: `l` and `r` are 8-bit, the table entries and
  `vd` 16-bit, the rates `int32_t`, the result 16-bit.
-/
def calcTemperatureWith
    (read : Nat → Option UInt16)
    (parametr : NtcCalculationData)
    (adcsum : UInt16) : Option Int16 := do
  let r : UInt8 := (parametr.ntcTemperNumberStep - 1).toUInt8
  let thigh ← read r.toNat
  let startRate : Int := parametr.ntcStartTemperature.toInt
  let stepRate : Int := parametr.ntcStepTemperature.toInt
  if adcsum ≤ thigh then
    if adcsum < thigh then
      some temperatureOver
    else
      some (Int16.ofInt (stepRate * r.toNat + startRate))
  else
    let tlow ← read 0
    if adcsum ≥ tlow then
      if adcsum > tlow then
        some temperatureUnder
      else
        some (Int16.ofInt startRate)
    else
      let (l, r) ←
        Bisection.bisect
          (fun m => (read m).map fun mid => adcsum > mid)
          r.toNat 0 r.toNat
      let vl ← read l
      if adcsum ≥ vl then
        some (Int16.ofInt (l * stepRate + startRate))
      else
        let vr ← read r
        let vd : UInt16 := vl - vr
        let res : Int16 :=
          Int16.ofInt (startRate + r * stepRate)
        if vd ≠ 0 then
          some (Int16.ofInt (res.toInt -
            (stepRate * ((adcsum.toNat : Int) - vr.toNat) +
              (vd >>> 1).toNat).tdiv vd.toNat))
        else
          some res

/- `calc_temperature` on the array of `measure_NTC.c`. -/
def calcTemperature
    (ntc : NtcState)
    (adcsum : UInt16) : Option Int16 :=
  calcTemperatureWith ntc.temperatureTableRead
    ntc.ntcParametr adcsum

------------------------------------------------------------
-- Calibrations
------------------------------------------------------------

/-
  The state that `calculate_table_NTC` leaves for a register
  configuration within the limits of `MAIN_BUF_TABLE`, with
  at least one table step. The entries are arbitrary.
-/
structure Calibration extends NtcState where
  startLower : -40 ≤ ntcParametr.ntcStartTemperature.toInt
  startUpper : ntcParametr.ntcStartTemperature.toInt ≤ 20
  stepLower : 1 ≤ ntcParametr.ntcStepTemperature.toInt
  stepUpper : ntcParametr.ntcStepTemperature.toInt ≤ 5
  numberLower : 1 ≤ ntcParametr.ntcTemperNumberStep.toNat
  numberUpper :
    ntcParametr.ntcTemperNumberStep.toNat ≤ sizeNtcTable

namespace Calibration

/- The start temperature in degrees. -/
def start (cal : Calibration) : Int :=
  cal.ntcParametr.ntcStartTemperature.toInt

/- The temperature step between two table entries. -/
def step (cal : Calibration) : Int :=
  cal.ntcParametr.ntcStepTemperature.toInt

/- The index of the last table entry. -/
def last (cal : Calibration) : Nat :=
  cal.ntcParametr.ntcTemperNumberStep.toNat - 1

/- The temperature assigned to a table entry. -/
def degrees (cal : Calibration) (i : Nat) : Int :=
  cal.start + i * cal.step

/- The temperature on the segment from `l` to `l + 1`. -/
def interpolate
    (cal : Calibration)
    (l : Nat)
    (adcsum : Int) : Int :=
  cal.degrees (l + 1) -
    RoundedDivision.roundDiv
      (cal.step * (adcsum - cal.entry (l + 1)))
      (cal.entry l - cal.entry (l + 1))

theorem last_lt (cal : Calibration) :
    cal.last < sizeNtcTable := by
  have hLower := cal.numberLower
  have hUpper := cal.numberUpper
  unfold last
  omega

/- Every table temperature fits a 16-bit result. -/
theorem degrees_mem
    (cal : Calibration)
    {i : Nat}
    (hIndex : i ≤ cal.last) :
    cal.start ≤ cal.degrees i ∧
      cal.degrees i ≤ cal.start + cal.last * cal.step := by
  have hStep : 0 ≤ cal.step := by
    have hLower := cal.stepLower
    unfold step
    omega
  have hScaled :
      (i : Int) * cal.step ≤ cal.last * cal.step :=
    mul_le_mul_of_nonneg_right (by exact_mod_cast hIndex)
      hStep
  have hSign : 0 ≤ (i : Int) * cal.step :=
    mul_nonneg (by omega) hStep
  unfold degrees
  constructor <;> linarith

/- Ordinary temperatures lie between -40 and 845 degrees. -/
theorem range_bounds (cal : Calibration) :
    -40 ≤ cal.start ∧ cal.start ≤ 20 ∧
      1 ≤ cal.step ∧ cal.step ≤ 5 ∧
      cal.start + cal.last * cal.step ≤ 845 := by
  have hLast : (cal.last : Int) ≤ 165 := by
    have hBound := cal.last_lt
    unfold sizeNtcTable at hBound
    omega
  have hStepLower : 1 ≤ cal.step := cal.stepLower
  have hStepUpper : cal.step ≤ 5 := cal.stepUpper
  have hStartUpper : cal.start ≤ 20 := cal.startUpper
  refine ⟨cal.startLower, hStartUpper, hStepLower,
    hStepUpper, ?_⟩
  have hProduct : cal.last * cal.step ≤ 165 * 5 :=
    mul_le_mul hLast hStepUpper (by omega) (by omega)
  omega

end Calibration

------------------------------------------------------------
-- Lookup Outcomes
------------------------------------------------------------

/-
  What the lookup of an input may return. The `segment` case
  names the bracket that the search ends in; nothing about
  the order of the table is assumed.
-/
inductive Lookup
    (cal : Calibration)
    (adcsum : Int) : Int16 → Prop where
| overRange
    (hBelow : adcsum < cal.entry cal.last) :
    Lookup cal adcsum temperatureOver
| underRange
    (hAboveLast : cal.entry cal.last < adcsum)
    (hAbove : cal.entry 0 < adcsum) :
    Lookup cal adcsum temperatureUnder
| last
    {t : Int16}
    (hEntry : adcsum = cal.entry cal.last)
    (hValue : t.toInt = cal.degrees cal.last) :
    Lookup cal adcsum t
| first
    {t : Int16}
    (hAboveLast : cal.entry cal.last < adcsum)
    (hEntry : adcsum = cal.entry 0)
    (hValue : t.toInt = cal.degrees 0) :
    Lookup cal adcsum t
| segment
    {t : Int16}
    (l : Nat)
    (hAboveLast : cal.entry cal.last < adcsum)
    (hBelowFirst : adcsum < cal.entry 0)
    (hIndex : l < cal.last)
    (hLow : adcsum ≤ cal.entry l)
    (hHigh : cal.entry (l + 1) < adcsum)
    (hValue : t.toInt = cal.interpolate l adcsum) :
    Lookup cal adcsum t

namespace Calibration

variable (cal : Calibration)

/- The narrowed upper index is the last table index. -/
theorem toNat_lastIndex :
    (cal.ntcParametr.ntcTemperNumberStep - 1).toUInt8.toNat =
      cal.last := by
  have hLower := cal.numberLower
  have hUpper := cal.numberUpper
  have hOne :
      (1 : UInt16) ≤ cal.ntcParametr.ntcTemperNumberStep := by
    rw [UInt16.le_iff_toNat_le]
    exact hLower
  have hSub :
      (cal.ntcParametr.ntcTemperNumberStep - 1).toNat =
        cal.last := by
    rw [UInt16.toNat_sub_of_le _ _ hOne]
    rfl
  rw [UInt16.toNat_toUInt8, hSub]
  have hLast := cal.last_lt
  unfold sizeNtcTable at hLast
  omega

/- An access up to the last index is not refused. -/
theorem stepTableRead_of_le
    {i : Nat}
    (hIndex : i ≤ cal.last) :
    cal.stepTableRead i = cal.temperatureTableRead i := by
  have hLower := cal.numberLower
  unfold last at hIndex
  exact if_pos (by omega)

/- A segment temperature lies between its end points. -/
theorem interpolate_mem
    {l : Nat}
    {adcsum : Int}
    (hLow : adcsum ≤ cal.entry l)
    (hHigh : cal.entry (l + 1) < adcsum) :
    cal.degrees l ≤ cal.interpolate l adcsum ∧
      cal.interpolate l adcsum ≤ cal.degrees (l + 1) := by
  have hStep : 0 ≤ cal.step := by
    have hBounds := cal.range_bounds
    omega
  have hWidth : 0 < cal.entry l - cal.entry (l + 1) := by
    omega
  have hUpper :
      RoundedDivision.roundDiv
          (cal.step * (adcsum - cal.entry (l + 1)))
          (cal.entry l - cal.entry (l + 1)) ≤ cal.step := by
    apply RoundedDivision.roundDiv_le hWidth
    exact mul_le_mul_of_nonneg_left (by omega) hStep
  have hLower :
      0 ≤ RoundedDivision.roundDiv
          (cal.step * (adcsum - cal.entry (l + 1)))
          (cal.entry l - cal.entry (l + 1)) := by
    apply RoundedDivision.roundDiv_nonneg hWidth
    exact mul_nonneg hStep (by omega)
  have hNext : cal.degrees (l + 1) =
      cal.degrees l + cal.step := by
    unfold degrees
    push_cast
    ring
  unfold interpolate
  constructor <;> omega

/- At the upper end point a segment is not rounded. -/
theorem interpolate_entry
    {l : Nat}
    (hDrop : cal.entry (l + 1) < cal.entry l) :
    cal.interpolate l (cal.entry l) = cal.degrees l := by
  have hWidth : 0 < cal.entry l - cal.entry (l + 1) := by
    omega
  unfold interpolate degrees
  rw [RoundedDivision.roundDiv_mul_self _ hWidth]
  push_cast
  ring

------------------------------------------------------------
-- Lookup Correctness
------------------------------------------------------------

/-
  The interpolation of the source, in widths that never
  wrap, is the rounded segment temperature.
-/
theorem segmentResult_eq
    {l : Nat}
    {vl vr adcsum : UInt16}
    (hIndex : l < cal.last)
    (hLeft : (vl.toNat : Int) = cal.entry l)
    (hRight : (vr.toNat : Int) = cal.entry (l + 1))
    (hLow : (adcsum.toNat : Int) ≤ cal.entry l)
    (hHigh : cal.entry (l + 1) < adcsum.toNat) :
    (Int16.ofInt
        (cal.start + ((l + 1 : Nat) : Int) *
          cal.step)).toInt -
      (cal.step * ((adcsum.toNat : Int) - vr.toNat) +
        ((vl - vr) >>> 1).toNat).tdiv
          (vl - vr).toNat =
      cal.interpolate l adcsum.toNat := by
  have hRange := cal.range_bounds
  have hNext := cal.degrees_mem (i := l + 1) (by omega)
  have hWidth :
      ((vl - vr).toNat : Int) =
        cal.entry l - cal.entry (l + 1) := by
    rw [UInt16.toNat_sub_of_toNat_le (by omega), hLeft, hRight]
  have hHalf :
      (((vl - vr) >>> 1).toNat : Int) =
        (cal.entry l - cal.entry (l + 1)) / 2 := by
    rw [← hWidth, UInt16.toNat_shiftRight]
    simp [Nat.shiftRight_eq_div_pow]
  have hBase :
      (Int16.ofInt
          (cal.start + ((l + 1 : Nat) : Int) *
            cal.step)).toInt =
        cal.degrees (l + 1) := by
    apply Int16.toInt_ofInt_of_mem
    · change -32768 ≤ cal.degrees (l + 1)
      omega
    · change cal.degrees (l + 1) ≤ 32767
      omega
  have hNumerator :
      0 ≤ cal.step *
            ((adcsum.toNat : Int) - cal.entry (l + 1)) +
          (cal.entry l - cal.entry (l + 1)) / 2 := by
    have hProduct :
        0 ≤ cal.step *
          ((adcsum.toNat : Int) - cal.entry (l + 1)) :=
      mul_nonneg (by omega) (by omega)
    omega
  have hQuotient :
      (cal.step * ((adcsum.toNat : Int) - vr.toNat) +
          ((vl - vr) >>> 1).toNat).tdiv (vl - vr).toNat =
        RoundedDivision.roundDiv
          (cal.step * (adcsum.toNat - cal.entry (l + 1)))
          (cal.entry l - cal.entry (l + 1)) := by
    rw [hHalf, hWidth, hRight,
      Int.tdiv_eq_ediv_of_nonneg hNumerator]
    rfl
  rw [hBase, hQuotient]
  rfl

/- A segment temperature is on the temperature scale. -/
theorem interpolate_bounds
    {l : Nat}
    {adcsum : Int}
    (hIndex : l < cal.last)
    (hLow : adcsum ≤ cal.entry l)
    (hHigh : cal.entry (l + 1) < adcsum) :
    -40 ≤ cal.interpolate l adcsum ∧
      cal.interpolate l adcsum ≤ 845 := by
  have hRange := cal.range_bounds
  have hBounds := cal.interpolate_mem hLow hHigh
  have hEnds := cal.degrees_mem (i := l) (by omega)
  have hNext := cal.degrees_mem (i := l + 1) (by omega)
  constructor
  · omega
  · omega

/- The segment temperature survives the narrowing store. -/
theorem toInt_segmentResult
    {l : Nat}
    {vl vr adcsum : UInt16}
    (hIndex : l < cal.last)
    (hLeft : (vl.toNat : Int) = cal.entry l)
    (hRight : (vr.toNat : Int) = cal.entry (l + 1))
    (hLow : (adcsum.toNat : Int) ≤ cal.entry l)
    (hHigh : cal.entry (l + 1) < adcsum.toNat) :
    (Int16.ofInt
      ((Int16.ofInt
          (cal.start + ((l + 1 : Nat) : Int) *
            cal.step)).toInt -
        (cal.step * ((adcsum.toNat : Int) - vr.toNat) +
          ((vl - vr) >>> 1).toNat).tdiv
            (vl - vr).toNat)).toInt =
      cal.interpolate l adcsum.toNat := by
  have hBounds := cal.interpolate_bounds hIndex hLow hHigh
  rw [cal.segmentResult_eq hIndex hLeft hRight hLow hHigh]
  apply Int16.toInt_ofInt_of_mem
  · omega
  · omega

/- A table temperature survives the 16-bit return value. -/
theorem toInt_ofInt_degrees
    {i : Nat}
    (hIndex : i ≤ cal.last) :
    (Int16.ofInt (cal.degrees i)).toInt = cal.degrees i := by
  have hRange := cal.range_bounds
  have hEnds := cal.degrees_mem hIndex
  apply Int16.toInt_ofInt_of_mem
  · omega
  · omega

end Calibration

/-
  For every table the lookup returns, it reads entries below
  the number of steps only, and its result is one of the
  lookup outcomes.
-/
theorem calcTemperatureWith_spec
    (cal : Calibration)
    {read : Nat → Option UInt16}
    (hRead :
      ∀ i, i ≤ cal.last →
        read i = cal.temperatureTableRead i)
    (adcsum : UInt16) :
    ∃ t,
      calcTemperatureWith read cal.ntcParametr adcsum =
          some t ∧
        Lookup cal adcsum.toNat t := by
  have hLastBound := cal.last_lt
  have hEntry :
      ∀ i, i ≤ cal.last →
        ∃ value, read i = some value ∧
          (value.toNat : Int) = cal.entry i := by
    intro i hIndex
    rw [hRead i hIndex]
    exact cal.temperatureTableRead_eq_some
      (hIndex.trans_lt hLastBound)
  rcases hEntry cal.last le_rfl with
    ⟨thigh, hHighRead, hHighEntry⟩
  rcases hEntry 0 (Nat.zero_le _) with
    ⟨tlow, hLowRead, hLowEntry⟩
  simp only [calcTemperatureWith, cal.toNat_lastIndex,
    hHighRead, hLowRead, Option.bind_eq_bind,
    Option.bind_some]
  by_cases hHigh : adcsum ≤ thigh
  · rw [if_pos hHigh]
    by_cases hOver : adcsum < thigh
    · rw [if_pos hOver]
      refine ⟨_, rfl, Lookup.overRange ?_⟩
      rw [UInt16.lt_iff_toNat_lt] at hOver
      omega
    · rw [if_neg hOver]
      refine ⟨_, rfl, Lookup.last ?_ ?_⟩
      · rw [UInt16.le_iff_toNat_le] at hHigh
        rw [UInt16.lt_iff_toNat_lt] at hOver
        omega
      · rw [mul_comm, add_comm]
        exact cal.toInt_ofInt_degrees le_rfl
  · rw [if_neg hHigh]
    rw [UInt16.le_iff_toNat_le] at hHigh
    have hAboveLast :
        cal.entry cal.last < adcsum.toNat := by
      omega
    by_cases hLow : adcsum ≥ tlow
    · rw [if_pos hLow]
      by_cases hUnder : adcsum > tlow
      · rw [if_pos hUnder]
        refine ⟨_, rfl, Lookup.underRange hAboveLast ?_⟩
        rw [gt_iff_lt, UInt16.lt_iff_toNat_lt] at hUnder
        omega
      · rw [if_neg hUnder]
        refine ⟨_, rfl, Lookup.first hAboveLast ?_ ?_⟩
        · rw [ge_iff_le, UInt16.le_iff_toNat_le] at hLow
          rw [gt_iff_lt, UInt16.lt_iff_toNat_lt] at hUnder
          omega
        · simp [Calibration.degrees, Calibration.start]
    · rw [if_neg hLow]
      rw [ge_iff_le, UInt16.le_iff_toNat_le] at hLow
      have hBelowFirst :
          (adcsum.toNat : Int) < cal.entry 0 := by
        omega
      have hNonempty : 0 < cal.last := by
        by_contra hZero
        have hSame : cal.last = 0 := by omega
        rw [hSame] at hAboveLast
        omega
      rcases Bisection.bisect_spec
          (fun m =>
            (read m).map fun mid => decide (adcsum > mid))
          (fun m => decide (cal.entry m < adcsum.toNat))
          cal.last
          (fun m hLower hUpper => by
            rcases hEntry m hUpper.le with
              ⟨mid, hMidRead, hMidEntry⟩
            rw [hMidRead, Option.map_some]
            congr 2
            rw [gt_iff_lt, UInt16.lt_iff_toNat_lt]
            apply propext
            omega)
          (by omega) hNonempty
          (decide_eq_false (not_lt.mpr hBelowFirst.le))
          (decide_eq_true hAboveLast) with
        ⟨l, r, hSearch, hBracket⟩
      have hAdjacent := hBracket.adjacent
      have hUpper := hBracket.upper
      subst hAdjacent
      have hSegmentLow :
          (adcsum.toNat : Int) ≤ cal.entry l := by
        simpa using hBracket.notAbove
      have hSegmentHigh :
          cal.entry (l + 1) < adcsum.toNat := by
        simpa using hBracket.isAbove
      rcases hEntry l (by omega) with
        ⟨vl, hLeftRead, hLeftEntry⟩
      rcases hEntry (l + 1) hUpper with
        ⟨vr, hRightRead, hRightEntry⟩
      simp only [hSearch, hLeftRead, hRightRead,
        Option.bind_some]
      by_cases hExact : adcsum ≥ vl
      · rw [if_pos hExact]
        rw [ge_iff_le, UInt16.le_iff_toNat_le] at hExact
        have hEqual : (adcsum.toNat : Int) = cal.entry l := by
          omega
        refine ⟨_, rfl,
          Lookup.segment l hAboveLast hBelowFirst (by omega)
            hSegmentLow hSegmentHigh ?_⟩
        rw [hEqual, cal.interpolate_entry (by omega), add_comm]
        exact cal.toInt_ofInt_degrees (by omega)
      · rw [if_neg hExact]
        rw [ge_iff_le, UInt16.le_iff_toNat_le] at hExact
        have hDistinct : vl - vr ≠ 0 :=
          UInt16.sub_ne_zero_of_toNat_lt (by omega)
        rw [if_pos hDistinct]
        refine ⟨_, rfl,
          Lookup.segment l hAboveLast hBelowFirst (by omega)
            hSegmentLow hSegmentHigh ?_⟩
        exact cal.toInt_segmentResult (by omega) hLeftEntry
          hRightEntry hSegmentLow hSegmentHigh

/- Every result of the source is a lookup outcome. -/
theorem lookup_of_calcTemperature
    (cal : Calibration)
    {adcsum : UInt16}
    {t : Int16}
    (hTemperature :
      calcTemperature cal.toNtcState adcsum = some t) :
    Lookup cal adcsum.toNat t := by
  rcases calcTemperatureWith_spec cal (fun _ _ => rfl) adcsum
    with ⟨t', hTemperature', hLookup⟩
  have hSame : t = t' :=
    Option.some.inj (hTemperature.symm.trans hTemperature')
  rw [hSame]
  exact hLookup

end TemperatureSensor
