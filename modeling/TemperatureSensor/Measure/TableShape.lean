import TemperatureSensor.Measure.Reading
import TemperatureSensor.Measure.TableBuild

/-
  The shape of the generated table: every entry is the
  rounded share of the sensor in the converter's range, and
  the entries never rise.

  Main declarations:
    * `SensorData`
    * `tableEntry_spec`
    * `Generated`
    * `TableShape`
    * `exists_monotoneCalibration`
    * `calculateTableNTC_tableShape`
-/

------------------------------------------------------------
-- Resistances
------------------------------------------------------------

namespace TemperatureSensor

/-
  Calculation data of a sensor whose resistance falls with
  the temperature, over a scale above absolute zero.
-/
structure SensorData (d : NtcCalculationData) : Prop
    extends FromAdcInit d where
  b : 0 < d.ntcB.toInt
  r2 : d.ntcR2.toNat ≠ 0
  rDivider : d.ntcRDivider.toNat ≠ 0
  start : -40 ≤ d.ntcStartTemperature.toInt
  step : 1 ≤ d.ntcStepTemperature.toInt

theorem SensorData.clampNumberStep
    {d : NtcCalculationData}
    (hData : SensorData d) :
    SensorData (clampNumberStep d) := by
  unfold TemperatureSensor.clampNumberStep
  split
  · exact
      ⟨⟨hData.multipler, hData.resolution⟩, hData.b,
        hData.r2, hData.rDivider, hData.start, hData.step⟩
  · exact hData

theorem toNat_clampNumberStep
    (d : NtcCalculationData) :
    (clampNumberStep d).ntcTemperNumberStep.toNat =
      min d.ntcTemperNumberStep.toNat sizeNtcTable := by
  have hSize :
      (UInt16.ofNat sizeNtcTable).toNat = sizeNtcTable := by
    decide
  unfold clampNumberStep
  split
  · next hMore =>
      rw [gt_iff_lt, UInt16.lt_iff_toNat_lt, hSize] at hMore
      change (UInt16.ofNat sizeNtcTable).toNat = _
      omega
  · next hLess =>
      rw [gt_iff_lt, UInt16.lt_iff_toNat_lt, hSize] at hLess
      omega

section Shape

variable {K : Type} [Field K] [LinearOrder K]
variable [IsStrictOrderedRing K]
variable {exp : K → K}
variable {d : NtcCalculationData}

/- A hotter entry has a smaller resistance. -/
theorem sensorResistance_antitone
    (hMono : Monotone exp)
    (hData : SensorData d)
    {i j : Nat}
    (hIndex : i ≤ j) :
    sensorResistance exp d j ≤ sensorResistance exp d i := by
  have hStart : (-40 : K) ≤ d.ntcStartTemperature.toInt := by
    exact_mod_cast hData.start
  have hStep : (0 : K) ≤ d.ntcStepTemperature.toInt := by
    have hLower := hData.step
    exact_mod_cast (by omega : 0 ≤ d.ntcStepTemperature.toInt)
  have hB : (0 : K) ≤ d.ntcB.toInt := by
    exact_mod_cast hData.b.le
  have hScaled :
      (i : K) * d.ntcStepTemperature.toInt ≤
        j * d.ntcStepTemperature.toInt :=
    mul_le_mul_of_nonneg_right (by exact_mod_cast hIndex)
      hStep
  have hOffset :
      (0 : K) ≤ i * d.ntcStepTemperature.toInt :=
    mul_nonneg (Nat.cast_nonneg _) hStep
  unfold sensorResistance
  apply mul_le_mul_of_nonneg_left _ (Nat.cast_nonneg _)
  apply hMono
  apply sub_le_sub_right
  apply div_le_div_of_nonneg_left hB
  · linarith
  · linarith

/- The share of a resistance in series with a divider. -/
theorem div_add_mono
    {r s c : K}
    (hResistance : 0 ≤ r)
    (hDivider : 0 < c)
    (hLe : r ≤ s) :
    r / (r + c) ≤ s / (s + c) := by
  rw [div_le_div_iff₀ (by linarith) (by linarith)]
  nlinarith

/- The exact value that an entry is rounded from. -/
def exactEntry
    (exp : K → K)
    (d : NtcCalculationData)
    (i : Nat) : K :=
  4096 *
    (sensorResistance exp d i /
      (sensorResistance exp d i + d.ntcRDivider.toNat))

theorem exactEntry_mem
    (hPositive : ∀ x, 0 < exp x)
    (hData : SensorData d)
    (i : Nat) :
    0 ≤ exactEntry exp d i ∧ exactEntry exp d i ≤ 4096 := by
  have hResistance :=
    sensorResistance_nonneg hPositive d i
  have hDivider : (0 : K) < d.ntcRDivider.toNat :=
    Nat.cast_pos.mpr (Nat.pos_of_ne_zero hData.rDivider)
  have hLower :=
    div_nonneg hResistance (add_nonneg hResistance hDivider.le)
  have hUpper :
      sensorResistance exp d i /
          (sensorResistance exp d i + d.ntcRDivider.toNat) ≤
        1 := by
    rw [div_le_one (by linarith)]
    linarith
  unfold exactEntry
  constructor
  · linarith
  · linarith

/- What is computed for a hotter entry is not larger. -/
theorem exactEntry_antitone
    (hPositive : ∀ x, 0 < exp x)
    (hMono : Monotone exp)
    (hData : SensorData d)
    {i j : Nat}
    (hIndex : i ≤ j) :
    exactEntry exp d j ≤ exactEntry exp d i := by
  have hDivider : (0 : K) < d.ntcRDivider.toNat :=
    Nat.cast_pos.mpr (Nat.pos_of_ne_zero hData.rDivider)
  unfold exactEntry
  apply mul_le_mul_of_nonneg_left _ (by norm_num)
  exact
    div_add_mono (sensorResistance_nonneg hPositive d j)
      hDivider (sensorResistance_antitone hMono hData hIndex)

------------------------------------------------------------
-- Entries
------------------------------------------------------------

variable [FloorSemiring K]

/- The folded quotient of the source rounds halves up. -/
theorem tableEntry_spec
    (hPositive : ∀ x, 0 < exp x)
    (hData : SensorData d)
    (i : Nat) :
    ∃ value,
      tableEntry exp d i = some value ∧
        RoundedDivision.IsNearest (exactEntry exp d i)
          value.toNat := by
  have hResistance :=
    sensorResistance_nonneg hPositive d i
  have hDivider : (0 : K) < d.ntcRDivider.toNat :=
    Nat.cast_pos.mpr (Nat.pos_of_ne_zero hData.rDivider)
  have hTotal :
      sensorResistance exp d i + d.ntcRDivider.toNat ≠ 0 := by
    linarith
  have hRange := exactEntry_mem hPositive hData i
  have hQuotient :
      (sensorResistance exp d i * 1 * 4096 * 2 +
            sensorResistance exp d i + d.ntcRDivider.toNat) /
          (2 * (sensorResistance exp d i +
            d.ntcRDivider.toNat)) =
        exactEntry exp d i + 1 / 2 := by
    rw [exactEntry, ← mul_div_assoc,
      ← RoundedDivision.two_mul_add_div_two_mul _ hTotal]
    congr 1
    ring
  have hNearest :
      RoundedDivision.IsNearest (exactEntry exp d i)
        ⌊exactEntry exp d i + 1 / 2⌋₊ :=
    RoundedDivision.isNearest_floor (by linarith)
  have hBound : ⌊exactEntry exp d i + 1 / 2⌋₊ < 65536 := by
    rw [Nat.floor_lt (by linarith)]
    push_cast
    linarith
  refine ⟨UInt16.ofNat ⌊exactEntry exp d i + 1 / 2⌋₊, ?_, ?_⟩
  · rw [tableEntry_eq hData.toFromAdcInit,
      checkedDiv_of_ne_zero (mul_ne_zero two_ne_zero hTotal),
      Option.bind_some, hQuotient]
    apply if_pos
    constructor
    · linarith
    · linarith
  · rw [UInt16.toNat_ofNat_of_lt' hBound]
    exact hNearest

------------------------------------------------------------
-- The Table
------------------------------------------------------------

theorem tableWrite_eq_some
    {termoTable table : Fin sizeNtcTable → UInt16}
    {i : Nat}
    {value : UInt16}
    (hWrite : tableWrite termoTable i value = some table) :
    ∃ hBound : i < sizeNtcTable,
      table = Function.update termoTable ⟨i, hBound⟩ value := by
  unfold tableWrite at hWrite
  split at hWrite
  · next hBound =>
      exact ⟨hBound, (Option.some.inj hWrite).symm⟩
  · cases hWrite

/-
  The loop stores every computed entry below the number of
  steps, and nothing else.
-/
omit [IsStrictOrderedRing K] in
theorem entries_of_forEach
    {termoTable table : Fin sizeNtcTable → UInt16}
    {steps : Nat}
    (hLoop :
      CheckedLoop.forEach
          (fun table i =>
            (tableEntry exp d i).bind (tableWrite table i))
          (List.range steps) termoTable =
        some table)
    (i : Fin sizeNtcTable) :
    (i < steps → tableEntry exp d i = some (table i)) ∧
      (steps ≤ i → table i = termoTable i) := by
  have hCells :=
    CheckedLoop.forEach_cells
      (fun table : Fin sizeNtcTable → UInt16 =>
        fun j : Nat =>
          if hBound : j < sizeNtcTable then table ⟨j, hBound⟩
          else 0)
      (R := fun j _ new => tableEntry exp d j = some new)
      (fun s j t hBody => by
        rcases Option.bind_eq_some_iff.mp hBody with
          ⟨value, hValue, hWrite⟩
        rcases tableWrite_eq_some hWrite with ⟨hBound, rfl⟩
        simp [hBound, hValue])
      (fun s j t k hBody hOther => by
        rcases Option.bind_eq_some_iff.mp hBody with
          ⟨value, -, hWrite⟩
        rcases tableWrite_eq_some hWrite with ⟨hBound, rfl⟩
        split
        · apply Function.update_of_ne
          simpa using hOther
        · rfl)
      List.nodup_range hLoop
  constructor
  · intro hStep
    simpa using hCells.1 i (List.mem_range.mpr hStep)
  · intro hBehind
    simpa using hCells.2 i (by simpa using hBehind)

/- The function clamps its data before it uses them. -/
omit [IsStrictOrderedRing K] in
theorem calculateTableNTC_clampNumberStep
    (exp : K → K)
    (termoTable : Fin sizeNtcTable → UInt16)
    (d : NtcCalculationData) :
    calculateTableNTC exp termoTable (clampNumberStep d) =
      calculateTableNTC exp termoTable d := by
  have hClamped :
      clampNumberStep (clampNumberStep d) =
        clampNumberStep d := by
    apply clampNumberStep_of_le
    rw [toNat_clampNumberStep]
    exact min_le_right _ _
  unfold calculateTableNTC
  rw [hClamped]

theorem clampNumberStep_le
    (d : NtcCalculationData) :
    (clampNumberStep d).ntcTemperNumberStep.toNat ≤
      sizeNtcTable := by
  rw [toNat_clampNumberStep]
  exact min_le_right _ _

/-
  A table in which the entries below the number of steps are
  the computed ones, over a previous table.
-/
structure Generated
    (exp : K → K)
    (termoTable : Fin sizeNtcTable → UInt16)
    (ntc : NtcState) : Prop where
  number :
    ntc.ntcParametr.ntcTemperNumberStep.toNat ≤ sizeNtcTable
  stored :
    ∀ i : Fin sizeNtcTable,
      i < ntc.ntcParametr.ntcTemperNumberStep.toNat →
        tableEntry exp ntc.ntcParametr i =
          some (ntc.termoTable i)
  kept :
    ∀ i : Fin sizeNtcTable,
      ntc.ntcParametr.ntcTemperNumberStep.toNat ≤ i →
        ntc.termoTable i = termoTable i

omit [IsStrictOrderedRing K] in
theorem generated_of_calculateTableNTC
    {termoTable : Fin sizeNtcTable → UInt16}
    {ntc : NtcState}
    (hBuild : calculateTableNTC exp termoTable d = some ntc) :
    ntc.ntcParametr = clampNumberStep d ∧
      Generated exp termoTable ntc := by
  rcases Option.bind_eq_some_iff.mp hBuild with
    ⟨table, hLoop, hState⟩
  cases hState
  refine ⟨rfl, clampNumberStep_le d, ?_, ?_⟩
  · intro i
    exact (entries_of_forEach hLoop i).1
  · intro i
    exact (entries_of_forEach hLoop i).2

------------------------------------------------------------
-- The Shape
------------------------------------------------------------

theorem NtcState.entry_val
    (ntc : NtcState)
    (i : Fin sizeNtcTable) :
    ntc.entry i = (ntc.termoTable i).toNat := by
  simp [NtcState.entry, NtcState.temperatureTableRead]

namespace Generated

variable {termoTable : Fin sizeNtcTable → UInt16}
variable {ntc : NtcState}

theorem isNearest_entry
    (hPositive : ∀ x, 0 < exp x)
    (hGenerated : Generated exp termoTable ntc)
    (hData : SensorData ntc.ntcParametr)
    {i : Nat}
    (hStep :
      i < ntc.ntcParametr.ntcTemperNumberStep.toNat) :
    RoundedDivision.IsNearest
      (exactEntry exp ntc.ntcParametr i) (ntc.entry i) := by
  have hIndex := hStep.trans_le hGenerated.number
  rcases tableEntry_spec hPositive hData i with
    ⟨value, hValue, hNearest⟩
  have hStored := hGenerated.stored ⟨i, hIndex⟩ hStep
  rw [hValue, Option.some.injEq] at hStored
  have hEntry := ntc.entry_val ⟨i, hIndex⟩
  change ntc.entry i = _ at hEntry
  rw [hEntry, ← hStored]
  exact hNearest

theorem entry_antitone
    (hPositive : ∀ x, 0 < exp x)
    (hMono : Monotone exp)
    (hGenerated : Generated exp termoTable ntc)
    (hData : SensorData ntc.ntcParametr)
    {i j : Nat}
    (hIndex : i ≤ j)
    (hStep :
      j < ntc.ntcParametr.ntcTemperNumberStep.toNat) :
    ntc.entry j ≤ ntc.entry i :=
  (hGenerated.isNearest_entry hPositive hData hStep).mono
    (hGenerated.isNearest_entry hPositive hData
      (hIndex.trans_lt hStep))
    (exactEntry_antitone hPositive hMono hData hIndex)

omit [IsStrictOrderedRing K] in
/- Behind the last step an all-zero table stays zero. -/
theorem entry_eq_zero
    (hGenerated : Generated exp termoTable ntc)
    (hZero : ∀ j, termoTable j = 0)
    {i : Nat}
    (hBehind :
      ntc.ntcParametr.ntcTemperNumberStep.toNat ≤ i) :
    ntc.entry i = 0 := by
  by_cases hIndex : i < sizeNtcTable
  · have hEntry := ntc.entry_val ⟨i, hIndex⟩
    rw [hGenerated.kept ⟨i, hIndex⟩ hBehind, hZero] at hEntry
    exact hEntry
  · simp [NtcState.entry, NtcState.temperatureTableRead,
      hIndex]

end Generated

/-
  The entries below the number of steps are rounded from
  their exact values and never rise. The entry behind the
  last one counts in a table that was all zero before, as the
  static array is at boot.
-/
structure TableShape
    (exp : K → K)
    (termoTable : Fin sizeNtcTable → UInt16)
    (ntc : NtcState) : Prop where
  nearest :
    ∀ i, i < ntc.ntcParametr.ntcTemperNumberStep.toNat →
      RoundedDivision.IsNearest
        (exactEntry exp ntc.ntcParametr i) (ntc.entry i)
  atMost :
    ∀ i, i < ntc.ntcParametr.ntcTemperNumberStep.toNat →
      ntc.entry i ≤ 4096
  descending :
    ∀ i, i < ntc.ntcParametr.ntcTemperNumberStep.toNat →
      (i + 1 < ntc.ntcParametr.ntcTemperNumberStep.toNat ∨
          ∀ j, termoTable j = 0) →
        ntc.entry (i + 1) ≤ ntc.entry i

theorem Generated.tableShape
    {termoTable : Fin sizeNtcTable → UInt16}
    {ntc : NtcState}
    (hPositive : ∀ x, 0 < exp x)
    (hMono : Monotone exp)
    (hGenerated : Generated exp termoTable ntc)
    (hData : SensorData ntc.ntcParametr) :
    TableShape exp termoTable ntc := by
  have hNearest :
      ∀ i, i < ntc.ntcParametr.ntcTemperNumberStep.toNat →
        RoundedDivision.IsNearest
          (exactEntry exp ntc.ntcParametr i) (ntc.entry i) :=
    fun i hStep =>
      hGenerated.isNearest_entry hPositive hData hStep
  constructor
  · exact hNearest
  · intro i hStep
    have hFull :=
      RoundedDivision.isNearest_intCast (K := K) 4096
    apply (hNearest i hStep).mono hFull
    push_cast
    exact (exactEntry_mem hPositive hData i).2
  · intro i hStep hNext
    by_cases hInside :
        i + 1 < ntc.ntcParametr.ntcTemperNumberStep.toNat
    · exact
        hGenerated.entry_antitone hPositive hMono hData
          (Nat.le_succ i) hInside
    · have hZero := hNext.resolve_left hInside
      rw [hGenerated.entry_eq_zero hZero (by omega)]
      exact ntc.entry_nonneg i

/-
  A calibration from registers of a sensor whose resistance
  falls with the temperature is monotone: the lookup results
  for non-increasing tables apply to it.
-/
theorem exists_monotoneCalibration
    (hPositive : ∀ x, 0 < exp x)
    (hMono : Monotone exp)
    (termoTable : Fin sizeNtcTable → UInt16)
    {mb : Registers}
    (hLimits : WithinLimits mb)
    (hSteps : mb regNtcTemperNumberStep ≠ 0)
    (hData : SensorData (ioAdcInitData mb)) :
    ∃ cal : MonotoneCalibration,
      calculateTableNTC exp termoTable (ioAdcInitData mb) =
          some cal.toNtcState ∧
        cal.ntcParametr = ioAdcInitData mb := by
  have hConfigured : SensorConfigured mb :=
    ⟨hSteps, (resistance_iff mb).mp (Or.inl hData.r2)⟩
  rcases exists_calibration hPositive termoTable hLimits
      hConfigured with
    ⟨cal, hBuild, hParametr⟩
  rcases generated_of_calculateTableNTC hBuild with
    ⟨-, hGenerated⟩
  have hData' : SensorData cal.ntcParametr := by
    rw [hParametr]
    exact hData
  refine
    ⟨{ cal with
       nonincreasing := ?_ },
      hBuild, hParametr⟩
  intro j hLast i hIndex
  have hLower := cal.numberLower
  unfold Calibration.last at hLast
  exact
    hGenerated.entry_antitone hPositive hMono hData' hIndex
      (by omega)

/-
  For a sensor whose resistance falls with the temperature,
  any number of steps and any increasing exponential, the
  table is built in its shape.
-/
theorem calculateTableNTC_tableShape
    (hPositive : ∀ x, 0 < exp x)
    (hMono : Monotone exp)
    (hData : SensorData d)
    (termoTable : Fin sizeNtcTable → UInt16) :
    ∃ ntc,
      calculateTableNTC exp termoTable d = some ntc ∧
        ntc.ntcParametr = clampNumberStep d ∧
          TableShape exp termoTable ntc := by
  have hClamped := hData.clampNumberStep
  rcases (calculateTableNTC_isSome_iff hPositive termoTable
      hClamped.toFromAdcInit (clampNumberStep_le d)).mpr
      (Or.inr (Or.inl hClamped.r2)) with
    ⟨table, hBuild⟩
  rw [calculateTableNTC_clampNumberStep] at hBuild
  rcases generated_of_calculateTableNTC hBuild with
    ⟨hParametr, hGenerated⟩
  refine ⟨_, hBuild, hParametr, ?_⟩
  exact hGenerated.tableShape hPositive hMono hClamped

end Shape

theorem twoStepCalibration_tableShape :
    ∃ ntc,
      calculateTableNTC Real.exp (fun _ => 0)
          twoStepCalibration.ntcParametr =
        some ntc ∧
      ntc.ntcParametr =
          clampNumberStep twoStepCalibration.ntcParametr ∧
        TableShape Real.exp (fun _ => 0) ntc :=
  calculateTableNTC_tableShape Real.exp_pos
    Real.exp_strictMono.monotone
    ⟨⟨rfl, rfl⟩, by decide, by decide, by decide, by decide,
      by decide⟩
    (fun _ => 0)

end TemperatureSensor
