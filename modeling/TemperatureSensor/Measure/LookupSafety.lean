import TemperatureSensor.Foundations.CheckedInt
import TemperatureSensor.Foundations.CheckedLoop
import TemperatureSensor.Measure.Reading

/-
  `calc_temperature` with its steps checked: an access from
  the number of table steps on, a difference that would wrap,
  a division by zero, a result outside `int16_t` and a search
  that does not end are faults. No table has one.

  Main declarations:
    * `searchGuard` and `searchBody`
    * `calcTemperatureChecked`
    * `calcTemperatureChecked_eq`
    * `calcTemperature_safe`
-/

------------------------------------------------------------
-- Checked Steps
------------------------------------------------------------

namespace TemperatureSensor

/- The 8-bit locals `l` and `r` of the search. -/
structure SearchIndices where
  l : UInt8
  r : UInt8
deriving DecidableEq, Repr

/- The condition of the `while` loop, in `int`. -/
def searchGuard (s : SearchIndices) : Bool :=
  decide ((s.r.toNat : Int) - s.l.toNat > 1)

/- The body of the `while` loop. -/
def searchBody
    (read : Nat → Option UInt16)
    (adcsum : UInt16)
    (s : SearchIndices) : Option SearchIndices := do
  let m : UInt8 :=
    UInt8.ofNat ((s.l.toNat + s.r.toNat) >>> 1)
  let mid ← read m.toNat
  if adcsum > mid then
    some { s with r := m }
  else
    some { s with l := m }

/- An unsigned difference that must not wrap. -/
def subNoWrap (a b : UInt16) : Option UInt16 :=
  if b ≤ a then some (a - b) else none

/- An `int` that must fit the `int16_t` it is stored in. -/
def narrow (n : Int) : Option Int16 :=
  (CheckedInt.fit 16 n).map Int16.ofInt

/-
  `calc_temperature` with at most the given number of rounds
  of its loop; a step that fails its check is `none`.
-/
def calcTemperatureChecked
    (rounds : Nat)
    (ntc : NtcState)
    (adcsum : UInt16) : Option Int16 := do
  let r : UInt8 :=
    (ntc.ntcParametr.ntcTemperNumberStep - 1).toUInt8
  let thigh ← ntc.stepTableRead r.toNat
  let startRate : Int :=
    ntc.ntcParametr.ntcStartTemperature.toInt
  let stepRate : Int :=
    ntc.ntcParametr.ntcStepTemperature.toInt
  if adcsum ≤ thigh then
    if adcsum < thigh then
      some temperatureOver
    else
      narrow (stepRate * r.toNat + startRate)
  else
    let tlow ← ntc.stepTableRead 0
    if adcsum ≥ tlow then
      if adcsum > tlow then
        some temperatureUnder
      else
        narrow startRate
    else
      let s ←
        CheckedLoop.whileLoop searchGuard
          (searchBody ntc.stepTableRead adcsum) rounds ⟨0, r⟩
      let vl ← ntc.stepTableRead s.l.toNat
      if adcsum ≥ vl then
        narrow (s.l.toNat * stepRate + startRate)
      else
        let vr ← ntc.stepTableRead s.r.toNat
        let vd ← subNoWrap vl vr
        let res ← narrow (startRate + s.r.toNat * stepRate)
        let above ← subNoWrap adcsum vr
        if vd = 0 then
          none
        else
          narrow (res.toInt -
            (stepRate * above.toNat +
              (vd >>> 1).toNat).tdiv vd.toNat)

theorem subNoWrap_of_le
    {a b : UInt16}
    (hLe : b ≤ a) :
    subNoWrap a b = some (a - b) :=
  if_pos hLe

theorem narrow_of_mem
    {n : Int}
    (hLower : -40 ≤ n)
    (hUpper : n ≤ 845) :
    narrow n = some (Int16.ofInt n) := by
  unfold narrow CheckedInt.fit
  rw [if_pos ⟨by omega, by omega⟩]
  rfl

------------------------------------------------------------
-- The Search
------------------------------------------------------------

theorem toNat_searchMid
    (s : SearchIndices) :
    (UInt8.ofNat ((s.l.toNat + s.r.toNat) >>> 1)).toNat =
      (s.l.toNat + s.r.toNat) >>> 1 := by
  have hLeft := s.l.toNat_lt
  have hRight := s.r.toNat_lt
  rw [UInt8.toNat_ofNat', Nat.shiftRight_eq_div_pow, pow_one]
  omega

/- A round replaces one of the indices by the middle. -/
theorem searchBody_eq_some
    {read : Nat → Option UInt16}
    {adcsum : UInt16}
    {s t : SearchIndices}
    (hBody : searchBody read adcsum s = some t) :
    ∃ mid,
      read ((s.l.toNat + s.r.toNat) >>> 1) = some mid ∧
        (t.l.toNat, t.r.toNat) =
          if adcsum > mid then
            (s.l.toNat, (s.l.toNat + s.r.toNat) >>> 1)
          else
            ((s.l.toNat + s.r.toNat) >>> 1, s.r.toNat) := by
  rcases Option.bind_eq_some_iff.mp hBody with
    ⟨mid, hMid, hNext⟩
  rw [toNat_searchMid] at hMid
  refine ⟨mid, hMid, ?_⟩
  split at hNext
  · next hAbove =>
      rw [if_pos hAbove, ← Option.some.inj hNext,
        toNat_searchMid]
  · next hBelow =>
      rw [if_neg hBelow, ← Option.some.inj hNext,
        toNat_searchMid]

/-
  A search that ends is the bisection of the lookup; the
  induction is on the rounds that the bisection may take.
-/
theorem bisect_of_whileLoop
    {read read' : Nat → Option UInt16}
    (hRead : ∀ i v, read i = some v → read' i = some v)
    {adcsum : UInt16}
    {rounds rounds' : Nat}
    (hRounds : rounds ≤ rounds')
    {s t : SearchIndices}
    (hLoop :
      CheckedLoop.whileLoop searchGuard
          (searchBody read adcsum) rounds s =
        some t) :
    Bisection.bisect
        (fun m =>
          (read' m).map fun mid => decide (adcsum > mid))
        rounds' s.l.toNat s.r.toNat =
      some (t.l.toNat, t.r.toNat) := by
  induction rounds' generalizing rounds s with
  | zero =>
      rcases CheckedLoop.whileLoop_cases hLoop with
        ⟨-, hSame⟩ | ⟨-, less, u, hLess, -, -⟩
      · rw [hSame, Bisection.bisect]
      · omega
  | succ rounds' ih =>
      rcases CheckedLoop.whileLoop_cases hLoop with
        ⟨hGuard, hSame⟩ |
          ⟨hGuard, less, u, hLess, hBody, hRest⟩
      · have hAdjacent := of_decide_eq_false hGuard
        have hOuter : ¬ s.r.toNat - s.l.toNat > 1 := by omega
        rw [Bisection.bisect, if_neg hOuter, hSame]
      · have hApart := of_decide_eq_true hGuard
        have hInner : s.r.toNat - s.l.toNat > 1 := by omega
        have hTail := ih (by omega) hRest
        rcases searchBody_eq_some hBody with
          ⟨mid, hMid, hNext⟩
        rw [Bisection.bisect, if_pos hInner, hRead _ _ hMid,
          Option.map_some]
        split at hNext
        · next hAbove =>
            rcases Prod.mk.inj hNext with ⟨hL, hR⟩
            simp only [hAbove, decide_true]
            rwa [hL, hR] at hTail
        · next hBelow =>
            rcases Prod.mk.inj hNext with ⟨hL, hR⟩
            simp only [hBelow, decide_false]
            rwa [hL, hR] at hTail

namespace Calibration

variable (cal : Calibration)

theorem stepTableRead_eq_some
    {i : Nat}
    (hIndex : i ≤ cal.last) :
    ∃ value,
      cal.stepTableRead i = some value ∧
        (value.toNat : Int) = cal.entry i := by
  rw [cal.stepTableRead_of_le hIndex]
  exact
    cal.temperatureTableRead_eq_some
      (hIndex.trans_lt cal.last_lt)

/-
  The indices of the search bracket the input. This alone,
  and no order of the table, is kept by a round.
-/
structure Brackets
    (adcsum : UInt16)
    (s : SearchIndices) : Prop where
  order : s.l.toNat < s.r.toNat
  upper : s.r.toNat ≤ cal.last
  low : (adcsum.toNat : Int) ≤ cal.entry s.l.toNat
  high : cal.entry s.r.toNat < adcsum.toNat

theorem searchBody_brackets
    {adcsum : UInt16}
    {s : SearchIndices}
    (hBrackets : cal.Brackets adcsum s)
    (hGuard : searchGuard s = true) :
    ∃ t,
      searchBody cal.stepTableRead adcsum s = some t ∧
        cal.Brackets adcsum t ∧
          t.r.toNat - t.l.toNat < s.r.toNat - s.l.toNat := by
  have hUpper := hBrackets.upper
  have hMid := toNat_searchMid s
  have hApart := of_decide_eq_true hGuard
  unfold searchBody
  generalize
    UInt8.ofNat ((s.l.toNat + s.r.toNat) >>> 1) = m at hMid ⊢
  rw [Nat.shiftRight_eq_div_pow, pow_one] at hMid
  have hAfter : s.l.toNat < m.toNat := by omega
  have hBefore : m.toNat < s.r.toNat := by omega
  rcases cal.stepTableRead_eq_some
      (i := m.toNat) (by omega) with
    ⟨mid, hRead, hEntry⟩
  by_cases hAbove : adcsum > mid
  · refine
      ⟨{ s with r := m }, by simp [hRead, hAbove], ?_, ?_⟩
    · rw [gt_iff_lt, UInt16.lt_iff_toNat_lt] at hAbove
      have hHigh : cal.entry m.toNat < adcsum.toNat := by
        omega
      exact
        ⟨hAfter, hBefore.le.trans hUpper, hBrackets.low, hHigh⟩
    · change m.toNat - s.l.toNat < s.r.toNat - s.l.toNat
      omega
  · refine
      ⟨{ s with l := m }, by simp [hRead, hAbove], ?_, ?_⟩
    · rw [gt_iff_lt, UInt16.lt_iff_toNat_lt] at hAbove
      have hLow : (adcsum.toNat : Int) ≤ cal.entry m.toNat := by
        omega
      exact ⟨hBefore, hUpper, hLow, hBrackets.high⟩
    · change s.r.toNat - m.toNat < s.r.toNat - s.l.toNat
      omega

/-
  Between the first and the last entry the search ends, in
  two adjacent indices that bracket the input.
-/
theorem search_total
    {adcsum : UInt16}
    {s : SearchIndices}
    (hBrackets : cal.Brackets adcsum s)
    {rounds : Nat}
    (hRounds : s.r.toNat - s.l.toNat ≤ rounds) :
    ∃ t,
      CheckedLoop.whileLoop searchGuard
          (searchBody cal.stepTableRead adcsum) rounds s =
        some t ∧
      cal.Brackets adcsum t ∧
        t.r.toNat = t.l.toNat + 1 := by
  rcases CheckedLoop.whileLoop_total
      (fun s : SearchIndices => s.r.toNat - s.l.toNat)
      (fun s hInv hGuard => cal.searchBody_brackets hInv hGuard)
      hBrackets hRounds with
    ⟨t, hLoop, hEnd, hGuard⟩
  have hAdjacent := of_decide_eq_false hGuard
  have hOrder := hEnd.order
  exact ⟨t, hLoop, hEnd, by omega⟩

end Calibration

------------------------------------------------------------
-- The Checked Lookup
------------------------------------------------------------

namespace Calibration

variable (cal : Calibration)

theorem narrow_degrees
    {i : Nat}
    (hIndex : i ≤ cal.last) :
    narrow (cal.degrees i) =
      some (Int16.ofInt (cal.degrees i)) := by
  have hRange := cal.range_bounds
  have hEnds := cal.degrees_mem hIndex
  apply narrow_of_mem
  · omega
  · omega

/-
  In a bracket no check of the interpolation fails: neither
  difference wraps, and the divisor is not zero.
-/
theorem segmentChecked_eq
    {l : Nat}
    {vl vr adcsum : UInt16}
    (hIndex : l < cal.last)
    (hLeft : (vl.toNat : Int) = cal.entry l)
    (hRight : (vr.toNat : Int) = cal.entry (l + 1))
    (hLow : (adcsum.toNat : Int) ≤ cal.entry l)
    (hHigh : cal.entry (l + 1) < adcsum.toNat) :
    ((subNoWrap vl vr).bind fun vd =>
      (narrow (cal.degrees (l + 1))).bind fun res =>
        (subNoWrap adcsum vr).bind fun above =>
          if vd = 0 then
            none
          else
            narrow (res.toInt -
              (cal.step * above.toNat +
                (vd >>> 1).toNat).tdiv vd.toNat)) =
      some (Int16.ofInt
        ((Int16.ofInt (cal.degrees (l + 1))).toInt -
          (cal.step * ((adcsum.toNat : Int) - vr.toNat) +
            ((vl - vr) >>> 1).toNat).tdiv
              (vl - vr).toNat)) := by
  have hOrder : vr ≤ vl := by
    rw [UInt16.le_iff_toNat_le]
    omega
  have hAbove : vr ≤ adcsum := by
    rw [UInt16.le_iff_toNat_le]
    omega
  have hDivisor : vl - vr ≠ 0 :=
    UInt16.sub_ne_zero_of_toNat_lt (by omega)
  have hDifference :=
    UInt16.toNat_sub_of_toNat_le
      (UInt16.le_iff_toNat_le.mp hAbove)
  have hBounds := cal.interpolate_bounds hIndex hLow hHigh
  have hResult :=
    cal.segmentResult_eq hIndex hLeft hRight hLow hHigh
  rw [subNoWrap_of_le hOrder, Option.bind_some,
    cal.narrow_degrees hIndex, Option.bind_some,
    subNoWrap_of_le hAbove, Option.bind_some,
    if_neg hDivisor, hDifference]
  apply narrow_of_mem
  · exact hResult.symm ▸ hBounds.1
  · exact hResult.symm ▸ hBounds.2

/-
  Strictly between the last and the first entry the search of
  the checked lookup and that of the lookup agree.
-/
theorem search_agrees
    {adcsum : UInt16}
    (hAboveLast : cal.entry cal.last < adcsum.toNat)
    (hBelowFirst : (adcsum.toNat : Int) < cal.entry 0)
    {r : UInt8}
    (hUpper : r.toNat = cal.last)
    {rounds : Nat}
    (hRounds : cal.last ≤ rounds) :
    ∃ t,
      CheckedLoop.whileLoop searchGuard
          (searchBody cal.stepTableRead adcsum) rounds
          ⟨0, r⟩ =
        some t ∧
      Bisection.bisect
          (fun m =>
            (cal.temperatureTableRead m).map fun mid =>
              decide (adcsum > mid))
          cal.last 0 cal.last =
        some (t.l.toNat, t.r.toNat) ∧
      cal.Brackets adcsum t ∧
        t.r.toNat = t.l.toNat + 1 := by
  have hNonempty : 0 < cal.last := by
    by_contra hZero
    have hSame : cal.last = 0 := by omega
    rw [hSame] at hAboveLast
    omega
  have hStart : cal.Brackets adcsum ⟨0, r⟩ := by
    constructor
    · exact hUpper.symm ▸ hNonempty
    · exact hUpper.le
    · exact hBelowFirst.le
    · exact hUpper.symm ▸ hAboveLast
  have hEnough : r.toNat - (0 : UInt8).toNat ≤ cal.last :=
    hUpper.le
  rcases cal.search_total hStart hEnough with
    ⟨t, hLoop, hEnd, hAdjacent⟩
  have hReads :
      ∀ i v, cal.stepTableRead i = some v →
        cal.temperatureTableRead i = some v := by
    intro i v hRead
    unfold NtcState.stepTableRead at hRead
    split at hRead
    · exact hRead
    · cases hRead
  have hSearch := bisect_of_whileLoop hReads le_rfl hLoop
  change
    Bisection.bisect _ cal.last 0 r.toNat = _ at hSearch
  rw [hUpper] at hSearch
  exact
    ⟨t, CheckedLoop.whileLoop_mono hRounds hLoop, hSearch,
      hEnd, hAdjacent⟩

end Calibration

/- With enough rounds the checks change nothing. -/
theorem calcTemperatureChecked_eq
    (cal : Calibration)
    {rounds : Nat}
    (hRounds : cal.last ≤ rounds)
    (adcsum : UInt16) :
    calcTemperatureChecked rounds cal.toNtcState adcsum =
      calcTemperature cal.toNtcState adcsum := by
  rcases cal.stepTableRead_eq_some le_rfl with
    ⟨thigh, hHighRead, hHighEntry⟩
  rcases cal.stepTableRead_eq_some (Nat.zero_le _) with
    ⟨tlow, hLowRead, hLowEntry⟩
  simp only [calcTemperatureChecked, calcTemperature,
    calcTemperatureWith, cal.toNat_lastIndex, hHighRead,
    hLowRead, ← cal.stepTableRead_of_le le_rfl,
    ← cal.stepTableRead_of_le (Nat.zero_le _),
    Option.bind_eq_bind, Option.bind_some]
  by_cases hHigh : adcsum ≤ thigh
  · rw [if_pos hHigh, if_pos hHigh]
    by_cases hOver : adcsum < thigh
    · rw [if_pos hOver, if_pos hOver]
    · rw [if_neg hOver, if_neg hOver, mul_comm, add_comm]
      exact cal.narrow_degrees le_rfl
  · rw [if_neg hHigh, if_neg hHigh]
    rw [UInt16.le_iff_toNat_le] at hHigh
    by_cases hLow : adcsum ≥ tlow
    · rw [if_pos hLow, if_pos hLow]
      by_cases hUnder : adcsum > tlow
      · rw [if_pos hUnder, if_pos hUnder]
      · rw [if_neg hUnder, if_neg hUnder]
        have hFirst := cal.narrow_degrees (Nat.zero_le _)
        simpa [Calibration.degrees, Calibration.start]
          using hFirst
    · rw [if_neg hLow, if_neg hLow]
      rw [ge_iff_le, UInt16.le_iff_toNat_le] at hLow
      have hAboveLast :
          cal.entry cal.last < adcsum.toNat := by
        omega
      have hBelowFirst :
          (adcsum.toNat : Int) < cal.entry 0 := by
        omega
      rcases cal.search_agrees hAboveLast hBelowFirst
          cal.toNat_lastIndex hRounds with
        ⟨⟨l, r⟩, hLoop, hSearch, hEnd, hAdjacent⟩
      have hUpper := hEnd.upper
      have hBelow := hEnd.low
      have hAbove := hEnd.high
      change r.toNat = l.toNat + 1 at hAdjacent
      rw [hAdjacent] at hUpper hAbove hSearch
      have hIndex : l.toNat < cal.last := hUpper
      rcases cal.stepTableRead_eq_some hIndex.le with
        ⟨vl, hLeftRead, hLeftEntry⟩
      rcases cal.stepTableRead_eq_some hUpper with
        ⟨vr, hRightRead, hRightEntry⟩
      simp only [hLoop, hSearch, hAdjacent, hLeftRead,
        hRightRead, ← cal.stepTableRead_of_le hIndex.le,
        ← cal.stepTableRead_of_le hUpper, Option.bind_some]
      by_cases hExact : adcsum ≥ vl
      · rw [if_pos hExact, if_pos hExact, add_comm]
        exact cal.narrow_degrees hIndex.le
      · have hDistinct : vl - vr ≠ 0 :=
          UInt16.sub_ne_zero_of_toNat_lt (by
            change (adcsum.toNat : Int) ≤ cal.entry l.toNat
              at hBelow
            omega)
        rw [if_neg hExact, if_neg hExact, if_pos hDistinct]
        exact
          cal.segmentChecked_eq hIndex hLeftEntry hRightEntry
            hBelow hAbove

------------------------------------------------------------
-- Safety on Every Table
------------------------------------------------------------

/-
  A fault code, or a temperature between those of the first
  and the last entry, without the label of the fault codes.
-/
def OnScaleOrFault (cal : Calibration) (t : Int16) : Prop :=
  t = temperatureOver ∨ t = temperatureUnder ∨
    (cal.start ≤ t.toInt ∧
        t.toInt ≤ cal.start + cal.last * cal.step) ∧
      ¬ HasErrorLabel t.toUInt16

theorem Lookup.onScaleOrFault
    {cal : Calibration}
    {adcsum : Int}
    {t : Int16}
    (hLookup : Lookup cal adcsum t) :
    OnScaleOrFault cal t := by
  have hRange := cal.range_bounds
  rcases hLookup.toInt_mem_or_fault with hOver | hUnder | hMem
  · exact Or.inl hOver
  · exact Or.inr (Or.inl hUnder)
  · refine Or.inr (Or.inr ⟨hMem, ?_⟩)
    rw [hasErrorLabel_toUInt16_iff]
    omega

/-
  On every table, in any order, the search ends and no check
  fails, so the checked lookup returns what the lookup does.
-/
theorem calcTemperature_safe
    (cal : Calibration)
    (adcsum : UInt16) :
    ∃ t,
      (∀ rounds, cal.last ≤ rounds →
          calcTemperatureChecked rounds cal.toNtcState adcsum =
            some t) ∧
        calcTemperature cal.toNtcState adcsum = some t ∧
          OnScaleOrFault cal t := by
  rcases calcTemperatureWith_spec cal (fun _ _ => rfl) adcsum
    with ⟨t, hTemperature, hLookup⟩
  refine ⟨t, ?_, hTemperature, hLookup.onScaleOrFault⟩
  intro rounds hRounds
  rw [calcTemperatureChecked_eq cal hRounds]
  exact hTemperature

end TemperatureSensor
