import TemperatureSensor.Foundations.CheckedInt
import TemperatureSensor.Registers.Store

/-
  The delay before `zigbee_enable`, which is to keep the
  sensors of an installation from joining all at once.

  Main declarations:
    * `startDelay`
    * `slot`
    * `Staggered`
    * `staggered_iff`
-/

------------------------------------------------------------
-- Start Delays
------------------------------------------------------------

namespace TemperatureSensor

/-
  The argument of the last `K_MSEC` of `main`, in `int` of 32
  bits; an overflow is an error.
-/
def startDelay (mbBufMain : Registers) : Option Int :=
  CheckedInt.add 32
    (CheckedInt.add 32 (some delayAfterPowerTestMs)
      (CheckedInt.mul 32 (some timeBetweenNextConnectionMs)
        (some (mbBufMain regZigbeeAddr1NSensPoint).toNat)))
    (CheckedInt.mul 32
      (CheckedInt.mul 32 (some timeBetweenNextConnectionMs)
        (some maxSensorInRouter))
      (some (mbBufMain regZigbeeAddr0NPanel).toNat))

/- The number of a sensor, counted over all panels. -/
def slot (mbBufMain : Registers) : Nat :=
  (mbBufMain regZigbeeAddr1NSensPoint).toNat +
    16 * (mbBufMain regZigbeeAddr0NPanel).toNat

/- The last slot whose delay is an `int`. -/
def lastSlot : Nat := 429494

/- Every sensor has the delay of its slot. -/
theorem startDelay_eq
    (mbBufMain : Registers) :
    startDelay mbBufMain =
      CheckedInt.fit 32
        (delayAfterPowerTestMs +
          timeBetweenNextConnectionMs * slot mbBufMain) := by
  have hFactor :
      CheckedInt.mul 32 (some timeBetweenNextConnectionMs)
          (some maxSensorInRouter) =
        some 80000 := by
    decide
  have hFirst :
      some delayAfterPowerTestMs =
        CheckedInt.fit 32 delayAfterPowerTestMs := by
    decide
  unfold startDelay slot
  generalize (mbBufMain regZigbeeAddr1NSensPoint).toNat =
    point
  generalize (mbBufMain regZigbeeAddr0NPanel).toNat = panel
  have hTotal :
      delayAfterPowerTestMs +
            timeBetweenNextConnectionMs * point +
          80000 * panel =
        delayAfterPowerTestMs +
          timeBetweenNextConnectionMs *
            (point + 16 * panel : Nat) := by
    unfold timeBetweenNextConnectionMs
    omega
  rw [hFactor, hFirst, CheckedInt.mul_some,
    CheckedInt.mul_some, ← hTotal]
  unfold delayAfterPowerTestMs timeBetweenNextConnectionMs
  rw [CheckedInt.add_fit (by omega) (by omega),
    CheckedInt.add_fit (by omega) (by omega)]

theorem startDelay_eq_some_iff
    (mbBufMain : Registers)
    (delay : Int) :
    startDelay mbBufMain = some delay ↔
      delay =
          delayAfterPowerTestMs +
            timeBetweenNextConnectionMs * slot mbBufMain ∧
        slot mbBufMain ≤ lastSlot := by
  have hBound :
      delayAfterPowerTestMs +
            timeBetweenNextConnectionMs * slot mbBufMain <
          (2 ^ (32 - 1) : Int) ↔
        slot mbBufMain ≤ lastSlot := by
    unfold delayAfterPowerTestMs timeBetweenNextConnectionMs
      lastSlot
    omega
  rw [startDelay_eq,
    CheckedInt.fit_eq_some_iff (by
      unfold delayAfterPowerTestMs timeBetweenNextConnectionMs
      omega),
    hBound, eq_comm]

------------------------------------------------------------
-- Staggered Joining
------------------------------------------------------------

/-
  Both delays are computed, and they leave the time of one
  connection between the sensors.
-/
def Staggered (mb mb' : Registers) : Prop :=
  ∃ delay delay',
    startDelay mb = some delay ∧
      startDelay mb' = some delay' ∧
        (0 ≤ delay ∧ 0 ≤ delay') ∧
          timeBetweenNextConnectionMs ≤ |delay - delay'|

/- Different slots are apart by at least one connection. -/
theorem apart_iff_slot_ne
    (mb mb' : Registers) :
    timeBetweenNextConnectionMs ≤
        |(delayAfterPowerTestMs +
              timeBetweenNextConnectionMs * slot mb : Int) -
            (delayAfterPowerTestMs +
              timeBetweenNextConnectionMs * slot mb')| ↔
      slot mb ≠ slot mb' := by
  rw [CheckedInt.le_abs_sub_iff_ne
    (show 0 < timeBetweenNextConnectionMs by decide), Ne,
    Int.natCast_inj]

theorem Staggered.slots
    {mb mb' : Registers}
    (hStaggered : Staggered mb mb') :
    slot mb ≠ slot mb' ∧
      slot mb ≤ lastSlot ∧ slot mb' ≤ lastSlot := by
  rcases hStaggered with
    ⟨delay, delay', hDelay, hDelay', -, hApart⟩
  rcases (startDelay_eq_some_iff mb delay).mp hDelay with
    ⟨rfl, hLast⟩
  rcases (startDelay_eq_some_iff mb' delay').mp hDelay' with
    ⟨rfl, hLast'⟩
  exact ⟨(apart_iff_slot_ne mb mb').mp hApart, hLast, hLast'⟩

theorem staggered_of_slots
    {mb mb' : Registers}
    (hDiffer : slot mb ≠ slot mb')
    (hLast : slot mb ≤ lastSlot)
    (hLast' : slot mb' ≤ lastSlot) :
    Staggered mb mb' := by
  refine
    ⟨_, _, (startDelay_eq_some_iff mb _).mpr ⟨rfl, hLast⟩,
      (startDelay_eq_some_iff mb' _).mpr ⟨rfl, hLast'⟩, ?_,
      (apart_iff_slot_ne mb mb').mpr hDiffer⟩
  unfold delayAfterPowerTestMs timeBetweenNextConnectionMs
  constructor
  · omega
  · omega

/-
  Two sensors are staggered exactly if they are in different
  slots, and no later than the last one.
-/
theorem staggered_iff
    (mb mb' : Registers) :
    Staggered mb mb' ↔
      slot mb ≠ slot mb' ∧
        slot mb ≤ lastSlot ∧ slot mb' ≤ lastSlot := by
  constructor
  · exact Staggered.slots
  · rintro ⟨hDiffer, hLast, hLast'⟩
    exact staggered_of_slots hDiffer hLast hLast'

/-
  Up to the maximum of the table and the capacity of a
  router, different sensors have different slots.
-/
theorem staggered_of_numbered
    {mb mb' : Registers}
    (hPoint :
      (mb regZigbeeAddr1NSensPoint).toNat < 16 ∧
        (mb' regZigbeeAddr1NSensPoint).toNat < 16)
    (hPanel :
      (mb regZigbeeAddr0NPanel).toNat ≤ 0xFF ∧
        (mb' regZigbeeAddr0NPanel).toNat ≤ 0xFF)
    (hDiffer :
      mb regZigbeeAddr0NPanel ≠ mb' regZigbeeAddr0NPanel ∨
        mb regZigbeeAddr1NSensPoint ≠
          mb' regZigbeeAddr1NSensPoint) :
    Staggered mb mb' := by
  simp only [ne_eq, ← UInt16.toNat_inj] at hDiffer
  apply staggered_of_slots
  · unfold slot
    omega
  · unfold slot lastSlot
    omega
  · unfold slot lastSlot
    omega

------------------------------------------------------------
-- Admitted Addresses
------------------------------------------------------------

/- A store that holds the two words of an address. -/
def addressStore (panel point : UInt16) : UserMem :=
  Function.update
    (Function.update (fun _ => none) regZigbeeAddr0NPanel.val
      (some panel))
    regZigbeeAddr1NSensPoint.val (some point)

/- The registers after a boot from this store. -/
def addressBoot (panel point : UInt16) : Registers :=
  (mhBufInit
    ⟨fun _ => 0, addressStore panel point⟩).mbBufMain

/-
  The address registers have a maximum but no limit flag:
  every request may write them, and a boot keeps all words.
-/
theorem address_admitted
    (panel point : UInt16) :
    (limitCheck regZigbeeAddr0NPanel panel = .regOk ∧
        limitCheck regZigbeeAddr1NSensPoint point = .regOk) ∧
      addressBoot panel point regZigbeeAddr0NPanel = panel ∧
        addressBoot panel point regZigbeeAddr1NSensPoint =
          point := by
  have hPanel :=
    limitCheck_of_free (r := regZigbeeAddr0NPanel) (by decide)
      panel
  have hPoint :=
    limitCheck_of_free (r := regZigbeeAddr1NSensPoint)
      (by decide) point
  have hBoot :=
    mhBufInit_repaired
      ⟨fun _ => 0, addressStore panel point⟩
  have hOther :
      regZigbeeAddr0NPanel.val ≠
        regZigbeeAddr1NSensPoint.val := by
    decide
  refine ⟨⟨hPanel, hPoint⟩, ?_, ?_⟩
  · unfold addressBoot
    rw [hBoot.value _ (by decide)]
    simp [addressStore, Function.update_of_ne hOther,
      restoredValue, hPanel]
  · unfold addressBoot
    rw [hBoot.value _ (by decide)]
    simp [addressStore, restoredValue, hPoint]

/-
  The sensor after the last one of a panel is the first one
  of the next panel.
-/
theorem nextPanel_not_staggered :
    ¬ ∀ panel point panel' point' : UInt16,
      (panel, point) ≠ (panel', point') →
        Staggered (addressBoot panel point)
          (addressBoot panel' point') := by
  intro hClaim
  rcases address_admitted 0 16 with ⟨-, hPanel, hPoint⟩
  rcases address_admitted 1 0 with ⟨-, hPanel', hPoint'⟩
  have hStaggered := hClaim 0 16 1 0 (by decide)
  apply hStaggered.slots.1
  unfold slot
  rw [hPanel, hPoint, hPanel', hPoint']
  rfl

end TemperatureSensor
