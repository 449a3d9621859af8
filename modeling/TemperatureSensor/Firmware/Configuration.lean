import TemperatureSensor.Firmware.Buffer
import TemperatureSensor.Measure.TableBuild

/-
  The configuration over whole runs: whatever is asked on the
  line, whenever a task is suspended or the sensor restarts,
  the limited registers hold values that the rest of the
  firmware can work with, and so does the store.

  Main declarations:
    * `zbSetEdTimeout` and `networkMask`
    * `ConfigurationValid`
    * `configuration_valid`
-/

------------------------------------------------------------
-- Settings
------------------------------------------------------------

namespace TemperatureSensor

/- `zb_set_ed_timeout`; it asserts that a byte is enough. -/
def zbSetEdTimeout (timeout : UInt16) : Option UInt8 :=
  if timeout.toNat > 0xFF then none else some timeout.toUInt8

/-
  `1UL << channel`, the argument of `zb_set_network_ed_role`;
  undefined if the channel is no bit of a word.
-/
def networkMask (channel : UInt16) : Option UInt32 :=
  if channel.toNat < 32 then some (1 <<< channel.toUInt32)
  else none

namespace Firmware

/- Every limited register admits what is stored for it. -/
def StoreWithinLimits (fs : UserMem) : Prop :=
  ∀ r : Fin numBuf, HasLimit r →
    ∀ value, fs r = some value → limitCheck r value = .regOk

/-
  What the rest of the firmware takes from the registers: a
  timeout and a channel that the Zigbee stack knows, and a
  temperature scale that the table has room for.
-/
structure ConfigurationValid (m : Memory) : Prop where
  registers : WithinLimits m.mbBufMain
  store : StoreWithinLimits m.fs
  timeout :
    ∃ timeout,
      zbSetEdTimeout (m.mbBufMain regZigbeeTimeout) =
          some timeout ∧
        edAgingTimeout2Min.toNat ≤ timeout.toNat ∧
          timeout.toNat ≤ edAgingTimeout16384Min.toNat
  channel :
    ∃ channel, 11 ≤ channel ∧ channel ≤ 26 ∧
      networkMask (m.mbBufMain regZigbeeSetChannel) =
        some (UInt32.ofNat (2 ^ channel))
  scale :
    (-40 ≤ (ioAdcInitData m.mbBufMain).ntcStartTemperature.toInt ∧
        (ioAdcInitData m.mbBufMain).ntcStartTemperature.toInt ≤
          20) ∧
      (1 ≤ (ioAdcInitData m.mbBufMain).ntcStepTemperature.toInt ∧
        (ioAdcInitData m.mbBufMain).ntcStepTemperature.toInt ≤
          5) ∧
      (ioAdcInitData m.mbBufMain).ntcTemperNumberStep.toNat ≤
        sizeNtcTable

theorem timeout_of_withinLimits
    {mb : Registers}
    (hLimits : WithinLimits mb) :
    ∃ timeout,
      zbSetEdTimeout (mb regZigbeeTimeout) = some timeout ∧
        edAgingTimeout2Min.toNat ≤ timeout.toNat ∧
          timeout.toNat ≤ edAgingTimeout16384Min.toNat := by
  have hInside :=
    (limitCheck_eq_regOk_iff_of_limUnsign (by decide) _).mp
      (hLimits regZigbeeTimeout (by decide))
  have hLower := UInt16.le_iff_toNat_le.mp hInside.1
  have hUpper := UInt16.le_iff_toNat_le.mp hInside.2
  change 1 ≤ (mb regZigbeeTimeout).toNat at hLower
  change (mb regZigbeeTimeout).toNat ≤ 14 at hUpper
  have hByte :
      (mb regZigbeeTimeout).toUInt8.toNat =
        (mb regZigbeeTimeout).toNat := by
    rw [UInt16.toNat_toUInt8]
    omega
  refine ⟨(mb regZigbeeTimeout).toUInt8, ?_, ?_, ?_⟩
  · unfold zbSetEdTimeout
    rw [if_neg (by omega)]
  · rw [hByte]
    exact hLower
  · rw [hByte]
    exact hUpper

/- The mask has one bit, that of a channel of the band. -/
theorem channel_of_withinLimits
    {mb : Registers}
    (hLimits : WithinLimits mb) :
    ∃ channel, 11 ≤ channel ∧ channel ≤ 26 ∧
      networkMask (mb regZigbeeSetChannel) =
        some (UInt32.ofNat (2 ^ channel)) := by
  have hInside :=
    (limitCheck_eq_regOk_iff_of_limUnsign (by decide) _).mp
      (hLimits regZigbeeSetChannel (by decide))
  have hLower := UInt16.le_iff_toNat_le.mp hInside.1
  have hUpper := UInt16.le_iff_toNat_le.mp hInside.2
  change 11 ≤ (mb regZigbeeSetChannel).toNat at hLower
  change (mb regZigbeeSetChannel).toNat ≤ 26 at hUpper
  refine
    ⟨(mb regZigbeeSetChannel).toNat, hLower, hUpper, ?_⟩
  unfold networkMask
  rw [if_pos (by omega)]
  congr 1
  apply UInt32.toNat_inj.mp
  have hShift :
      (mb regZigbeeSetChannel).toNat % 32 =
        (mb regZigbeeSetChannel).toNat :=
    Nat.mod_eq_of_lt (by omega)
  rw [UInt32.toNat_shiftLeft, UInt16.toNat_toUInt32,
    UInt32.toNat_ofNat', hShift]
  change 1 <<< _ % 2 ^ 32 = _
  rw [Nat.one_shiftLeft]

theorem configurationValid_of_limits
    {m : Memory}
    (hRegisters : WithinLimits m.mbBufMain)
    (hStore : StoreWithinLimits m.fs) :
    ConfigurationValid m :=
  ⟨hRegisters, hStore, timeout_of_withinLimits hRegisters,
    channel_of_withinLimits hRegisters,
    ioAdcInitData_bounds hRegisters⟩

------------------------------------------------------------
-- Runs
------------------------------------------------------------

/- What every step keeps. -/
structure LimitsKept (m : Memory) : Prop where
  registers : WithinLimits m.mbBufMain
  store : StoreWithinLimits m.fs

theorem limitsKept_mhBufInit
    (m : Memory) :
    LimitsKept (mhBufInit m) := by
  have hRepaired := mhBufInit_repaired m
  refine ⟨hRepaired.limits, ?_⟩
  intro r hLimit value hStored
  rw [hRepaired.stored r (eeSaveCheck_of_hasLimit r hLimit),
    Option.some.injEq] at hStored
  rw [← hStored]
  exact hRepaired.limits r hLimit

theorem LimitsKept.assign
    {m : Memory}
    (hKept : LimitsKept m)
    {r : Fin numBuf}
    {value : UInt16}
    (hAdmitted : HasLimit r → limitCheck r value = .regOk) :
    LimitsKept (m.assign r value) := by
  refine ⟨?_, hKept.store⟩
  intro q hLimit
  rw [Memory.assign_mbBufMain]
  by_cases hSame : q = r
  · subst hSame
    rw [Function.update_self]
    exact hAdmitted hLimit
  · rw [Function.update_of_ne hSame]
    exact hKept.registers q hLimit

theorem LimitsKept.commit
    {m : Memory}
    (hKept : LimitsKept m)
    (r : Fin numBuf) :
    LimitsKept (m.commit r) := by
  refine ⟨hKept.registers, ?_⟩
  intro q hLimit value hStored
  rw [Memory.commit_fs] at hStored
  by_cases hSame : q = r
  · subst hSame
    rw [Function.update_self, Option.some.injEq] at hStored
    rw [← hStored]
    exact hKept.registers q hLimit
  · have hOther : q.val ≠ r.val :=
      fun hEqual => hSame (Fin.ext hEqual)
    rw [Function.update_of_ne hOther] at hStored
    exact hKept.store q hLimit value hStored

/- A frame keeps the limits. -/
theorem withinLimits_of_preserved
    {mb mb' : Registers}
    (hPreserved : Preserved mb mb')
    (hLimits : WithinLimits mb) :
    WithinLimits mb' := by
  intro r hLimit
  rw [limitCheck_eq_regOk_iff]
  apply hPreserved.limits
  rw [← limitCheck_eq_regOk_iff]
  exact hLimits r hLimit

theorem limitsKept_step
    {s t : System}
    {event : Option Event}
    (hInit : s.usb.Initialised)
    (hKept : LimitsKept s.memory)
    (hTransition : Transition s t event) :
    LimitsKept t.memory := by
  cases hTransition with
  | nothing => exact hKept
  | accept frame hFree hIdle => exact hKept
  | fill hSend => exact hKept
  | begin hPc => exact hKept
  | parse rest answer mb' pc hPc hQueue hParse hSave hFree =>
      have hServed := frameServed_of_mbParsing hInit hParse
      exact
        ⟨withinLimits_of_preserved hServed.preserved
          hKept.registers, hKept.store⟩
  | commit r hPc => exact hKept.commit r
  | resume r next hPc hNext => exact hKept
  | finish hPc => exact hKept
  | restart hPc hCommand =>
      unfold sysReboot
      rw [start_memory]
      exact limitsKept_mhBufInit _
  | factoryAssign i r hFrom hNext =>
      exact hKept.assign fun _ => limitCheck_default r
  | factoryCommit r hPc => exact hKept.commit r
  | command hPc =>
      exact
        hKept.assign fun hLimit => absurd hLimit (by decide)
  | publish r value hReadOnly =>
      apply hKept.assign
      intro hLimit
      have hWritable :=
        writeCheck_of_eeSaveCheck r
          (eeSaveCheck_of_hasLimit r hLimit)
      rw [hReadOnly] at hWritable
      cases hWritable

/-
  Whatever the store held at boot, in every reachable state
  of every run the configuration is valid, in the registers
  and in the store; so is the one that `main` takes over
  after any restart.
-/
theorem configuration_valid
    {m : Memory}
    {mbb : MbStruct}
    {actions : List Action}
    {s : System}
    {events : List Event}
    (hRun :
      EventSystem.run step (start m mbb) actions =
        some (s, events)) :
    ConfigurationValid s.memory ∧
      ConfigurationValid (sysReboot s).memory := by
  have hKept : Inv events s ∧ LimitsKept s.memory := by
    have hStart :
        Inv [] (start m mbb) ∧
          LimitsKept (start m mbb).memory := by
      rw [start_memory]
      exact ⟨inv_start m mbb, limitsKept_mhBufInit m⟩
    apply
      EventSystem.run_invariant
        (I := fun history s =>
          Inv history s ∧ LimitsKept s.memory)
        _ hStart hRun
    rintro history s a t event ⟨hInv, hLimits⟩ hStep
    have hTransition := transition_of_step hStep
    exact
      ⟨inv_step hInv hTransition,
        limitsKept_step hInv.initialised hLimits hTransition⟩
  have hAgain : LimitsKept (sysReboot s).memory := by
    unfold sysReboot
    rw [start_memory]
    exact limitsKept_mhBufInit _
  exact
    ⟨configurationValid_of_limits hKept.2.registers
        hKept.2.store,
      configurationValid_of_limits hAgain.registers
        hAgain.store⟩

/- A store with no valid value, and a request. -/
theorem readActions_configuration_valid :
    ∃ s events,
      EventSystem.run step
            (start ⟨mbBufLinked, fun _ => some 0xFFFF⟩
              mbStructZero)
            readActions =
          some (s, events) ∧
        ConfigurationValid s.memory ∧
          ConfigurationValid (sysReboot s).memory := by
  have hEnabled :
      (EventSystem.run step
        (start ⟨mbBufLinked, fun _ => some 0xFFFF⟩
          mbStructZero)
        readActions).isSome = true := by
    decide +kernel
  rcases Option.isSome_iff_exists.mp hEnabled with
    ⟨⟨s, events⟩, hRun⟩
  exact ⟨s, events, hRun, configuration_valid hRun⟩

end Firmware

end TemperatureSensor
