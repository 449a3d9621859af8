import TemperatureSensor.Constants
import Mathlib.Data.Fintype.Basic
import Mathlib.Tactic.DeriveFintype

/-
  The register table of `modbus_x_macros.h` and the checks
  that read it.

  Main declarations:
    * `mainBufTable` and `defaultState`
    * `eeSaveCheck`, `writeCheck`, `limitCheck`
    * `limitCheck_default`
-/

------------------------------------------------------------
-- The Register Table
------------------------------------------------------------

namespace TemperatureSensor

/- Number of registers of `MBbuf_main`. -/
abbrev numBuf : Nat := 120

/- `MBbuf_main`. -/
abbrev Registers := Fin numBuf → UInt16

/- An index into `MBbuf_main`; past the array it is `none`. -/
def register? (i : Nat) : Option (Fin numBuf) :=
  if hBound : i < numBuf then some ⟨i, hBound⟩ else none

/- Permission bits of a register. -/
def readR : Nat := 0x00

def writeR : Nat := 0x01

def eeSaveR : Nat := 0x02

def limSign : Nat := 0x04

def limUnsign : Nat := 0x08

def limMask : Nat := 0x0C

/- `t_default_state`. -/
structure TDefaultState where
  defaultValue : UInt16
  minLevel : UInt16
  maxLevelMask : UInt16
  permission : Nat
deriving DecidableEq, Repr

def edAgingTimeout2Min : UInt16 := 1

def edAgingTimeout64Min : UInt16 := 6

def edAgingTimeout16384Min : UInt16 := 14

/- `MAIN_BUF_TABLE`: register number and `X_BUF` row. -/
def mainBufTable : List (Nat × TDefaultState) := [
  (0, ⟨0, 0, 0, readR⟩),
  (1, ⟨0, 0, 0, readR⟩),
  (20, ⟨0, 0, 0, readR⟩),
  (29, ⟨0, 0, 0, writeR⟩),
  (40, ⟨ziSetModeBitDefault, 0, 0, writeR ||| eeSaveR⟩),
  (41, ⟨ziSetChannelDefault, 11, 26,
    writeR ||| eeSaveR ||| limUnsign⟩),
  (42, ⟨ziSetWaitTimeSDefault, 0, 0, writeR ||| eeSaveR⟩),
  (47, ⟨edAgingTimeout64Min, edAgingTimeout2Min,
    edAgingTimeout16384Min,
    writeR ||| eeSaveR ||| limUnsign⟩),
  (60, ⟨0, 0, 0, readR⟩),
  (61, ⟨0, 0, 0, readR⟩),
  (62, ⟨0, 0, 0, readR⟩),
  (63, ⟨0, 0, 0, readR⟩),
  (64, ⟨0, 0, 0, readR⟩),
  (65, ⟨0, 0, 0, readR⟩),
  (66, ⟨0, 0, 0, readR⟩),
  (67, ⟨0, 0, 0, readR⟩),
  (70, ⟨0, 0, 0xFF, writeR ||| eeSaveR⟩),
  (71, ⟨1, 0, 0xFF, writeR ||| eeSaveR⟩),
  (72, ⟨0xF4, 0, 0xFF, writeR ||| eeSaveR⟩),
  (73, ⟨0xCE, 0, 0xFF, writeR ||| eeSaveR⟩),
  (74, ⟨0x47, 0, 0xFF, writeR ||| eeSaveR⟩),
  (75, ⟨0xCA, 0, 0xFF, writeR ||| eeSaveR⟩),
  (76, ⟨0x36, 0, 0xFF, writeR ||| eeSaveR⟩),
  (77, ⟨0x5B, 0, 0xFF, writeR ||| eeSaveR⟩),
  (80, ⟨0x0102, 0, 0xFFFF, writeR ||| eeSaveR⟩),
  (81, ⟨0x0304, 0, 0xFFFF, writeR ||| eeSaveR⟩),
  (82, ⟨0x0506, 0, 0xFFFF, writeR ||| eeSaveR⟩),
  (83, ⟨0x0708, 0, 0xFFFF, writeR ||| eeSaveR⟩),
  (84, ⟨0x090A, 0, 0xFFFF, writeR ||| eeSaveR⟩),
  (85, ⟨0x0B0C, 0, 0xFFFF, writeR ||| eeSaveR⟩),
  (86, ⟨0x0D0E, 0, 0xFFFF, writeR ||| eeSaveR⟩),
  (87, ⟨0x0F11, 0, 0xFFFF, writeR ||| eeSaveR⟩),
  (90, ⟨50000, 0, 0xFFFF, writeR ||| eeSaveR⟩),
  (91, ⟨0, 0, 0xFFFF, writeR ||| eeSaveR⟩),
  (92, ⟨20000, 0, 0xFFFF, writeR ||| eeSaveR⟩),
  (93, ⟨0, 0, 0xFFFF, writeR ||| eeSaveR⟩),
  (94, ⟨3950, 0, 0xFFFF, writeR ||| eeSaveR⟩),
  (95, ⟨25, 0, 0xFFFF, writeR ||| eeSaveR⟩),
  (96, ⟨-10, -40, 20, writeR ||| eeSaveR ||| limSign⟩),
  (97, ⟨1, 1, 5, writeR ||| eeSaveR ||| limUnsign⟩),
  (98, ⟨136, 0, UInt16.ofNat sizeNtcTable,
    writeR ||| eeSaveR ||| limUnsign⟩),
  (119, ⟨0, 0, 0, readR⟩)]

/- Register numbers that the modelled functions name. -/
def regT0Channel : Nat := 1

def regZigbeeConnectStatus : Fin numBuf := 20

def regSendCommand : Fin numBuf := 29

def regZigbeeSetMode : Fin numBuf := 40

def regZigbeeSetChannel : Fin numBuf := 41

def regZigbeeTimeout : Fin numBuf := 47

/- `Reg_Zigbee_FICR_Addr_0 + i`. -/
def regZigbeeFicrAddr (i : Fin 8) : Fin numBuf :=
  ⟨60 + i.val, by unfold numBuf; omega⟩

/- `Reg_Zigbee_Addr_0_N_Panel + i`. -/
def regZigbeeAddr (i : Fin 8) : Fin numBuf :=
  ⟨70 + i.val, by unfold numBuf; omega⟩

def regZigbeeAddr0NPanel : Fin numBuf := 70

def regZigbeeAddr1NSensPoint : Fin numBuf := 71

/- `Reg_Zigbee_Code_0 + i`. -/
def regZigbeeCode (i : Fin 8) : Fin numBuf :=
  ⟨80 + i.val, by unfold numBuf; omega⟩

def regNtcR2ValueW1 : Fin numBuf := 90

def regNtcR2ValueW2 : Fin numBuf := 91

def regNtcRDividerW1 : Fin numBuf := 92

def regNtcRDividerW2 : Fin numBuf := 93

def regNtcBValue : Fin numBuf := 94

def regNtcT2Value : Fin numBuf := 95

def regNtcStartTemperature : Fin numBuf := 96

def regNtcStepTemperature : Fin numBuf := 97

def regNtcTemperNumberStep : Fin numBuf := 98

/-
  `default_state`: registers without a row are zero, so they
  are read-only, not saved and not limited.
-/
def defaultState (r : Fin numBuf) : TDefaultState :=
  match mainBufTable.find? (fun row => row.1 == r.val) with
  | some row => row.2
  | none => ⟨0, 0, 0, readR⟩

------------------------------------------------------------
-- Register Checks
------------------------------------------------------------

/- `Reg_Error_Code`. -/
inductive RegErrorCode where
| regOk
| regErr
deriving DecidableEq, Repr

/- `EESave_Check`. -/
def eeSaveCheck (numberReg : Fin numBuf) : RegErrorCode :=
  if (defaultState numberReg).permission &&& eeSaveR ≠ 0 then
    .regOk
  else
    .regErr

/- `Write_Check`. -/
def writeCheck (numberReg : Fin numBuf) : RegErrorCode :=
  if (defaultState numberReg).permission &&& writeR ≠ 0 then
    .regOk
  else
    .regErr

/- `Limit_Check`. -/
def limitCheck
    (numberReg : Fin numBuf)
    (value : UInt16) : RegErrorCode :=
  let state := defaultState numberReg
  match state.permission &&& limMask with
  | 0x0C =>
      if value &&& ~~~state.maxLevelMask ≠ 0 then .regErr
      else .regOk
  | 0x04 =>
      if value.toInt16 > state.maxLevelMask.toInt16 ∨
          value.toInt16 < state.minLevel.toInt16 then
        .regErr
      else
        .regOk
  | 0x08 =>
      if value > state.maxLevelMask ∨
          value < state.minLevel then
        .regErr
      else
        .regOk
  | _ => .regOk

/- The register carries a limit flag. -/
def HasLimit (r : Fin numBuf) : Prop :=
  (defaultState r).permission &&& limMask ≠ 0

instance (r : Fin numBuf) : Decidable (HasLimit r) := by
  unfold HasLimit
  infer_instance

------------------------------------------------------------
-- Facts of the Table
------------------------------------------------------------

/- Every default passes its own limit check. -/
theorem limitCheck_default :
    ∀ r : Fin numBuf,
      limitCheck r (defaultState r).defaultValue = .regOk := by
  decide +kernel

/- Limited registers are saved registers. -/
theorem eeSaveCheck_of_hasLimit :
    ∀ r : Fin numBuf,
      HasLimit r → eeSaveCheck r = .regOk := by
  decide +kernel

/- Saved registers are writable registers. -/
theorem writeCheck_of_eeSaveCheck :
    ∀ r : Fin numBuf,
      eeSaveCheck r = .regOk → writeCheck r = .regOk := by
  decide +kernel

/- `LIM_SIGN` compares the limits as signed values. -/
theorem limitCheck_eq_regOk_iff_of_limSign
    {r : Fin numBuf}
    (hFlag :
      (defaultState r).permission &&& limMask = limSign)
    (value : UInt16) :
    limitCheck r value = .regOk ↔
      (defaultState r).minLevel.toInt16 ≤ value.toInt16 ∧
        value.toInt16 ≤
          (defaultState r).maxLevelMask.toInt16 := by
  unfold limitCheck
  simp only [hFlag, limSign]
  split
  · next hOutside =>
      simp only [reduceCtorEq, false_iff]
      intro hInside
      rcases hOutside with hAbove | hBelow
      · exact Int16.not_le.mpr hAbove hInside.2
      · exact Int16.not_le.mpr hBelow hInside.1
  · next hInside =>
      simp only [true_iff]
      rcases not_or.mp hInside with ⟨hAbove, hBelow⟩
      exact ⟨Int16.not_lt.mp hBelow, Int16.not_lt.mp hAbove⟩

/- `LIM_UNSIGN` compares them as unsigned values. -/
theorem limitCheck_eq_regOk_iff_of_limUnsign
    {r : Fin numBuf}
    (hFlag :
      (defaultState r).permission &&& limMask = limUnsign)
    (value : UInt16) :
    limitCheck r value = .regOk ↔
      (defaultState r).minLevel ≤ value ∧
        value ≤ (defaultState r).maxLevelMask := by
  unfold limitCheck
  simp only [hFlag, limUnsign]
  split
  · next hOutside =>
      simp only [reduceCtorEq, false_iff]
      intro hInside
      rcases hOutside with hAbove | hBelow
      · exact UInt16.not_le.mpr hAbove hInside.2
      · exact UInt16.not_le.mpr hBelow hInside.1
  · next hInside =>
      simp only [true_iff]
      rcases not_or.mp hInside with ⟨hAbove, hBelow⟩
      exact ⟨UInt16.not_lt.mp hBelow, UInt16.not_lt.mp hAbove⟩

/- The value lies within the limits that the flag selects. -/
structure WithinLimit
    (r : Fin numBuf)
    (value : UInt16) : Prop where
  signed :
    (defaultState r).permission &&& limMask = limSign →
      (defaultState r).minLevel.toInt16 ≤ value.toInt16 ∧
        value.toInt16 ≤
          (defaultState r).maxLevelMask.toInt16
  unsigned :
    (defaultState r).permission &&& limMask = limUnsign →
      (defaultState r).minLevel ≤ value ∧
        value ≤ (defaultState r).maxLevelMask

/- No row of the table limits by a mask. -/
theorem limitFlag_cases :
    ∀ r : Fin numBuf,
      (defaultState r).permission &&& limMask = 0 ∨
        (defaultState r).permission &&& limMask = limSign ∨
          (defaultState r).permission &&& limMask =
            limUnsign := by
  decide +kernel

/- Without a limit flag every value passes. -/
theorem limitCheck_of_free
    {r : Fin numBuf}
    (hFree : (defaultState r).permission &&& limMask = 0)
    (value : UInt16) :
    limitCheck r value = .regOk := by
  simp [limitCheck, hFree]

/- `Limit_Check` decides the limits of the table. -/
theorem limitCheck_eq_regOk_iff
    (r : Fin numBuf)
    (value : UInt16) :
    limitCheck r value = .regOk ↔ WithinLimit r value := by
  rcases limitFlag_cases r with hFree | hSign | hUnsign
  · have hCheck := limitCheck_of_free hFree value
    refine iff_of_true hCheck ⟨?_, ?_⟩
    · intro hFlag
      rw [hFree] at hFlag
      exact absurd hFlag (by decide)
    · intro hFlag
      rw [hFree] at hFlag
      exact absurd hFlag (by decide)
  · rw [limitCheck_eq_regOk_iff_of_limSign hSign]
    constructor
    · intro hInside
      refine ⟨fun _ => hInside, ?_⟩
      intro hFlag
      rw [hSign] at hFlag
      exact absurd hFlag (by decide)
    · exact fun hWithin => hWithin.signed hSign
  · rw [limitCheck_eq_regOk_iff_of_limUnsign hUnsign]
    constructor
    · intro hInside
      refine ⟨?_, fun _ => hInside⟩
      intro hFlag
      rw [hUnsign] at hFlag
      exact absurd hFlag (by decide)
    · exact fun hWithin => hWithin.unsigned hUnsign

end TemperatureSensor
