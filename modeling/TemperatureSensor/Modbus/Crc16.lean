import Mathlib.Logic.Function.Iterate

/-
  The table-driven checksum `CRC16` of the Modbus frames.

  Main declarations:
    * `crc16`
    * `auchCRC_eq_crcRounds`
    * `crc16_append_crc16`
-/

------------------------------------------------------------
-- Tables
------------------------------------------------------------

namespace TemperatureSensor

/- `auchCRCHi`, the low bytes of the table entries. -/
def auchCRCHi : List UInt8 := [
  0x00, 0xC1, 0x81, 0x40, 0x01, 0xC0, 0x80, 0x41,
  0x01, 0xC0, 0x80, 0x41, 0x00, 0xC1, 0x81, 0x40,
  0x01, 0xC0, 0x80, 0x41, 0x00, 0xC1, 0x81, 0x40,
  0x00, 0xC1, 0x81, 0x40, 0x01, 0xC0, 0x80, 0x41,
  0x01, 0xC0, 0x80, 0x41, 0x00, 0xC1, 0x81, 0x40,
  0x00, 0xC1, 0x81, 0x40, 0x01, 0xC0, 0x80, 0x41,
  0x00, 0xC1, 0x81, 0x40, 0x01, 0xC0, 0x80, 0x41,
  0x01, 0xC0, 0x80, 0x41, 0x00, 0xC1, 0x81, 0x40,
  0x01, 0xC0, 0x80, 0x41, 0x00, 0xC1, 0x81, 0x40,
  0x00, 0xC1, 0x81, 0x40, 0x01, 0xC0, 0x80, 0x41,
  0x00, 0xC1, 0x81, 0x40, 0x01, 0xC0, 0x80, 0x41,
  0x01, 0xC0, 0x80, 0x41, 0x00, 0xC1, 0x81, 0x40,
  0x00, 0xC1, 0x81, 0x40, 0x01, 0xC0, 0x80, 0x41,
  0x01, 0xC0, 0x80, 0x41, 0x00, 0xC1, 0x81, 0x40,
  0x01, 0xC0, 0x80, 0x41, 0x00, 0xC1, 0x81, 0x40,
  0x00, 0xC1, 0x81, 0x40, 0x01, 0xC0, 0x80, 0x41,
  0x01, 0xC0, 0x80, 0x41, 0x00, 0xC1, 0x81, 0x40,
  0x00, 0xC1, 0x81, 0x40, 0x01, 0xC0, 0x80, 0x41,
  0x00, 0xC1, 0x81, 0x40, 0x01, 0xC0, 0x80, 0x41,
  0x01, 0xC0, 0x80, 0x41, 0x00, 0xC1, 0x81, 0x40,
  0x00, 0xC1, 0x81, 0x40, 0x01, 0xC0, 0x80, 0x41,
  0x01, 0xC0, 0x80, 0x41, 0x00, 0xC1, 0x81, 0x40,
  0x01, 0xC0, 0x80, 0x41, 0x00, 0xC1, 0x81, 0x40,
  0x00, 0xC1, 0x81, 0x40, 0x01, 0xC0, 0x80, 0x41,
  0x00, 0xC1, 0x81, 0x40, 0x01, 0xC0, 0x80, 0x41,
  0x01, 0xC0, 0x80, 0x41, 0x00, 0xC1, 0x81, 0x40,
  0x01, 0xC0, 0x80, 0x41, 0x00, 0xC1, 0x81, 0x40,
  0x00, 0xC1, 0x81, 0x40, 0x01, 0xC0, 0x80, 0x41,
  0x01, 0xC0, 0x80, 0x41, 0x00, 0xC1, 0x81, 0x40,
  0x00, 0xC1, 0x81, 0x40, 0x01, 0xC0, 0x80, 0x41,
  0x00, 0xC1, 0x81, 0x40, 0x01, 0xC0, 0x80, 0x41,
  0x01, 0xC0, 0x80, 0x41, 0x00, 0xC1, 0x81, 0x40]

/- `auchCRCLo`, the high bytes of the table entries. -/
def auchCRCLo : List UInt8 := [
  0x00, 0xC0, 0xC1, 0x01, 0xC3, 0x03, 0x02, 0xC2,
  0xC6, 0x06, 0x07, 0xC7, 0x05, 0xC5, 0xC4, 0x04,
  0xCC, 0x0C, 0x0D, 0xCD, 0x0F, 0xCF, 0xCE, 0x0E,
  0x0A, 0xCA, 0xCB, 0x0B, 0xC9, 0x09, 0x08, 0xC8,
  0xD8, 0x18, 0x19, 0xD9, 0x1B, 0xDB, 0xDA, 0x1A,
  0x1E, 0xDE, 0xDF, 0x1F, 0xDD, 0x1D, 0x1C, 0xDC,
  0x14, 0xD4, 0xD5, 0x15, 0xD7, 0x17, 0x16, 0xD6,
  0xD2, 0x12, 0x13, 0xD3, 0x11, 0xD1, 0xD0, 0x10,
  0xF0, 0x30, 0x31, 0xF1, 0x33, 0xF3, 0xF2, 0x32,
  0x36, 0xF6, 0xF7, 0x37, 0xF5, 0x35, 0x34, 0xF4,
  0x3C, 0xFC, 0xFD, 0x3D, 0xFF, 0x3F, 0x3E, 0xFE,
  0xFA, 0x3A, 0x3B, 0xFB, 0x39, 0xF9, 0xF8, 0x38,
  0x28, 0xE8, 0xE9, 0x29, 0xEB, 0x2B, 0x2A, 0xEA,
  0xEE, 0x2E, 0x2F, 0xEF, 0x2D, 0xED, 0xEC, 0x2C,
  0xE4, 0x24, 0x25, 0xE5, 0x27, 0xE7, 0xE6, 0x26,
  0x22, 0xE2, 0xE3, 0x23, 0xE1, 0x21, 0x20, 0xE0,
  0xA0, 0x60, 0x61, 0xA1, 0x63, 0xA3, 0xA2, 0x62,
  0x66, 0xA6, 0xA7, 0x67, 0xA5, 0x65, 0x64, 0xA4,
  0x6C, 0xAC, 0xAD, 0x6D, 0xAF, 0x6F, 0x6E, 0xAE,
  0xAA, 0x6A, 0x6B, 0xAB, 0x69, 0xA9, 0xA8, 0x68,
  0x78, 0xB8, 0xB9, 0x79, 0xBB, 0x7B, 0x7A, 0xBA,
  0xBE, 0x7E, 0x7F, 0xBF, 0x7D, 0xBD, 0xBC, 0x7C,
  0xB4, 0x74, 0x75, 0xB5, 0x77, 0xB7, 0xB6, 0x76,
  0x72, 0xB2, 0xB3, 0x73, 0xB1, 0x71, 0x70, 0xB0,
  0x50, 0x90, 0x91, 0x51, 0x93, 0x53, 0x52, 0x92,
  0x96, 0x56, 0x57, 0x97, 0x55, 0x95, 0x94, 0x54,
  0x9C, 0x5C, 0x5D, 0x9D, 0x5F, 0x9F, 0x9E, 0x5E,
  0x5A, 0x9A, 0x9B, 0x5B, 0x99, 0x59, 0x58, 0x98,
  0x88, 0x48, 0x49, 0x89, 0x4B, 0x8B, 0x8A, 0x4A,
  0x4E, 0x8E, 0x8F, 0x4F, 0x8D, 0x4D, 0x4C, 0x8C,
  0x44, 0x84, 0x85, 0x45, 0x87, 0x47, 0x46, 0x86,
  0x82, 0x42, 0x43, 0x83, 0x41, 0x81, 0x80, 0x40]

------------------------------------------------------------
-- Checksum
------------------------------------------------------------

/- `uchCRCHi` and `uchCRCLo`. -/
structure CrcState where
  uchCRCHi : UInt8
  uchCRCLo : UInt8
deriving DecidableEq, Repr

/- The loop body of `CRC16`. -/
def crcByte
    (crc : CrcState)
    (puchMsg : UInt8) : CrcState :=
  let uIndex := crc.uchCRCLo ^^^ puchMsg
  { uchCRCHi := auchCRCLo.getD uIndex.toNat 0
    uchCRCLo :=
      crc.uchCRCHi ^^^ auchCRCHi.getD uIndex.toNat 0 }

/- The two bytes after the loop of `CRC16`. -/
def crcBytes (puchMsg : List UInt8) : CrcState :=
  puchMsg.foldl crcByte ⟨0xFF, 0xFF⟩

/- `CRC16`. -/
def crc16 (puchMsg : List UInt8) : UInt16 :=
  (crcBytes puchMsg).uchCRCHi.toUInt16 <<< 8 |||
    (crcBytes puchMsg).uchCRCLo.toUInt16

/- One bit of the polynomial division behind the tables. -/
def crcRound (crc : UInt16) : UInt16 :=
  if crc &&& 1 = 1 then (crc >>> 1) ^^^ 0xA001 else crc >>> 1

/- The tables hold the remainders of all single bytes. -/
theorem auchCRC_eq_crcRounds :
    auchCRCHi =
        (List.range 256).map
          (fun i => (crcRound^[8] (UInt16.ofNat i)).toUInt8) ∧
      auchCRCLo =
        (List.range 256).map
          (fun i =>
            (crcRound^[8] (UInt16.ofNat i) >>> 8).toUInt8) := by
  decide +kernel

/- The low byte itself shifts the high byte down. -/
theorem crcByte_uchCRCLo
    (crc : CrcState) :
    crcByte crc crc.uchCRCLo = ⟨0, crc.uchCRCHi⟩ := by
  have hLow : auchCRCHi.getD 0 0 = 0 := by decide
  have hHigh : auchCRCLo.getD 0 0 = 0 := by decide
  unfold crcByte
  rw [UInt8.xor_self]
  change
    CrcState.mk (auchCRCLo.getD 0 0)
      (crc.uchCRCHi ^^^ auchCRCHi.getD 0 0) = _
  rw [hLow, hHigh, UInt8.xor_zero]

/-
  A message followed by its checksum, low byte first, has
  checksum zero.
-/
theorem crc16_append_crc16
    (puchMsg : List UInt8) :
    crc16
        (puchMsg ++
          [(crcBytes puchMsg).uchCRCLo,
            (crcBytes puchMsg).uchCRCHi]) = 0 := by
  have hEnd :
      crcBytes
          (puchMsg ++
            [(crcBytes puchMsg).uchCRCLo,
              (crcBytes puchMsg).uchCRCHi]) =
        ⟨0, 0⟩ := by
    unfold crcBytes
    rw [List.foldl_append, List.foldl_cons, List.foldl_cons,
      List.foldl_nil, crcByte_uchCRCLo]
    exact
      crcByte_uchCRCLo
        ⟨0, (puchMsg.foldl crcByte ⟨0xFF, 0xFF⟩).uchCRCHi⟩
  unfold crc16
  rw [hEnd]
  rfl

end TemperatureSensor
