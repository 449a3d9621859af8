import TemperatureSensor.Foundations.CrcDetection
import TemperatureSensor.Zigbee.InstallCode

/-
  Errors in a message that every checksum of 16 bits with a
  suitable polynomial detects, and the install codes that such
  errors leave.

  Main declarations:
    * `Damaged`
    * `Detects` and `Detects.feedBits_ne`
    * `installCode_damaged`
-/

------------------------------------------------------------
-- Damaged Messages
------------------------------------------------------------

namespace TemperatureSensor

/-
  A message with errors in an odd number of bits, in two bits,
  or only in 16 consecutive bits. One, two and three errors
  are among them wherever they are.
-/
inductive Damaged (pData pData' : List UInt8) : Prop where
| odd
    (hErrors :
      Odd ((ReflectedCrc.errors (messageBits pData)
        (messageBits pData')).count true))
| two
    (hErrors :
      (ReflectedCrc.errors (messageBits pData)
        (messageBits pData')).count true = 2)
| burst
    (start : Nat)
    (hDiffer : pData ≠ pData')
    (hWindow :
      ∀ i, bitAt pData i ≠ bitAt pData' i →
        start ≤ i ∧ i < start + 16)

/-
  A polynomial with a top bit and an odd number of bits, whose
  order is more than the bits of 255 bytes.
-/
structure Detects (p : BitVec 16) : Prop where
  top : p.getLsbD 15 = true
  odd : ReflectedCrc.wordParity p = true
  order :
    ReflectedCrc.avoidsOne p 2040
      (ReflectedCrc.round p 1#16) = true

/- A damaged message leaves another register. -/
theorem Detects.feedBits_ne
    {p : BitVec 16}
    (hDetects : Detects p)
    (s : BitVec 16)
    {pData pData' : List UInt8}
    (hLength : pData.length = pData'.length)
    (hShort : pData.length ≤ 255)
    (hDamaged : Damaged pData pData') :
    ReflectedCrc.feedBits p s (messageBits pData) ≠
      ReflectedCrc.feedBits p s (messageBits pData') := by
  have hBits :
      (messageBits pData).length =
        (messageBits pData').length := by
    rw [length_messageBits, length_messageBits, hLength]
  cases hDamaged with
  | odd hErrors =>
      exact
        ReflectedCrc.feedBits_odd_ne hDetects.odd (by decide) s
          hBits hErrors
  | two hErrors =>
      apply
        ReflectedCrc.feedBits_two_ne hDetects.top s hBits
          hDetects.order _ hErrors
      rw [length_messageBits]
      omega
  | burst start hDiffer hWindow =>
      have hBitWindow :
          ∀ i : Nat,
            (messageBits pData)[i]? ≠
                (messageBits pData')[i]? →
              start ≤ i ∧ i < start + 16 := by
        intro i hBit
        rw [getElem?_messageBits, getElem?_messageBits] at hBit
        exact hWindow i hBit
      exact
        ReflectedCrc.feedBits_burst_ne hDetects.top s hBits
          (fun hSame => hDiffer (messageBits_injective hSame))
          hBitWindow

------------------------------------------------------------
-- Install Codes
------------------------------------------------------------

theorem polynomialX25_detects :
    Detects polynomialX25 where
  top := by decide
  odd := by decide
  order := by decide +kernel

theorem crc16X25_ne_of_damaged
    {pData pData' : List UInt8}
    (hLength : pData.length = pData'.length)
    (hShort : pData.length ≤ 255)
    (hDamaged : Damaged pData pData') :
    crc16X25 pData ≠ crc16X25 pData' := by
  intro hSame
  apply
    polynomialX25_detects.feedBits_ne
      (0xffff : UInt16).toBitVec hLength hShort hDamaged
  rw [← toBitVec_foldl_crcX25Byte,
    ← toBitVec_foldl_crcX25Byte]
  congr 1
  exact (UInt16.xor_left_inj _).mp hSame

/-
  An install code with up to three errors, with any odd number
  of them, or with errors that are close together is not one.
-/
theorem installCode_damaged
    (mbBufMain : Registers)
    {ic : List UInt8}
    (hLength : ic.length = (installCode mbBufMain).length)
    (hDamaged : Damaged (installCode mbBufMain) ic) :
    crc16X25 ic ≠ 0x0F47 := by
  rw [← installCode_residue mbBufMain]
  exact
    (crc16X25_ne_of_damaged hLength.symm
      (by rw [length_installCode]; omega) hDamaged).symm

/- Three errors in the install code of the defaults. -/
theorem installCode_damaged_defaults :
    crc16X25
        [0, 2, 3, 4, 5, 6, 7, 8, 9, 10, 11, 12, 13, 14, 14, 17,
          25, 237] ≠
      0x0F47 :=
  installCode_damaged (fun r => (defaultState r).defaultValue)
    (by rw [length_installCode]; rfl)
    (Damaged.odd (by decide +kernel))

end TemperatureSensor
