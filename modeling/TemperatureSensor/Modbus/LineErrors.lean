import TemperatureSensor.Modbus.Request
import TemperatureSensor.Zigbee.MessageErrors

/-
  The table-driven `CRC16` as a shift register, and frames
  that were damaged on the line.

  Main declarations:
    * `toBitVec_crc16`
    * `crc16_eq_crc16Bitwise`
    * `LineDamage`
    * `crc16_ne_zero_of_lineDamage`
-/

------------------------------------------------------------
-- The Register of CRC16
------------------------------------------------------------

namespace TemperatureSensor

/- The polynomial behind the tables. -/
def polynomialModbus : BitVec 16 := 0xA001#16

theorem polynomialModbus_detects :
    Detects polynomialModbus where
  top := by decide
  odd := by decide
  order := by decide +kernel

/- `uchCRCHi` and `uchCRCLo` as one register. -/
def CrcState.toBitVec (crc : CrcState) : BitVec 16 :=
  (word crc.uchCRCHi crc.uchCRCLo).toBitVec

theorem CrcState.toBitVec_eq
    (crc : CrcState) :
    crc.toBitVec =
      crc.uchCRCHi.toBitVec.setWidth 16 <<< 8 |||
        crc.uchCRCLo.toBitVec.setWidth 16 := by
  unfold CrcState.toBitVec word
  simp

theorem toBitVec_crcRound :
    Function.Semiconj UInt16.toBitVec crcRound
      (ReflectedCrc.round polynomialModbus) := by
  intro crc
  unfold crcRound ReflectedCrc.round
  have hLow :
      crc &&& 1 = 1 ↔ crc.toBitVec.getLsbD 0 = true := by
    rw [← UInt16.toNat_inj, UInt16.toNat_and]
    change crc.toNat &&& 1 = 1 ↔ crc.toNat.testBit 0 = true
    rw [Nat.and_one_is_mod, Nat.testBit_zero,
      decide_eq_true_iff]
  split
  · next hOne =>
      rw [if_pos (hLow.mp hOne)]
      rfl
  · next hZero =>
      rw [if_neg (fun hBit => hZero (hLow.mpr hBit))]
      rfl

/- An entry of the tables is the register after a byte. -/
theorem toBitVec_auchCRC
    (uIndex : UInt8) :
    CrcState.toBitVec
        ⟨auchCRCLo.getD uIndex.toNat 0,
          auchCRCHi.getD uIndex.toNat 0⟩ =
      (ReflectedCrc.round polynomialModbus)^[8]
        (uIndex.toBitVec.setWidth 16) := by
  have hEntry :
      ∀ f : Nat → UInt8,
        ((List.range 256).map f).getD uIndex.toNat 0 =
          f uIndex.toNat := by
    intro f
    have hIndex := uIndex.toNat_lt
    rw [List.getD_eq_getElem?_getD, List.getElem?_map,
      List.getElem?_range (by omega)]
    rfl
  have hByte :
      (UInt16.ofNat uIndex.toNat).toBitVec =
        uIndex.toBitVec.setWidth 16 := by
    apply BitVec.eq_of_toNat_eq
    simp
  rcases auchCRC_eq_crcRounds with ⟨hHigh, hLow⟩
  unfold CrcState.toBitVec
  dsimp only
  rw [hHigh, hLow, hEntry, hEntry, word_bytes, ← hByte,
    (toBitVec_crcRound.iterate_right 8).eq]

theorem getLsbD_above
    (b : UInt8)
    {i : Nat}
    (hAbove : ¬ i < 8) :
    b.toBitVec.getLsbD i = false :=
  BitVec.getLsbD_of_ge _ _ (not_lt.mp hAbove)

/-
  One byte through the tables is eight rounds. The high byte
  only moves down; the low byte and the message select the
  entry.
-/
theorem toBitVec_crcByte
    (crc : CrcState)
    (b : UInt8) :
    (crcByte crc b).toBitVec =
      ReflectedCrc.feedBits polynomialModbus crc.toBitVec
        (byteBits b) := by
  have hByte : (b.toBitVec.setWidth 16).toNat < 2 ^ 8 := by
    have hWidth := b.toNat_lt
    rw [BitVec.toNat_setWidth]
    change b.toNat % 2 ^ 16 < 2 ^ 8
    omega
  have hSplit :
      crc.toBitVec ^^^ b.toBitVec.setWidth 16 =
        crc.uchCRCHi.toBitVec.setWidth 16 <<< 8 ^^^
          (crc.uchCRCLo ^^^ b).toBitVec.setWidth 16 := by
    rw [crc.toBitVec_eq]
    apply BitVec.eq_of_getLsbD_eq
    intro i hInside
    by_cases hLow : i < 8
    · simp [hLow, hInside]
    · simp [hLow, hInside, getLsbD_above _ hLow]
  have hHigh :
      (ReflectedCrc.round polynomialModbus)^[8]
          (crc.uchCRCHi.toBitVec.setWidth 16 <<< 8) =
        crc.uchCRCHi.toBitVec.setWidth 16 := by
    rw [ReflectedCrc.iterate_round_of_zeros]
    · apply BitVec.eq_of_getLsbD_eq
      intro i hInside
      by_cases hLow : i < 8
      · have hShifted : 8 + i < 16 := by omega
        simp [hShifted, hInside]
      · simp [hInside, getLsbD_above _ hLow]
    · intro i hInside
      simp [hInside]
  have hJoin :
      (crcByte crc b).toBitVec =
        crc.uchCRCHi.toBitVec.setWidth 16 ^^^
          CrcState.toBitVec
            ⟨auchCRCLo.getD (crc.uchCRCLo ^^^ b).toNat 0,
              auchCRCHi.getD (crc.uchCRCLo ^^^ b).toNat 0⟩ := by
    rw [CrcState.toBitVec_eq, CrcState.toBitVec_eq]
    unfold crcByte
    apply BitVec.eq_of_getLsbD_eq
    intro i hInside
    by_cases hLow : i < 8
    · simp [hLow, hInside]
    · simp [hLow, hInside, getLsbD_above _ hLow]
  unfold byteBits
  rw [← ReflectedCrc.lowBits_setWidth (w := 16) (by omega),
    ReflectedCrc.feedBits_lowBits _ _ hByte, hSplit,
    ReflectedCrc.iterate_round_xor, hHigh, hJoin,
    toBitVec_auchCRC]

/- What takes in the bits of a byte takes in a message. -/
theorem foldl_feedBits
    {σ : Type}
    {p : BitVec 16}
    {f : σ → UInt8 → σ}
    {register : σ → BitVec 16}
    (hByte :
      ∀ s b,
        register (f s b) =
          ReflectedCrc.feedBits p (register s) (byteBits b))
    (s : σ)
    (puchMsg : List UInt8) :
    register (puchMsg.foldl f s) =
      ReflectedCrc.feedBits p (register s)
        (messageBits puchMsg) := by
  induction puchMsg generalizing s with
  | nil => rfl
  | cons b puchMsg ih =>
      rw [List.foldl_cons, ih, hByte,
        ← ReflectedCrc.feedBits_append]
      rfl

/- The checksum takes in the bits of the message. -/
theorem toBitVec_crc16
    (puchMsg : List UInt8) :
    (crc16 puchMsg).toBitVec =
      ReflectedCrc.feedBits polynomialModbus 0xFFFF#16
        (messageBits puchMsg) := by
  exact foldl_feedBits toBitVec_crcByte ⟨0xFF, 0xFF⟩ puchMsg

/- `CRC16` without tables, bit by bit. -/
def crc16Bitwise (puchMsg : List UInt8) : UInt16 :=
  puchMsg.foldl
    (fun crc b => crcRound^[8] (crc ^^^ b.toUInt16)) 0xFFFF

/- The tables compute what the rounds compute. -/
theorem crc16_eq_crc16Bitwise
    (puchMsg : List UInt8) :
    crc16 puchMsg = crc16Bitwise puchMsg := by
  have hByte :
      ∀ (crc : UInt16) (b : UInt8),
        (crcRound^[8] (crc ^^^ b.toUInt16)).toBitVec =
          ReflectedCrc.feedBits polynomialModbus crc.toBitVec
            (byteBits b) := by
    intro crc b
    have hSmall : (b.toBitVec.setWidth 16).toNat < 2 ^ 8 := by
      have hWidth := b.toNat_lt
      rw [BitVec.toNat_setWidth]
      change b.toNat % 2 ^ 16 < 2 ^ 8
      omega
    have hWord :
        (crc ^^^ b.toUInt16).toBitVec =
          crc.toBitVec ^^^ b.toBitVec.setWidth 16 := by
      simp
    unfold byteBits
    rw [(toBitVec_crcRound.iterate_right 8).eq, hWord,
      ← ReflectedCrc.feedBits_lowBits _ _ hSmall,
      ReflectedCrc.lowBits_setWidth (by omega)]
  apply UInt16.toBitVec_inj.mp
  rw [toBitVec_crc16]
  exact (foldl_feedBits hByte 0xFFFF puchMsg).symm

------------------------------------------------------------
-- Damaged Frames
------------------------------------------------------------

/- Bytes that were a frame with a right checksum. -/
def LineDamage (received : List UInt8) : Prop :=
  ∃ sent : List UInt8,
    sent.length = received.length ∧ crc16 sent = 0 ∧
      Damaged sent received

/- The damage shows in the checksum. -/
theorem crc16_ne_zero_of_lineDamage
    {received : List UInt8}
    (hShort : received.length ≤ 255)
    (hDamage : LineDamage received) :
    crc16 received ≠ 0 := by
  rcases hDamage with ⟨sent, hLength, hRight, hDamaged⟩
  intro hSame
  apply
    polynomialModbus_detects.feedBits_ne 0xFFFF#16 hLength
      (hLength.le.trans hShort) hDamaged
  rw [← toBitVec_crc16, ← toBitVec_crc16, hRight, hSame]

end TemperatureSensor
