import TemperatureSensor.Foundations.ReflectedCrc
import TemperatureSensor.Registers.Table

/-
  The checksum `crc16_x25` and the install code that
  `address_and_code_init` builds with it.

  Main declarations:
    * `crc16X25`
    * `addressAndCodeInit`
    * `toBitVec_foldl_crcX25Byte`
    * `crc16X25_residue`
    * `crc16X25_detects_bursts`
-/

------------------------------------------------------------
-- crc16_x25
------------------------------------------------------------

namespace TemperatureSensor

/- The body of the loop over the bits. -/
def crcX25Round (wCrc : UInt16) : UInt16 :=
  if wCrc &&& 0x0001 ≠ 0 then
    (wCrc >>> 1) ^^^ 0x8408
  else
    wCrc >>> 1

/- The body of the loop over the bytes. -/
def crcX25Byte (wCrc : UInt16) (pData : UInt8) : UInt16 :=
  crcX25Round^[8] (wCrc ^^^ pData.toUInt16 <<< 0)

/- `crc16_x25` of the `length` bytes at `pData`. -/
def crc16X25 (pData : List UInt8) : UInt16 :=
  pData.foldl crcX25Byte 0xffff ^^^ 0xffff

------------------------------------------------------------
-- address_and_code_init
------------------------------------------------------------

/- `ZB_CCM_KEY_SIZE`. -/
def zbCcmKeySize : Nat := 16

/- What `address_and_code_init` hands on and stores. -/
structure AddressAndCode where
  longAddress : Option (List UInt8)
  mbBufMain : Registers
  ic : Option (List UInt8)

/- The bytes of `ic` before the checksum. -/
def codeBytes (mbBufMain : Registers) : List UInt8 :=
  (List.finRange 8).flatMap fun i =>
    [(mbBufMain (regZigbeeCode i) >>> 8 &&& 0xFF).toUInt8,
      (mbBufMain (regZigbeeCode i) &&& 0xFF).toUInt8]

/- The two last bytes of `ic`. -/
def checksumBytes (crc : UInt16) : List UInt8 :=
  [(crc &&& 0xFF).toUInt8, (crc >>> 8 &&& 0xFF).toUInt8]

/- The bytes of `ic`. -/
def installCode (mbBufMain : Registers) : List UInt8 :=
  let key := codeBytes mbBufMain
  key ++ checksumBytes (crc16X25 (key.take zbCcmKeySize))

/-
  `address_and_code_init`, with the address that
  `zb_osif_get_ieee_eui64` returns.
-/
def addressAndCodeInit
    (eui64 : Fin 8 → UInt8)
    (mbBufMain : Registers) : AddressAndCode :=
  let longAddress :=
    if mbBufMain regZigbeeSetMode &&&
        ziSetModeBitSetFicrAddr = 0 then
      some ((List.finRange 8).map fun i =>
        (mbBufMain (regZigbeeAddr i) &&& 0xFF).toUInt8)
    else
      none
  let mbBufMain :=
    (List.finRange 8).foldl
      (fun mb i =>
        Function.update mb (regZigbeeFicrAddr i)
          ((eui64 i).toUInt16 &&& 0xFF))
      mbBufMain
  let ic :=
    if mbBufMain regZigbeeSetMode &&&
        ziSetModeBitSetCode ≠ 0 then
      some (installCode mbBufMain)
    else
      none
  ⟨longAddress, mbBufMain, ic⟩

------------------------------------------------------------
-- The Register of the Checksum
------------------------------------------------------------

/- The polynomial of `crc16_x25`. -/
def polynomialX25 : BitVec 16 := 0x8408#16

theorem toBitVec_crcX25Round :
    Function.Semiconj UInt16.toBitVec crcX25Round
      (ReflectedCrc.round polynomialX25) := by
  intro wCrc
  unfold crcX25Round ReflectedCrc.round
  have hLow :
      wCrc &&& 0x0001 ≠ 0 ↔ wCrc.toBitVec.getLsbD 0 = true := by
    rw [ne_eq, ← UInt16.toNat_inj, UInt16.toNat_and]
    change ¬ wCrc.toNat &&& 1 = 0 ↔ wCrc.toNat.testBit 0 = true
    rw [Nat.and_one_is_mod, Nat.testBit_zero, decide_eq_true_iff]
    omega
  split
  · next hOne =>
      rw [if_pos (hLow.mp hOne)]
      rfl
  · next hZero =>
      rw [if_neg (fun hBit => hZero (hLow.mpr hBit))]
      rfl

/- The bits of a byte, the least significant first. -/
def byteBits (b : UInt8) : List Bool :=
  ReflectedCrc.lowBits 8 b.toBitVec

theorem toBitVec_crcX25Byte
    (wCrc : UInt16)
    (b : UInt8) :
    (crcX25Byte wCrc b).toBitVec =
      ReflectedCrc.feedBits polynomialX25 wCrc.toBitVec
        (byteBits b) := by
  have hByte : (b.toBitVec.setWidth 16).toNat < 2 ^ 8 := by
    have hWidth := b.toNat_lt
    rw [BitVec.toNat_setWidth]
    change b.toNat % 2 ^ 16 < 2 ^ 8
    omega
  have hWord :
      (wCrc ^^^ b.toUInt16 <<< 0).toBitVec =
        wCrc.toBitVec ^^^ b.toBitVec.setWidth 16 := by
    simp
  unfold crcX25Byte byteBits
  rw [(toBitVec_crcX25Round.iterate_right 8).eq, hWord,
    ← ReflectedCrc.feedBits_lowBits _ _ hByte,
    ReflectedCrc.lowBits_setWidth (by omega)]

/- The bits of a message, byte by byte. -/
def messageBits (pData : List UInt8) : List Bool :=
  pData.flatMap byteBits

/- The loop over the bytes takes in their bits. -/
theorem toBitVec_foldl_crcX25Byte
    (wCrc : UInt16)
    (pData : List UInt8) :
    (pData.foldl crcX25Byte wCrc).toBitVec =
      ReflectedCrc.feedBits polynomialX25 wCrc.toBitVec
        (messageBits pData) := by
  induction pData generalizing wCrc with
  | nil => rfl
  | cons b pData ih =>
      rw [List.foldl_cons, ih, toBitVec_crcX25Byte,
        ← ReflectedCrc.feedBits_append]
      rfl

------------------------------------------------------------
-- The Residue
------------------------------------------------------------

theorem byteBits_toUInt8
    (v : UInt16) :
    byteBits (v &&& 0xFF).toUInt8 =
      ReflectedCrc.lowBits 8 v.toBitVec := by
  have hMask : ∀ i < 8, (0xFF#16).getLsbD i = true := by
    decide
  unfold byteBits ReflectedCrc.lowBits
  apply List.map_congr_left
  intro i hIndex
  rw [List.mem_range] at hIndex
  change
    ((v.toBitVec &&& 0xFF#16).setWidth 8).getLsbD i = _
  rw [BitVec.getLsbD_setWidth, BitVec.getLsbD_and,
    hMask i hIndex, decide_eq_true hIndex, Bool.true_and,
    Bool.and_true]

/- The two bytes of a checksum carry its bits in order. -/
theorem messageBits_checksum
    (crc : UInt16) :
    messageBits (checksumBytes crc) =
      ReflectedCrc.lowBits 16 crc.toBitVec := by
  unfold messageBits checksumBytes
  rw [List.flatMap_cons, List.flatMap_cons, List.flatMap_nil,
    List.append_nil, byteBits_toUInt8, byteBits_toUInt8]
  exact (ReflectedCrc.lowBits_add 8 8 crc.toBitVec).symm

/-
  A message with its checksum, low byte first, leaves the
  residue of the polynomial.
-/
theorem crc16X25_append_checksum
    (pData : List UInt8) :
    crc16X25 (pData ++ checksumBytes (crc16X25 pData)) =
      0x0F47 := by
  have hWord : (crc16X25 pData).toBitVec.toNat < 2 ^ 16 :=
    (crc16X25 pData).toBitVec.isLt
  -- Adding its complement leaves ones in the register.
  have hOnes :
      (pData.foldl crcX25Byte 0xffff).toBitVec ^^^
          (crc16X25 pData).toBitVec =
        0xFFFF#16 := by
    unfold crc16X25
    rw [UInt16.toBitVec_xor, ← BitVec.xor_assoc,
      BitVec.xor_self, BitVec.zero_xor]
    rfl
  have hRounds :
      (ReflectedCrc.round polynomialX25)^[16] 0xFFFF#16 =
        0xF0B8#16 := by
    decide +kernel
  have hRegister :=
    toBitVec_foldl_crcX25Byte
      (pData.foldl crcX25Byte 0xffff)
      (checksumBytes (crc16X25 pData))
  rw [messageBits_checksum,
    ReflectedCrc.feedBits_lowBits _ _ hWord, hOnes, hRounds,
    ← List.foldl_append] at hRegister
  apply UInt16.toBitVec_inj.mp
  rw [crc16X25, UInt16.toBitVec_xor, hRegister]
  rfl

------------------------------------------------------------
-- Install Codes
------------------------------------------------------------

theorem length_codeBytes
    (mbBufMain : Registers) :
    (codeBytes mbBufMain).length = zbCcmKeySize := by
  rfl

theorem installCode_eq
    (mbBufMain : Registers) :
    installCode mbBufMain =
      codeBytes mbBufMain ++
        checksumBytes (crc16X25 (codeBytes mbBufMain)) := by
  simp only [installCode,
    List.take_of_length_le (length_codeBytes mbBufMain).le]

theorem length_installCode
    (mbBufMain : Registers) :
    (installCode mbBufMain).length = 18 := by
  rfl

theorem installCode_residue
    (mbBufMain : Registers) :
    crc16X25 (installCode mbBufMain) = 0x0F47 := by
  rw [installCode_eq]
  exact crc16X25_append_checksum _

/- Storing the hardware address keeps the other registers. -/
theorem storedFicrAddr_of_other
    (eui64 : Fin 8 → UInt8)
    (mbBufMain : Registers)
    (l : List (Fin 8))
    {r : Fin numBuf}
    (hOther : ∀ i, r ≠ regZigbeeFicrAddr i) :
    l.foldl
        (fun mb i =>
          Function.update mb (regZigbeeFicrAddr i)
            ((eui64 i).toUInt16 &&& 0xFF))
        mbBufMain r =
      mbBufMain r := by
  induction l generalizing mbBufMain with
  | nil => rfl
  | cons i l ih =>
      rw [List.foldl_cons, ih]
      exact Function.update_of_ne (hOther i) _ _

theorem installCode_congr
    {mb mb' : Registers}
    (hSame :
      ∀ i, mb (regZigbeeCode i) = mb' (regZigbeeCode i)) :
    installCode mb = installCode mb' := by
  unfold installCode codeBytes
  simp only [hSame]

/- What is passed to `zb_secur_ic_set`, if anything is. -/
theorem addressAndCodeInit_ic
    (eui64 : Fin 8 → UInt8)
    (mbBufMain : Registers) :
    (addressAndCodeInit eui64 mbBufMain).ic =
      if mbBufMain regZigbeeSetMode &&&
          ziSetModeBitSetCode ≠ 0 then
        some (installCode mbBufMain)
      else
        none := by
  have hMode : ∀ i, regZigbeeSetMode ≠ regZigbeeFicrAddr i := by
    decide
  have hCode :
      ∀ j i, regZigbeeCode j ≠ regZigbeeFicrAddr i := by
    decide
  unfold addressAndCodeInit
  simp only [storedFicrAddr_of_other eui64 mbBufMain _ hMode]
  rw [installCode_congr fun j =>
    storedFicrAddr_of_other eui64 mbBufMain _ (hCode j)]

/-
  The checksum of a message always completes it to the
  residue, and so does that of every install code: the eight
  registers, high byte first, and the checksum, low byte
  first.
-/
theorem crc16X25_residue :
    (∀ pData : List UInt8,
        crc16X25 (pData ++ checksumBytes (crc16X25 pData)) =
          0x0F47) ∧
      ∀ (eui64 : Fin 8 → UInt8) (mbBufMain : Registers),
        (addressAndCodeInit eui64 mbBufMain).ic =
            (if mbBufMain regZigbeeSetMode &&&
                ziSetModeBitSetCode ≠ 0 then
              some (installCode mbBufMain)
            else
              none) ∧
          installCode mbBufMain =
              codeBytes mbBufMain ++
                checksumBytes
                  (crc16X25 (codeBytes mbBufMain)) ∧
            (installCode mbBufMain).length = 18 ∧
              crc16X25 (installCode mbBufMain) = 0x0F47 := by
  refine ⟨crc16X25_append_checksum, ?_⟩
  intro eui64 mbBufMain
  exact
    ⟨addressAndCodeInit_ic eui64 mbBufMain,
      installCode_eq mbBufMain, length_installCode mbBufMain,
      installCode_residue mbBufMain⟩

------------------------------------------------------------
-- Burst Errors
------------------------------------------------------------

/-
  A bit of a message: the bytes in order, the least
  significant bit of each first.
-/
def bitAt (pData : List UInt8) (i : Nat) : Option Bool :=
  pData[i / 8]?.map fun b => b.toBitVec.getLsbD (i % 8)

theorem length_byteBits
    (b : UInt8) :
    (byteBits b).length = 8 := by
  rfl

theorem getElem?_messageBits
    (pData : List UInt8)
    (i : Nat) :
    (messageBits pData)[i]? = bitAt pData i := by
  induction pData generalizing i with
  | nil => rfl
  | cons b pData ih =>
      have hBits :
          messageBits (b :: pData) =
            byteBits b ++ messageBits pData := by
        rfl
      rw [hBits]
      by_cases hFirst : i < 8
      · rw [List.getElem?_append_left (by
          rw [length_byteBits]
          exact hFirst)]
        unfold bitAt byteBits ReflectedCrc.lowBits
        rw [Nat.div_eq_of_lt hFirst, Nat.mod_eq_of_lt hFirst]
        simp [hFirst]
      · rw [List.getElem?_append_right (by
          rw [length_byteBits]
          omega), length_byteBits, ih]
        have hByte : i / 8 = (i - 8) / 8 + 1 := by omega
        have hBit : i % 8 = (i - 8) % 8 := by omega
        unfold bitAt
        rw [hByte, hBit, List.getElem?_cons_succ]

theorem length_messageBits
    (pData : List UInt8) :
    (messageBits pData).length = 8 * pData.length := by
  unfold messageBits
  simp [length_byteBits, Nat.mul_comm]

theorem messageBits_injective :
    Function.Injective messageBits := by
  intro pData pData' hBits
  have hBitAt : ∀ i, bitAt pData i = bitAt pData' i := by
    intro i
    rw [← getElem?_messageBits, ← getElem?_messageBits, hBits]
  apply List.ext_getElem?
  intro k
  have hByte :
      ∀ j, j < 8 →
        pData[k]?.map (fun b => b.toBitVec.getLsbD j) =
          pData'[k]?.map (fun b => b.toBitVec.getLsbD j) := by
    intro j hIndex
    have hBit := hBitAt (8 * k + j)
    unfold bitAt at hBit
    have hDiv : (8 * k + j) / 8 = k := by omega
    have hMod : (8 * k + j) % 8 = j := by omega
    rw [hDiv, hMod] at hBit
    exact hBit
  cases hLeft : pData[k]? with
  | none =>
      have hFirst := hByte 0 (by omega)
      rw [hLeft] at hFirst
      cases hRight : pData'[k]? with
      | none => rfl
      | some b' => simp [hRight] at hFirst
  | some b =>
      rw [hLeft] at hByte
      cases hRight : pData'[k]? with
      | none =>
          have hFirst := hByte 0 (by omega)
          simp [hRight] at hFirst
      | some b' =>
          rw [hRight] at hByte
          congr 1
          apply UInt8.toBitVec_inj.mp
          apply BitVec.eq_of_getLsbD_eq
          intro j hIndex
          exact Option.some.inj (hByte j hIndex)

theorem crc16X25_ne_of_burst
    {pData pData' : List UInt8}
    (hLength : pData.length = pData'.length)
    (hDiffer : pData ≠ pData')
    {start : Nat}
    (hWindow :
      ∀ i, bitAt pData i ≠ bitAt pData' i →
        start ≤ i ∧ i < start + 16) :
    crc16X25 pData ≠ crc16X25 pData' := by
  have hBitLength :
      (messageBits pData).length =
        (messageBits pData').length := by
    rw [length_messageBits, length_messageBits, hLength]
  have hBitWindow :
      ∀ i : Nat,
        (messageBits pData)[i]? ≠ (messageBits pData')[i]? →
          start ≤ i ∧ i < start + 16 := by
    intro i hBit
    rw [getElem?_messageBits, getElem?_messageBits] at hBit
    exact hWindow i hBit
  intro hSame
  apply
    ReflectedCrc.feedBits_burst_ne (p := polynomialX25)
      (by decide) (0xffff : UInt16).toBitVec hBitLength
      (fun hBits => hDiffer (messageBits_injective hBits))
      hBitWindow
  rw [← toBitVec_foldl_crcX25Byte,
    ← toBitVec_foldl_crcX25Byte]
  congr 1
  exact (UInt16.xor_left_inj _).mp hSame

/- Two adjacent bytes lie in one window of 16 bits. -/
theorem window_of_adjacent
    {ic ic' : List UInt8}
    {j : Nat}
    (hOther :
      ∀ k : Nat, k ≠ j → k ≠ j + 1 → ic[k]? = ic'[k]?)
    (i : Nat)
    (hBit : bitAt ic i ≠ bitAt ic' i) :
    8 * j ≤ i ∧ i < 8 * j + 16 := by
  by_contra hOutside
  apply hBit
  unfold bitAt
  rw [hOther (i / 8) (by omega) (by omega)]

/-
  Every error of at most 16 consecutive bits changes the
  checksum. An install code of which two adjacent bytes are
  corrupted misses the residue.
-/
theorem crc16X25_detects_bursts :
    (∀ pData pData' : List UInt8,
        pData.length = pData'.length → pData ≠ pData' →
          ∀ start : Nat,
            (∀ i, bitAt pData i ≠ bitAt pData' i →
                start ≤ i ∧ i < start + 16) →
              crc16X25 pData ≠ crc16X25 pData') ∧
      ∀ (mbBufMain : Registers) (ic : List UInt8) (j : Nat),
        ic.length = (installCode mbBufMain).length →
          ic ≠ installCode mbBufMain →
            (∀ k : Nat, k ≠ j → k ≠ j + 1 →
                ic[k]? = (installCode mbBufMain)[k]?) →
              crc16X25 ic ≠ 0x0F47 := by
  constructor
  · intro pData pData' hLength hDiffer start hWindow
    exact crc16X25_ne_of_burst hLength hDiffer hWindow
  · intro mbBufMain ic j hLength hDiffer hOther
    rw [← installCode_residue mbBufMain]
    exact
      crc16X25_ne_of_burst hLength hDiffer
        (window_of_adjacent hOther)

theorem adjacentBytes_detected :
    crc16X25 [0x10, 0x21, 0x32] ≠
      crc16X25 [0x10, 0xA1, 0x33] := by
  apply
    crc16X25_detects_bursts.1 _ _ (by rfl) (by decide) (8 * 1)
  apply window_of_adjacent
  intro k hFirst hSecond
  match k with
  | 0 => rfl
  | 1 => exact absurd rfl hFirst
  | 2 => exact absurd rfl hSecond
  | k + 3 => rfl

end TemperatureSensor
