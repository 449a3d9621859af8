import TemperatureSensor.Usb.HostView

/-
  The addresses of the partition as cylinder, head and sector.
  An address that has room in these fields is read back; a
  greater one is replaced by the mark for "too far".

  Main declarations:
    * `chsAddress`
    * `chsAddress_lbaToChs`
    * `partition_addresses`
-/

------------------------------------------------------------
-- Addresses
------------------------------------------------------------

namespace TemperatureSensor

namespace Emfat

open Fat32

/-
  The sector that the bytes `cl`, `ch` and `dh` stand for, on
  a disk of 255 heads and 63 sectors; the upper two bits of
  `cl` belong to the cylinder.
-/
def chsAddress (chs : UInt8 × UInt8 × UInt8) : Nat :=
  let sector := chs.1.toNat % 64
  let cylinder := chs.1.toNat / 64 * 256 + chs.2.1.toNat
  (cylinder * 255 + chs.2.2.toNat) * 63 + sector - 1

/- The first address without a cylinder. -/
def chsLimit : Nat := 1024 * 255 * 63

theorem lowByte_ofNat
    (n : Nat) :
    lowByte (Int32.ofNat n) = UInt8.ofNat n := by
  unfold lowByte
  rw [Int32.toUInt32_ofNat', UInt32.toUInt8_ofNat']

/- The bits of a cylinder in the two bytes. -/
theorem cylinder_bits :
    ∀ c, c < 1024 →
      (Int32.ofNat c &&& 0x300) >>> 2 =
          Int32.ofNat (64 * (c / 256)) ∧
        Int32.ofNat c &&& 0xFF = Int32.ofNat (c % 256) := by
  decide +kernel

theorem sector_bits :
    ∀ s, s < 64 → ∀ q, q < 4 →
      Int32.ofNat s ||| Int32.ofNat (64 * q) =
        Int32.ofNat (64 * q + s) := by
  decide +kernel

section Division

variable {n m : Nat}

theorem ofNat_div
    (hSmall : n < 2 ^ 31)
    (hPositive : 0 < m)
    (hDivisor : m < 2 ^ 31) :
    Int32.ofNat n / Int32.ofNat m = Int32.ofNat (n / m) := by
  have hQuotient : n / m ≤ n := Nat.div_le_self n m
  have hNotMinusOne : Int32.ofNat m ≠ -1 := by
    intro hSame
    have hInt := congrArg Int32.toInt hSame
    rw [Int32.toInt_ofNat_of_lt hDivisor] at hInt
    change (m : Int) = -1 at hInt
    omega
  rw [← Int32.toInt_inj,
    Int32.toInt_div_of_ne_right _ _ hNotMinusOne,
    Int32.toInt_ofNat_of_lt hSmall,
    Int32.toInt_ofNat_of_lt hDivisor,
    Int32.toInt_ofNat_of_lt (by omega)]
  rfl

theorem ofNat_mod
    (hSmall : n < 2 ^ 31)
    (hPositive : 0 < m)
    (hDivisor : m < 2 ^ 31) :
    Int32.ofNat n % Int32.ofNat m = Int32.ofNat (n % m) := by
  have hRest : n % m < m := Nat.mod_lt n hPositive
  rw [← Int32.toInt_inj, Int32.toInt_mod,
    Int32.toInt_ofNat_of_lt hSmall,
    Int32.toInt_ofNat_of_lt hDivisor,
    Int32.toInt_ofNat_of_lt (by omega)]
  rfl

end Division

/- The fields of an address, in numbers. -/
theorem lbaToChs_ofNat
    {n : Nat}
    (hSmall : n < 2 ^ 31) :
    lbaToChs (Int32.ofNat n) =
      if 1024 ≤ n / (63 * 255) then
        (0xFF, 0xFF, 0xFF)
      else
        (UInt8.ofNat
            (64 * (n / (63 * 255) / 256) + (n % 63 + 1)),
          UInt8.ofNat (n / (63 * 255) % 256),
          UInt8.ofNat (n / 63 % 255)) := by
  have hSector :
      Int32.ofNat n % 63 + 1 = Int32.ofNat (n % 63 + 1) := by
    have hRest :=
      ofNat_mod hSmall (m := 63) (by omega) (by omega)
    rw [Int32.ofNat_add, ← hRest]
    rfl
  have hHead :
      Int32.ofNat n / 63 % 255 =
        Int32.ofNat (n / 63 % 255) := by
    have hQuotient : n / 63 < 2 ^ 31 := by omega
    rw [← ofNat_mod hQuotient (by omega) (by omega),
      ← ofNat_div hSmall (by omega) (by omega)]
    rfl
  have hCylinder :
      Int32.ofNat n / (63 * 255) =
        Int32.ofNat (n / (63 * 255)) := by
    rw [← ofNat_div hSmall (by omega) (by omega)]
    rfl
  have hFar :
      Int32.ofNat (n / (63 * 255)) ≥ 1024 ↔
        1024 ≤ n / (63 * 255) := by
    rw [ge_iff_le, Int32.le_iff_toInt_le,
      Int32.toInt_ofNat_of_lt (by omega)]
    change (1024 : Int) ≤ _ ↔ _
    omega
  unfold lbaToChs
  dsimp only
  rw [hSector, hHead, hCylinder]
  by_cases hLarge : 1024 ≤ n / (63 * 255)
  · rw [if_pos (hFar.mpr hLarge), if_pos hLarge]
  · rw [if_neg fun h => hLarge (hFar.mp h), if_neg hLarge]
    rcases cylinder_bits (n / (63 * 255)) (by omega) with
      ⟨hHigh, hLow⟩
    rw [hHigh, hLow,
      sector_bits (n % 63 + 1) (by omega)
        (n / (63 * 255) / 256) (by omega),
      lowByte_ofNat, lowByte_ofNat, lowByte_ofNat]

/- The three fields of an address are read back. -/
theorem chsAddress_fields
    {c h r : Nat}
    (hCylinder : c < 1024)
    (hHead : h < 255)
    (hSector : r < 63) :
    chsAddress
        (UInt8.ofNat (64 * (c / 256) + (r + 1)),
          UInt8.ofNat (c % 256), UInt8.ofNat h) =
      (c * 255 + h) * 63 + r := by
  have hFirst :
      (UInt8.ofNat (64 * (c / 256) + (r + 1))).toNat =
        64 * (c / 256) + (r + 1) := by
    rw [UInt8.toNat_ofNat']
    omega
  have hSecond :
      (UInt8.ofNat (c % 256)).toNat = c % 256 := by
    rw [UInt8.toNat_ofNat']
    omega
  have hThird : (UInt8.ofNat h).toNat = h := by
    rw [UInt8.toNat_ofNat']
    omega
  unfold chsAddress
  dsimp only
  rw [hFirst, hSecond, hThird]
  omega

/- An address is read back as long as it has a cylinder. -/
theorem chsAddress_lbaToChs
    {n : Nat}
    (hSmall : n < 2 ^ 31) :
    if n < chsLimit then
      chsAddress (lbaToChs (Int32.ofNat n)) = n
    else
      lbaToChs (Int32.ofNat n) = (0xFF, 0xFF, 0xFF) := by
  rw [lbaToChs_ofNat hSmall]
  unfold chsLimit
  split
  · next hNear =>
      have hCylinder : n / (63 * 255) < 1024 := by omega
      rw [if_neg (by omega),
        chsAddress_fields hCylinder
          (Nat.mod_lt _ (by omega)) (Nat.mod_lt _ (by omega))]
      have hTracks : n / 63 / 255 = n / (63 * 255) :=
        Nat.div_div_eq_div_mul n 63 255
      rw [← hTracks]
      omega
  · next hFar => rw [if_pos (by omega)]

------------------------------------------------------------
-- Partition
------------------------------------------------------------

/- The bytes of the two addresses of the partition. -/
def startAddress (sector : List UInt8) : UInt8 × UInt8 × UInt8 :=
  (UInt8.ofNat (ByteLayout.field 448 1 sector),
    UInt8.ofNat (ByteLayout.field 449 1 sector),
    UInt8.ofNat (ByteLayout.field 447 1 sector))

def endAddress (sector : List UInt8) : UInt8 × UInt8 × UInt8 :=
  (UInt8.ofNat (ByteLayout.field 452 1 sector),
    UInt8.ofNat (ByteLayout.field 453 1 sector),
    UInt8.ofNat (ByteLayout.field 451 1 sector))

/- A byte of the entry of the partition. -/
theorem field_mbrSector
    (v : Volume)
    {k : Nat}
    (hInside : k < 8) :
    ByteLayout.field (446 + k) 1 (mbrSector v) =
      ByteLayout.field k 1
        [0x80, (lbaToChs v.bootLba.toInt32).2.2,
          (lbaToChs v.bootLba.toInt32).1,
          (lbaToChs v.bootLba.toInt32).2.1, 0x0C,
          (lbaToChs (v.diskSectors - 1).toInt32).2.2,
          (lbaToChs (v.diskSectors - 1).toInt32).1,
          (lbaToChs (v.diskSectors - 1).toInt32).2.1] := by
  unfold mbrSector
  dsimp only
  rw [ByteLayout.field_append_right
      (by rw [List.length_replicate]; omega),
    List.length_replicate, Nat.add_sub_cancel_left]
  apply ByteLayout.field_append_left
  change k + 1 ≤ 8
  omega

theorem addresses_mbrSector
    (v : Volume) :
    startAddress (mbrSector v) = lbaToChs v.bootLba.toInt32 ∧
      endAddress (mbrSector v) =
        lbaToChs (v.diskSectors - 1).toInt32 := by
  have hByte :
      ∀ b : UInt8, UInt8.ofNat (ByteLayout.value [b]) = b := by
    intro b
    exact UInt8.ofNat_toNat
  unfold startAddress endAddress
  rw [field_mbrSector v (k := 1) (by omega),
    field_mbrSector v (k := 2) (by omega),
    field_mbrSector v (k := 3) (by omega),
    field_mbrSector v (k := 5) (by omega),
    field_mbrSector v (k := 6) (by omega),
    field_mbrSector v (k := 7) (by omega)]
  exact
    ⟨Prod.ext (hByte _) (Prod.ext (hByte _) (hByte _)),
      Prod.ext (hByte _) (Prod.ext (hByte _) (hByte _))⟩

/-
  The two forms of the addresses agree, as far as the last
  sector has a cylinder. The length of the partition is that
  of the disk, and not that of the volume behind it.
-/
theorem partition_addresses
    {v : Volume}
    (hFormatted : Formatted v)
    (hSmall : v.diskSectors.toNat ≤ 2 ^ 31) :
    chsAddress (startAddress (mbrSector v)) =
        ByteLayout.field 454 4 (mbrSector v) ∧
      ByteLayout.field 458 4 (mbrSector v) =
        (geometryOf v).totalSectors + 62 ∧
      if v.diskSectors.toNat ≤ chsLimit then
        chsAddress (endAddress (mbrSector v)) + 1 =
          v.diskSectors.toNat
      else
        endAddress (mbrSector v) = (0xFF, 0xFF, 0xFF) := by
  have hTotal := hFormatted.diskSectors
  rcases addresses_mbrSector v with ⟨hStart, hEnd⟩
  have hOne : (1 : UInt32).toNat = 1 := rfl
  have hDifference :
      (v.diskSectors - 1).toNat = v.diskSectors.toNat - 1 := by
    rw [UInt32.toNat_sub_of_le _ _
        (by rw [UInt32.le_iff_toNat_le, hOne]; omega),
      hOne]
  have hLast :
      (v.diskSectors - 1).toInt32 =
        Int32.ofNat (v.diskSectors.toNat - 1) := by
    rw [← Int32.toInt_inj,
      UInt32.toInt_toInt32_of_lt (by omega), hDifference,
      Int32.toInt_ofNat_of_lt (by omega)]
  refine ⟨?_, ?_, ?_⟩
  · rw [(mbrSector_fields hFormatted).1, hStart,
      hFormatted.bootLba]
    decide
  · have hParts :
        ∃ before rest, before.length = 458 ∧
          mbrSector v =
            before ++ (word32 v.diskSectors ++ rest) := by
      unfold mbrSector
      dsimp only
      rw [← List.append_assoc, ← List.append_assoc]
      refine ⟨_, _, ?_, rfl⟩
      simp only [List.length_append, List.length_replicate,
        length_word32]
      rfl
    rcases hParts with ⟨before, rest, hBefore, hParts⟩
    rw [hParts]
    unfold word32 geometryOf
    rw [ByteLayout.field_append hBefore v.diskSectors.toNat_lt]
    dsimp only
    omega
  · have hAddress :=
      chsAddress_lbaToChs
        (n := v.diskSectors.toNat - 1) (by omega)
    rw [hEnd, hLast]
    split
    · next hNear =>
        rw [if_pos (by omega)] at hAddress
        rw [hAddress]
        omega
    · next hFar =>
        rwa [if_neg (by omega)] at hAddress

end Emfat

end TemperatureSensor
