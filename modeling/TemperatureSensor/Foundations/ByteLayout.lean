import Mathlib.Algebra.Ring.Nat
import Mathlib.Data.List.Basic
import Mathlib.Tactic.Common

/-
  Numbers as little-endian bytes, fields of a block of bytes,
  and sequences of blocks of one size.

  Main declarations:
    * `littleEndian` and `value`
    * `field` and `field_append`
    * `blocks` and `blocks_flatten`
    * `getElem?_flatten`
    * `take_flatten_of_prefix`
-/

------------------------------------------------------------
-- Little-Endian Numbers
------------------------------------------------------------

namespace ByteLayout

/- The low bytes of a number, the lowest first. -/
def littleEndian : Nat → Nat → List UInt8
| 0, _ => []
| n + 1, v => UInt8.ofNat v :: littleEndian n (v / 256)

/- The number that a list of bytes stands for. -/
def value : List UInt8 → Nat
| [] => 0
| b :: l => b.toNat + 256 * value l

@[simp]
theorem length_littleEndian
    (n v : Nat) :
    (littleEndian n v).length = n := by
  induction n generalizing v with
  | zero => rfl
  | succ n ih => simp [littleEndian, ih]

theorem value_littleEndian
    {n v : Nat}
    (hFits : v < 256 ^ n) :
    value (littleEndian n v) = v := by
  induction n generalizing v with
  | zero =>
      have hZero : v = 0 := by simpa using hFits
      rw [hZero]
      rfl
  | succ n ih =>
      have hRest : v / 256 < 256 ^ n := by
        apply Nat.div_lt_of_lt_mul
        rwa [Nat.pow_succ, Nat.mul_comm] at hFits
      rw [littleEndian, value, ih hRest, UInt8.toNat_ofNat']
      omega

------------------------------------------------------------
-- Fields
------------------------------------------------------------

/- The number in the bytes of a block from an offset on. -/
def field (offset n : Nat) (block : List UInt8) : Nat :=
  value ((block.drop offset).take n)

theorem field_append_right
    {before : List UInt8}
    {offset : Nat}
    (hBefore : before.length ≤ offset)
    (n : Nat)
    (after : List UInt8) :
    field offset n (before ++ after) =
      field (offset - before.length) n after := by
  unfold field
  rw [List.drop_append, List.drop_eq_nil_of_le hBefore,
    List.nil_append]

theorem field_append_left
    {before : List UInt8}
    {offset n : Nat}
    (hBefore : offset + n ≤ before.length)
    (after : List UInt8) :
    field offset n (before ++ after) =
      field offset n before := by
  unfold field
  rw [List.drop_append_of_le_length (by omega),
    List.take_append_of_le_length
      (by rw [List.length_drop]; omega)]

/- A number that was laid out is read back. -/
theorem field_append
    {before : List UInt8}
    {offset n v : Nat}
    (hBefore : before.length = offset)
    (hFits : v < 256 ^ n)
    (after : List UInt8) :
    field offset n (before ++ (littleEndian n v ++ after)) =
      v := by
  rw [field_append_right (Nat.le_of_eq hBefore), hBefore,
    Nat.sub_self]
  unfold field
  rw [List.drop_zero, List.take_left' (length_littleEndian n v),
    value_littleEndian hFits]

------------------------------------------------------------
-- Blocks of One Size
------------------------------------------------------------

variable {β : Type}

/- The first `k` blocks of a size. -/
def blocks (m k : Nat) (l : List β) : List (List β) :=
  (List.range k).map fun i => (l.drop (m * i)).take m

theorem length_flatten
    {m : Nat}
    {bs : List (List β)}
    (hSize : ∀ b ∈ bs, b.length = m) :
    bs.flatten.length = m * bs.length := by
  induction bs with
  | nil => rfl
  | cons b bs ih =>
      rw [List.flatten_cons, List.length_append,
        hSize b (by simp),
        ih fun c hMember => hSize c (by simp [hMember]),
        List.length_cons, Nat.mul_succ, Nat.add_comm]

/- What lies behind the first blocks. -/
theorem drop_flatten
    {m : Nat}
    {bs : List (List β)}
    (hSize : ∀ b ∈ bs, b.length = m)
    (i : Nat) :
    bs.flatten.drop (m * i) = (bs.drop i).flatten := by
  induction i generalizing bs with
  | zero => simp
  | succ i ih =>
      cases bs with
      | nil => simp
      | cons b bs =>
          rw [Nat.mul_succ, Nat.add_comm, List.flatten_cons,
            ← List.drop_drop,
            List.drop_left' (hSize b (by simp)),
            ih fun c hMember => hSize c (by simp [hMember])]
          rfl

/- The bytes of equal blocks, by block and offset. -/
theorem getElem?_flatten
    {m : Nat}
    {bs : List (List β)}
    (hSize : ∀ b ∈ bs, b.length = m)
    (i : Nat)
    {j : Nat}
    (hOffset : j < m) :
    bs.flatten[m * i + j]? = bs[i]?.bind fun b => b[j]? := by
  rw [← List.getElem?_drop, drop_flatten hSize]
  cases hRest : bs.drop i with
  | nil =>
      rw [List.getElem?_eq_none
        (List.drop_eq_nil_iff.mp hRest)]
      rfl
  | cons b rest =>
      have hHere : bs[i]? = some b := by
        rw [← List.head?_drop, hRest]
        rfl
      have hMember : b ∈ bs := List.mem_of_getElem? hHere
      rw [hHere, List.flatten_cons,
        List.getElem?_append_left
          (by rw [hSize b hMember]; exact hOffset)]
      rfl

/- Cutting equal blocks up gives them back. -/
theorem blocks_flatten
    {m : Nat}
    {bs : List (List β)}
    (hSize : ∀ b ∈ bs, b.length = m) :
    blocks m bs.length bs.flatten = bs := by
  apply List.ext_getElem?
  intro i
  unfold blocks
  rw [List.getElem?_map]
  by_cases hInside : i < bs.length
  · have hHere := List.getElem?_eq_getElem hInside
    rw [List.getElem?_range hInside, Option.map_some,
      drop_flatten hSize, List.drop_eq_getElem_cons hInside,
      List.flatten_cons,
      List.take_left' (hSize _ (List.getElem_mem hInside)),
      hHere]
  · rw [List.getElem?_eq_none (by simpa using hInside),
      List.getElem?_eq_none (not_lt.mp hInside),
      Option.map_none]

/- A block that is cut up into blocks is whole again. -/
theorem flatten_blocks
    {m k : Nat}
    {l : List β}
    (hLength : l.length = m * k) :
    (blocks m k l).flatten = l := by
  induction k generalizing l with
  | zero =>
      rw [Nat.mul_zero, List.length_eq_zero_iff] at hLength
      rw [hLength]
      rfl
  | succ k ih =>
      have hRest : (l.drop m).length = m * k := by
        rw [List.length_drop, hLength, Nat.mul_succ]
        omega
      have hTail :
          ((List.range k).map fun i =>
              (l.drop (m * (i + 1))).take m) =
            blocks m k (l.drop m) := by
        unfold blocks
        apply List.map_congr_left
        intro i _
        rw [List.drop_drop, Nat.mul_succ, Nat.add_comm]
      unfold blocks
      rw [List.range_succ_eq_map, List.map_cons, List.map_map,
        List.flatten_cons]
      change _ ++ ((List.range k).map fun i =>
        (l.drop (m * (i + 1))).take m).flatten = l
      rw [hTail, ih hRest, Nat.mul_zero, List.drop_zero,
        List.take_append_drop]

/- The number in one of several blocks. -/
theorem field_flatten
    {m : Nat}
    {bs : List (List UInt8)}
    (hSize : ∀ b ∈ bs, b.length = m)
    {i : Nat}
    {b : List UInt8}
    (hHere : bs[i]? = some b) :
    field (m * i) m bs.flatten = value b := by
  have hMember : b ∈ bs := List.mem_of_getElem? hHere
  have hDrop : bs.drop i = b :: bs.drop (i + 1) := by
    rcases List.getElem?_eq_some_iff.mp hHere with
      ⟨hInside, rfl⟩
    exact List.drop_eq_getElem_cons hInside
  unfold field
  rw [drop_flatten hSize, hDrop, List.flatten_cons,
    List.take_left' (hSize b hMember)]

/-
  Blocks that begin with the pieces of a text give the text,
  whatever stands behind its end.
-/
theorem take_flatten_of_prefix
    {m n size : Nat}
    {text : List β}
    {block : Nat → List β}
    (hPiece :
      ∀ k, k < n → (text.drop (m * k)).take m <+: block k)
    (hSize : ∀ k, k < n → (block k).length = m)
    (hText : size ≤ text.length)
    (hBlocks : size ≤ m * n) :
    ((List.range n).map block).flatten.take size =
      text.take size := by
  have hSizes :
      ∀ b ∈ (List.range n).map block, b.length = m := by
    intro b hMember
    rcases List.mem_map.mp hMember with ⟨k, hK, rfl⟩
    exact hSize k (List.mem_range.mp hK)
  apply List.ext_getElem?
  intro j
  by_cases hInside : j < size
  · rw [List.getElem?_take_of_lt hInside,
      List.getElem?_take_of_lt hInside]
    have hPositive : 0 < m := by
      rcases Nat.eq_zero_or_pos m with rfl | hPositive
      · rw [Nat.zero_mul] at hBlocks
        omega
      · exact hPositive
    have hOffset := Nat.mod_lt j hPositive
    have hBlock : j / m < n :=
      Nat.div_lt_of_lt_mul (Nat.lt_of_lt_of_le hInside hBlocks)
    -- The byte lies at this offset of this block.
    have hPlace : m * (j / m) + j % m = j :=
      Nat.div_add_mod j m
    have hFlat :=
      getElem?_flatten hSizes (j / m) hOffset
    rw [hPlace, List.getElem?_map,
      List.getElem?_range hBlock] at hFlat
    rcases hPiece (j / m) hBlock with ⟨behind, hParts⟩
    have hHere :
        ((text.drop (m * (j / m))).take m)[j % m]? =
          text[j]? := by
      rw [List.getElem?_take_of_lt hOffset,
        List.getElem?_drop, hPlace]
    have hValue :=
      List.getElem?_eq_getElem
        (Nat.lt_of_lt_of_le hInside hText)
    rw [hFlat]
    change (block (j / m))[j % m]? = _
    rw [hValue] at hHere
    have hShort := (List.getElem?_eq_some_iff.mp hHere).1
    rw [← hParts, List.getElem?_append_left hShort, hHere,
      hValue]
  · rw [List.getElem?_take_eq_none (by omega),
      List.getElem?_take_eq_none (by omega)]

end ByteLayout
