import TemperatureSensor.Foundations.CheckedLoop
import Mathlib.Data.List.Basic

/-
  Blocks of values in a memory, and the loops that copy them
  there value by value.

  Main declarations:
    * `store` and `load`
    * `store_inside` and `store_outside`
    * `load_store`
    * `forEach_store`
-/

------------------------------------------------------------
-- Blocks
------------------------------------------------------------

namespace ByteCopy

variable {β : Type}

/- The memory with a block stored from an address on. -/
def store
    (dest : Nat)
    (block : List β)
    (mem : Nat → β) : Nat → β :=
  fun a =>
    if dest ≤ a then (block[a - dest]?).getD (mem a) else mem a

/- The block of a length at an address. -/
def load (dest n : Nat) (mem : Nat → β) : List β :=
  (List.range n).map fun i => mem (dest + i)

theorem store_inside
    (dest : Nat)
    (mem : Nat → β)
    {block : List β}
    {i : Nat}
    {v : β}
    (hValue : block[i]? = some v) :
    store dest block mem (dest + i) = v := by
  simp [store, hValue]

theorem store_outside
    (mem : Nat → β)
    {dest : Nat}
    {block : List β}
    {a : Nat}
    (hOutside : a < dest ∨ dest + block.length ≤ a) :
    store dest block mem a = mem a := by
  unfold store
  split
  · next hAfter =>
      rw [List.getElem?_eq_none (by omega), Option.getD_none]
  · rfl

@[simp]
theorem store_nil
    (dest : Nat)
    (mem : Nat → β) :
    store dest [] mem = mem := by
  funext a
  exact store_outside mem (by simp; omega)

/- A longer block is stored by one more update. -/
theorem store_concat
    (dest : Nat)
    (block : List β)
    (v : β)
    (mem : Nat → β) :
    store dest (block ++ [v]) mem =
      Function.update (store dest block mem)
        (dest + block.length) v := by
  funext a
  by_cases hLast : a = dest + block.length
  · rw [hLast, Function.update_self]
    apply store_inside
    simp
  · rw [Function.update_of_ne hLast]
    unfold store
    split
    · next hAfter =>
        by_cases hInside : a - dest < block.length
        · rw [List.getElem?_append_left hInside]
        · rw [List.getElem?_eq_none (by simp; omega),
            List.getElem?_eq_none (by omega)]
    · rfl

/- What was stored is read back. -/
theorem load_store
    (dest : Nat)
    (block : List β)
    (mem : Nat → β) :
    load dest block.length (store dest block mem) = block := by
  apply List.ext_getElem?
  intro i
  unfold load
  rw [List.getElem?_map]
  by_cases hInside : i < block.length
  · have hValue := List.getElem?_eq_getElem hInside
    rw [List.getElem?_range hInside, Option.map_some,
      store_inside dest mem hValue, hValue]
  · rw [List.getElem?_eq_none (by simp; omega),
      List.getElem?_eq_none (by omega), Option.map_none]

theorem length_load
    (dest n : Nat)
    (mem : Nat → β) :
    (load dest n mem).length = n := by
  unfold load
  rw [List.length_map, List.length_range]

theorem load_append
    (dest m n : Nat)
    (mem : Nat → β) :
    load dest (m + n) mem =
      load dest m mem ++ load (dest + m) n mem := by
  unfold load
  rw [List.range_add, List.map_append, List.map_map]
  congr 2
  funext i
  exact congrArg mem (Nat.add_assoc dest m i).symm

/- A shorter block is the beginning of what is read back. -/
theorem prefix_load_store
    (dest : Nat)
    {block : List β}
    {n : Nat}
    (hFits : block.length ≤ n)
    (mem : Nat → β) :
    block <+: load dest n (store dest block mem) := by
  obtain ⟨k, rfl⟩ := Nat.exists_eq_add_of_le hFits
  rw [load_append, load_store]
  exact List.prefix_append _ _

theorem load_congr
    {dest n : Nat}
    {mem mem' : Nat → β}
    (hSame :
      ∀ a, dest ≤ a → a < dest + n → mem' a = mem a) :
    load dest n mem' = load dest n mem := by
  unfold load
  apply List.map_congr_left
  intro i hMember
  rw [List.mem_range] at hMember
  exact hSame (dest + i) (by omega) (by omega)

------------------------------------------------------------
-- Copying Loops
------------------------------------------------------------

/-
  A loop that computes one value after the other, and stores
  each behind the one before, stores the block of the values.
-/
theorem forEach_store
    {value : Nat → Option β}
    {block : List β}
    (hValue :
      ∀ i, i < block.length → value i = block[i]?)
    (dest : Nat)
    (mem : Nat → β) :
    CheckedLoop.forEach
        (fun mem i =>
          (value i).map (Function.update mem (dest + i)))
        (List.range block.length) mem =
      some (store dest block mem) := by
  -- The first rounds have stored the first values.
  have hRounds :
      ∀ n, n ≤ block.length →
        CheckedLoop.forEach
            (fun mem i =>
              (value i).map (Function.update mem (dest + i)))
            (List.range n) mem =
          some (store dest (block.take n) mem) := by
    intro n
    induction n with
    | zero =>
        intro _
        simp [CheckedLoop.forEach]
    | succ n ih =>
        intro hInside
        have hLast : value n = some block[n] := by
          rw [hValue n (by omega), List.getElem?_eq_getElem]
        have hLength : (block.take n).length = n := by
          rw [List.length_take]
          omega
        rw [List.range_succ, CheckedLoop.forEach_append,
          ih (by omega), List.take_succ_eq_append_getElem
            (by omega), store_concat, hLength]
        simp [CheckedLoop.forEach, hLast]
  simpa using hRounds block.length le_rfl

end ByteCopy
