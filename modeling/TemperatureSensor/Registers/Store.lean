import TemperatureSensor.Registers.Table
import TemperatureSensor.Foundations.CheckedLoop

/-
  The registers together with the non-volatile store, the
  boot procedure and the factory reset of `modbus_hard.c`.

  Main declarations:
    * `Memory`
    * `mhBufInit` and `mhFactory`
    * `Rewritten`
    * `mhBufInit_repairs`
-/

------------------------------------------------------------
-- Memory
------------------------------------------------------------

namespace TemperatureSensor

/- The values of the non-volatile store by id. -/
abbrev UserMem := Nat → Option UInt16

/- `RET_MEM_OK` and `RET_MEM_NOT_FOUND`. -/
inductive RetMem where
| retMemOk
| retMemNotFound
deriving DecidableEq, Repr

/-
  `user_mem_read_reg16`: the return code and the content of
  the register afterwards.
-/
def userMemReadReg16
    (fs : UserMem)
    (addrId : Nat)
    (reg16 : UInt16) : RetMem × UInt16 :=
  match fs addrId with
  | some buf => (.retMemOk, buf)
  | none => (.retMemNotFound, reg16)

/- `user_mem_update_reg16`. -/
def userMemUpdateReg16
    (fs : UserMem)
    (addrId : Nat)
    (data : UInt16) : UserMem :=
  Function.update fs addrId (some data)

/- `MBbuf_main` and the store. -/
structure Memory where
  mbBufMain : Registers
  fs : UserMem

namespace Memory

/- `MBbuf_main[i] = value`. -/
def assign
    (m : Memory)
    (i : Fin numBuf)
    (value : UInt16) : Memory :=
  { m with mbBufMain := Function.update m.mbBufMain i value }

/- `user_mem_update_reg16 (i, &MBbuf_main[i])`. -/
def commit
    (m : Memory)
    (i : Fin numBuf) : Memory :=
  { m with fs := userMemUpdateReg16 m.fs i (m.mbBufMain i) }

@[simp] theorem assign_mbBufMain
    (m : Memory)
    (i : Fin numBuf)
    (value : UInt16) :
    (m.assign i value).mbBufMain =
      Function.update m.mbBufMain i value :=
  rfl

@[simp] theorem assign_fs
    (m : Memory)
    (i : Fin numBuf)
    (value : UInt16) :
    (m.assign i value).fs = m.fs :=
  rfl

@[simp] theorem commit_mbBufMain
    (m : Memory)
    (i : Fin numBuf) :
    (m.commit i).mbBufMain = m.mbBufMain :=
  rfl

@[simp] theorem commit_fs
    (m : Memory)
    (i : Fin numBuf) :
    (m.commit i).fs =
      Function.update m.fs i.val (some (m.mbBufMain i)) :=
  rfl

/- The two places of one register. -/
def cell
    (m : Memory)
    (r : Fin numBuf) : UInt16 × Option UInt16 :=
  (m.mbBufMain r, m.fs r)

theorem cell_assign_commit_of_ne
    (m : Memory)
    {i j : Fin numBuf}
    (value : UInt16)
    (hOther : j ≠ i) :
    ((m.assign i value).commit i).cell j = m.cell j := by
  have hId : j.val ≠ i.val := Fin.val_ne_of_ne hOther
  simp [cell, hOther, hId]

end Memory

------------------------------------------------------------
-- Boot and Factory Reset
------------------------------------------------------------

/- Write the default of a register to both places. -/
def Memory.storeDefault
    (m : Memory)
    (i : Fin numBuf) : Memory :=
  (m.assign i (defaultState i).defaultValue).commit i

/- The loop body of `mh_Factory`. -/
def factoryReg
    (m : Memory)
    (i : Fin numBuf) : Memory :=
  if eeSaveCheck i = .regOk then m.storeDefault i else m

/- `mh_Factory`. -/
def mhFactory (m : Memory) : Memory :=
  (List.finRange numBuf).foldl factoryReg m

/- The loop body of `mh_Buf_Init`. -/
def bufInitReg
    (m : Memory)
    (i : Fin numBuf) : Memory :=
  if eeSaveCheck i = .regOk then
    let (err, value) :=
      userMemReadReg16 m.fs i (m.mbBufMain i)
    let m := m.assign i value
    let m :=
      if err = .retMemNotFound then m.storeDefault i else m
    if limitCheck i (m.mbBufMain i) = .regErr then
      m.storeDefault i
    else
      m
  else
    m

/- `mh_Buf_Init`. -/
def mhBufInit (m : Memory) : Memory :=
  (List.finRange numBuf).foldl bufInitReg m

------------------------------------------------------------
-- Rewritten Memories
------------------------------------------------------------

/-
  The memory after both places of every saved register were
  set to a given value, with everything else unchanged.
-/
structure Rewritten
    (value : Fin numBuf → UInt16)
    (m m' : Memory) : Prop where
  saved :
    ∀ r, eeSaveCheck r = .regOk →
      m'.cell r = (value r, some (value r))
  other :
    ∀ r, eeSaveCheck r ≠ .regOk → m'.cell r = m.cell r
  foreign :
    ∀ addrId, numBuf ≤ addrId → m'.fs addrId = m.fs addrId

namespace Rewritten

variable {value : Fin numBuf → UInt16}
variable {m m' m'' : Memory}

theorem mbBufMain_eq
    (hRewritten : Rewritten value m m')
    {r : Fin numBuf}
    (hSaved : eeSaveCheck r = .regOk) :
    m'.mbBufMain r = value r :=
  congrArg Prod.fst (hRewritten.saved r hSaved)

theorem fs_eq
    (hRewritten : Rewritten value m m')
    {r : Fin numBuf}
    (hSaved : eeSaveCheck r = .regOk) :
    m'.fs r = some (value r) :=
  congrArg Prod.snd (hRewritten.saved r hSaved)

theorem mbBufMain_eq_of_other
    (hRewritten : Rewritten value m m')
    {r : Fin numBuf}
    (hOther : eeSaveCheck r ≠ .regOk) :
    m'.mbBufMain r = m.mbBufMain r :=
  congrArg Prod.fst (hRewritten.other r hOther)

/- The values determine the memory. -/
theorem unique
    (hLeft : Rewritten value m m')
    (hRight : Rewritten value m m'') :
    m' = m'' := by
  have hCell : ∀ r, m'.cell r = m''.cell r := by
    intro r
    by_cases hSaved : eeSaveCheck r = .regOk
    · rw [hLeft.saved r hSaved, hRight.saved r hSaved]
    · rw [hLeft.other r hSaved, hRight.other r hSaved]
  have hRegisters : m'.mbBufMain = m''.mbBufMain := by
    funext r
    exact congrArg Prod.fst (hCell r)
  have hStore : m'.fs = m''.fs := by
    funext addrId
    by_cases hBound : addrId < numBuf
    · exact congrArg Prod.snd (hCell ⟨addrId, hBound⟩)
    · rw [hLeft.foreign addrId (not_lt.mp hBound),
        hRight.foreign addrId (not_lt.mp hBound)]
  cases m'
  cases m''
  cases hRegisters
  cases hStore
  rfl

end Rewritten

/-
  A loop that sets both places of each saved register, to a
  value chosen from what the store held for it.
-/
theorem foldl_rewritten
    {body : Memory → Fin numBuf → Memory}
    (choose : Option UInt16 → Fin numBuf → UInt16)
    (hSaved :
      ∀ m i, eeSaveCheck i = .regOk →
        body m i = (m.assign i (choose (m.fs i) i)).commit i)
    (hOther :
      ∀ m i, eeSaveCheck i ≠ .regOk → body m i = m)
    (m : Memory) :
    Rewritten (fun r => choose (m.fs r) r) m
      ((List.finRange numBuf).foldl body m) := by
  have hCells :=
    CheckedLoop.foldl_cells body Memory.cell
      (R := fun i before after =>
        (eeSaveCheck i = .regOk →
          after =
            (choose before.2 i, some (choose before.2 i))) ∧
          (eeSaveCheck i ≠ .regOk → after = before))
      (by
        intro m i
        constructor
        · intro hKind
          rw [hSaved m i hKind]
          simp [Memory.cell]
        · intro hKind
          rw [hOther m i hKind])
      (by
        intro m i j hDistinct
        by_cases hKind : eeSaveCheck i = .regOk
        · rw [hSaved m i hKind]
          exact m.cell_assign_commit_of_ne _ hDistinct
        · rw [hOther m i hKind])
      (List.nodup_finRange numBuf) m
  have hForeign :
      ∀ l : List (Fin numBuf), ∀ m : Memory,
        ∀ addrId, numBuf ≤ addrId →
          (l.foldl body m).fs addrId = m.fs addrId := by
    intro l
    induction l with
    | nil =>
        intro m addrId _
        rfl
    | cons i l ih =>
        intro m addrId hBound
        rw [List.foldl_cons, ih _ addrId hBound]
        by_cases hKind : eeSaveCheck i = .regOk
        · have hId : addrId ≠ i.val := by omega
          rw [hSaved m i hKind]
          simp [hId]
        · rw [hOther m i hKind]
  exact
    { saved := fun r => (hCells.1 r (List.mem_finRange r)).1
      other := fun r => (hCells.1 r (List.mem_finRange r)).2
      foreign := hForeign _ m }

/- The factory reset writes the defaults. -/
theorem mhFactory_rewritten
    (m : Memory) :
    Rewritten (fun r => (defaultState r).defaultValue) m
      (mhFactory m) := by
  apply foldl_rewritten fun _ r =>
    (defaultState r).defaultValue
  · intro m i hSaved
    exact if_pos hSaved
  · intro m i hOther
    exact if_neg hOther

/-
  What a saved register holds after boot: its stored value if
  that is present and within the limits, else the default.
-/
def restoredValue
    (stored : Option UInt16)
    (r : Fin numBuf) : UInt16 :=
  match stored with
  | some value =>
      if limitCheck r value = .regOk then value
      else (defaultState r).defaultValue
  | none => (defaultState r).defaultValue

/- The restored value is within the limits. -/
theorem limitCheck_restoredValue
    (stored : Option UInt16)
    (r : Fin numBuf) :
    limitCheck r (restoredValue stored r) = .regOk := by
  unfold restoredValue
  split
  · split
    · assumption
    · exact limitCheck_default r
  · exact limitCheck_default r

theorem regErr_iff_ne_regOk
    {code : RegErrorCode} :
    code = .regErr ↔ code ≠ .regOk := by
  cases code <;> decide

/- The two repair branches together restore one register. -/
theorem bufInitReg_of_saved
    (m : Memory)
    {i : Fin numBuf}
    (hSaved : eeSaveCheck i = .regOk) :
    bufInitReg m i =
      (m.assign i (restoredValue (m.fs i) i)).commit i := by
  have hDefault := limitCheck_default i
  unfold bufInitReg
  rw [if_pos hSaved]
  cases hStored : m.fs i with
  | none =>
      simp [userMemReadReg16, hStored, Memory.storeDefault,
        restoredValue, hDefault, Memory.assign]
  | some value =>
      by_cases hValid : limitCheck i value = .regOk
      · have hKept :
            Function.update m.fs i.val (some value) = m.fs := by
          rw [← hStored]
          exact Function.update_eq_self _ _
        simp [userMemReadReg16, hStored, restoredValue, hValid,
          Memory.assign, Memory.commit, userMemUpdateReg16,
          hKept]
      · have hRejected := regErr_iff_ne_regOk.mpr hValid
        simp [userMemReadReg16, hStored, restoredValue,
          hRejected, Memory.storeDefault, Memory.assign]

theorem mhBufInit_rewritten
    (m : Memory) :
    Rewritten (fun r => restoredValue (m.fs r) r) m
      (mhBufInit m) := by
  apply foldl_rewritten restoredValue
  · intro m i hSaved
    exact bufInitReg_of_saved m hSaved
  · intro m i hOther
    exact if_neg hOther

/- A second boot changes nothing. -/
theorem mhBufInit_mhBufInit
    (m : Memory) :
    mhBufInit (mhBufInit m) = mhBufInit m := by
  have hFirst := mhBufInit_rewritten m
  have hSecond := mhBufInit_rewritten (mhBufInit m)
  apply hSecond.unique
  constructor
  · intro r hSaved
    have hKept :
        restoredValue ((mhBufInit m).fs r) r =
          restoredValue (m.fs r) r := by
      rw [hFirst.fs_eq hSaved]
      exact if_pos (limitCheck_restoredValue (m.fs r) r)
    rw [hKept]
    exact hFirst.saved r hSaved
  · exact fun _ _ => rfl
  · exact fun _ _ => rfl

------------------------------------------------------------
-- Repair
------------------------------------------------------------

/- What boot makes of an arbitrary memory. -/
structure BootRepaired (m m' : Memory) : Prop where
  value :
    ∀ r, eeSaveCheck r = .regOk →
      m'.mbBufMain r = restoredValue (m.fs r) r
  limits :
    ∀ r, HasLimit r →
      limitCheck r (m'.mbBufMain r) = .regOk
  stored :
    ∀ r, eeSaveCheck r = .regOk →
      m'.fs r = some (m'.mbBufMain r)
  other :
    ∀ r, eeSaveCheck r ≠ .regOk →
      m'.mbBufMain r = m.mbBufMain r
  stable : mhBufInit m' = m'

theorem mhBufInit_repaired
    (m : Memory) :
    BootRepaired m (mhBufInit m) := by
  have hRewritten := mhBufInit_rewritten m
  constructor
  · exact fun r hSaved => hRewritten.mbBufMain_eq hSaved
  · intro r hLimit
    rw [hRewritten.mbBufMain_eq
      (eeSaveCheck_of_hasLimit r hLimit)]
    exact limitCheck_restoredValue (m.fs r) r
  · intro r hSaved
    rw [hRewritten.fs_eq hSaved,
      hRewritten.mbBufMain_eq hSaved]
  · exact fun r hOther =>
      hRewritten.mbBufMain_eq_of_other hOther
  · exact mhBufInit_mhBufInit m

/-
  Boot repairs any store, and the factory reset leaves the
  saved registers as a boot on an empty store does.
-/
theorem mhBufInit_repairs
    (m : Memory) :
    BootRepaired m (mhBufInit m) ∧
      ∀ ram : Registers, ∀ r,
        (eeSaveCheck r = .regOk →
          (mhFactory m).mbBufMain r =
              (mhBufInit ⟨ram, fun _ => none⟩).mbBufMain r ∧
            (mhFactory m).fs r =
              (mhBufInit ⟨ram, fun _ => none⟩).fs r) ∧
          (eeSaveCheck r ≠ .regOk →
            (mhFactory m).mbBufMain r = m.mbBufMain r) := by
  have hReset := mhFactory_rewritten m
  refine ⟨mhBufInit_repaired m, ?_⟩
  intro ram r
  have hBoot := mhBufInit_rewritten ⟨ram, fun _ => none⟩
  constructor
  · intro hSaved
    constructor
    · rw [hReset.mbBufMain_eq hSaved,
        hBoot.mbBufMain_eq hSaved]
      rfl
    · rw [hReset.fs_eq hSaved, hBoot.fs_eq hSaved]
      rfl
  · exact fun hOther => hReset.mbBufMain_eq_of_other hOther

end TemperatureSensor
