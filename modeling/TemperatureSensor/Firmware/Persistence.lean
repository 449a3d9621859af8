import TemperatureSensor.Firmware.Buffer

/-
  The registers and the store agree on every saved register
  unless a save or a factory reset is in progress.

  Main declarations:
    * `acceptedWrite` and `WriteApplied`
    * `ModbusPc.Pending`
    * `RegStored` and `StoreInv`
    * `ram_agrees_with_store`
-/

------------------------------------------------------------
-- Accepted Writes
------------------------------------------------------------

namespace TemperatureSensor

namespace Firmware

/-
  The first register and the count of a write that was
  applied: the frame is valid and its function code is
  repeated in the answer.
-/
def acceptedWrite
    (request answer : MbStruct) : Option (Nat × Nat) :=
  if invalidFrame request = some false ∧
      answer.pMbBuff.get 1 = request.pMbBuff.get 1 then
    match request.pMbBuff.get 1 with
    | 16 => some (request.field 2, request.field 4)
    | 6 => some (request.field 2, 1)
    | _ => none
  else
    none

/- What an accepted write does to registers and save state. -/
structure WriteApplied
    (request : MbStruct)
    (mb : Registers)
    (answer : MbStruct)
    (mb' : Registers)
    (start count : Nat) : Prop where
  nonempty : 1 ≤ count
  range : start + count < numBuf
  values :
    ∃ offset,
      mb' =
        writeRange mb start count
          (rangeValue request.pMbBuff offset)
  save :
    answer.eepState = .eepSave ↔ ContainsSaved start count
  descriptor :
    answer.eepState = .eepSave →
      answer.eepStartSave.toNat = start ∧
        saveEnd answer = start + count
  acknowledged :
    answer.mbState = .stateSend ↔
      answer.pMbBuff.get 0 ≠ mbAddressBroadcast

/- Registers outside a written range are unchanged. -/
theorem WriteApplied.other
    {request answer : MbStruct}
    {mb mb' : Registers}
    {start count : Nat}
    (hApplied : WriteApplied request mb answer mb' start count)
    {r : Fin numBuf}
    (hOutside : ¬ InRange start count r) :
    mb' r = mb r := by
  rcases hApplied.values with ⟨offset, rfl⟩
  exact if_neg hOutside

theorem response_function
    {body answer : MbStruct}
    (hClosed : Closed body answer)
    (hSize : 3 ≤ body.mbIndex.toNat) :
    answer.pMbBuff.get 1 = body.pMbBuff.get 1 :=
  hClosed.bytes 1 (by omega)

/-
  A parsed frame is an accepted write, or it changes no
  register and starts no save.
-/
theorem acceptedWrite_cases
    {request answer : MbStruct}
    {mb mb' : Registers}
    (hFree : request.eepState = .eepFree)
    (hOutcome : ParsingOutcome request mb answer mb') :
    acceptedWrite request answer = none ∧ mb' = mb ∧
        answer.eepState = .eepFree ∨
      ∃ start count,
        acceptedWrite request answer = some (start, count) ∧
          WriteApplied request mb answer mb' start count := by
  cases hOutcome with
  | discarded hInvalid hSame =>
      refine Or.inl ⟨?_, rfl, ?_⟩
      · unfold acceptedWrite
        rw [hInvalid]
        exact if_neg (by simp)
      · rw [hSame]
        exact hFree
  | answered body hValid hLength _ hSetup hReply hClosed
      hState =>
      have hEep := hClosed.eepState
      cases hReply with
      | exception code hCode hAddress hFunction hValue hSize
          hBody =>
          refine Or.inl ⟨?_, rfl, hEep.trans hBody⟩
          unfold acceptedWrite
          rw [response_function hClosed (by omega), hFunction]
          split
          · next hRepeated =>
              split
              · next hCode =>
                  rw [hCode] at hRepeated
                  exact absurd hRepeated.2 (by decide)
              · next hCode =>
                  rw [hCode] at hRepeated
                  exact absurd hRepeated.2 (by decide)
              · rfl
          · rfl
      | read start count hStart hCount hRange hAddress
          hFunction hBytes hValues hSize hBody =>
          refine
            Or.inl ⟨?_, rfl, hEep.trans (hBody.trans hFree)⟩
          unfold acceptedWrite
          rw [hFunction.1]
          split <;> rfl
      | write start count offset hStart hFunction hNonempty
          hRange hAccepted hEcho hSize hBody hDescriptor =>
          have hRepeated :
              answer.pMbBuff.get 1 = request.pMbBuff.get 1 := by
            rw [response_function hClosed (by omega), hEcho]
          refine Or.inr ⟨start, count, ?_, ?_⟩
          · unfold acceptedWrite
            rw [if_pos ⟨hValid, hRepeated⟩]
            rcases hFunction with
              ⟨hCode, hField, -⟩ | ⟨hCode, hOne, -⟩
            · rw [hCode, hStart, hField]
              rfl
            · rw [hCode, hStart, hOne]
              rfl
          · constructor
            · exact hNonempty
            · exact hRange
            · exact ⟨offset, rfl⟩
            · rw [hEep]
              exact hBody
            · intro hSave
              rcases hDescriptor (hEep ▸ hSave) with
                ⟨hFirst, hCount⟩
              constructor
              · rw [hClosed.eepStartSave, hFirst]
              · unfold saveEnd
                rw [hClosed.eepStartSave, hClosed.eepIndx,
                  hFirst, hCount]
            · have hAddress :
                  answer.pMbBuff.get 0 =
                    request.pMbBuff.get 0 := by
                rw [hClosed.bytes 0 (by omega), hEcho]
              rw [hState, hAddress]
              split
              · next hBroadcast => simp [hBroadcast]
              · next hOther => simp [hOther]

/- A range that reaches the last register is never saved. -/
theorem eepromCheckInRequest_of_end
    (startReg count : UInt16)
    (hEnd : numBuf ≤ startReg.toNat + count.toNat) :
    eepromCheckInRequest startReg count = some .eepFree := by
  unfold eepromCheckInRequest
  apply if_pos
  rw [Nat.add_comm]
  exact hEnd

------------------------------------------------------------
-- Pending Registers
------------------------------------------------------------

/- The register belongs to the save that is described. -/
def InSave (mbb : MbStruct) (r : Fin numBuf) : Prop :=
  mbb.eepStartSave.toNat ≤ r.val ∧ r.val < saveEnd mbb

instance (mbb : MbStruct) (r : Fin numBuf) :
    Decidable (InSave mbb r) := by
  unfold InSave
  infer_instance

/- The save loop has not yet committed the register. -/
def ModbusPc.Ahead (pc : ModbusPc) (r : Fin numBuf) : Prop :=
  match pc with
  | .updating q => q.val ≤ r.val
  | .updated q => q.val < r.val
  | _ => False

/- The register is still to be saved. -/
def ModbusPc.Pending
    (pc : ModbusPc)
    (mbb : MbStruct)
    (r : Fin numBuf) : Prop :=
  InSave mbb r ∧ pc.Ahead r

/- Only the loop of a pending save has pending registers. -/
theorem ModbusPc.Pending.isSaving
    {pc : ModbusPc}
    {mbb : MbStruct}
    {r : Fin numBuf}
    (hPending : pc.Pending mbb r) :
    pc.IsSaving := by
  rcases hPending with ⟨-, hAhead⟩
  cases pc with
  | starting => exact hAhead
  | waiting => exact hAhead
  | updating q => trivial
  | updated q => trivial
  | sleeping => trivial

/- No saved register is passed over by the loop. -/
theorem pending_savePc
    {mbb : MbStruct}
    {i : Nat}
    {next : Option (Fin numBuf)}
    {r : Fin numBuf}
    (hNext : NextSaved i (saveEnd mbb) next)
    (hSaved : eeSaveCheck r = .regOk)
    (hFrom : i ≤ r.val)
    (hInside : InSave mbb r) :
    (savePc next).Pending mbb r := by
  refine ⟨hInside, ?_⟩
  have hBefore := hInside.2
  cases next with
  | none =>
      have hPast := hNext r hSaved hFrom
      omega
  | some q => exact hNext.2 r hSaved hFrom hBefore

/- The registers before the last parsed frame. -/
def Event.registersBefore
    (old : Registers) : Event → Registers
| .parsed _ mb _ _ => mb
| _ => old

def registersBefore (history : List Event) : Registers :=
  history.foldl Event.registersBefore (fun _ => 0)

theorem registersBefore_concat
    (history : List Event)
    (event : Event) :
    registersBefore (history ++ [event]) =
      event.registersBefore (registersBefore history) := by
  unfold registersBefore
  rw [List.foldl_append, List.foldl_cons, List.foldl_nil]

------------------------------------------------------------
-- Invariant
------------------------------------------------------------

/-
  A saved register and its stored value are within the
  limits, and they are equal unless a save or the factory
  reset has still to commit the register. A register that is
  still to be saved is stored as it was before the request.
-/
structure RegStored
    (old : Registers)
    (s : System)
    (r : Fin numBuf) : Prop where
  limit : limitCheck r (s.memory.mbBufMain r) = .regOk
  stored :
    ∃ value,
      s.memory.fs r = some value ∧ limitCheck r value = .regOk
  agrees :
    s.memory.fs r = some (s.memory.mbBufMain r) ∨
      (s.modbus.Pending s.usb r ∧
          s.memory.fs r = some (old r)) ∨
        s.com = .updating r

def StoreInv (history : List Event) (s : System) : Prop :=
  ∀ r, eeSaveCheck r = .regOk →
    RegStored (registersBefore history) s r

theorem storeInv_start
    (history : List Event)
    (m : Memory)
    (mbb : MbStruct) :
    StoreInv history (start m mbb) := by
  intro r hSaved
  have hBoot := mhBufInit_repaired m
  have hLimit :
      limitCheck r ((mhBufInit m).mbBufMain r) = .regOk := by
    rw [hBoot.value r hSaved]
    exact limitCheck_restoredValue (m.fs r) r
  constructor
  · rw [start_memory]
    exact hLimit
  · rw [start_memory]
    exact ⟨_, hBoot.stored r hSaved, hLimit⟩
  · rw [start_memory]
    exact Or.inl (hBoot.stored r hSaved)

/- A commit makes a register and its stored value equal. -/
theorem regStored_commit
    {old : Registers}
    {s t : System}
    {q r : Fin numBuf}
    (hReg : RegStored old s r)
    (hMemory : t.memory = s.memory.commit q)
    (hPending :
      r ≠ q → s.modbus.Pending s.usb r →
        t.modbus.Pending t.usb r)
    (hCom :
      r ≠ q → s.com = .updating r → t.com = .updating r) :
    RegStored old t r := by
  by_cases hSame : r = q
  · subst hSame
    refine ⟨?_, ?_, Or.inl ?_⟩
    · rw [hMemory]
      exact hReg.limit
    · refine ⟨s.memory.mbBufMain r, ?_, hReg.limit⟩
      rw [hMemory]
      simp
    · rw [hMemory]
      simp
  · have hId : r.val ≠ q.val := Fin.val_ne_of_ne hSame
    have hStore : t.memory.fs r = s.memory.fs r := by
      rw [hMemory]
      simp [hId]
    have hRam :
        t.memory.mbBufMain r = s.memory.mbBufMain r := by
      rw [hMemory]
      rfl
    refine ⟨?_, ?_, ?_⟩
    · rw [hRam]
      exact hReg.limit
    · rw [hStore]
      exact hReg.stored
    · rw [hStore, hRam]
      exact
        hReg.agrees.imp_right
          (Or.imp (And.imp_left (hPending hSame))
            (hCom hSame))

/- A write to another register leaves a register alone. -/
theorem regStored_assign
    {old : Registers}
    {s t : System}
    {q r : Fin numBuf}
    {value : UInt16}
    (hReg : RegStored old s r)
    (hMemory : t.memory = s.memory.assign q value)
    (hOther : r ≠ q)
    (hModbus : t.modbus = s.modbus)
    (hUsb : t.usb = s.usb)
    (hCom : s.com = .updating r → t.com = .updating r) :
    RegStored old t r := by
  have hRam :
      t.memory.mbBufMain r = s.memory.mbBufMain r := by
    rw [hMemory]
    exact Function.update_of_ne hOther _ _
  have hStore : t.memory.fs r = s.memory.fs r := by
    rw [hMemory]
    rfl
  refine ⟨?_, ?_, ?_⟩
  · rw [hRam]
    exact hReg.limit
  · rw [hStore]
    exact hReg.stored
  · rw [hRam, hStore, hModbus, hUsb]
    exact hReg.agrees.imp_right (Or.imp_right hCom)

theorem ne_of_writeCheck
    {q r : Fin numBuf}
    (hReadOnly : writeCheck q = .regErr)
    (hSaved : eeSaveCheck r = .regOk) :
    r ≠ q := by
  rintro rfl
  rw [writeCheck_of_eeSaveCheck r hSaved] at hReadOnly
  cases hReadOnly

theorem ne_regSendCommand
    {r : Fin numBuf}
    (hSaved : eeSaveCheck r = .regOk) :
    r ≠ regSendCommand := by
  rintro rfl
  revert hSaved
  decide

/-
  After a request is parsed, the registers it has written are
  pending.
-/
theorem regStored_parse
    {old : Registers}
    {s : System}
    {rest : List QueueNode}
    {answer : MbStruct}
    {mb' : Registers}
    {pc : ModbusPc}
    {r : Fin numBuf}
    (hFree : s.usb.eepState = .eepFree)
    (hPc : s.modbus = .waiting)
    (hServed :
      FrameServed s.usb s.memory.mbBufMain answer mb')
    (hSave :
      Accepts s.usb → answer.eepState = .eepSave →
        ∃ next, pc = savePc next ∧
          NextSaved answer.eepStartSave.toNat
            (saveEnd answer) next)
    (hSaved : eeSaveCheck r = .regOk)
    (hReg : RegStored old s r) :
    RegStored s.memory.mbBufMain
      { s with
        memory := { s.memory with mbBufMain := mb' }
        usb := answer
        mhQueue := rest
        modbus := pc } r := by
  have hAgrees :
      s.memory.fs r = some (s.memory.mbBufMain r) ∨
        s.com = .updating r := by
    rcases hReg.agrees with hEqual | hPending | hCom
    · exact Or.inl hEqual
    · rw [hPc] at hPending
      cases hPending.1.2
    · exact Or.inr hCom
  refine ⟨?_, hReg.stored, ?_⟩
  · apply (limitCheck_eq_regOk_iff r _).mpr
    apply hServed.preserved.limits r
    exact (limitCheck_eq_regOk_iff r _).mp hReg.limit
  · rcases acceptedWrite_cases hFree hServed.outcome with
      ⟨-, rfl, -⟩ | ⟨start, count, -, hApplied⟩
    · exact hAgrees.imp_right Or.inr
    · by_cases hInside : InRange start count r
      · have hPending : answer.eepState = .eepSave :=
          hApplied.save.mpr ⟨r, hInside, hSaved⟩
        rcases hApplied.descriptor hPending with
          ⟨hStart, hEnd⟩
        have hAccepts := hServed.accepts hFree hPending
        rcases hSave hAccepts hPending with
          ⟨next, rfl, hNext⟩
        have hSaveRange : InSave answer r := by
          unfold InSave
          rw [hStart, hEnd]
          exact hInside
        have hPc' :=
          pending_savePc hNext hSaved hSaveRange.1 hSaveRange
        rcases hAgrees with hEqual | hCom
        · exact Or.inr (Or.inl ⟨hPc', hEqual⟩)
        · exact Or.inr (Or.inr hCom)
      · change
          s.memory.fs r = some (mb' r) ∨ _ ∨
            s.com = .updating r
        rw [hApplied.other hInside]
        exact hAgrees.imp_right Or.inr

/- Every step keeps the registers stored. -/
theorem storeInv_step
    {history : List Event}
    {s t : System}
    {event : Option Event}
    (hInv : Inv history s)
    (hStore : StoreInv history s)
    (hTransition : Transition s t event) :
    StoreInv (EventSystem.record history event) t := by
  intro r hSaved
  have hReg := hStore r hSaved
  cases hTransition with
  | nothing =>
      exact hReg
  | accept frame hFree hIdle =>
      rw [EventSystem.record, registersBefore_concat]
      exact ⟨hReg.limit, hReg.stored, hReg.agrees⟩
  | fill hSend =>
      rw [EventSystem.record, registersBefore_concat]
      exact ⟨hReg.limit, hReg.stored, hReg.agrees⟩
  | begin hPc =>
      refine ⟨hReg.limit, hReg.stored, ?_⟩
      have hAgrees := hReg.agrees
      rw [hPc] at hAgrees
      exact hAgrees
  | parse rest answer mb' pc hPc hQueue hParse hSave hFree =>
      rcases hInv with
        ⟨hInit, ⟨phase, -, hPhase⟩, -⟩
      rcases hPhase.parsing hQueue with ⟨-, frame, rfl⟩
      rw [EventSystem.record, registersBefore_concat]
      exact
        regStored_parse hPhase.2.2.1 hPc
          (frameServed_of_mbParsing hInit hParse) hSave hSaved
          hReg
  | commit q hPc =>
      apply regStored_commit hReg rfl
      · intro hOther hPending
        rw [hPc] at hPending
        have hDistinct := Fin.val_ne_of_ne hOther
        exact
          ⟨hPending.1,
            lt_of_le_of_ne hPending.2 hDistinct.symm⟩
      · exact fun _ hCom => hCom
  | resume q next hPc hNext =>
      refine ⟨hReg.limit, hReg.stored, ?_⟩
      rcases hReg.agrees with
        hEqual | ⟨hPending, hOld⟩ | hCom
      · exact Or.inl hEqual
      · rw [hPc] at hPending
        rcases hPending with ⟨hInside, hAfter⟩
        have hLoop := hNext (hAfter.trans hInside.2)
        exact
          Or.inr
            (Or.inl
              ⟨pending_savePc hLoop hSaved hAfter hInside,
                hOld⟩)
      · exact Or.inr (Or.inr hCom)
  | finish hPc =>
      rw [EventSystem.record, registersBefore_concat]
      refine ⟨hReg.limit, hReg.stored, ?_⟩
      have hAgrees := hReg.agrees
      rw [hPc] at hAgrees
      exact hAgrees
  | restart hPc hCommand => exact storeInv_start _ _ _ r hSaved
  | factoryAssign i q hFrom hNext =>
      rw [EventSystem.record, registersBefore_concat]
      by_cases hSame : r = q
      · subst hSame
        refine ⟨?_, hReg.stored, Or.inr (Or.inr rfl)⟩
        simpa using limitCheck_default r
      · refine regStored_assign hReg rfl hSame rfl rfl ?_
        intro hCom
        rcases hFrom with ⟨hPc, -⟩ | ⟨_, hPc, -⟩
        · rw [hPc] at hCom
          cases hCom
        · rw [hPc] at hCom
          cases hCom
  | factoryCommit q hPc =>
      apply regStored_commit hReg rfl
      · exact fun _ hPending => hPending
      · intro hOther hCom
        rw [hPc] at hCom
        cases hCom
        exact absurd rfl hOther
  | command hPc =>
      refine
        regStored_assign hReg rfl (ne_regSendCommand hSaved)
          rfl rfl ?_
      exact fun hCom => absurd hCom (hPc r)
  | publish q value hReadOnly =>
      exact
        regStored_assign hReg rfl
          (ne_of_writeCheck hReadOnly hSaved) rfl rfl id

theorem storeInv_run
    {m : Memory}
    {mbb : MbStruct}
    {actions : List Action}
    {s : System}
    {events : List Event}
    (hRun :
      EventSystem.run step (start m mbb) actions =
        some (s, events)) :
    StoreInv events s := by
  have hBoth :
      Inv ([] ++ events) s ∧ StoreInv ([] ++ events) s :=
    EventSystem.run_invariant
      (I := fun history s =>
        Inv history s ∧ StoreInv history s)
      (fun _ _ _ _ _ hInv hStep =>
        ⟨inv_step hInv.1 (transition_of_step hStep),
          storeInv_step hInv.1 hInv.2
            (transition_of_step hStep)⟩)
      ⟨inv_start m mbb, storeInv_start [] m mbb⟩ hRun
  exact hBoth.2

------------------------------------------------------------
-- Agreement
------------------------------------------------------------

/-
  The store agrees with the registers while nothing is in
  progress, and every write of a saved register starts a
  save, although a range that reaches the last register
  would not be saved.
-/
structure StoreAgrees
    (history : List Event)
    (s : System) : Prop where
  agree :
    s.usb.eepState = .eepFree → s.com = .sleeping →
      ∀ r, eeSaveCheck r = .regOk →
        s.memory.fs r = some (s.memory.mbBufMain r)
  saves :
    ∀ request mb answer mb' start count,
      .parsed request mb answer mb' ∈ history →
        acceptedWrite request answer = some (start, count) →
          ContainsSaved start count →
            answer.eepState = .eepSave
  boundary :
    ∀ startReg count : UInt16,
      numBuf ≤ startReg.toNat + count.toNat →
        eepromCheckInRequest startReg count = some .eepFree

/- In every reachable state of every run, the store agrees. -/
theorem ram_agrees_with_store
    (m : Memory)
    (mbb : MbStruct)
    {actions : List Action}
    {s : System}
    {events : List Event}
    (hRun :
      EventSystem.run step (start m mbb) actions =
        some (s, events)) :
    StoreAgrees events s := by
  constructor
  · intro hFree hCom r hSaved
    rcases (storeInv_run hRun r hSaved).agrees with
      hEqual | hPending | hUpdating
    · exact hEqual
    · have hSave :=
        (inv_run hRun).saving.mp hPending.1.isSaving
      rw [hFree] at hSave
      cases hSave
    · rw [hCom] at hUpdating
      cases hUpdating
  · intro request mb answer mb' start count hEvent hWrite
      hSaved
    rcases (inv_run hRun).exchanges with
      ⟨phase, hHistory, -⟩
    rcases hHistory.parsed_served hEvent with
      ⟨hFree, hServed⟩
    rcases acceptedWrite_cases hFree hServed.outcome with
      ⟨hNone, -⟩ | ⟨start', count', hSome, hApplied⟩
    · rw [hNone] at hWrite
      cases hWrite
    · rw [hSome] at hWrite
      cases hWrite
      exact hApplied.save.mpr hSaved
  · exact eepromCheckInRequest_of_end

/- Write the value 20 to the saved register 41. -/
def writeRequest : Received :=
  ⟨[1, 6, 0, 41, 0, 20, 0x58, 0x0D], by decide⟩

/- Write the factory reset to the command register. -/
def resetRequest : Received :=
  ⟨[1, 6, 0, 29, 0, 13, 0xD8, 0x09], by decide⟩

/-
  The factory reset is commanded, starts while a write is
  being saved, and ends after the save.
-/
def resetActions : List Action :=
  [.modbus, .uart (some resetRequest) false, .modbus,
    .uart none true, .uart (some writeRequest) false,
    .modbus, .com, .modbus, .com, .modbus, .modbus,
    .uart none true] ++
    List.replicate 57 .com

theorem resetActions_ram_agrees_with_store :
    ∃ s events,
      EventSystem.run step
            (start ⟨mbBufLinked, fun _ => none⟩ mbStructZero)
            resetActions =
          some (s, events) ∧
        (s.usb.eepState = .eepFree ∧ s.com = .sleeping) ∧
        StoreAgrees events s := by
  have hEnds :
      (EventSystem.run step
          (start ⟨mbBufLinked, fun _ => none⟩ mbStructZero)
          resetActions).map
          (fun last => (last.1.usb.eepState, last.1.com)) =
        some (.eepFree, .sleeping) := by
    decide +kernel
  rcases Option.map_eq_some_iff.mp hEnds with
    ⟨⟨s, events⟩, hRun, hIdle⟩
  exact
    ⟨s, events, hRun, Prod.mk.inj hIdle,
      ram_agrees_with_store _ _ hRun⟩

end Firmware

end TemperatureSensor
