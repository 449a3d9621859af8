import TemperatureSensor.Foundations.EventSystem
import TemperatureSensor.Modbus.Exchange
import TemperatureSensor.Registers.Store

/-
  The UART callback, `mh_task_Modbus` and `com_task` side by
  side, with their blocking points inside the save loop and
  inside the factory reset, and the commanded restart.

  Main declarations:
    * `System`, `Action` and `Event`
    * `step`
    * `Transition` and `ComTransition`
    * `transition_of_step`
    * `run_mhFactory`
-/

------------------------------------------------------------
-- States
------------------------------------------------------------

namespace TemperatureSensor

namespace Firmware

/- The only node that is put on `mh_queue`. -/
inductive QueueNode where
| mbUsb
deriving DecidableEq, Repr

/-
  Where `mh_task_Modbus` stands: in its first `k_sleep`, at
  `k_queue_get`, in `user_mem_update_reg16` before or after
  the commit of a register, or in the `k_sleep` that ends
  `mh_Write_Eeprom`.
-/
inductive ModbusPc where
| starting
| waiting
| updating (r : Fin numBuf)
| updated (r : Fin numBuf)
| sleeping
deriving DecidableEq, Repr

/-
  Where `com_task` stands: in its `k_sleep`, or within
  `mh_Factory` before or after the commit of a register.
-/
inductive ComPc where
| sleeping
| updating (r : Fin numBuf)
| updated (r : Fin numBuf)
deriving DecidableEq, Repr

/- The tasks and the variables that they share. -/
structure System where
  memory : Memory
  usb : MbStruct
  mhQueue : List QueueNode
  modbus : ModbusPc
  com : ComPc

/- `MBbuf_main` as it is linked. -/
def mbBufLinked : Registers :=
  fun r => if r.val = 0 then version else 0

/-
  The state after `mh_Buf_Init` and `mh_usb_init`, with both
  tasks created.
-/
def start (m : Memory) (mbb : MbStruct) : System where
  memory := mhBufInit m
  usb := mhUsbInit mbb
  mhQueue := []
  modbus := .starting
  com := .sleeping

theorem start_memory
    (m : Memory)
    (mbb : MbStruct) :
    (start m mbb).memory = mhBufInit m := by
  rw [start]

/- `sys_reboot`: only the store is kept. -/
def sysReboot (s : System) : System :=
  start ⟨mbBufLinked, s.memory.fs⟩ mbStructZero

------------------------------------------------------------
-- UART Callback
------------------------------------------------------------

/- What `uart_fifo_read` puts into the local `buf[64]`. -/
structure Received where
  bytes : List UInt8
  upper : bytes.length ≤ 64

/- What is observed of a run. -/
inductive Event where
| accepted (frame : Frame)
| parsed
    (request : MbStruct)
    (mb : Registers)
    (answer : MbStruct)
    (mb' : Registers)
| filled (bytes : List UInt8)
| saved
| defaulted (r : Fin numBuf)
| restarted (mb : Registers)

/- The receive branch of `uart_usb_interrupt_handler`. -/
def uartReceive
    (s : System)
    (buf : Received) : System × Option Event :=
  if allIdleCheck s.usb = .regOk then
    if hLength : mbFrameMin ≤ buf.bytes.length then
      let frame : Frame :=
        ⟨buf.bytes, hLength, buf.upper.trans (by decide)⟩
      ({ s with
         usb := s.usb.handOver frame
         mhQueue := s.mhQueue ++ [.mbUsb] },
        some (.accepted frame))
    else
      (s, none)
  else
    (s, none)

/- The transmit branch of `uart_usb_interrupt_handler`. -/
def uartTransmit (s : System) : System × Option Event :=
  if s.usb.mbState = .stateSend then
    ({ s with usb := { s.usb with mbState := .stateIdle } },
      some (.filled s.usb.response))
  else
    (s, none)

/-
  One iteration of `uart_usb_interrupt_handler`. A frame that
  was just accepted is not in `STATE_SEND`, so only one of
  the branches emits an event.
-/
def uartHandler
    (s : System)
    (received : Option Received)
    (txReady : Bool) : System × Option Event :=
  let (s, accepted) :=
    match received with
    | some buf => uartReceive s buf
    | none => (s, none)
  let (s, filled) :=
    if txReady then uartTransmit s else (s, none)
  (s, accepted.or filled)

------------------------------------------------------------
-- Modbus Task
------------------------------------------------------------

/- The next saved register of a loop over registers. -/
def saveScan : List Nat → Option (Option (Fin numBuf))
| [] => some none
| i :: rest => do
    let r ← register? i
    if eeSaveCheck r = .regOk then some (some r)
    else saveScan rest

/- `eep_start_save + eep_indx`, where the save loop ends. -/
def saveEnd (mbb : MbStruct) : Nat :=
  mbb.eepStartSave.toNat + mbb.eepIndx.toNat

/-
  `mh_Write_Eeprom` from register `i` on: it runs to its next
  `user_mem_update_reg16`, or to its `k_sleep`.
-/
def mhWriteEeprom
    (mbb : MbStruct)
    (i : Nat) : Option ModbusPc :=
  (saveScan (List.range' i (saveEnd mbb - i))).map fun next =>
    match next with
    | some r => .updating r
    | none => .sleeping

/-
  The end of `MBparsing`: the call of `f_save`. A frame that
  is discarded returns before it.
-/
def callSave (request answer : MbStruct) : Option ModbusPc :=
  (invalidFrame request).bind fun invalid =>
    if invalid then
      some .waiting
    else if answer.eepState = .eepSave then
      mhWriteEeprom answer answer.eepStartSave.toNat
    else
      some .waiting

/- `MBparsing` in the Modbus task. -/
def taskParsing
    (s : System)
    (mhQueue : List QueueNode) :
    Option (System × Option Event) :=
  (mbParsing s.usb s.memory.mbBufMain).bind fun parsed =>
    (callSave s.usb parsed.1).map fun pc =>
      ({ s with
         memory := { s.memory with mbBufMain := parsed.2 }
         usb := parsed.1
         mhQueue := mhQueue
         modbus := pc },
        some
          (.parsed s.usb s.memory.mbBufMain parsed.1
            parsed.2))

/- `mh_task_Modbus` up to its next blocking point. -/
def modbusStep (s : System) : Option (System × Option Event) :=
  match s.modbus with
  | .starting => some ({ s with modbus := .waiting }, none)
  | .waiting =>
      match s.mhQueue with
      | [] => none
      | .mbUsb :: rest => taskParsing s rest
  | .updating r =>
      some
        ({ s with
           memory := s.memory.commit r
           modbus := .updated r }, none)
  | .updated r =>
      (mhWriteEeprom s.usb (r.val + 1)).map fun pc =>
        ({ s with modbus := pc }, none)
  | .sleeping =>
      some
        ({ s with
           usb := { s.usb with eepState := .eepFree }
           modbus := .waiting }, some .saved)

------------------------------------------------------------
-- Com Task
------------------------------------------------------------

/- The end of `command_control`. -/
def commandDone (s : System) : System :=
  { s with
    memory := s.memory.assign regSendCommand 0
    com := .sleeping }

/-
  `mh_Factory` from register `i` on: it assigns the next
  default and calls `user_mem_update_reg16`, or returns.
-/
def factoryFrom
    (s : System)
    (i : Nat) : Option (System × Option Event) :=
  (saveScan (List.range' i (numBuf - i))).map fun next =>
    match next with
    | some r =>
        ({ s with
           memory :=
             s.memory.assign r (defaultState r).defaultValue
           com := .updating r }, some (.defaulted r))
    | none => (commandDone s, none)

/-
  `command_control`. The commands that only call the Zigbee
  stack end like an unknown one.
-/
def commandControl
    (s : System) : Option (System × Option Event) :=
  if s.memory.mbBufMain regSendCommand = 0 then
    some (s, none)
  else if
      s.memory.mbBufMain regSendCommand = codeRestart ∨
        s.memory.mbBufMain regSendCommand =
          codeHardResetStack then
    some
      (sysReboot s,
        some (.restarted (sysReboot s).memory.mbBufMain))
  else if
      s.memory.mbBufMain regSendCommand =
        codeResetToDefault then
    factoryFrom s 0
  else
    some (commandDone s, none)

/- `com_task` up to its next blocking point. -/
def comStep (s : System) : Option (System × Option Event) :=
  match s.com with
  | .sleeping => commandControl s
  | .updating r =>
      some
        ({ s with
           memory := s.memory.commit r
           com := .updated r }, none)
  | .updated r => factoryFrom s (r.val + 1)

------------------------------------------------------------
-- Steps
------------------------------------------------------------

/-
  A step of one of the parties. Other tasks write registers
  that are read-only on the line.
-/
inductive Action where
| uart (received : Option Received) (txReady : Bool)
| modbus
| com
| publish (r : Fin numBuf) (value : UInt16)

/- One step; `none` if the party is blocked. -/
def step (s : System) : Action → Option (System × Option Event)
| .uart received txReady =>
    some (uartHandler s received txReady)
| .modbus => modbusStep s
| .com => comStep s
| .publish r value =>
    if writeCheck r = .regErr then
      some ({ s with memory := s.memory.assign r value }, none)
    else
      none

/- The first saved register from `i` on, before `stop`. -/
def NextSaved (i stop : Nat) : Option (Fin numBuf) → Prop
| some r =>
    (i ≤ r.val ∧ r.val < stop ∧ eeSaveCheck r = .regOk) ∧
      ∀ q, eeSaveCheck q = .regOk → i ≤ q.val →
        q.val < stop → r.val ≤ q.val
| none =>
    ∀ q, eeSaveCheck q = .regOk → i ≤ q.val →
      stop ≤ q.val

theorem nextSaved_succ
    {i stop : Nat}
    {next : Option (Fin numBuf)}
    (hSkipped :
      ∀ q, eeSaveCheck q = .regOk → q.val ≠ i)
    (hNext : NextSaved (i + 1) stop next) :
    NextSaved i stop next := by
  have hAbove :
      ∀ q, eeSaveCheck q = .regOk → i ≤ q.val →
        i + 1 ≤ q.val := by
    intro q hSaved hFrom
    have hOther := hSkipped q hSaved
    omega
  cases next with
  | none =>
      intro q hSaved hFrom
      exact hNext q hSaved (hAbove q hSaved hFrom)
  | some r =>
      rcases hNext with ⟨⟨hFrom, hBefore, hKind⟩, hFirst⟩
      refine ⟨⟨by omega, hBefore, hKind⟩, ?_⟩
      intro q hSaved hFromQ hBeforeQ
      exact
        hFirst q hSaved (hAbove q hSaved hFromQ) hBeforeQ

/- The scan finds the first saved register. -/
theorem nextSaved_of_saveScan
    {i n : Nat}
    {next : Option (Fin numBuf)}
    (hScan : saveScan (List.range' i n) = some next) :
    NextSaved i (i + n) next := by
  induction n generalizing i with
  | zero =>
      rw [List.range'_zero, saveScan] at hScan
      cases hScan
      intro q _ hFrom
      exact hFrom
  | succ n ih =>
      rw [List.range'_succ, saveScan] at hScan
      rcases Option.bind_eq_some_iff.mp hScan with
        ⟨r, hRegister, hRest⟩
      have hValue : r.val = i := by
        unfold register? at hRegister
        split at hRegister
        · cases hRegister
          rfl
        · cases hRegister
      split at hRest
      · next hSaved =>
          cases hRest
          refine ⟨⟨by omega, by omega, hSaved⟩, ?_⟩
          intro q _ hFrom _
          omega
      · next hOther =>
          have hEnd : i + (n + 1) = i + 1 + n := by omega
          rw [hEnd]
          apply nextSaved_succ _ (ih hRest)
          intro q hSaved hSame
          have hTwice : q = r :=
            Fin.ext (hSame.trans hValue.symm)
          rw [hTwice] at hSaved
          exact hOther hSaved

/- A scan inside the registers does not fail. -/
theorem saveScan_isSome
    {i n : Nat}
    (hRange : i + n ≤ numBuf) :
    ∃ next, saveScan (List.range' i n) = some next := by
  induction n generalizing i with
  | zero => exact ⟨none, rfl⟩
  | succ n ih =>
      have hBound : i < numBuf := by omega
      rw [List.range'_succ, saveScan,
        register?_eq_some hBound]
      simp only [Option.bind_eq_bind, Option.bind_some]
      split
      · exact ⟨_, rfl⟩
      · apply ih
        omega

/- Where the Modbus task stands after a scan of its loop. -/
def savePc : Option (Fin numBuf) → ModbusPc
| some r => .updating r
| none => .sleeping

theorem nextSaved_of_mhWriteEeprom
    {mbb : MbStruct}
    {i : Nat}
    {pc : ModbusPc}
    (hFrom : i ≤ saveEnd mbb)
    (hWrite : mhWriteEeprom mbb i = some pc) :
    ∃ next, pc = savePc next ∧
      NextSaved i (saveEnd mbb) next := by
  rcases Option.map_eq_some_iff.mp hWrite with
    ⟨next, hScan, hPc⟩
  have hNext := nextSaved_of_saveScan hScan
  have hEnd : i + (saveEnd mbb - i) = saveEnd mbb := by omega
  rw [hEnd] at hNext
  refine ⟨next, ?_, hNext⟩
  rw [← hPc]
  cases next <;> rfl

------------------------------------------------------------
-- Transitions
------------------------------------------------------------

/- What one step does, case by case. -/
inductive Transition (s : System) :
    System → Option Event → Prop where
| nothing : Transition s s none
| accept
    (frame : Frame)
    (hFree : s.usb.eepState = .eepFree)
    (hIdle : s.usb.mbState = .stateIdle) :
    Transition s
      { s with
        usb := s.usb.handOver frame
        mhQueue := s.mhQueue ++ [.mbUsb] }
      (some (.accepted frame))
| fill
    (hSend : s.usb.mbState = .stateSend) :
    Transition s
      { s with usb := { s.usb with mbState := .stateIdle } }
      (some (.filled s.usb.response))
| begin
    (hPc : s.modbus = .starting) :
    Transition s { s with modbus := .waiting } none
| parse
    (rest : List QueueNode)
    (answer : MbStruct)
    (mb' : Registers)
    (pc : ModbusPc)
    (hPc : s.modbus = .waiting)
    (hQueue : s.mhQueue = .mbUsb :: rest)
    (hParse :
      mbParsing s.usb s.memory.mbBufMain = some (answer, mb'))
    (hSave :
      Accepts s.usb → answer.eepState = .eepSave →
        ∃ next, pc = savePc next ∧
          NextSaved answer.eepStartSave.toNat
            (saveEnd answer) next)
    (hFree :
      (Accepts s.usb → answer.eepState = .eepFree) →
        pc = .waiting) :
    Transition s
      { s with
        memory := { s.memory with mbBufMain := mb' }
        usb := answer
        mhQueue := rest
        modbus := pc }
      (some (.parsed s.usb s.memory.mbBufMain answer mb'))
| commit
    (r : Fin numBuf)
    (hPc : s.modbus = .updating r) :
    Transition s
      { s with
        memory := s.memory.commit r
        modbus := .updated r } none
| resume
    (r : Fin numBuf)
    (next : Option (Fin numBuf))
    (hPc : s.modbus = .updated r)
    (hNext :
      r.val < saveEnd s.usb →
        NextSaved (r.val + 1) (saveEnd s.usb) next) :
    Transition s { s with modbus := savePc next } none
| finish
    (hPc : s.modbus = .sleeping) :
    Transition s
      { s with
        usb := { s.usb with eepState := .eepFree }
        modbus := .waiting } (some .saved)
| restart
    (hPc : s.com = .sleeping)
    (hCommand : s.memory.mbBufMain regSendCommand ≠ 0) :
    Transition s (sysReboot s)
      (some (.restarted (sysReboot s).memory.mbBufMain))
| factoryAssign
    (i : Nat)
    (r : Fin numBuf)
    (hFrom :
      s.com = .sleeping ∧ i = 0 ∨
        ∃ q, s.com = .updated q ∧ i = q.val + 1)
    (hNext : NextSaved i numBuf (some r)) :
    Transition s
      { s with
        memory :=
          s.memory.assign r (defaultState r).defaultValue
        com := .updating r }
      (some (.defaulted r))
| factoryCommit
    (r : Fin numBuf)
    (hPc : s.com = .updating r) :
    Transition s
      { s with
        memory := s.memory.commit r
        com := .updated r } none
| command
    (hPc : ∀ r, s.com ≠ .updating r) :
    Transition s (commandDone s) none
| publish
    (r : Fin numBuf)
    (value : UInt16)
    (hReadOnly : writeCheck r = .regErr) :
    Transition s
      { s with memory := s.memory.assign r value } none

theorem allIdleCheck_eq_regOk_iff
    (mbb : MbStruct) :
    allIdleCheck mbb = .regOk ↔
      mbb.eepState = .eepFree ∧ mbb.mbState = .stateIdle := by
  unfold allIdleCheck
  split
  · next hIdle => exact iff_of_true rfl hIdle
  · next hBusy => exact iff_of_false (by decide) hBusy

/- The receive branch does nothing, or accepts a frame. -/
theorem uartReceive_cases
    (s : System)
    (buf : Received) :
    uartReceive s buf = (s, none) ∨
      ∃ frame,
        s.usb.eepState = .eepFree ∧
          s.usb.mbState = .stateIdle ∧
            uartReceive s buf =
              ({ s with
                 usb := s.usb.handOver frame
                 mhQueue := s.mhQueue ++ [.mbUsb] },
                some (.accepted frame)) := by
  unfold uartReceive
  split
  · next hCheck =>
      rcases (allIdleCheck_eq_regOk_iff s.usb).mp hCheck with
        ⟨hFree, hIdle⟩
      split
      · exact Or.inr ⟨_, hFree, hIdle, rfl⟩
      · exact Or.inl rfl
  · exact Or.inl rfl

theorem transition_transmit
    (s : System)
    (txReady : Bool) :
    Transition s
      (if txReady then uartTransmit s else (s, none)).1
      (if txReady then uartTransmit s else (s, none)).2 := by
  cases txReady with
  | false => exact Transition.nothing
  | true =>
      unfold uartTransmit
      by_cases hSend : s.usb.mbState = .stateSend
      · simp only [if_true, if_pos hSend]
        exact Transition.fill hSend
      · simp only [if_true, if_neg hSend]
        exact Transition.nothing

theorem transition_uartHandler
    (s : System)
    (received : Option Received)
    (txReady : Bool) :
    Transition s (uartHandler s received txReady).1
      (uartHandler s received txReady).2 := by
  have hTransmit := transition_transmit s txReady
  unfold uartHandler
  cases received with
  | none => exact hTransmit
  | some buf =>
      rcases uartReceive_cases s buf with
        hNothing | ⟨frame, hFree, hIdle, hAccept⟩
      · simp only [hNothing]
        exact hTransmit
      · simp only [hAccept]
        have hQuiet :
            (if txReady then
                uartTransmit
                  { s with
                    usb := s.usb.handOver frame
                    mhQueue := s.mhQueue ++ [.mbUsb] }
              else
                ({ s with
                   usb := s.usb.handOver frame
                   mhQueue := s.mhQueue ++ [.mbUsb] },
                  none)).1 =
              { s with
                usb := s.usb.handOver frame
                mhQueue := s.mhQueue ++ [.mbUsb] } := by
          cases txReady <;> rfl
        rw [hQuiet]
        exact Transition.accept frame hFree hIdle

theorem callSave_of_accepts
    {request : MbStruct}
    (hAccepts : Accepts request)
    (answer : MbStruct) :
    callSave request answer =
      if answer.eepState = .eepSave then
        mhWriteEeprom answer answer.eepStartSave.toNat
      else
        some .waiting := by
  unfold callSave
  rw [invalidFrame_eq_false_iff.mpr hAccepts]
  rfl

theorem callSave_of_refused
    {request : MbStruct}
    (hRefused : ¬ Accepts request)
    (answer : MbStruct) :
    callSave request answer = some .waiting := by
  unfold callSave
  rw [invalidFrame_eq_true_iff.mpr hRefused]
  rfl

theorem transition_taskParsing
    {s t : System}
    {rest : List QueueNode}
    {event : Option Event}
    (hPc : s.modbus = .waiting)
    (hQueue : s.mhQueue = .mbUsb :: rest)
    (hStep : taskParsing s rest = some (t, event)) :
    Transition s t event := by
  rcases Option.bind_eq_some_iff.mp hStep with
    ⟨⟨answer, mb'⟩, hParse, hRest⟩
  rcases Option.map_eq_some_iff.mp hRest with
    ⟨pc, hNext, hPair⟩
  cases hPair
  apply Transition.parse rest answer mb' pc hPc hQueue hParse
  · intro hAccepts hSave
    rw [callSave_of_accepts hAccepts, if_pos hSave] at hNext
    exact
      nextSaved_of_mhWriteEeprom (Nat.le_add_right _ _) hNext
  · intro hFree
    by_cases hAccepts : Accepts s.usb
    · rw [callSave_of_accepts hAccepts,
        if_neg (by simp [hFree hAccepts])] at hNext
      exact (Option.some.inj hNext).symm
    · rw [callSave_of_refused hAccepts] at hNext
      exact (Option.some.inj hNext).symm

/-
  A step of the Modbus task keeps registers and `com_task`,
  unless it parses a frame.
-/
theorem modbusStep_cases
    {s t : System}
    {event : Option Event}
    (hStep : modbusStep s = some (t, event)) :
    (t.memory.mbBufMain = s.memory.mbBufMain ∧
        t.com = s.com ∧
          (event = none ∨ event = some .saved)) ∨
      ∃ rest answer mb',
        s.mhQueue = .mbUsb :: rest ∧
          mbParsing s.usb s.memory.mbBufMain =
              some (answer, mb') ∧
            t.memory.mbBufMain = mb' ∧
              t.com = s.com ∧
                event =
                  some
                    (.parsed s.usb s.memory.mbBufMain answer
                      mb') := by
  unfold modbusStep at hStep
  split at hStep
  · cases hStep
    exact Or.inl ⟨rfl, rfl, Or.inl rfl⟩
  · split at hStep
    · cases hStep
    · next rest hQueue =>
        rcases Option.bind_eq_some_iff.mp hStep with
          ⟨⟨answer, mb'⟩, hParse, hRest⟩
        rcases Option.map_eq_some_iff.mp hRest with
          ⟨pc, -, hPair⟩
        cases hPair
        exact
          Or.inr
            ⟨rest, answer, mb', hQueue, hParse, rfl, rfl, rfl⟩
  · cases hStep
    exact Or.inl ⟨rfl, rfl, Or.inl rfl⟩
  · rcases Option.map_eq_some_iff.mp hStep with
      ⟨pc, -, hPair⟩
    cases hPair
    exact Or.inl ⟨rfl, rfl, Or.inl rfl⟩
  · cases hStep
    exact Or.inl ⟨rfl, rfl, Or.inr rfl⟩

theorem transition_modbusStep
    {s t : System}
    {event : Option Event}
    (hStep : modbusStep s = some (t, event)) :
    Transition s t event := by
  unfold modbusStep at hStep
  split at hStep
  · next hPc =>
      cases hStep
      exact Transition.begin hPc
  · next hPc =>
      split at hStep
      · cases hStep
      · next rest hQueue =>
          exact transition_taskParsing hPc hQueue hStep
  · next r hPc =>
      cases hStep
      exact Transition.commit r hPc
  · next r hPc =>
      rcases Option.map_eq_some_iff.mp hStep with
        ⟨pc, hWrite, hPair⟩
      cases hPair
      rcases Option.map_eq_some_iff.mp hWrite with
        ⟨next, hScan, hNextPc⟩
      have hPcEq : pc = savePc next := by
        rw [← hNextPc]
        cases next <;> rfl
      rw [hPcEq]
      apply Transition.resume r next hPc
      intro hInside
      have hNext := nextSaved_of_saveScan hScan
      rwa [Nat.add_sub_of_le hInside] at hNext
  · next hPc =>
      cases hStep
      exact Transition.finish hPc

/-
  What a step of `com_task` does: it polls, it restarts, it
  enters or goes on with `mh_Factory`, or it comes to the end
  of `command_control`.
-/
inductive ComTransition (s : System) :
    System → Option Event → Prop where
| poll
    (hPc : s.com = .sleeping)
    (hNone : s.memory.mbBufMain regSendCommand = 0) :
    ComTransition s s none
| restart
    (hPc : s.com = .sleeping)
    (hCommand : s.memory.mbBufMain regSendCommand ≠ 0) :
    ComTransition s (sysReboot s)
      (some (.restarted (sysReboot s).memory.mbBufMain))
| pass
    (hPc : s.com = .sleeping)
    (hCommand : s.memory.mbBufMain regSendCommand ≠ 0) :
    ComTransition s (commandDone s) none
| enter
    (r : Fin numBuf)
    (hPc : s.com = .sleeping)
    (hCommand :
      s.memory.mbBufMain regSendCommand = codeResetToDefault)
    (hNext : NextSaved 0 numBuf (some r)) :
    ComTransition s
      { s with
        memory :=
          s.memory.assign r (defaultState r).defaultValue
        com := .updating r }
      (some (.defaulted r))
| commit
    (r : Fin numBuf)
    (hPc : s.com = .updating r) :
    ComTransition s
      { s with
        memory := s.memory.commit r
        com := .updated r } none
| resume
    (q r : Fin numBuf)
    (hPc : s.com = .updated q)
    (hNext : NextSaved (q.val + 1) numBuf (some r)) :
    ComTransition s
      { s with
        memory :=
          s.memory.assign r (defaultState r).defaultValue
        com := .updating r }
      (some (.defaulted r))
| leave
    (q : Fin numBuf)
    (hPc : s.com = .updated q)
    (hNext : NextSaved (q.val + 1) numBuf none) :
    ComTransition s (commandDone s) none

theorem comTransition_commandControl
    {s t : System}
    {event : Option Event}
    (hPc : s.com = .sleeping)
    (hStep : commandControl s = some (t, event)) :
    ComTransition s t event := by
  unfold commandControl at hStep
  split at hStep
  · next hNone =>
      cases hStep
      exact ComTransition.poll hPc hNone
  · next hCommand =>
      split at hStep
      · rw [Option.some.injEq, Prod.mk.injEq] at hStep
        rcases hStep with ⟨hNext, hEvent⟩
        rw [← hNext, ← hEvent]
        exact ComTransition.restart hPc hCommand
      · split at hStep
        · next hReset =>
            rcases Option.map_eq_some_iff.mp hStep with
              ⟨next, hScan, hPair⟩
            have hNext := nextSaved_of_saveScan hScan
            cases next with
            | some r =>
                cases hPair
                exact ComTransition.enter r hPc hReset hNext
            | none =>
                cases hPair
                exact ComTransition.pass hPc hCommand
        · cases hStep
          exact ComTransition.pass hPc hCommand

theorem comTransition_of_step
    {s t : System}
    {event : Option Event}
    (hStep : comStep s = some (t, event)) :
    ComTransition s t event := by
  unfold comStep at hStep
  split at hStep
  · next hPc => exact comTransition_commandControl hPc hStep
  · next r hPc =>
      cases hStep
      exact ComTransition.commit r hPc
  · next q hPc =>
      rcases Option.map_eq_some_iff.mp hStep with
        ⟨next, hScan, hPair⟩
      have hNext := nextSaved_of_saveScan hScan
      rw [Nat.add_sub_of_le (Nat.succ_le_of_lt q.isLt)]
        at hNext
      cases next with
      | some r =>
          cases hPair
          exact ComTransition.resume q r hPc hNext
      | none =>
          cases hPair
          exact ComTransition.leave q hPc hNext

theorem transition_comStep
    {s t : System}
    {event : Option Event}
    (hStep : comStep s = some (t, event)) :
    Transition s t event := by
  cases comTransition_of_step hStep with
  | poll => exact Transition.nothing
  | restart hPc hCommand =>
      exact Transition.restart hPc hCommand
  | pass hPc hCommand =>
      exact Transition.command (by simp [hPc])
  | enter r hPc hCommand hNext =>
      exact
        Transition.factoryAssign 0 r (Or.inl ⟨hPc, rfl⟩) hNext
  | commit r hPc => exact Transition.factoryCommit r hPc
  | resume q r hPc hNext =>
      exact
        Transition.factoryAssign (q.val + 1) r
          (Or.inr ⟨q, hPc, rfl⟩) hNext
  | leave q hPc hNext =>
      exact Transition.command (by simp [hPc])

/- Every step is one of the transitions. -/
theorem transition_of_step
    {s t : System}
    {a : Action}
    {event : Option Event}
    (hStep : step s a = some (t, event)) :
    Transition s t event := by
  cases a with
  | uart received txReady =>
      rw [step, Option.some.injEq] at hStep
      have hHandler :=
        transition_uartHandler s received txReady
      rwa [hStep] at hHandler
  | modbus => exact transition_modbusStep hStep
  | com => exact transition_comStep hStep
  | publish r value =>
      rw [step] at hStep
      split at hStep
      · next hReadOnly =>
          cases hStep
          exact Transition.publish r value hReadOnly
      · cases hStep

------------------------------------------------------------
-- Uninterrupted Reset
------------------------------------------------------------

/- The scan from a register that is not saved. -/
theorem factoryFrom_of_other
    (s : System)
    {i : Fin numBuf}
    (hOther : eeSaveCheck i ≠ .regOk) :
    factoryFrom s i = factoryFrom s (i.val + 1) := by
  have hBound : i.val < numBuf := i.isLt
  have hLength : numBuf - i.val = numBuf - (i.val + 1) + 1 := by
    omega
  unfold factoryFrom
  rw [hLength, List.range'_succ, saveScan,
    register?_eq_some hBound]
  simp only [Option.bind_eq_bind, Option.bind_some,
    if_neg hOther]

theorem factoryFrom_of_saved
    (s : System)
    {i : Fin numBuf}
    (hSaved : eeSaveCheck i = .regOk) :
    factoryFrom s i =
      some
        ({ s with
           memory :=
             s.memory.assign i (defaultState i).defaultValue
           com := .updating i }, some (.defaulted i)) := by
  have hBound : i.val < numBuf := i.isLt
  have hLength : numBuf - i.val = numBuf - (i.val + 1) + 1 := by
    omega
  unfold factoryFrom
  rw [hLength, List.range'_succ, saveScan,
    register?_eq_some hBound]
  simp only [Option.bind_eq_bind, Option.bind_some,
    if_pos hSaved, Option.map_some]

/-
  Without interruption, the loop of the task is the loop of
  `mh_Factory`.
-/
theorem run_factoryFrom
    (n i : Nat)
    (s : System)
    (hRest : i + n = numBuf) :
    ∃ t event k events,
      factoryFrom s i = some (t, event) ∧
        EventSystem.run step t (List.replicate k .com) =
          some
            (commandDone
              { s with
                memory :=
                  ((List.finRange numBuf).drop i).foldl
                    factoryReg s.memory }, events) := by
  induction n generalizing i s with
  | zero =>
      have hEnd : i = numBuf := by omega
      subst hEnd
      refine ⟨commandDone s, none, 0, [], rfl, ?_⟩
      rw [List.drop_of_length_le (by simp)]
      rfl
  | succ n ih =>
      have hBound : i < numBuf := by omega
      have hDrop :
          (List.finRange numBuf).drop i =
            ⟨i, hBound⟩ ::
              (List.finRange numBuf).drop (i + 1) := by
        rw [List.drop_eq_getElem_cons (by simpa using hBound)]
        simp
      rw [hDrop, List.foldl_cons]
      by_cases hSaved :
          eeSaveCheck (⟨i, hBound⟩ : Fin numBuf) = .regOk
      · rcases ih (i + 1)
            { s with
              memory := factoryReg s.memory ⟨i, hBound⟩
              com := .updated ⟨i, hBound⟩ } (by omega) with
          ⟨t, event, k, events, hNext, hRun⟩
        refine
          ⟨_, _, k + 2, event.toList ++ events,
            factoryFrom_of_saved s hSaved, ?_⟩
        rw [List.replicate_succ]
        apply EventSystem.run_cons_eq_some.mpr
        refine ⟨_, none, event.toList ++ events, rfl, ?_, rfl⟩
        rw [List.replicate_succ]
        apply EventSystem.run_cons_eq_some.mpr
        refine ⟨t, event, events, ?_, hRun, rfl⟩
        have hBody :
            factoryReg s.memory ⟨i, hBound⟩ =
              (s.memory.assign ⟨i, hBound⟩
                (defaultState ⟨i, hBound⟩).defaultValue).commit
                  ⟨i, hBound⟩ :=
          if_pos hSaved
        rw [hBody] at hNext
        exact hNext
      · rcases ih (i + 1) s (by omega) with
          ⟨t, event, k, events, hNext, hRun⟩
        have hBody :
            factoryReg s.memory ⟨i, hBound⟩ = s.memory :=
          if_neg hSaved
        refine ⟨t, event, k, events, ?_, ?_⟩
        · rw [← hNext]
          exact factoryFrom_of_other s hSaved
        · rw [hBody]
          exact hRun

/- A commanded factory reset is `mh_Factory`. -/
theorem run_mhFactory
    {s : System}
    (hPc : s.com = .sleeping)
    (hCommand :
      s.memory.mbBufMain regSendCommand =
        codeResetToDefault) :
    ∃ k events,
      EventSystem.run step s (List.replicate k .com) =
        some
          (commandDone
            { s with memory := mhFactory s.memory }, events) := by
  rcases run_factoryFrom numBuf 0 s (by omega) with
    ⟨t, event, k, events, hFirst, hRun⟩
  refine ⟨k + 1, event.toList ++ events, ?_⟩
  rw [List.replicate_succ]
  apply EventSystem.run_cons_eq_some.mpr
  refine ⟨t, event, events, ?_, hRun, rfl⟩
  rw [← hFirst, step, comStep, hPc]
  unfold commandControl
  rw [hCommand]
  rfl

end Firmware

end TemperatureSensor
