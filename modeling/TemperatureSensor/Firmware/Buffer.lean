import TemperatureSensor.Firmware.System

/-
  The single frame buffer: every run is a sequence of
  exchanges, and between accepting a frame and handing over
  its response nothing else is received into the buffer.

  Main declarations:
    * `Phase` and `Exchanges`
    * `InPhase`
    * `BufferExclusive`
    * `frameBuffer_exclusive`
-/

------------------------------------------------------------
-- Exchanges
------------------------------------------------------------

namespace TemperatureSensor

namespace Firmware

/-
  How far the exchange of the last frame is: nothing yet, the
  frame is received, or it is answered, with the response
  and the save still to do or not.
-/
inductive Phase where
| idle
| received (frame : Frame)
| answered
    (request answer : MbStruct)
    (reply save : Bool)

/- Nothing is left to do. -/
def Phase.Free : Phase → Prop
| .idle => True
| .received _ => False
| .answered _ _ reply save => reply = false ∧ save = false

/-
  The histories that consist of exchanges: a frame is
  accepted when nothing is left to do, the message that is
  parsed is this frame, and the bytes that are handed over
  are the response to it.
-/
inductive Exchanges : List Event → Phase → Prop where
| start : Exchanges [] .idle
| accept
    {history : List Event}
    {phase : Phase}
    (frame : Frame)
    (hEarlier : Exchanges history phase)
    (hFree : phase.Free) :
    Exchanges (history ++ [.accepted frame])
      (.received frame)
| parse
    {history : List Event}
    {frame : Frame}
    (request answer : MbStruct)
    (mb mb' : Registers)
    (hEarlier : Exchanges history (.received frame))
    (hMessage : request.message = frame.bytes)
    (hFree : request.eepState = .eepFree)
    (hParse : mbParsing request mb = some (answer, mb'))
    (hServed : FrameServed request mb answer mb') :
    Exchanges (history ++ [.parsed request mb answer mb'])
      (.answered request answer
        (answer.mbState = .stateSend)
        (answer.eepState = .eepSave))
| fill
    {history : List Event}
    {request answer : MbStruct}
    {save : Bool}
    (hEarlier :
      Exchanges history (.answered request answer true save)) :
    Exchanges (history ++ [.filled answer.response])
      (.answered request answer false save)
| finish
    {history : List Event}
    {request answer : MbStruct}
    {reply : Bool}
    (hEarlier :
      Exchanges history
        (.answered request answer reply true)) :
    Exchanges (history ++ [.saved])
      (.answered request answer reply false)
| assign
    {history : List Event}
    {phase : Phase}
    (r : Fin numBuf)
    (hEarlier : Exchanges history phase) :
    Exchanges (history ++ [.defaulted r]) phase
| restart
    {history : List Event}
    {phase : Phase}
    (mb : Registers)
    (hEarlier : Exchanges history phase) :
    Exchanges (history ++ [.restarted mb]) .idle

/- Every parsed frame of the exchanges was served. -/
theorem Exchanges.parsed_served
    {history : List Event}
    {phase : Phase}
    {request answer : MbStruct}
    {mb mb' : Registers}
    (hHistory : Exchanges history phase)
    (hEvent : .parsed request mb answer mb' ∈ history) :
    request.eepState = .eepFree ∧
      FrameServed request mb answer mb' := by
  induction hHistory with
  | start => cases hEvent
  | parse _ _ _ _ _ _ hFree _ hServed ih =>
      rcases List.mem_append.mp hEvent with hEarlier | hLast
      · exact ih hEarlier
      · cases List.mem_singleton.mp hLast
        exact ⟨hFree, hServed⟩
  | accept _ _ _ ih =>
      rcases List.mem_append.mp hEvent with hEarlier | hLast
      · exact ih hEarlier
      · cases List.mem_singleton.mp hLast
  | fill _ ih =>
      rcases List.mem_append.mp hEvent with hEarlier | hLast
      · exact ih hEarlier
      · cases List.mem_singleton.mp hLast
  | finish _ ih =>
      rcases List.mem_append.mp hEvent with hEarlier | hLast
      · exact ih hEarlier
      · cases List.mem_singleton.mp hLast
  | assign _ _ ih =>
      rcases List.mem_append.mp hEvent with hEarlier | hLast
      · exact ih hEarlier
      · cases List.mem_singleton.mp hLast
  | restart _ _ ih =>
      rcases List.mem_append.mp hEvent with hEarlier | hLast
      · exact ih hEarlier
      · cases List.mem_singleton.mp hLast

------------------------------------------------------------
-- Save Descriptor
------------------------------------------------------------

/-
  `eep_start_save`, `eep_indx` and `eep_state` describe the
  registers of a write request.
-/
structure SaveDescribes (request mbb : MbStruct) : Prop where
  state : mbb.eepState = .eepSave
  start : mbb.eepStartSave.toNat = request.field 2
  count :
    request.pMbBuff.get 1 = 16 ∧
        mbb.eepIndx.toNat = request.field 4 ∨
      request.pMbBuff.get 1 = 6 ∧ mbb.eepIndx.toNat = 1
  range : saveEnd mbb < numBuf

/- A request that is to be saved is described as it is read. -/
theorem saveDescribes_of_frameServed
    {request answer : MbStruct}
    {mb mb' : Registers}
    (hFree : request.eepState = .eepFree)
    (hServed : FrameServed request mb answer mb')
    (hSave : answer.eepState = .eepSave) :
    SaveDescribes request answer := by
  cases hServed.outcome with
  | discarded _ hDiscarded =>
      rw [hDiscarded, hFree] at hSave
      cases hSave
  | answered body _ _ _ _ hReply hClosed _ =>
      have hBody : body.eepState = .eepSave :=
        hClosed.eepState ▸ hSave
      cases hReply with
      | exception _ _ _ _ _ _ hState =>
          rw [hState] at hBody
          cases hBody
      | read _ _ _ _ _ _ _ _ _ _ hState =>
          rw [hState, hFree] at hBody
          cases hBody
      | write start count offset hStart hFunction _ hRange _
          _ _ _ hDescriptor =>
          rcases hDescriptor hBody with ⟨hFirst, hCount⟩
          constructor
          · exact hSave
          · rw [hClosed.eepStartSave, hFirst, hStart]
          · rw [hClosed.eepIndx, hCount]
            rcases hFunction with
              ⟨hCode, hField, -⟩ | ⟨hCode, hOne, -⟩
            · exact Or.inl ⟨hCode, hField⟩
            · exact Or.inr ⟨hCode, hOne⟩
          · unfold saveEnd
            rw [hClosed.eepStartSave, hClosed.eepIndx, hFirst,
              hCount]
            exact hRange

------------------------------------------------------------
-- States of a Phase
------------------------------------------------------------

/- The save loop of the Modbus task has not finished. -/
def ModbusPc.IsSaving : ModbusPc → Prop
| .starting => False
| .waiting => False
| .updating _ => True
| .updated _ => True
| .sleeping => True

theorem isSaving_savePc
    (next : Option (Fin numBuf)) :
    (savePc next).IsSaving := by
  cases next <;> trivial

/-
  What the flags, the queue and the buffer are in a phase.
  Once a frame is answered, only the two flags change, and a
  pending save is the one of its request.
-/
def InPhase (s : System) : Phase → Prop
| .idle =>
    s.mhQueue = [] ∧ s.usb.mbState = .stateIdle ∧
      s.usb.eepState = .eepFree
| .received frame =>
    s.mhQueue = [.mbUsb] ∧ s.usb.mbState = .statePars ∧
      s.usb.eepState = .eepFree ∧
        s.usb.message = frame.bytes
| .answered request answer reply save =>
    s.mhQueue = [] ∧
      s.usb =
          { answer with
            mbState := if reply then .stateSend else .stateIdle
            eepState := if save then .eepSave else .eepFree } ∧
        (save = true → SaveDescribes request s.usb)

/- The phases are determined by the two flags. -/
theorem InPhase.free
    {s : System}
    {phase : Phase}
    (hPhase : InPhase s phase)
    (hFree : s.usb.eepState = .eepFree)
    (hIdle : s.usb.mbState = .stateIdle) :
    phase.Free ∧ s.mhQueue = [] := by
  cases phase with
  | idle => exact ⟨trivial, hPhase.1⟩
  | received frame =>
      rw [hPhase.2.1] at hIdle
      cases hIdle
  | answered request answer reply save =>
      rcases hPhase with ⟨hQueue, hUsb, -⟩
      rw [hUsb] at hFree hIdle
      cases reply with
      | true => cases hIdle
      | false =>
          cases save with
          | true => cases hFree
          | false => exact ⟨⟨rfl, rfl⟩, hQueue⟩

theorem InPhase.replying
    {s : System}
    {phase : Phase}
    (hPhase : InPhase s phase)
    (hSend : s.usb.mbState = .stateSend) :
    ∃ request answer save,
      phase = .answered request answer true save := by
  cases phase with
  | idle =>
      rw [hPhase.2.1] at hSend
      cases hSend
  | received frame =>
      rw [hPhase.2.1] at hSend
      cases hSend
  | answered request answer reply save =>
      rw [hPhase.2.1] at hSend
      cases reply with
      | true => exact ⟨request, answer, save, rfl⟩
      | false => cases hSend

theorem InPhase.saving
    {s : System}
    {phase : Phase}
    (hPhase : InPhase s phase)
    (hSave : s.usb.eepState = .eepSave) :
    ∃ request answer reply,
      phase = .answered request answer reply true := by
  cases phase with
  | idle =>
      rw [hPhase.2.2] at hSave
      cases hSave
  | received frame =>
      rw [hPhase.2.2.1] at hSave
      cases hSave
  | answered request answer reply save =>
      rw [hPhase.2.1] at hSave
      cases save with
      | true => exact ⟨request, answer, reply, rfl⟩
      | false => cases hSave

theorem InPhase.parsing
    {s : System}
    {phase : Phase}
    {rest : List QueueNode}
    (hPhase : InPhase s phase)
    (hQueue : s.mhQueue = .mbUsb :: rest) :
    rest = [] ∧ ∃ frame, phase = .received frame := by
  cases phase with
  | idle =>
      rw [hPhase.1] at hQueue
      cases hQueue
  | received frame =>
      rw [hPhase.1] at hQueue
      cases hQueue
      exact ⟨rfl, frame, rfl⟩
  | answered request answer reply save =>
      rw [hPhase.1] at hQueue
      cases hQueue

------------------------------------------------------------
-- Invariant
------------------------------------------------------------

/-
  The history consists of exchanges, the state is in their
  last phase, and the save loop runs while a save is pending.
-/
structure Inv (history : List Event) (s : System) : Prop where
  initialised : s.usb.Initialised
  exchanges :
    ∃ phase, Exchanges history phase ∧ InPhase s phase
  saving : s.modbus.IsSaving ↔ s.usb.eepState = .eepSave

theorem inv_start
    (m : Memory)
    (mbb : MbStruct) :
    Inv [] (start m mbb) := by
  refine ⟨mhUsbInit_initialised mbb, ?_, ?_⟩
  · exact ⟨.idle, Exchanges.start, rfl, rfl, rfl⟩
  · exact iff_of_false id (by simp [start, mhUsbInit])

/- A parsed frame is discarded or awaits its response. -/
theorem mbState_of_frameServed
    {request answer : MbStruct}
    {mb mb' : Registers}
    (hServed : FrameServed request mb answer mb') :
    answer.mbState = .stateIdle ∨
      answer.mbState = .stateSend := by
  cases hServed.outcome with
  | discarded _ hDiscarded =>
      rw [hDiscarded]
      exact Or.inl rfl
  | answered _ _ _ _ _ _ _ hState =>
      rw [hState]
      split
      · exact Or.inl rfl
      · exact Or.inr rfl

/- The state right after a frame was parsed. -/
theorem inPhase_parsed
    {s : System}
    (request : MbStruct)
    (hQueue : s.mhQueue = [])
    (hState :
      s.usb.mbState = .stateIdle ∨
        s.usb.mbState = .stateSend)
    (hDescribed :
      s.usb.eepState = .eepSave →
        SaveDescribes request s.usb) :
    InPhase s
      (.answered request s.usb (s.usb.mbState = .stateSend)
        (s.usb.eepState = .eepSave)) := by
  refine ⟨hQueue, ?_, by simpa using hDescribed⟩
  cases hUsb : s.usb with
  | mk _ _ _ _ eepState _ _ mbState _ _ _ =>
      rw [hUsb] at hState
      simp only [MbStruct.mk.injEq, true_and, and_true]
      constructor
      · cases eepState <;> rfl
      · cases mbState with
        | stateIdle => rfl
        | stateSend => rfl
        | statePars => simp at hState

/- Every step keeps the invariant. -/
theorem inv_step
    {history : List Event}
    {s t : System}
    {event : Option Event}
    (hInv : Inv history s)
    (hTransition : Transition s t event) :
    Inv (EventSystem.record history event) t := by
  rcases hInv with
    ⟨hInit, ⟨phase, hHistory, hPhase⟩, hSaving⟩
  cases hTransition with
  | nothing =>
      exact ⟨hInit, ⟨phase, hHistory, hPhase⟩, hSaving⟩
  | accept frame hFree hIdle =>
      rcases hPhase.free hFree hIdle with ⟨hDone, hEmpty⟩
      refine ⟨handOver_initialised hInit frame, ?_, hSaving⟩
      refine
        ⟨.received frame,
          Exchanges.accept frame hHistory hDone, ?_⟩
      exact
        ⟨congrArg (· ++ [.mbUsb]) hEmpty, rfl, hFree,
          message_handOver s.usb frame⟩
  | fill hSend =>
      rcases hPhase.replying hSend with
        ⟨request, answer, save, rfl⟩
      rcases hPhase with ⟨hQueue, hUsb, hDescribed⟩
      have hResponse : s.usb.response = answer.response := by
        rw [hUsb]
        rfl
      refine
        ⟨⟨hInit.readLast, hInit.writeLast⟩, ?_, hSaving⟩
      refine
        ⟨.answered request answer false save, ?_, hQueue, ?_,
          ?_⟩
      · rw [hResponse]
        exact Exchanges.fill hHistory
      · simp only [hUsb]
        rfl
      · intro hSave
        rcases hDescribed hSave with
          ⟨hState, hStart, hCount, hRange⟩
        exact ⟨hState, hStart, hCount, hRange⟩
  | begin hPc =>
      rw [hPc] at hSaving
      exact ⟨hInit, ⟨phase, hHistory, hPhase⟩, hSaving⟩
  | parse rest answer mb' pc hPc hQueue hParse hSave hFree =>
      rcases hPhase.parsing hQueue with
        ⟨hRest, frame, rfl⟩
      have hServed := frameServed_of_mbParsing hInit hParse
      rcases hPhase with ⟨-, -, hNoSave, hMessage⟩
      refine ⟨hServed.initialised, ?_, ?_⟩
      · refine
          ⟨_,
            Exchanges.parse s.usb answer _ mb' hHistory
              hMessage hNoSave hParse hServed, ?_⟩
        exact
          inPhase_parsed s.usb hRest
            (mbState_of_frameServed hServed)
            (saveDescribes_of_frameServed hNoSave hServed)
      · change pc.IsSaving ↔ answer.eepState = .eepSave
        cases hEep : answer.eepState with
        | eepFree =>
            rw [hFree fun _ => hEep]
            exact iff_of_false id (by decide)
        | eepSave =>
            have hAccepts := hServed.accepts hNoSave hEep
            rcases hSave hAccepts hEep with ⟨next, rfl, -⟩
            exact iff_of_true (isSaving_savePc next) rfl
  | commit r hPc =>
      rw [hPc] at hSaving
      exact ⟨hInit, ⟨phase, hHistory, hPhase⟩, hSaving⟩
  | resume r next hPc hNext =>
      rw [hPc] at hSaving
      refine ⟨hInit, ⟨phase, hHistory, hPhase⟩, ?_⟩
      exact
        iff_of_true (isSaving_savePc next) (hSaving.mp trivial)
  | finish hPc =>
      rw [hPc] at hSaving
      rcases hPhase.saving (hSaving.mp trivial) with
        ⟨request, answer, reply, rfl⟩
      rcases hPhase with ⟨hQueue, hUsb, -⟩
      refine
        ⟨⟨hInit.readLast, hInit.writeLast⟩, ?_,
          iff_of_false id (by simp)⟩
      refine
        ⟨.answered request answer reply false,
          Exchanges.finish hHistory, hQueue, ?_, by simp⟩
      simp only [hUsb]
      rfl
  | restart hPc hCommand =>
      rcases inv_start ⟨mbBufLinked, s.memory.fs⟩
          mbStructZero with
        ⟨hInit', ⟨_, _, _⟩, hSaving'⟩
      exact
        ⟨hInit',
          ⟨.idle, Exchanges.restart _ hHistory, rfl, rfl, rfl⟩,
          hSaving'⟩
  | factoryAssign i r hFrom hNext =>
      exact
        ⟨hInit, ⟨phase, Exchanges.assign r hHistory, hPhase⟩,
          hSaving⟩
  | factoryCommit r hPc =>
      exact ⟨hInit, ⟨phase, hHistory, hPhase⟩, hSaving⟩
  | command hPc =>
      exact ⟨hInit, ⟨phase, hHistory, hPhase⟩, hSaving⟩
  | publish r value hReadOnly =>
      exact ⟨hInit, ⟨phase, hHistory, hPhase⟩, hSaving⟩

theorem inv_run
    {m : Memory}
    {mbb : MbStruct}
    {actions : List Action}
    {s : System}
    {events : List Event}
    (hRun :
      EventSystem.run step (start m mbb) actions =
        some (s, events)) :
    Inv events s :=
  EventSystem.run_invariant
    (fun _ _ _ _ _ hInv hStep =>
      inv_step hInv (transition_of_step hStep))
    (inv_start m mbb) hRun

------------------------------------------------------------
-- Progress
------------------------------------------------------------

/- The save loop stays inside the registers. -/
theorem mhWriteEeprom_isSome
    {mbb : MbStruct}
    {i : Nat}
    (hFrom : i ≤ numBuf)
    (hRange : saveEnd mbb < numBuf) :
    ∃ pc, mhWriteEeprom mbb i = some pc := by
  have hInside : i + (saveEnd mbb - i) ≤ numBuf := by omega
  rcases saveScan_isSome hInside with ⟨next, hScan⟩
  unfold mhWriteEeprom
  rw [hScan, Option.map_some]
  exact ⟨_, rfl⟩

theorem taskParsing_isSome
    {s : System}
    (rest : List QueueNode)
    (hInit : s.usb.Initialised)
    (hFree : s.usb.eepState = .eepFree) :
    ∃ next, taskParsing s rest = some next := by
  rcases mbParsing_frameServed hInit s.memory.mbBufMain with
    ⟨answer, mb', hParse, hServed⟩
  have hSave : ∃ pc, callSave s.usb answer = some pc := by
    by_cases hAccepts : Accepts s.usb
    · rw [callSave_of_accepts hAccepts]
      split
      · next hSave =>
          have hDescribed :=
            saveDescribes_of_frameServed hFree hServed hSave
          have hRange := hDescribed.range
          apply mhWriteEeprom_isSome _ hRange
          unfold saveEnd at hRange
          omega
      · exact ⟨.waiting, rfl⟩
    · exact ⟨.waiting, callSave_of_refused hAccepts answer⟩
  rcases hSave with ⟨pc, hPc⟩
  unfold taskParsing
  rw [hParse, Option.bind_some, hPc, Option.map_some]
  exact ⟨_, rfl⟩

/-
  The Modbus task is blocked only by the empty queue: it
  accesses no array out of bounds.
-/
theorem modbusStep_isSome
    {history : List Event}
    {s : System}
    (hInv : Inv history s)
    (hReady : s.modbus = .waiting → s.mhQueue ≠ []) :
    ∃ next, modbusStep s = some next := by
  rcases hInv with ⟨hInit, ⟨phase, -, hPhase⟩, hSaving⟩
  cases hPc : s.modbus with
  | starting =>
      simp only [modbusStep, hPc]
      exact ⟨_, rfl⟩
  | waiting =>
      cases hQueue : s.mhQueue with
      | nil => exact absurd hQueue (hReady hPc)
      | cons node rest =>
          cases node
          rcases hPhase.parsing hQueue with ⟨-, frame, rfl⟩
          simp only [modbusStep, hPc, hQueue]
          exact taskParsing_isSome rest hInit hPhase.2.2.1
  | updating r =>
      simp only [modbusStep, hPc]
      exact ⟨_, rfl⟩
  | updated r =>
      rw [hPc] at hSaving
      rcases hPhase.saving (hSaving.mp trivial) with
        ⟨request, answer, reply, rfl⟩
      have hRange := (hPhase.2.2 rfl).range
      rcases mhWriteEeprom_isSome r.isLt hRange with
        ⟨pc, hWrite⟩
      simp only [modbusStep, hPc, hWrite, Option.map_some]
      exact ⟨_, rfl⟩
  | sleeping =>
      simp only [modbusStep, hPc]
      exact ⟨_, rfl⟩

theorem factoryFrom_isSome
    (s : System)
    {i : Nat}
    (hBound : i ≤ numBuf) :
    ∃ next, factoryFrom s i = some next := by
  have hInside : i + (numBuf - i) ≤ numBuf := by omega
  rcases saveScan_isSome hInside with ⟨next, hScan⟩
  unfold factoryFrom
  rw [hScan, Option.map_some]
  exact ⟨_, rfl⟩

/- The com task is never blocked. -/
theorem comStep_isSome
    (s : System) :
    ∃ next, comStep s = some next := by
  unfold comStep
  split
  · unfold commandControl
    split
    · exact ⟨_, rfl⟩
    · split
      · exact ⟨_, rfl⟩
      · split
        · exact factoryFrom_isSome s (Nat.zero_le _)
        · exact ⟨_, rfl⟩
  · exact ⟨_, rfl⟩
  · next r _ => exact factoryFrom_isSome s r.isLt

------------------------------------------------------------
-- Exclusive Use of the Buffer
------------------------------------------------------------

/-
  The node is queued at most once and only for parsing, the
  receive branch acts only when nothing is in progress, the
  events are exchanges, and a pending save is described by
  the structure until its loop has finished. No task is
  stopped by an access outside an array.
-/
structure BufferExclusive
    (history : List Event)
    (s : System) : Prop where
  queueOnce : s.mhQueue.length ≤ 1
  queueParsing :
    s.mhQueue ≠ [] → s.usb.mbState = .statePars
  receiveGated :
    ∀ buf,
      uartReceive s buf = (s, none) ∨
        s.usb.mbState = .stateIdle ∧
          s.usb.eepState = .eepFree
  untouched :
    s.usb.mbState ≠ .stateIdle →
      ∀ received txReady,
        (uartHandler s received txReady).1.usb.pMbBuff =
          s.usb.pMbBuff
  exchanges :
    ∃ phase, Exchanges history phase ∧ InPhase s phase
  saving :
    s.usb.eepState = .eepSave ∨ s.modbus.IsSaving →
      ∃ request answer reply,
        Exchanges history
            (.answered request answer reply true) ∧
          InPhase s (.answered request answer reply true) ∧
            SaveDescribes request s.usb
  modbusProceeds :
    (s.modbus = .waiting → s.mhQueue ≠ []) →
      ∃ next, step s .modbus = some next
  comProceeds : ∃ next, step s .com = some next

/- The callback leaves the buffer of an exchange alone. -/
theorem pMbBuff_uartHandler
    {s : System}
    (hBusy : s.usb.mbState ≠ .stateIdle)
    (received : Option Received)
    (txReady : Bool) :
    (uartHandler s received txReady).1.usb.pMbBuff =
      s.usb.pMbBuff := by
  have hTransmit :
      (if txReady then uartTransmit s
        else (s, none)).1.usb.pMbBuff = s.usb.pMbBuff := by
    unfold uartTransmit
    split
    · split <;> rfl
    · rfl
  unfold uartHandler
  cases received with
  | none => exact hTransmit
  | some buf =>
      rcases uartReceive_cases s buf with
        hNothing | ⟨frame, -, hIdle, -⟩
      · simp only [hNothing]
        exact hTransmit
      · exact absurd hIdle hBusy

/-
  In every reachable state of every run, the frame buffer is
  used by one exchange only.
-/
theorem frameBuffer_exclusive
    (m : Memory)
    (mbb : MbStruct)
    {actions : List Action}
    {s : System}
    {events : List Event}
    (hRun :
      EventSystem.run step (start m mbb) actions =
        some (s, events)) :
    BufferExclusive events s := by
  rcases inv_run hRun with
    ⟨hInit, ⟨phase, hHistory, hPhase⟩, hSaving⟩
  constructor
  · cases phase with
    | idle => simp [hPhase.1]
    | received frame => simp [hPhase.1]
    | answered request answer reply save => simp [hPhase.1]
  · intro hQueued
    cases phase with
    | idle => exact absurd hPhase.1 hQueued
    | received frame => exact hPhase.2.1
    | answered request answer reply save =>
        exact absurd hPhase.1 hQueued
  · intro buf
    rcases uartReceive_cases s buf with
      hNothing | ⟨frame, hFree, hIdle, -⟩
    · exact Or.inl hNothing
    · exact Or.inr ⟨hIdle, hFree⟩
  · exact fun hBusy => pMbBuff_uartHandler hBusy
  · exact ⟨phase, hHistory, hPhase⟩
  · intro hPending
    have hSave : s.usb.eepState = .eepSave := by
      rcases hPending with hState | hLoop
      · exact hState
      · exact hSaving.mp hLoop
    rcases hPhase.saving hSave with
      ⟨request, answer, reply, rfl⟩
    exact
      ⟨request, answer, reply, hHistory, hPhase,
        hPhase.2.2 rfl⟩
  · exact modbusStep_isSome (inv_run hRun)
  · exact comStep_isSome s

/- Read register 0. -/
def readRequest : Received :=
  ⟨[1, 3, 0, 0, 0, 1, 0x84, 0x0A], by decide⟩

/- A request that is received, parsed and answered. -/
def readActions : List Action :=
  [.modbus, .uart (some readRequest) true, .modbus,
    .uart none true]

theorem readActions_frameBuffer_exclusive :
    ∃ s events,
      EventSystem.run step
            (start ⟨mbBufLinked, fun _ => none⟩ mbStructZero)
            readActions =
          some (s, events) ∧
        BufferExclusive events s := by
  have hEnabled :
      (EventSystem.run step
        (start ⟨mbBufLinked, fun _ => none⟩ mbStructZero)
        readActions).isSome = true := by
    decide +kernel
  rcases Option.isSome_iff_exists.mp hEnabled with
    ⟨⟨s, events⟩, hRun⟩
  exact ⟨s, events, hRun, frameBuffer_exclusive _ _ hRun⟩

end Firmware

end TemperatureSensor
